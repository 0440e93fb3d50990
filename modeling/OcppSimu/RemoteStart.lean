import OcppSimu.Mailbox
/-!
# RemoteStart — accepted remote starts that overwrite each other

A remote start request is accepted when some mailbox takes its tag.  The connector is chosen by its status alone, so a
mailbox that still holds the tag of an earlier request takes the new one in its place.  A call keeps every pending
request exactly where the mailbox it goes to is empty or holds the same tag (`startsKept_iff`); in a run whose calls all
do, the loop takes nothing out of a mailbox but the tag it has read there (`Delivered`).
-/
namespace Simu

open Hist Script View

/-! ## One call -/

/-- The tag a connector has pending. -/
def World.pendingStart (w : World) (c : Nat) : Option String :=
  if w.handler.remoteStartPending c then some (w.handler.remoteStartIdTag c) else none

/-- **Every request that was pending still is**, on its connector and with its tag. -/
def StartsKept (w w' : World) : Prop := ∀ c idTag, w.pendingStart c = some idTag → w'.pendingStart c = some idTag

/-- **The connector a call is for**: the one asked for, for 0 the first whose status is below `Charging`. -/
def ForConnector (cp : SimulatedChargePoint) (w : World) (asked c : Nat) : Prop :=
  (asked ≠ 0 ∧ c = asked) ∨
  (asked = 0 ∧ c ∈ cp.ids ∧ (w.stack.status c).rank < ChargePointStatus.rank .charging ∧
    ∀ d ∈ cp.ids, d < c → ChargePointStatus.rank .charging ≤ (w.stack.status d).rank)

/-- **Two requests for any connector, both accepted, and the first is gone**: two connectors are available, the mailbox
of the first takes both tags. -/
theorem second_start_overwrites :
    let w₀ := World.start .sample .idle
    let w₁ := remoteStartTransactionRequested .sample w₀ 0 "A"
    let w₂ := remoteStartTransactionRequested .sample w₁ 0 "B"
    (∀ c ∈ SimulatedChargePoint.ids .sample, (w₁.stack.status c).rank < ChargePointStatus.rank .charging) ∧
    (remoteStartConnector .sample w₀ 0).isSome = true ∧ (remoteStartConnector .sample w₁ 0).isSome = true ∧
    w₁.pendingStart 1 = some "A" ∧ ¬StartsKept w₁ w₂ ∧ w₂.pendingStart 1 = some "B" ∧ w₂.pendingStart 2 = none := by
  refine ⟨by decide +kernel, by decide +kernel, by decide +kernel, by decide +kernel, fun h => ?_, by decide +kernel,
    by decide +kernel⟩
  have h₂ := h 1 "A" (by decide +kernel)
  exact absurd h₂ (by decide +kernel)

variable {cp : SimulatedChargePoint}

theorem remoteStartConnector_eq_some {w : World} {asked c : Nat} :
    remoteStartConnector cp w asked = some c ↔ ForConnector cp w asked c := by
  unfold remoteStartConnector ForConnector
  by_cases ha : asked = 0
  · rw [if_neg (not_not.2 ha)]
    have hs : cp.ids.Pairwise (· < ·) := List.pairwise_lt_range'
    constructor
    · intro h
      obtain ⟨hb, as, bs, hl, hn⟩ := List.find?_eq_some_iff_append.1 h
      refine .inr ⟨ha, List.mem_of_find?_eq_some h, of_decide_eq_true hb, fun d hd hdc => ?_⟩
      -- the connectors before `c` in the list are those below it
      have hm : d ∈ as := by
        rw [hl] at hd hs
        rcases List.mem_append.1 hd with hd | hd
        · exact hd
        · have hp := (List.pairwise_append.1 hs).2.1
          rcases List.mem_cons.1 hd with rfl | hd
          · omega
          · have := List.rel_of_pairwise_cons hp hd
            omega
      have hd' := hn d hm
      simpa using hd'
    · rintro (⟨h, -⟩ | ⟨-, hc, hb, hn⟩)
      · exact absurd ha h
      · obtain ⟨as, bs, hl⟩ := List.append_of_mem hc
        refine List.find?_eq_some_iff_append.2 ⟨decide_eq_true hb, as, bs, hl, fun d hd => ?_⟩
        have hdc : d < c := by
          rw [hl] at hs
          exact (List.pairwise_append.1 hs).2.2 d hd c List.mem_cons_self
        have hd' := hn d (by rw [hl]; exact List.mem_append_left _ hd) hdc
        simpa using hd'
  · rw [if_pos ha]
    constructor
    · intro h
      exact .inl ⟨ha, (Option.some.inj h).symm⟩
    · rintro (⟨-, rfl⟩ | ⟨h, -⟩)
      · rfl
      · exact absurd h ha

theorem pendingStart_taken {w : World} {asked i : Nat} {idTag : String} (h : remoteStartConnector cp w asked = some i)
    (c : Nat) : (remoteStartTransactionRequested cp w asked idTag).pendingStart c =
      if c = i then some idTag else w.pendingStart c := by
  unfold remoteStartTransactionRequested
  rw [h]
  by_cases hc : c = i
  · subst hc
    simp [World.pendingStart, World.note]
  · simp [World.pendingStart, World.note, hc]

/-- **A call loses nothing exactly where its mailbox is empty or holds the same tag.** -/
theorem startsKept_iff (w : World) (asked : Nat) (idTag : String) :
    StartsKept w (remoteStartTransactionRequested cp w asked idTag) ↔
      ∀ c, ForConnector cp w asked c → w.pendingStart c = none ∨ w.pendingStart c = some idTag := by
  constructor
  · intro hk c hc
    cases hp : w.pendingStart c with
    | none => exact .inl rfl
    | some t =>
      have h := hk c t hp
      rw [pendingStart_taken (remoteStartConnector_eq_some.2 hc), if_pos rfl] at h
      exact .inr h.symm
  · intro hc c t hp
    cases hr : remoteStartConnector cp w asked with
    | none =>
      have hw : remoteStartTransactionRequested cp w asked idTag =
          w.note (.remoteStartTransactionRequested asked idTag none) := by
        unfold remoteStartTransactionRequested
        rw [hr]
      rw [hw]
      exact hp
    | some i =>
      rw [pendingStart_taken hr]
      split
      · rename_i hi
        subst hi
        have ht := hc c (remoteStartConnector_eq_some.1 hr)
        rw [hp] at ht
        rcases ht with ht | ht
        · cases ht
        · exact ht.symm
      · exact hp

/-! ## A run -/

/-- What an entry leaves in the mailbox. -/
def Entry.startBox : Entry → Option (Option String)
  | .remoteStartTransactionRequested _ idTag (some _) => some (some idTag)
  | .resetRemoteStartPending _ => some none
  | _ => none

/-- **The start mailbox**: empty at first, then as the last entry left it. -/
def startMailbox (h : List Entry) : Option String := (last Entry.startBox h).getD none

def Entry.startRead : Entry → Option String
  | .remoteStartIdTag _ idTag => some idTag
  | _ => none

/-- The tag the loop has last read in the mailbox. -/
def lastStartRead (h : List Entry) : Option String := last Entry.startRead h

/-- **No accepted request is lost**: what the loop takes out of the mailbox is the tag it has read there. -/
def Entry.delivered : Entry → List Entry → Bool
  | .resetRemoteStartPending _, h => decide (startMailbox h = lastStartRead h)
  | _, _ => true

def Delivered (h : List Entry) : Prop := Always (fun e h => e.delivered h = true) h

instance (h : List Entry) : Decidable (Delivered h) := Hist.decidableAlways _ h

/-- **Requests find room**: each finds its mailbox empty, or with its own tag in it. -/
def Entry.findsRoom : Entry → List Entry → Bool
  | .remoteStartTransactionRequested _ idTag (some _), h => decide (startMailbox h = none ∨ startMailbox h = some idTag)
  | _, _ => true

def FindsRoom (h : List Entry) : Prop := Always (fun e h => e.findsRoom h = true) h

instance (h : List Entry) : Decidable (FindsRoom h) := Hist.decidableAlways _ h

/-- The mailbox holds what the history says, and so far nothing was lost. -/
structure Boxed (v : View) : Prop where
  box : startMailbox v.history = if v.startPending then some v.startIdTag else none
  delivered : FindsRoom v.history → Delivered v.history

def Entry.boxFree : Entry → Bool
  | .remoteStartTransactionRequested _ _ _ | .resetRemoteStartPending _ | .remoteStartIdTag _ _ => false
  | _ => true

theorem startMailbox_cons {e : Entry} {h : List Entry} (he : e.boxFree = true) : startMailbox (e :: h) = startMailbox h := by
  cases e <;> first | rfl | cases he

theorem Delivered.cons {e : Entry} {h : List Entry} (he : e.takesStart = false) (hd : Delivered h) :
    Delivered (e :: h) := by
  refine Always.cons ?_ hd
  cases e <;> first | rfl | cases he

theorem Boxed.noted {v : View} {e : Entry} (he : e.boxFree = true) (h : Boxed v) : Boxed (v.note e) where
  box := by
    rw [View.history_note, startMailbox_cons he]
    exact h.box
  delivered hr := (h.delivered hr.tail).cons (by cases e <;> first | rfl | cases he)

theorem Boxed.closed (c : Nat) : Closed c Boxed := by
  intro v v' hv h
  cases hv with
  | remoteStart asked idTag => exact ⟨rfl, fun hr => (h.delivered hr.tail).cons rfl⟩
  | _ => exact ⟨h.box, fun hr => (h.delivered hr.tail).cons rfl⟩

theorem Boxed.posted (c : Nat) : Posted c Boxed where
  env := Boxed.closed c
  own _ _ h := ⟨h.box, h.delivered⟩
  metered _ _ h := ⟨h.box, h.delivered⟩
  moved _ _ h := ⟨h.box, h.delivered⟩
  noted v e he h := by
    cases e with
    | remoteStartIdTag c idTag => exact ⟨h.box, fun hr => (h.delivered hr.tail).cons rfl⟩
    | _ => first | exact h.noted rfl | cases he
  badge _ h := ⟨h.box, fun hr => (h.delivered hr.tail).cons rfl⟩
  started _ _ _ h := ⟨h.box, fun hr => (h.delivered hr.tail).cons rfl⟩

/-! ## The tag in hand -/

/-- **The mailbox holds the tag in hand**, the one the loop has last read, until the loop takes it out. -/
def TagHeld (idTag : String) (v : View) : Prop :=
  Boxed v ∧ (FindsRoom v.history → startMailbox v.history = some idTag ∧ lastStartRead v.history = some idTag)

theorem TagHeld.closed (c : Nat) (idTag : String) : Closed c (TagHeld idTag) := by
  intro v v' hv h
  refine ⟨Boxed.closed c v v' hv h.1, fun hr => ?_⟩
  cases hv with
  | remoteStart asked t =>
    -- the mailbox is not empty, so the request that found room has the same tag
    obtain ⟨hb, hd⟩ := h.2 hr.tail
    have hf : startMailbox v.history = none ∨ startMailbox v.history = some t := of_decide_eq_true hr.head
    have ht : t = idTag := by
      rw [hb] at hf
      rcases hf with hf | hf
      · cases hf
      · exact (Option.some.inj hf).symm
    subst ht
    exact ⟨rfl, hd⟩
  | _ => exact h.2 hr.tail

theorem TagHeld.noted {idTag : String} {v : View} {e : Entry} (he : e.boxFree = true) (h : TagHeld idTag v) :
    TagHeld idTag (v.note e) := by
  refine ⟨h.1.noted he, fun hr => ?_⟩
  have hs := h.2 hr.tail
  cases e <;> first | exact hs | cases he

variable {c : Nat}

theorem takeStart_boxed (idTag : String) :
    SpecAt c (TagHeld idTag) (do
      setOwn c ({ · with idTag := idTag })
      let status ← (do if ← authorizeRemoteTxRequests cp c then authorizeOwn cp c idTag else pure .accepted)
      resetRemoteStartPending cp c
      pure (some (TagSource.remoteStart, idTag), status.ok)) (fun _ => Boxed) := by
  have authorizing : Authorizing c (TagHeld idTag) :=
    { env := TagHeld.closed c idTag, tagged := fun v _ _ h => ⟨(Boxed.posted c).own v _ h.1, h.2⟩
      asked := fun _ _ h => h.noted rfl, authorized := fun _ _ _ h => h.noted rfl }
  refine authorizing.takeRemoteStart (fun v ok h => ⟨rfl, fun hr => ?_⟩)
  obtain ⟨hb, hd⟩ := h.2 hr.tail
  refine Always.cons ?_ (h.1.delivered hr.tail)
  exact decide_eq_true (hb.trans hd.symm)

theorem isValidIdTagPresent_boxed (localOnly : Bool) :
    SpecAt c Boxed (isValidIdTagPresent cp c localOnly) (fun _ => Boxed) := by
  have hq := Boxed.posted c
  refine SpecOn.bind (R := fun _ => Boxed) ?_ (fun r => ?_)
  · refine SpecOn.keep (isIdTagPending_at hq.env (fun v h => h.noted rfl)) (fun _ => SpecOn.ite (fun _ => ?_) (fun _ => ?_))
    · refine SpecOn.keep (pendingIdTag_at hq.env (fun v h => h.noted rfl)) (fun tag => ?_)
      exact hq.authorizing.takeBadge (fun v _ h => hq.badge v h)
    · refine SpecOn.bind (R := fun b v => Boxed v ∧ (b = true → v.startPending = true)) ?_ (fun b => ?_)
      · apply SpecOn.ite
        · intro _
          exact SpecOn.pure _ (fun _ h => ⟨h, fun hb => by cases hb⟩)
        · intro _
          exact isRemoteStartPending_at hq.env (fun v h => ⟨h.noted rfl, fun hb => hb⟩)
      refine SpecOn.ite (fun hb => ?_) (fun hb => SpecOn.pure _ (fun _ h => h.1))
      refine SpecOn.bind ?_ takeStart_boxed
      have hcl : Closed c (fun v => Boxed v ∧ (b = true → v.startPending = true)) := by
        intro v v' hv h
        refine ⟨hq.env v v' hv h.1, fun hb => ?_⟩
        have hp := h.2 hb
        cases hv <;> first | exact hp | rfl
      refine remoteStartIdTag_at hcl (fun v h => ⟨hq.noted v _ rfl h.1, fun _ => ⟨?_, rfl⟩⟩)
      have hp : startMailbox v.history = some v.startIdTag := by
        rw [h.1.box, h.2 hb]
        rfl
      exact hp
  · refine SpecOn.keep (SpecOn.ite (fun _ => ?_) (fun _ => SpecOn.pure _ (fun _ h => h))) (fun _ => ?_)
    · exact clearIdTags_at (fun v h => hq.own v _ h)
    · exact SpecOn.keep (record_at rfl (fun v h => h.noted rfl)) (fun _ => SpecOn.pure _ (fun _ h => h))

theorem Boxed.stopFree (c : Nat) : StopFree c Boxed :=
  (Boxed.posted c).stopFree (fun _ h => ⟨h.box, fun hr => (h.delivered hr.tail).cons rfl⟩) (fun _ _ _ h => h.noted rfl)

theorem loop_boxed (hc : c ∈ cp.ids) (k : Nat) : SpecAt c Boxed (loop cp k) (fun _ => Boxed) :=
  (Boxed.posted c).loop hc (isValidIdTagPresent_boxed false) (isTransactionStopCondition_keeps (Boxed.stopFree c)) k

/-- **A remote start is lost only to a call that finds another tag in its mailbox.**  In every state a call keeps what
is pending exactly where the mailbox it goes to is empty or holds the same tag; and in every run whose accepted requests
all find such a mailbox, the loop takes out no tag but the one it has read. -/
theorem remoteStarts_kept (cp : SimulatedChargePoint) (c : Nat) (hc : c ∈ cp.ids) (w : World) (hw : Unposted c w) :
    (∀ (u : World) (asked : Nat) (idTag : String),
      StartsKept u (remoteStartTransactionRequested cp u asked idTag) ↔
        ∀ d, ForConnector cp u asked d → u.pendingStart d = none ∨ u.pendingStart d = some idTag) ∧
    ∀ (k : Nat) (script : List Tick), FindsRoom ((afterLoop cp k w script).history c) →
      Delivered ((afterLoop cp k w script).history c) := by
  refine ⟨fun u asked idTag => startsKept_iff u asked idTag, fun k script hr => ?_⟩
  have h₀ : Boxed (w.view c) := by
    have hh : (w.view c).history = [] := hw.history
    have hp : (w.view c).startPending = false := hw.start
    refine ⟨?_, fun _ => ?_⟩
    · rw [hh, hp]
      rfl
    · rw [hh]
      exact .nil
  have h := loop_boxed hc k w script h₀
  exact h.delivered hr

/-- Two requests for connector 1, the second once the first was read. -/
theorem remoteStarts_kept_run :
    let h := (afterLoop .sample 3 (.start .sample .idle) (script 120
      [(0, .remoteStartTransactionRequested 1 "A"), (60, .remoteStartTransactionRequested 1 "B")])).history 1
    startMailbox h = some "B" ∧ Delivered h :=
  ⟨by decide +kernel, (remoteStarts_kept .sample 1 (by decide) (.start .sample .idle) ⟨rfl, rfl, rfl, rfl⟩).2 3 _
    (by decide +kernel)⟩

end Simu
