import OcppSimu.Inoperative
/-!
# WholeChargePoint — a change of availability for connector 0

A request for connector 0 is for the whole charge point, but `changeAvailabilityRequested` leaves every flag as it is and
answers `Accepted`.  That is what the connectors asked one by one would make of it exactly where none of them has anything
to do (`likeEach_iff`).
-/
namespace Simu

open Hist Script View

variable {cp : SimulatedChargePoint} {c : Nat}

/-! ## One request -/

/-- **The request made of each connector in turn.** -/
def askEach (cp : SimulatedChargePoint) (w : World) (a : AvailabilityType) : World :=
  cp.ids.foldl (fun w c => changeAvailabilityRequested w c a) w

/-- **A request for connector 0 is like one for each connector**: it leaves the same flags, and the answer is `Scheduled`
if one of theirs is. -/
def LikeEach (cp : SimulatedChargePoint) (w : World) (a : AvailabilityType) : Prop :=
  (∀ c ∈ cp.ids, ((changeAvailabilityRequested w 0 a).connectors c).unavailablePending =
    ((askEach cp w a).connectors c).unavailablePending) ∧
  (changeAvailability 0 (w.connectors 0) a).1 =
    if ∃ c ∈ cp.ids, (changeAvailability c (w.connectors c) a).1 = .scheduled then .scheduled else .accepted

/-- No connector has anything to do. -/
def NothingToDo (cp : SimulatedChargePoint) (w : World) : AvailabilityType → Prop
  | .inoperative => ∀ c ∈ cp.ids, (w.connectors c).status.immediate = true
  | .operative => ∀ c ∈ cp.ids, (w.connectors c).unavailablePending = false

instance (w : World) : ∀ a, Decidable (NothingToDo cp w a)
  | .inoperative => List.decidableBAll _ _
  | .operative => List.decidableBAll _ _

theorem connectors_changeAvailabilityRequested (w : World) (d : Nat) (a : AvailabilityType) (c : Nat) :
    (changeAvailabilityRequested w d a).connectors c =
      if c = d then { w.connectors d with unavailablePending := (changeAvailability d (w.connectors d) a).2 }
      else w.connectors c := by
  show Function.update w.connectors d _ c = _
  rw [Function.update_apply]

/-- The connectors of a list without duplicates, asked in turn, are asked once each. -/
theorem connectors_foldl_ask (a : AvailabilityType) (c : Nat) : ∀ (l : List Nat) (w : World), l.Nodup →
    (l.foldl (fun w c => changeAvailabilityRequested w c a) w).connectors c =
      if c ∈ l then { w.connectors c with unavailablePending := (changeAvailability c (w.connectors c) a).2 }
      else w.connectors c
  | [], w, _ => by rw [if_neg List.not_mem_nil]; rfl
  | d :: l, w, hl => by
    rw [List.nodup_cons] at hl
    rw [List.foldl_cons, connectors_foldl_ask a c l _ hl.2, connectors_changeAvailabilityRequested]
    by_cases hd : c = d
    · subst hd
      rw [if_neg hl.1, if_pos rfl, if_pos List.mem_cons_self]
    · rw [if_neg hd]
      by_cases hc : c ∈ l
      · rw [if_pos hc, if_pos (List.mem_cons_of_mem d hc)]
      · rw [if_neg hc, if_neg (fun hm => (List.mem_cons.1 hm).elim hd hc)]

theorem connectors_askEach (w : World) (a : AvailabilityType) (hc : c ∈ cp.ids) :
    ((askEach cp w a).connectors c).unavailablePending = (changeAvailability c (w.connectors c) a).2 := by
  unfold askEach
  rw [connectors_foldl_ask a c cp.ids w cp.nodup_ids, if_pos hc]

theorem pending_ask_zero (w : World) (a : AvailabilityType) (hc : c ≠ 0) :
    ((changeAvailabilityRequested w 0 a).connectors c).unavailablePending = (w.connectors c).unavailablePending := by
  rw [connectors_changeAvailabilityRequested, if_neg hc]

/-- **A request for connector 0 is like one for each exactly where no connector has anything to do.** -/
theorem likeEach_iff (w : World) (a : AvailabilityType) : LikeEach cp w a ↔ NothingToDo cp w a := by
  have hflag : ∀ c ∈ cp.ids, ((changeAvailabilityRequested w 0 a).connectors c).unavailablePending =
      (w.connectors c).unavailablePending := fun c hc => pending_ask_zero w a (cp.ne_zero_of_mem_ids hc)
  cases a with
  | operative =>
    have hask : ∀ c ∈ cp.ids, changeAvailability c (w.connectors c) .operative = (.accepted, false) := fun c hc => by
      unfold changeAvailability
      rw [if_pos (Nat.pos_of_ne_zero (cp.ne_zero_of_mem_ids hc))]
    constructor
    · intro h c hc
      rw [← hflag c hc, h.1 c hc, connectors_askEach w _ hc, hask c hc]
    · intro h
      refine ⟨fun c hc => ?_, ?_⟩
      · rw [hflag c hc, connectors_askEach w _ hc, hask c hc]
        exact h c hc
      · rw [if_neg]
        · rfl
        · rintro ⟨c, hc, hs⟩
          rw [hask c hc] at hs
          cases hs
  | inoperative =>
    have hask : ∀ c ∈ cp.ids, changeAvailability c (w.connectors c) .inoperative =
        if (w.connectors c).status.immediate then (.accepted, (w.connectors c).unavailablePending) else (.scheduled, true) :=
      fun c hc => changeAvailability_inoperative (cp.ne_zero_of_mem_ids hc) _
    constructor
    · intro h c hc
      by_contra hn
      have hs : ∃ c ∈ cp.ids, (changeAvailability c (w.connectors c) .inoperative).1 = .scheduled :=
        ⟨c, hc, by rw [hask c hc, if_neg hn]⟩
      have hanswer := h.2
      rw [if_pos hs] at hanswer
      cases hanswer
    · intro h
      refine ⟨fun c hc => ?_, ?_⟩
      · rw [hflag c hc, connectors_askEach w _ hc, hask c hc, if_pos (h c hc)]
      · rw [if_neg]
        · rfl
        · rintro ⟨c, hc, hs⟩
          rw [hask c hc, if_pos (h c hc)] at hs
          cases hs

/-! ## The flag in a history -/

def Entry.schedulesFor (c : Nat) : Entry → Bool
  | .changeAvailabilityRequested d _ .scheduled => decide (d = c)
  | _ => false

def Entry.asksOperative (c : Nat) : Entry → Bool
  | .changeAvailabilityRequested d .operative _ => decide (d = c)
  | _ => false

/-- The flag of the connector, as its own requests have left it. -/
def flagged (c : Nat) (h : List Entry) : Bool := since (Entry.schedulesFor c) (Entry.asksOperative c) h

/-- The flag as it should be: a request for the whole charge point counts too. -/
def flaggedByAll (c : Nat) (h : List Entry) : Bool :=
  since (Entry.schedulesFor c) (fun e => e.asksOperative c || e.asksOperative 0) h

def Entry.readsFlag (c : Nat) : Entry → Bool
  | .unavailablePending d b => decide (d = c) && b
  | _ => false

/-- **The connector is sent to `Unavailable` only on a flag that was right when it was read.** -/
def Entry.sentAsAsked (c : Nat) (right : List Entry → Bool) : Entry → List Entry → Bool
  | .statusNotification d .unavailable, h => decide (d ≠ c) || sinceAt (Entry.readsFlag c) (fun _ => false) right h
  | _, _ => true

def SentAsAsked (c : Nat) (right : List Entry → Bool) (h : List Entry) : Prop :=
  Always (fun e h => e.sentAsAsked c right h = true) h

instance (c : Nat) (right : List Entry → Bool) (h : List Entry) : Decidable (SentAsAsked c right h) :=
  Hist.decidableAlways _ h

/-- **Where an `Operative` request for connector 0 finds every flag down.** -/
def Entry.findsFlagsDown (cp : SimulatedChargePoint) (e : Entry) (h : List Entry) : Bool :=
  !e.asksOperative 0 || cp.ids.all (fun c => !flagged c h)

def FindsFlagsDown (cp : SimulatedChargePoint) (h : List Entry) : Prop :=
  Always (fun e h => e.findsFlagsDown cp h = true) h

instance (h : List Entry) : Decidable (FindsFlagsDown cp h) := Hist.decidableAlways _ h

/-- There the two readings of the flag agree. -/
theorem flaggedByAll_eq (hc : c ∈ cp.ids) {h : List Entry} (hf : FindsFlagsDown cp h) : flaggedByAll c h = flagged c h := by
  induction hf with
  | nil => rfl
  | @cons e h he hf ih =>
    show (e.schedulesFor c || (!(e.asksOperative c || e.asksOperative 0) && flaggedByAll c h)) =
      (e.schedulesFor c || (!e.asksOperative c && flagged c h))
    rw [ih]
    cases ha : e.asksOperative 0 with
    | false => rw [Bool.or_false]
    | true =>
      have hall : cp.ids.all (fun c => !flagged c h) = true := by
        simpa [Entry.findsFlagsDown, ha] using he
      have hdown : flagged c h = false := by simpa using List.all_eq_true.1 hall c hc
      rw [hdown, Bool.and_false, Bool.and_false]

/-! ## The run -/

/-- **The flag is what the connector's own requests say**, and the connector was sent to `Unavailable` on it. -/
structure FlagOn (c : Nat) (b : Bool) (h : List Entry) : Prop where
  flag : b = flagged c h
  sent : SentAsAsked c (flagged c) h

def Entry.flagFree : Entry → Bool
  | .changeAvailabilityRequested _ _ _ | .statusNotification _ .unavailable => false
  | _ => true

theorem FlagOn.cons {b : Bool} {e : Entry} {h : List Entry} (he : e.flagFree = true) (hf : FlagOn c b h) :
    FlagOn c b (e :: h) := by
  refine ⟨hf.flag.trans ?_, .cons ?_ hf.sent⟩
  · cases e <;> first | rfl | cases he
  · cases e with
    | statusNotification d s => cases s <;> first | rfl | cases he
    | _ => rfl

/-- A request for the connector leaves the flag its history then says. -/
theorem FlagOn.asked (hc : c ≠ 0) {d : ConnectorData} {h : List Entry} (a : AvailabilityType)
    (hf : FlagOn c d.unavailablePending h) :
    FlagOn c (changeAvailability c d a).2 (.changeAvailabilityRequested c a (changeAvailability c d a).1 :: h) := by
  refine ⟨?_, .cons rfl hf.sent⟩
  cases a with
  | operative =>
    have ha : changeAvailability c d .operative = (.accepted, false) := by
      unfold changeAvailability
      rw [if_pos (Nat.pos_of_ne_zero hc)]
    rw [ha]
    simp [flagged, Entry.schedulesFor, Entry.asksOperative]
  | inoperative =>
    rw [changeAvailability_inoperative hc]
    split
    · exact hf.flag
    · simp [flagged, Entry.schedulesFor]

def Flag (c : Nat) (v : View) : Prop := FlagOn c v.connector.unavailablePending v.history

theorem Flag.note {v : View} {e : Entry} (he : e.flagFree = true) (h : Flag c v) : Flag c (v.note e) := FlagOn.cons he h

theorem Flag.closed (hc : c ≠ 0) : Closed c (Flag c) := by
  intro v v' hv h
  cases hv with
  | availability a => exact FlagOn.asked hc a h
  | _ => exact FlagOn.cons rfl h

theorem Flag.steady (hc : c ≠ 0) : Steady c (Flag c) where
  env := Flag.closed hc
  setpoints _ _ _ h := h
  asked _ _ _ h := h.note rfl
  metered v x h := Flag.note (v := { v with meter := v.meter.setConsumptions x }) rfl h

/-- **The flag that was read is the one the connector is sent to `Unavailable` on.** -/
theorem goneAsAsked_flag (hc : c ≠ 0) : SpecAt c (Flag c) (goneAsAsked cp c) (fun _ => Flag c) := by
  have hread : Closed c (fun v => Flag c v ∧ sinceAt (Entry.readsFlag c) (fun _ => false) (flagged c) v.history = true) :=
    (Flag.closed hc).and (closed_history (P := fun h => sinceAt (Entry.readsFlag c) (fun _ => false) (flagged c) h = true)
      (fun e _ he h => sinceAt_cons_of_not_hit (by cases e <;> first | rfl | cases he) rfl h))
  refine SpecOn.bind (R := fun b v => Flag c v ∧
    (b = true → sinceAt (Entry.readsFlag c) (fun _ => false) (flagged c) v.history = true)) ?_ (fun b => ?_)
  · refine unavailablePending_at (Flag.closed hc) (fun v h => ⟨h.note rfl, fun hb => ?_⟩)
    refine sinceAt_cons_of_hit ?_ (h.flag.symm.trans hb)
    rw [hb]
    exact Bool.and_eq_true_iff.2 ⟨decide_eq_true rfl, rfl⟩
  refine SpecOn.ite (fun hb => SpecOn.pre (R := fun v => Flag c v ∧
    sinceAt (Entry.readsFlag c) (fun _ => false) (flagged c) v.history = true) (fun _ h => ⟨h.1, h.2 hb⟩) ?_)
    (fun _ => SpecOn.pure _ (fun _ h => h.1))
  refine statusNotification_at hread (fun v h => ⟨h.1.flag, .cons ?_ h.1.sent⟩)
  exact Bool.or_eq_true_iff.2 (.inr h.2)

theorem flagFree_of_reads {e : Entry} (he : e.reads = true) : e.flagFree = true := by
  cases e <;> first | rfl | cases he

theorem nextStatus_flag (hc : c ≠ 0) : SpecAt c (Flag c) (nextStatus cp c) (fun _ => Flag c) := by
  have hcl := Flag.closed hc
  have notified : ∀ v s, s ≠ .unavailable → Flag c v → Flag c ({ v with status := s }.note (.statusNotification c s)) := by
    intro v s hs h
    refine Flag.note (v := { v with status := s }) ?_ h
    cases s <;> first | rfl | exact absurd rfl hs
  have badge : ∀ v, Flag c v → Flag c ({ v with mqtt := { v.mqtt with idTag := "" } }.note (.resetIdTagPending c)) :=
    fun v h => Flag.note (v := { v with mqtt := { v.mqtt with idTag := "" } }) rfl h
  have tagFree : TagFree c (Flag c) :=
    { env := hcl, noted := fun _ _ he h => h.note (flagFree_of_reads he), answered := fun _ _ _ h => h.note rfl
      tagged := fun _ _ _ h => h, badge := badge
      start := fun v h => Flag.note (v := { v with startPending := false }) rfl h }
  have stopFree : StopFree c (Flag c) :=
    { env := hcl, noted := fun _ _ he h => h.note (flagFree_of_reads he), badge := badge
      stop := fun v h => Flag.note (v := { v with stopPending := false }) rfl h, stopped := fun _ _ _ h => h.note rfl }
  have starting : Starting c (Flag c) :=
    { env := hcl, notified := notified, timed := fun _ _ h => h, started := fun _ _ h _ _ => h.note rfl
      refused := fun _ _ h _ _ => h.note rfl }
  have noticeFree : NoticeFree cp c (Flag c) := ⟨hcl, notified, goneAsAsked_flag hc⟩
  have valid := @isValidIdTagPresent_keeps cp c _ tagFree false
  exact noticeFree.nextStatus valid (isTransactionStopCondition_keeps stopFree)
    (fun d _ => SpecOn.pre (fun _ h => h.1) (starting.whenPreparing valid d))

theorem loop_flag (hc : c ∈ cp.ids) (k : Nat) : SpecAt c (Flag c) (loop cp k) (fun _ => Flag c) := by
  have h₀ := cp.ne_zero_of_mem_ids hc
  have entryFree : EntryFree c (Flag c) :=
    { env := Flag.closed h₀, cleared := fun _ h => h, timed := fun _ _ h => h
      badge := fun v h => Flag.note (v := { v with mqtt := { v.mqtt with idTag := "" } }) rfl h }
  refine loop_at hc (Flag.steady h₀) (Flag.steady h₀) (Flag.closed h₀) ?_ (fun _ h => h.note rfl) (nextStatus_flag h₀) k
  exact updateConnectorStatus_keeps entryFree (fun _ h => h.note rfl) (fun _ _ h => h.note rfl) (fun _ _ h => h)

/-- The flag in the log is the flag in the history of the connector. -/
theorem flagged_history (c : Nat) (h : List Entry) : flagged c (h.filter (Entry.concerns c)) = flagged c h := by
  refine since_filter (fun e he => ?_) (fun e he => ?_) h
  · cases e with
    | changeAvailabilityRequested d a r =>
      have hd : d = c := by cases r <;> first | exact of_decide_eq_true he | cases he
      simp [Entry.concerns, Entry.about, hd]
    | _ => cases he
  · cases e with
    | changeAvailabilityRequested d a r =>
      have hd : d = c := by cases a <;> first | exact of_decide_eq_true he | cases he
      simp [Entry.concerns, Entry.about, hd]
    | _ => cases he

theorem concerns_of_readsFlag {e : Entry} (he : e.readsFlag c = true) : e.concerns c = true := by
  cases e with
  | unavailablePending d b =>
    have hd : d = c := of_decide_eq_true (Bool.and_eq_true_iff.1 he).1
    simp [Entry.concerns, Entry.about, hd]
  | _ => cases he

/-- **Where every `Operative` request for connector 0 finds the flags down, the connector is sent to `Unavailable` only
on a request made after it.** -/
theorem sentAsAsked_byAll (hc : c ∈ cp.ids) {h : List Entry} (hf : FindsFlagsDown cp h)
    (hs : SentAsAsked c (flagged c) (h.filter (Entry.concerns c))) : SentAsAsked c (flaggedByAll c) h := by
  have hall : SentAsAsked c (flagged c) h := by
    refine Always.of_filter (fun e h _ he => ?_) (fun e h he => ?_) hs
    · cases e with
      | statusNotification d s =>
        cases s with
        | unavailable =>
          rw [Entry.sentAsAsked, sinceAt_filter (fun _ => concerns_of_readsFlag) (fun _ hk => by cases hk) (flagged_history c)] at he
          exact he
        | _ => rfl
      | _ => rfl
    · cases e with
      | statusNotification d s =>
        have hd : d ≠ c := fun hd => by simp [Entry.concerns, Entry.about, hd] at he
        cases s with
        | unavailable =>
          rw [Entry.sentAsAsked, decide_eq_true hd]
          rfl
        | _ => rfl
      | _ => rfl
  clear hs
  induction hall with
  | nil => exact .nil
  | @cons e h he _ ih =>
    refine .cons ?_ (ih hf.tail)
    cases e with
    | statusNotification d s =>
      cases s with
      | unavailable =>
        rw [Entry.sentAsAsked, sinceAt_congr (fun h hf => flaggedByAll_eq hc hf) hf.tail]
        exact he
      | _ => rfl
    | _ => rfl

/-- A session in which `Inoperative` is asked of connector 1, and then `Operative` of the connectors `first` and 0. -/
def sampleOperative (first : Nat) : List Tick := script 220
  [(0, .carMessage 1 { cable := some 10 }), (0, .idTagMessage 1 "A"), (40, .changeAvailabilityRequested 1 .inoperative),
   (45, .changeAvailabilityRequested first .operative), (50, .changeAvailabilityRequested 0 .operative),
   (62, .idTagMessage 1 "A"), (80, .carMessage 1 { cable := some 0 })]

/-- **The whole charge point is asked for in vain**: `Inoperative` is accepted while a connector charges, and after
`Operative` a connector goes to `Unavailable`. -/
theorem request_for_all_ignored :
    (let w := { World.start .sample .idle with connectors := fun c => { status := if c = 1 then .charging else .available } }
     ¬LikeEach .sample w .inoperative ∧ (changeAvailability 0 (w.connectors 0) .inoperative).1 = .accepted) ∧
    ¬SentAsAsked 1 (flaggedByAll 1) (afterLoop .sample 8 (.start .sample .idle) (sampleOperative 0)).log := by
  refine ⟨⟨fun h => ?_, rfl⟩, by decide +kernel⟩
  exact absurd h.2 (by decide +kernel)

/-- **A request for connector 0 is like one for each connector exactly where no connector has anything to do; then none of
them is in session when `Inoperative` is accepted, and in a run the loop sends none of them back to `Unavailable` after
`Operative`.** -/
theorem whole_charge_point_iff (cp : SimulatedChargePoint) :
    (∀ (w : World) (a : AvailabilityType), LikeEach cp w a ↔ NothingToDo cp w a) ∧
    (∀ w : World, LikeEach cp w .inoperative → ∀ c ∈ cp.ids, (w.connectors c).status.inSession = false) ∧
    ∀ (w : World) (k : Nat) (script : List Tick), w.log = [] → (∀ c ∈ cp.ids, (w.connectors c).unavailablePending = false) →
      FindsFlagsDown cp (afterLoop cp k w script).log →
        ∀ c ∈ cp.ids, SentAsAsked c (flaggedByAll c) (afterLoop cp k w script).log := by
  refine ⟨likeEach_iff, fun w h c hc => ?_, fun w k script hl hp hf c hc => ?_⟩
  · exact inSession_of_immediate ((likeEach_iff w .inoperative).1 h c hc)
  · have h₀ : Flag c (w.view c) := by
      have hh : (w.view c).history = [] := history_of_log_nil hl c
      unfold Flag
      rw [hh]
      exact ⟨hp c hc, .nil⟩
    exact sentAsAsked_byAll hc hf (loop_flag hc k w script h₀).sent

theorem whole_charge_point_session :
    LikeEach .sample (.start .sample .idle) .inoperative ∧
    ∀ c ∈ SimulatedChargePoint.ids .sample,
      SentAsAsked c (flaggedByAll c) (afterLoop .sample 8 (.start .sample .idle) (sampleOperative 1)).log :=
  ⟨((whole_charge_point_iff .sample).1 _ _).2 (by decide +kernel),
    (whole_charge_point_iff .sample).2.2 _ 8 _ rfl (fun _ _ => rfl) (by decide +kernel)⟩

end Simu
