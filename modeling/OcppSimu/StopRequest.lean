import OcppSimu.Mailbox
/-!
# StopRequest — a stop request and the transaction it ends

A badge or a remote stop that is still in its mailbox when a transaction starts stops that transaction, although it was
not made for it.  Where both mailboxes are empty at every start, each stop consumes a request made since the start.
-/
namespace Simu

open Hist Script View

/-! ## Whose request a stop consumes -/

def Entry.badgeIs (idTag : String) : Entry → Bool
  | .event (.idTagMessage _ id) => decide (id = idTag)
  | _ => false

def Entry.readsBadge (idTag : String) : Entry → Bool
  | .pendingIdTag _ t => decide (t = idTag)
  | _ => false

def Entry.findsStop : Entry → Bool
  | .isRemoteStopPending _ b => b
  | _ => false

/-- **A stop consumes a request of its own transaction**: when the mailbox was read, the request had come after the
last start. -/
def Entry.stopsOwn : Entry → List Entry → Bool
  | .stopTransaction _ idTag .local_, h =>
    sinceAt (Entry.readsBadge idTag) (fun _ => false) (since (Entry.badgeIs idTag) Entry.starts) h
  | .stopTransaction _ _ .remote, h => sinceAt Entry.findsStop (fun _ => false) (since Entry.asksStop Entry.starts) h
  | _, _ => true

def StopsOwn (h : List Entry) : Prop := Always (fun e h => e.stopsOwn h = true) h

instance (h : List Entry) : Decidable (StopsOwn h) := Hist.decidableAlways _ h

/-- **No leftover**: when a start is let through, neither a badge nor a remote stop is pending. -/
def Entry.opensClean : Entry → List Entry → Bool
  | .startTransaction _ _ a, h => !a.ok || (decide (badgeBox h = "") && !stopAsked h)
  | _, _ => true

def OpensClean (h : List Entry) : Prop := Always (fun e h => e.opensClean h = true) h

instance (h : List Entry) : Decidable (OpensClean h) := Hist.decidableAlways _ h

/-- A remote stop is only asked for while a transaction is open. -/
def Entry.asksOpen (e : Entry) (h : List Entry) : Bool := !e.asksStop || openTx h

def AsksOpen (h : List Entry) : Prop := Always (fun e h => e.asksOpen h = true) h

instance (h : List Entry) : Decidable (AsksOpen h) := Hist.decidableAlways _ h

/-- **A badge presented before the cable is plugged stops the transaction**: the first badge is validated, the second
is still in the mailbox when the transaction starts. -/
theorem stop_of_leftover_badge :
    let h := (afterLoop .sample 5 (.start .sample .idle) (script 160
      [(0, .idTagMessage 1 "A"), (30, .idTagMessage 1 "A"), (50, .carMessage 1 { cable := some 10 })])).history 1
    StackKeeps h ∧ AsksOpen h ∧ ¬StopsOwn h := by
  decide +kernel

/-! ## The invariant -/

/-- **What is pending was asked for since the last start**, as long as every start was clean. -/
def Owned (v : View) : Prop :=
  Tracked v ∧ (OpensClean v.history → StopsOwn v.history ∧
    (v.mqtt.idTag ≠ "" → since (Entry.badgeIs v.mqtt.idTag) Entry.starts v.history = true) ∧
    (v.stopPending = true → since Entry.asksStop Entry.starts v.history = true))

def Entry.txFree : Entry → Bool
  | .startTransaction _ _ _ | .stopTransaction _ _ _ => false
  | _ => true

theorem txFree_of_quiet {e : Entry} (he : e.quiet = true) : e.txFree = true := by
  cases e <;> first | rfl | cases he

theorem starts_of_txFree {e : Entry} (he : e.txFree = true) : e.starts = false := by
  cases e <;> first | rfl | cases he

theorem StopsOwn.cons {e : Entry} {h : List Entry} (he : e.txFree = true) (hs : StopsOwn h) : StopsOwn (e :: h) := by
  refine Always.cons ?_ hs
  cases e <;> first | rfl | cases he

theorem Owned.note {v : View} {e : Entry} (he : e.txFree = true) (ht : Tracked (v.note e)) (h : Owned v) :
    Owned (v.note e) := by
  refine ⟨ht, fun hc => ?_⟩
  obtain ⟨hs, hb, hr⟩ := h.2 hc.tail
  have hk := starts_of_txFree he
  exact ⟨hs.cons he, fun hi => since_cons_of_not_kill hk (hb hi), fun hp => since_cons_of_not_kill hk (hr hp)⟩

theorem Owned.closed (c : Nat) : Closed c Owned := by
  intro v v' hv h
  have ht := Tracked.closed c v v' hv h.1
  cases hv with
  | badge id =>
    refine ⟨ht, fun hc => ?_⟩
    obtain ⟨hs, -, hr⟩ := h.2 hc.tail
    exact ⟨hs.cons rfl, fun _ => since_cons_of_hit (decide_eq_true rfl), hr⟩
  | remoteStop =>
    refine ⟨ht, fun hc => ?_⟩
    obtain ⟨hs, hb, -⟩ := h.2 hc.tail
    exact ⟨hs.cons rfl, hb, fun _ => rfl⟩
  | _ =>
    refine ⟨ht, fun hc => ?_⟩
    obtain ⟨hs, hb, hr⟩ := h.2 hc.tail
    exact ⟨hs.cons rfl, hb, hr⟩

theorem Owned.posted (c : Nat) : Posted c Owned where
  env := Owned.closed c
  own v f h := ⟨(Tracked.posted c).own v f h.1, h.2⟩
  metered v m h := ⟨(Tracked.posted c).metered v m h.1, h.2⟩
  moved v s h := ⟨(Tracked.posted c).moved v s h.1, h.2⟩
  noted v e he h := h.note (txFree_of_quiet he) (h.1.noted he)
  badge v h := by
    refine ⟨(Tracked.posted c).badge v h.1, fun hc => ?_⟩
    obtain ⟨hs, -, hr⟩ := h.2 hc.tail
    exact ⟨hs.cons rfl, fun hi => absurd rfl hi, hr⟩
  started v idTag a h := by
    refine ⟨(Tracked.posted c).started v idTag a h.1, fun hc => ?_⟩
    obtain ⟨hs, hb, hr⟩ := h.2 hc.tail
    refine ⟨Always.cons rfl hs, ?_⟩
    cases ha : a.ok with
    | false => exact ⟨fun hi => since_cons_of_not_kill ha (hb hi), fun hp => since_cons_of_not_kill ha (hr hp)⟩
    | true =>
      -- the start is clean, so nothing is pending
      have hclean : badgeBox v.history = "" ∧ stopAsked v.history = false := by
        simpa [Entry.opensClean, ha] using hc.head
      refine ⟨fun hi => absurd (h.1.badge.trans hclean.1) hi, fun hp => ?_⟩
      have hn : v.stopPending = false := h.1.stop.trans hclean.2
      rw [View.stopPending_note, hn] at hp
      cases hp

/-! ## The stop condition -/

variable {cp : SimulatedChargePoint} {c : Nat}

def BadgeOwned (v : View) : Prop :=
  Owned v ∧ (OpensClean v.history → since (Entry.badgeIs v.mqtt.idTag) Entry.starts v.history = true)

theorem BadgeOwned.closed (c : Nat) : Closed c BadgeOwned := by
  intro v v' hv h
  obtain ⟨ho, hb⟩ := h
  refine ⟨Owned.closed c v v' hv ho, ?_⟩
  cases hv with
  | badge id => exact fun _ => since_cons_of_hit (decide_eq_true rfl)
  | _ => exact fun hc => hb hc.tail

/-- **The request the call consumes was made since the last start.** -/
abbrev ConsumesOwn (read ask : Entry → Bool) : View → Prop := Consumes Owned OpensClean read ask Entry.starts

theorem ConsumesOwn.closed (c : Nat) {read ask : Entry → Bool} (hr : ∀ e, e.outside = true → read e = false) :
    Closed c (ConsumesOwn read ask) := Consumes.closed (Owned.closed c) (fun _ _ => Always.tail) hr

theorem readsBadge_of_outside {idTag : String} {e : Entry} (he : e.outside = true) : e.readsBadge idTag = false := by
  cases e <;> first | rfl | cases he

theorem findsStop_of_outside {e : Entry} (he : e.outside = true) : e.findsStop = false := by
  cases e <;> first | rfl | cases he

theorem stopTransaction_owned {P : View → Prop} {idTag : String} {reason : Reason} (hP : Closed c P)
    (h : ∀ v, P v → Owned v ∧ (OpensClean v.history →
      (Entry.stopTransaction c idTag reason).stopsOwn v.history = true)) :
    SpecAt c P (do stopTransaction cp c idTag reason; pure true) (fun _ => Owned) := by
  refine SpecOn.bind (stopTransaction_at (Q := fun _ => Owned) hP (fun v hv => ?_)) (fun _ => SpecOn.pure _ (fun _ h => h))
  obtain ⟨ho, hs⟩ := h v hv
  refine ⟨⟨ho.1.badge, ho.1.stop, ho.1.start⟩, fun hc => ?_⟩
  obtain ⟨hso, hb, hr⟩ := ho.2 hc.tail
  exact ⟨Always.cons (hs hc.tail) hso, hb, hr⟩

theorem isTransactionStopCondition_owned :
    SpecAt c Owned (isTransactionStopCondition cp c) (fun _ => Owned) := by
  have ho := Owned.closed c
  refine SpecOn.bind (R := fun b v => if b then BadgeOwned v else Owned v) ?_ (fun b => SpecOn.ite (fun hb => ?_) (fun hb => ?_))
  · refine isIdTagPending_at ho (fun v h => ?_)
    have hn : Owned (v.note (.isIdTagPending c (decide (v.mqtt.idTag ≠ "")))) := h.note rfl (h.1.noted rfl)
    split
    · rename_i hi
      exact ⟨hn, fun hc => since_cons_of_not_kill rfl ((h.2 hc.tail).2.1 (of_decide_eq_true hi))⟩
    · exact hn
  · rw [hb]
    refine SpecOn.bind (R := fun t => ConsumesOwn (Entry.readsBadge t) (Entry.badgeIs t)) ?_ (fun t => ?_)
    · refine pendingIdTag_at (BadgeOwned.closed c) (fun v h => ⟨h.1.note rfl (h.1.1.noted rfl), fun hc => ?_⟩)
      exact sinceAt_cons_of_hit (decide_eq_true rfl) (h.2 hc.tail)
    have hcl : Closed c (ConsumesOwn (Entry.readsBadge t) (Entry.badgeIs t)) :=
      ConsumesOwn.closed c (fun _ => readsBadge_of_outside)
    refine SpecOn.keep (authorize_at hcl (fun v r h => h.keep Always.tail rfl rfl (h.1.note rfl (h.1.1.noted rfl)))) (fun r => ?_)
    refine SpecOn.keep (resetIdTagPending_at hcl (fun v h =>
      Consumes.keep (v := v) Always.tail rfl rfl ((Owned.posted c).badge v h.1) h)) (fun _ => ?_)
    refine SpecOn.ite (fun _ => stopTransaction_owned hcl (fun v h => h)) (fun _ => SpecOn.pure _ (fun _ h => h.1))
  · rw [Bool.not_eq_true] at hb
    rw [hb]
    refine SpecOn.bind (R := fun b v => if b then ConsumesOwn Entry.findsStop Entry.asksStop v else Owned v) ?_
      (fun b => SpecOn.ite (fun hb => ?_) (fun hb => ?_))
    · refine isRemoteStopPending_at ho (fun v h => ?_)
      have hn : Owned (v.note (.isRemoteStopPending c v.stopPending)) := h.note rfl (h.1.noted rfl)
      cases hi : v.stopPending with
      | true =>
        rw [hi] at hn
        exact ⟨hn, fun hc => sinceAt_cons_of_hit rfl ((h.2 hc.tail).2.2 hi)⟩
      | false =>
        rw [hi] at hn
        exact hn
    · rw [hb]
      have hcl : Closed c (ConsumesOwn Entry.findsStop Entry.asksStop) :=
        ConsumesOwn.closed c (fun _ => findsStop_of_outside)
      refine SpecOn.keep (resetRemoteStopPending_at hcl (fun v h => ?_)) (fun _ => stopTransaction_owned hcl (fun v h => h))
      refine Consumes.keep (v := v) Always.tail rfl rfl ⟨⟨h.1.1.badge, rfl, h.1.1.start⟩, fun hc => ?_⟩ h
      obtain ⟨hs, hb, -⟩ := h.1.2 hc.tail
      exact ⟨hs.cons rfl, hb, fun hp => by cases hp⟩
    · rw [Bool.not_eq_true] at hb
      rw [hb]
      refine ownData_at (fun v _ => SpecOn.pre (fun _ h => h.1) (SpecOn.ite (fun _ => ?_) (fun _ => ?_)))
      · exact stopTransaction_owned ho (fun v h => ⟨h, fun _ => rfl⟩)
      · exact SpecOn.ite (fun _ => stopTransaction_owned ho (fun v h => ⟨h, fun _ => rfl⟩))
          (fun _ => SpecOn.pure _ (fun _ h => h))

theorem loop_owned (hc : c ∈ cp.ids) (k : Nat) : SpecAt c Owned (loop cp k) (fun _ => Owned) := by
  refine (Owned.posted c).loop hc (isValidIdTagPresent_keeps ((Owned.posted c).tagFree ?_ ?_) false)
    isTransactionStopCondition_owned k
  · exact fun v tag ret h => h.note rfl ⟨h.1.badge, h.1.stop, h.1.start⟩
  · intro v h
    refine ⟨⟨h.1.badge, h.1.stop, rfl⟩, fun hc => ?_⟩
    obtain ⟨hs, hb, hr⟩ := h.2 hc.tail
    exact ⟨hs.cons rfl, hb, hr⟩

/-- **Where every start finds the badge and the remote stop mailbox empty, a stop only ends the transaction its request
was made for.** -/
theorem stopsOwn_of_opensClean (cp : SimulatedChargePoint) (c : Nat) (hc : c ∈ cp.ids) (w : World)
    (hw : Unposted c w) (k : Nat) (script : List Tick) (hclean : OpensClean ((afterLoop cp k w script).history c)) :
    StopsOwn ((afterLoop cp k w script).history c) := by
  have h₀ : Owned (w.view c) := by
    refine ⟨hw.tracked, fun _ => ⟨?_, fun hi => absurd hw.badge hi, fun hp => ?_⟩⟩
    · show StopsOwn (w.history c)
      rw [hw.history]
      exact .nil
    · have hn : (w.view c).stopPending = false := hw.stop
      rw [hn] at hp
      cases hp
  have h := loop_owned hc k w script h₀
  exact (h.2 hclean).1

theorem stopsOwn_of_opensClean_session : StopsOwn ((afterLoop .sample 5 (.start .sample .idle) sampleSession).history 1) :=
  stopsOwn_of_opensClean .sample 1 (by decide) (.start .sample .idle) ⟨rfl, rfl, rfl, rfl⟩ 5 sampleSession
    (by decide +kernel)

end Simu
