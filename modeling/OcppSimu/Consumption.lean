import Mathlib.Data.List.GetD
import OcppSimu.Session
/-!
# Consumption — what a connector draws, its cable and its transaction

An iteration computes the setpoint of a connector from the cable it knew, then copies new car data, then may stop the
transaction, and then sets the meter from the status it polled, the setpoint and the new data.  So the consumption set
can exceed the cable just copied, and can outlive the transaction just stopped.  `keepsUp` says of an iteration that
neither happens, and the meter is right exactly where it does (`consumption_right_iff`).
-/
namespace Simu

open Hist Script View

/-! ## What an iteration mixes -/

def Entry.copied : Entry → Option (ConnectorData × CarData)
  | .updateData _ d x => some (d, x)
  | _ => none

def Entry.copies : Entry → Bool
  | .updateData _ _ _ => true
  | _ => false

/-- The record as it was when car data were last copied, and the data copied. -/
def lastCopy (h : List Entry) : Option (ConnectorData × CarData) := last Entry.copied h

def Entry.badgeSeen : Entry → Bool
  | .isIdTagPending _ b => b
  | _ => false

def Entry.badgeAccepted : Entry → Bool
  | .authorize _ _ a => decide (a = .accepted)
  | _ => false

def Entry.stopSeen : Entry → Bool
  | .isRemoteStopPending _ b => b
  | _ => false

/-- **A stop was asked for since the data `x` were copied**: by a badge that was accepted, or, with no badge pending, by
a remote stop, by an unplugged cable or by a fault. -/
def stopDue (x : CarData) (h : List Entry) : Bool :=
  if since Entry.badgeSeen Entry.copies h then since Entry.badgeAccepted Entry.copies h
  else since Entry.stopSeen Entry.copies h || decide (x.cable = 0) || x.fault

def CarData.phases (x : CarData) : Nat → List ℚ
  | 1 => [x.l1]
  | 2 => [x.l1, x.l2]
  | 3 => [x.l1, x.l2, x.l3]
  | _ => []

/-- **The data keep up with the setpoint**: if the connector was polled `Charging`, then for each phase the car's demand
or the setpoint fits the cable just copied, and, if a stop was asked for since, one of the two is 0. -/
def keepsUp (n : Nat) (h : List Entry) : Bool :=
  match lastCopy h with
  | some (d, x) => decide (d.status = .charging → ∀ l ∈ x.phases n,
      (l ≤ x.cable ∨ d.setpoint ≤ x.cable) ∧
        (stopDue x h = true → d.setpoint = 0 ∨ (l = 0 ∧ 0 ≤ d.setpoint)))
  | none => true

/-- **The meter of a connector is right**: on each phase it is at most the cable, and 0 unless a transaction is open. -/
def ConsumptionRight (c : Nat) (w : World) : Prop :=
  ∀ p, p < 3 → (w.meters c).consumptions.getD p 0 ≤ (w.connectors c).carCableCapacity ∧
    (openTx (w.history c) = false → (w.meters c).consumptions.getD p 0 = 0)

instance (c : Nat) (w : World) : Decidable (ConsumptionRight c w) := Nat.decidableBallLT 3 _

def Entry.nonnegative : Entry → Bool
  | .updateData _ _ x => decide (0 ≤ x.cable ∧ 0 ≤ x.l1 ∧ 0 ≤ x.l2 ∧ 0 ≤ x.l3)
  | _ => true

def NonnegativeData (h : List Entry) : Prop := Always (fun e _ => e.nonnegative = true) h

instance (h : List Entry) : Decidable (NonnegativeData h) := Hist.decidableAlways _ h

/-- **An iteration that notices the cable is gone still draws 8 A**, with no cable and no transaction. -/
theorem consumption_after_unplug :
    let w := afterIteration .sample 4 (.start .sample .idle) (script 160
      [(0, .carMessage 1 { cable := some 10, consumptionL1 := some 8 }), (0, .idTagMessage 1 "A"),
       (94, .carMessage 1 { cable := some 0 })])
    StackKeeps (w.history 1) ∧ NonnegativeData (w.history 1) ∧ ¬ConsumptionRight 1 w := by
  decide +kernel

/-! ## The invariant -/

/-- **The loop's record is the one the data were copied into**, and the history since says `T`. -/
structure Copied (p : ConnectorData × CarData) (T : List Entry → Prop) (d : ConnectorData) (h : List Entry) : Prop where
  last : lastCopy h = some p
  status : d.status = p.1.status
  setpoint : d.setpoint = p.1.setpoint
  car : d.car = p.2
  tx : StackKeeps h → T h

namespace Copied

variable {p : ConnectorData × CarData} {T T' : List Entry → Prop} {d : ConnectorData} {h : List Entry}

theorem cons {e : Entry} (he : e.copies = false) (hT : T h → T' (e :: h)) (hc : Copied p T d h) :
    Copied p T' d (e :: h) where
  last := by
    have hn : e.copied = none := by cases e <;> first | rfl | cases he
    rw [lastCopy, last_cons, hn]
    exact hc.last
  status := hc.status
  setpoint := hc.setpoint
  car := hc.car
  tx hk := hT (hc.tx hk.tail)

theorem mono (hT : T h → T' h) (hc : Copied p T d h) : Copied p T' d h where
  last := hc.last
  status := hc.status
  setpoint := hc.setpoint
  car := hc.car
  tx hk := hT (hc.tx hk)

theorem assigned (t parent : String) (now : Nat) (b : Bool) (hc : Copied p T d h) :
    Copied p T { d with idTag := t, parentIdTag := parent, preparingStart := now, unavailablePending := b } h where
  last := hc.last
  status := hc.status
  setpoint := hc.setpoint
  car := hc.car
  tx := hc.tx

theorem closed (c : Nat) (hT : ∀ e h, e.outside = true → T h → T (e :: h)) :
    Closed c (fun v => Copied p T v.connector v.history) :=
  closed_own (fun d b e h he hc =>
    ((hc.assigned d.idTag d.parentIdTag d.preparingStart b).cons (by cases e <;> first | rfl | cases he)
      (hT e h he)))

end Copied

/-- **What was asked for since the copy**: a badge was seen, was accepted, a remote stop was seen, and a transaction is
open. -/
structure Asked (badge accepted stop tx : Bool) (h : List Entry) : Prop where
  badge : since Entry.badgeSeen Entry.copies h = badge
  accepted : since Entry.badgeAccepted Entry.copies h = accepted
  stop : since Entry.stopSeen Entry.copies h = stop
  tx : openTx h = tx

def Entry.askFree : Entry → Bool
  | .updateData _ _ _ | .isIdTagPending _ _ | .authorize _ _ _ | .isRemoteStopPending _ _ | .startTransaction _ _ _
  | .stopTransaction _ _ _ => false
  | _ => true

theorem Asked.cons {b a s o : Bool} {e : Entry} {h : List Entry} (he : e.askFree = true) (ha : Asked b a s o h) :
    Asked b a s o (e :: h) := by
  obtain ⟨hb, hacc, hs, ho⟩ := ha
  cases e <;> first | (cases he; done) | exact ⟨hb, hacc, hs, ho⟩

theorem Asked.stopDue {b a s o : Bool} {x : CarData} {h : List Entry} (ha : Asked b a s o h) :
    stopDue x h = if b then a else s || decide (x.cable = 0) || x.fault := by
  unfold Simu.stopDue
  rw [ha.badge, ha.accepted, ha.stop]

def Stopped (x : CarData) (h : List Entry) : Prop := openTx h = !stopDue x h

theorem Stopped.cons {x : CarData} {e : Entry} {h : List Entry} (he : e.askFree = true) (hs : Stopped x h) :
    Stopped x (e :: h) := by
  unfold Stopped at hs ⊢
  cases e <;> first | (cases he; done) | exact hs

theorem askFree_of_outside {e : Entry} (he : e.outside = true) : e.askFree = true := by
  cases e <;> first | rfl | cases he

/-! ## The pass of a connector -/

variable {cp : SimulatedChargePoint} {c : Nat}

theorem nextStatus_copied (p : ConnectorData × CarData) :
    SpecAt c (fun v => Copied p (fun _ => True) v.connector v.history) (nextStatus cp c)
      (fun _ v => Copied p (fun _ => True) v.connector v.history) := by
  have hcl := @Copied.closed p (fun _ => True) c (fun _ _ _ h => h)
  have keep : ∀ {e : Entry} {d : ConnectorData} {h : List Entry}, e.copies = false →
      Copied p (fun _ => True) d h → Copied p (fun _ => True) d (e :: h) := fun he h => h.cons he (fun _ => trivial)
  have plain : Plain c (fun v => Copied p (fun _ => True) v.connector v.history) :=
    { env := hcl, notified := fun _ _ h => keep rfl h, asked := fun _ _ h => keep rfl h
      timed := fun _ now h => h.assigned _ _ now _, started := fun _ _ h _ _ => keep rfl h
      refused := fun _ _ h _ _ => keep rfl (h.assigned "" "" _ _) }
  have tagFree : TagFree c (fun v => Copied p (fun _ => True) v.connector v.history) :=
    { env := hcl, noted := fun _ e he h => keep (by cases e <;> first | rfl | cases he) h
      answered := fun _ _ _ h => keep rfl h, tagged := fun _ x y h => h.assigned x y _ _
      badge := fun _ h => keep rfl h, start := fun _ h => keep rfl h }
  have stopFree : StopFree c (fun v => Copied p (fun _ => True) v.connector v.history) :=
    { env := hcl, noted := fun _ e he h => keep (by cases e <;> first | rfl | cases he) h
      badge := fun _ h => keep rfl h, stop := fun _ h => keep rfl h, stopped := fun _ _ _ h => keep rfl h }
  exact plain.nextStatus (isValidIdTagPresent_keeps tagFree false) (isTransactionStopCondition_keeps stopFree)

def Asking (p : ConnectorData × CarData) (b a s o : Bool) (v : View) : Prop :=
  Copied p (Asked b a s o) v.connector v.history

theorem Asking.closed (p : ConnectorData × CarData) (b a s o : Bool) : Closed c (Asking p b a s o) :=
  Copied.closed c (fun _ _ he h => h.cons (askFree_of_outside he))

theorem Asking.note {p : ConnectorData × CarData} {b a s o : Bool} {v : View} {e : Entry} (he : e.askFree = true)
    (h : Asking p b a s o v) : Asking p b a s o (v.note e) :=
  Copied.cons (by cases e <;> first | rfl | cases he) (fun ha => ha.cons he) h

def Resolved (p : ConnectorData × CarData) (v : View) : Prop := Copied p (Stopped p.2) v.connector v.history

theorem Resolved.closed (p : ConnectorData × CarData) : Closed c (Resolved p) :=
  Copied.closed c (fun _ _ he h => h.cons (askFree_of_outside he))

theorem Resolved.note {p : ConnectorData × CarData} {v : View} {e : Entry} (he : e.askFree = true)
    (h : Resolved p v) : Resolved p (v.note e) :=
  Copied.cons (by cases e <;> first | rfl | cases he) (fun ha => ha.cons he) h

theorem Asking.resolved {p : ConnectorData × CarData} {b a s o : Bool} {v : View} (h : Asking p b a s o v)
    (ho : o = !(if b then a else s || decide (p.2.cable = 0) || p.2.fault)) : Resolved p v :=
  Copied.mono (fun ha => by rw [Stopped, ha.stopDue, ha.tx, ho]) h

theorem stopTransaction_resolved {p : ConnectorData × CarData} {b a s : Bool} (idTag : String) (reason : Reason)
    (hd : (if b then a else s || decide (p.2.cable = 0) || p.2.fault) = true) :
    SpecAt c (Asking p b a s true) (do stopTransaction cp c idTag reason; pure true) (fun _ => Resolved p) := by
  refine SpecOn.bind (R := fun _ => Asking p b a s false) ?_
    (fun _ => SpecOn.pure _ (fun _ h => h.resolved (by rw [hd]; rfl)))
  refine stopTransaction_at (Asking.closed p b a s true) (fun v h => ?_)
  exact Copied.cons rfl (fun ha => ⟨ha.badge, ha.accepted, ha.stop, rfl⟩) h

/-- **The stop condition stops the transaction exactly where a stop was asked for.** -/
theorem isTransactionStopCondition_resolved (p : ConnectorData × CarData) :
    SpecAt c (Asking p false false false true) (isTransactionStopCondition cp c) (fun _ => Resolved p) := by
  refine SpecOn.bind (R := fun b => Asking p b false false true) ?_ (fun b => ?_)
  · refine isIdTagPending_at (Asking.closed p _ _ _ _) (fun v h => ?_)
    exact Copied.cons rfl (fun ha => ⟨by simp [Entry.badgeSeen, Entry.copies, ha.badge], ha.accepted, ha.stop, ha.tx⟩) h
  cases b with
  | true =>
    -- with a badge pending, only its authorization counts
    refine SpecOn.keep (pendingIdTag_at (Asking.closed p _ _ _ _) (fun _ h => h.note rfl)) (fun tag => ?_)
    refine SpecOn.bind (R := fun r => Asking p true (decide (r.1 = .accepted)) false true) ?_ (fun r => ?_)
    · refine authorize_at (Asking.closed p _ _ _ _) (fun v r h => ?_)
      exact Copied.cons rfl (fun ha => ⟨ha.badge, by simp [Entry.badgeAccepted, Entry.copies, ha.accepted], ha.stop, ha.tx⟩) h
    refine SpecOn.keep (resetIdTagPending_at (Asking.closed p _ _ _ _) (fun _ h => h.note rfl)) (fun _ => ?_)
    refine SpecOn.ite (fun ha => ?_) (fun ha => SpecOn.pure _ (fun _ h => h.resolved ?_))
    · exact stopTransaction_resolved tag .local_ (decide_eq_true ha)
    · show true = !decide (r.1 = .accepted)
      rw [decide_eq_false ha]
      rfl
  | false =>
    refine SpecOn.bind (R := fun s => Asking p false false s true) ?_ (fun s => ?_)
    · refine isRemoteStopPending_at (Asking.closed p _ _ _ _) (fun v h => ?_)
      exact Copied.cons rfl (fun ha => ⟨ha.badge, ha.accepted, by simp [Entry.stopSeen, Entry.copies, ha.stop], ha.tx⟩) h
    cases s with
    | true =>
      refine SpecOn.keep (resetRemoteStopPending_at (Asking.closed p _ _ _ _) (fun _ h => h.note rfl)) (fun _ => ?_)
      exact stopTransaction_resolved "" .remote rfl
    | false =>
      refine ownData_at (fun v hv => SpecOn.pre (fun _ h => h.1) ?_)
      have hc : v.connector.carCableCapacity = p.2.cable := congrArg CarData.cable hv.car
      have hf : v.connector.faultPending = p.2.fault := congrArg CarData.fault hv.car
      refine SpecOn.ite (fun h₀ => ?_) (fun h₀ => SpecOn.ite (fun h₁ => ?_) (fun h₁ => SpecOn.pure _ (fun _ h => h.resolved ?_)))
      · exact stopTransaction_resolved "" .evDisconnected (by simp [← hc, h₀])
      · exact stopTransaction_resolved "" .other (by simp [← hf, h₁])
      · simp [← hc, ← hf, h₀, h₁]

theorem nextStatus_resolved {p : ConnectorData × CarData} (hp : p.1.status = .charging) :
    SpecAt c (Asking p false false false true) (nextStatus cp c) (fun _ => Resolved p) := by
  refine ownData_at (fun v hv => SpecOn.pre (fun _ h => h.1) ?_)
  have hs : v.connector.status = .charging := hv.status.trans hp
  rw [hs]
  have sn : ∀ s, SpecAt c (Resolved p) (statusNotification cp c s) (fun _ => Resolved p) := fun s =>
    statusNotification_at (Resolved.closed p) (fun _ h => h.note rfl)
  refine SpecOn.bind (isTransactionStopCondition_resolved p) (fun _ => SpecOn.ite (fun _ => sn _) (fun _ => ?_))
  exact SpecOn.ite (fun _ => sn _) (fun _ => SpecOn.ite (fun _ => sn _) (fun _ => SpecOn.pure _ (fun _ h => h)))

/-! ## The meter -/

/-- **What the meter was set to**: the consumptions of the record the data were copied into. -/
def Metered (p : ConnectorData × CarData) (m : MeterSimulator) : Prop :=
  ∀ i, i < 3 → m.consumptions.getD i 0 =
    if i < m.phasesCount then (consumptions (p.1.setCar p.2) m.phasesCount).getD i 0 else 0

/-- The end of an iteration: the meter is set, and, if the connector was polled `Charging`, the stop condition looked
at. -/
structure Done (p : ConnectorData × CarData) (v : View) : Prop where
  copied : Copied p (fun h => p.1.status = .charging → Stopped p.2 h) v.connector v.history
  metered : Metered p v.meter

theorem Done.closed (p : ConnectorData × CarData) : Closed c (Done p) := by
  intro v v' hv h
  refine ⟨Copied.closed c (fun e h he hs hp => (hs hp).cons (askFree_of_outside he)) v v' hv h.copied, ?_⟩
  have hm := h.metered
  cases hv <;> exact hm

theorem consumptions_copied {p : ConnectorData × CarData} {T : List Entry → Prop} {d : ConnectorData}
    {h : List Entry} (hc : Copied p T d h) (n : Nat) : consumptions d n = consumptions (p.1.setCar p.2) n := by
  have h₁ : d.carConsumptionL1 = p.2.l1 := congrArg CarData.l1 hc.car
  have h₂ : d.carConsumptionL2 = p.2.l2 := congrArg CarData.l2 hc.car
  have h₃ : d.carConsumptionL3 = p.2.l3 := congrArg CarData.l3 hc.car
  unfold consumptions
  rw [hc.status, hc.setpoint, h₁, h₂, h₃]
  rfl

theorem computeConsumption_done {p : ConnectorData × CarData} {T : List Entry → Prop}
    (hT : ∀ e h, e.askFree = true → T h → T (e :: h)) (hp : ∀ h, T h → p.1.status = .charging → Stopped p.2 h) :
    SpecAt c (fun v => Copied p T v.connector v.history) (computeConsumption cp c) (fun _ => Done p) := by
  have hcl := Copied.closed (p := p) c (fun e h he => hT e h (askFree_of_outside he))
  refine SpecOn.split (fun v => v.meter.phasesCount) (fun n => ?_)
  have hn : Closed c (fun v => v.meter.phasesCount = n) := fun v v' hv h => by cases hv <;> exact h
  refine computeConsumption_at (hcl.and hn) (fun v v' hv hv' => ⟨?_, fun i hi => ?_⟩)
  · exact hv'.1.cons rfl (fun h => hp _ (hT _ _ rfl h))
  · have hm : v.meter.phasesCount = v'.meter.phasesCount := hv.2.trans hv'.2.symm
    rw [consumptions_copied hv.1, hm]
    exact MeterSimulator.getD_setConsumptions _ (by rw [length_consumptions]; exact hi)

theorem pass_done (p : ConnectorData × CarData) :
    SpecAt c (fun v => Copied p (fun h => p.1.status = .charging → Asked false false false true h) v.connector v.history)
      (do nextStatus cp c; computeConsumption cp c) (fun _ => Done p) := by
  -- only a connector polled `Charging` draws, so only there the transaction matters
  by_cases hp : p.1.status = .charging
  · refine SpecOn.pre (R := Asking p false false false true) (fun v h => h.mono (fun ha => ha hp)) ?_
    exact SpecOn.bind (nextStatus_resolved hp) (fun _ =>
      computeConsumption_done (fun _ _ he h => h.cons he) (fun _ h _ => h))
  · refine SpecOn.pre (R := fun v => Copied p (fun _ => True) v.connector v.history)
      (fun v h => h.mono (fun _ => trivial)) ?_
    exact SpecOn.bind (nextStatus_copied p) (fun _ =>
      computeConsumption_done (fun _ _ _ h => h) (fun _ _ hc => absurd hc hp))

theorem copied_copyData {v : View} (h : Polled v) :
    Copied (v.connector, v.mqtt.car)
      (fun h => v.connector.status = .charging → Asked false false false true h)
      (v.copyData c).connector (v.copyData c).history where
  last := rfl
  status := rfl
  setpoint := rfl
  car := rfl
  tx hk hp := by
    refine ⟨rfl, rfl, rfl, ?_⟩
    have ho : openTx v.history = v.connector.status.inSession := (h hk.tail).2.1
    show openTx v.history = true
    rw [ho, hp]
    rfl

/-- **An iteration sets the meter from what it has copied.** -/
theorem actOnConnectors_done (hc : c ∈ cp.ids) :
    SpecAt c Polled (actOnConnectors cp) (fun _ v => ∃ p, Done p v) := by
  have hcopied : Closed c (fun v => ∃ p : ConnectorData × CarData,
      Copied p (fun h => p.1.status = .charging → Asked false false false true h) v.connector v.history) :=
    Closed.exists (fun p => Copied.closed c (fun _ _ he h hp => (h hp).cons (askFree_of_outside he)))
  refine SpecOn.keep (computeSetpoints_steady (Polled.steady c)) (fun _ => ?_)
  refine afterSetpoints_at hc (Polled.steady c).env hcopied (Closed.exists Done.closed) ?_ ?_
  · exact fun v h => ⟨_, copied_copyData h⟩
  · exact SpecOn.exists (fun p => SpecOn.post (pass_done p) (fun _ _ h => ⟨p, h⟩))

/-- What is said of every phase of a meter is said of the phases it has, where it is true of 0. -/
theorem forall_getD_iff {R : ℚ → Prop} (h₀ : R 0) {l : List ℚ} (hl : l.length ≤ 3) :
    (∀ i, i < 3 → R (l.getD i 0)) ↔ ∀ y ∈ l, R y := by
  constructor
  · intro h y hy
    obtain ⟨i, hi, rfl⟩ := List.mem_iff_getElem.1 hy
    have hr := h i (by omega)
    rwa [List.getD_eq_getElem l 0 hi] at hr
  · intro h i _
    by_cases hi : i < l.length
    · rw [List.getD_eq_getElem l 0 hi]
      exact h _ (List.getElem_mem hi)
    · rw [List.getD_eq_default l 0 (not_lt.1 hi)]
      exact h₀

theorem metered_charging {p : ConnectorData × CarData} {m : MeterSimulator} (hm : Metered p m)
    (hp : p.1.status = .charging) {i : Nat} (hi : i < 3) :
    m.consumptions.getD i 0 = ((p.2.phases m.phasesCount).map (min · p.1.setpoint)).getD i 0 := by
  rw [hm i hi]
  unfold consumptions
  rw [if_pos (show (p.1.setCar p.2).status = .charging from hp)]
  generalize m.phasesCount = n
  have hi' : i = 0 ∨ i = 1 ∨ i = 2 := by omega
  match n with
  | 0 | 1 | 2 | 3 => rcases hi' with rfl | rfl | rfl <;> rfl
  | n + 4 => rcases hi' with rfl | rfl | rfl <;> simp [CarData.phases]

theorem metered_idle {p : ConnectorData × CarData} {m : MeterSimulator} (hm : Metered p m)
    (hp : p.1.status ≠ .charging) {i : Nat} (hi : i < 3) : m.consumptions.getD i 0 = 0 := by
  rw [hm i hi]
  unfold consumptions
  rw [if_neg (show ¬(p.1.setCar p.2).status = .charging from hp)]
  have hi' : i = 0 ∨ i = 1 ∨ i = 2 := by omega
  rcases hi' with rfl | rfl | rfl <;> simp

theorem nonneg_of_lastCopy {h : List Entry} {p : ConnectorData × CarData} (hn : NonnegativeData h)
    (hl : lastCopy h = some p) : 0 ≤ p.2.cable ∧ ∀ n, ∀ l ∈ p.2.phases n, 0 ≤ l := by
  induction hn with
  | nil => cases hl
  | @cons e h he _ ih =>
    cases e with
    | updateData c d x =>
      obtain rfl : (d, x) = p := Option.some.inj hl
      obtain ⟨hc, h₁, h₂, h₃⟩ := of_decide_eq_true he
      refine ⟨hc, fun n l hm => ?_⟩
      unfold CarData.phases at hm
      split at hm <;> simp only [List.mem_cons, List.not_mem_nil, or_false] at hm
      · rwa [hm]
      · rcases hm with rfl | rfl <;> assumption
      · rcases hm with rfl | rfl | rfl <;> assumption
    | _ => exact ih hl

/-- The lesser of a demand and of the setpoint. -/
theorem min_eq_zero_iff {l x : ℚ} (hl : 0 ≤ l) : min l x = 0 ↔ x = 0 ∨ (l = 0 ∧ 0 ≤ x) := by
  constructor
  · intro h
    rcases min_choice l x with hm | hm
    · have h₀ : l = 0 := hm.symm.trans h
      exact .inr ⟨h₀, h ▸ min_le_right l x⟩
    · exact .inl (hm.symm.trans h)
  · rintro (rfl | ⟨rfl, hx⟩)
    · exact min_eq_right hl
    · exact min_eq_left hx

/-- **The meter is right exactly where the data keep up.** -/
theorem Done.right_iff {p : ConnectorData × CarData} {v : View} (hd : Done p v) (hk : StackKeeps v.history)
    (hn : NonnegativeData v.history) :
    (∀ i, i < 3 → v.meter.consumptions.getD i 0 ≤ v.connector.carCableCapacity ∧
      (openTx v.history = false → v.meter.consumptions.getD i 0 = 0)) ↔
    keepsUp v.meter.phasesCount v.history = true := by
  obtain ⟨h₀, hphases⟩ := nonneg_of_lastCopy hn hd.copied.last
  have hc : v.connector.carCableCapacity = p.2.cable := congrArg CarData.cable hd.copied.car
  rw [keepsUp, hd.copied.last, decide_eq_true_iff, hc]
  by_cases hp : p.1.status = .charging
  · have ho : openTx v.history = !stopDue p.2 v.history := hd.copied.tx hk hp
    have hz : ∀ b : Bool, (!b) = false ↔ b = true := by decide
    rw [ho, hz]
    have hl : ((p.2.phases v.meter.phasesCount).map (min · p.1.setpoint)).length ≤ 3 := by
      rw [List.length_map]
      unfold CarData.phases
      split <;> simp
    have hr := forall_getD_iff (R := fun y => y ≤ p.2.cable ∧ (stopDue p.2 v.history = true → y = 0))
      ⟨h₀, fun _ => rfl⟩ hl
    rw [List.forall_mem_map] at hr
    have hl' : ∀ l ∈ p.2.phases v.meter.phasesCount,
        (min l p.1.setpoint ≤ p.2.cable ∧ (stopDue p.2 v.history = true → min l p.1.setpoint = 0) ↔
          (l ≤ p.2.cable ∨ p.1.setpoint ≤ p.2.cable) ∧
            (stopDue p.2 v.history = true → p.1.setpoint = 0 ∨ (l = 0 ∧ 0 ≤ p.1.setpoint))) := fun l hm => by
      rw [min_le_iff, min_eq_zero_iff (hphases _ l hm)]
    constructor
    · intro h _ l hm
      refine (hl' l hm).1 (hr.1 (fun i hi => ?_) l hm)
      rw [← metered_charging hd.metered hp hi]
      exact h i hi
    · intro h i hi
      rw [metered_charging hd.metered hp hi]
      exact hr.2 (fun l hm => (hl' l hm).2 (h hp l hm)) i hi
  · have hm := fun i hi => @metered_idle p v.meter hd.metered hp i hi
    exact ⟨fun _ h => absurd h hp, fun _ i hi => by rw [hm i hi]; exact ⟨h₀, fun _ => rfl⟩⟩

/-! ## The run -/

theorem loopIterated_done (hc : c ∈ cp.ids) (k : Nat) :
    SpecAt c Agreed (loopIterated cp k) (fun ran v => ran = true → ∃ p, Done p v) :=
  loopThen_at (Agreed.steady c).env (loop_sess hc k)
    (SpecOn.bind (pollConnectors_sess hc) (fun _ => actOnConnectors_done hc))

/-- **At the end of an iteration the meter of a connector is right exactly if in that iteration the data kept up with
the setpoint**, in every run in which the stack keeps to its three statuses and the car data are not negative. -/
theorem consumption_right_iff (cp : SimulatedChargePoint) (c : Nat) (hc : c ∈ cp.ids) (w : World) (hl : w.log = [])
    (hs : (w.stack.status c).inSession = false) (k : Nat) (script : List Tick)
    (hr : (loopIterated cp k (w, script)).1 = true) (hk : StackKeeps ((afterIteration cp k w script).history c))
    (hn : NonnegativeData ((afterIteration cp k w script).history c)) :
    ConsumptionRight c (afterIteration cp k w script) ↔
      keepsUp ((afterIteration cp k w script).meters c).phasesCount ((afterIteration cp k w script).history c) = true := by
  obtain ⟨p, hd⟩ := loopIterated_done hc k w script (agreed_of_idle hl hs) hr
  exact hd.right_iff hk hn

/-- A car that charges at 8 A on the first phase. -/
theorem consumption_right_iff_session :
    let w := afterIteration .sample 4 (.start .sample .idle) (script 160
      [(0, .carMessage 1 { cable := some 10, consumptionL1 := some 8 }), (0, .idTagMessage 1 "A")])
    (w.meters 1).consumptions = [8, 0, 0] ∧ ConsumptionRight 1 w :=
  ⟨by decide +kernel, (consumption_right_iff .sample 1 (by decide) (.start .sample .idle) rfl rfl 4 _ (by decide +kernel)
    (by decide +kernel) (by decide +kernel)).2 (by decide +kernel)⟩

end Simu
