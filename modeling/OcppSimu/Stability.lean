import OcppSimu.Feedback
import OcppSimu.Sharing
/-!
# Stability — the statuses under constant limits

An iteration polls the statuses, computes the setpoints from them and moves every connector of a session to the status
its setpoint calls for.  Only the connectors in `Charging` count in the total, but all of them are cut down when it is too
high: a connector that is cut to 0 leaves `Charging`, the total falls, and it gets its setpoint back.  Under constant
limits, cables and cars a connector returns to a status it has left unless the total settles at once (`Settles`), and
then none ever does (`statuses_settle_iff`).
-/
namespace Simu

open Hist Script View Feedback

/-! ## Constant surroundings -/

/-- What stays the same: what `getSetpoint` answers for each connector, its cable and its car. -/
structure Surroundings where
  limits : Nat → Option (Option ℚ × Option ℚ)
  cable : Nat → ℚ
  ready : Nat → Bool

/-- The answers of constant surroundings: no badge, no remote stop and no fault is pending, and the stack moves no
connector on its own. -/
def Entry.constant (s : Surroundings) : Entry → Bool
  | .getSetpoint c _ a => decide (a = s.limits c)
  | .updateData c _ x => decide (x.cable = s.cable c ∧ x.ready = s.ready c ∧ x.fault = false)
  | .isIdTagPending _ b | .isRemoteStopPending _ b => !b
  | .statusMoved _ _ _ => false
  | _ => true

def Entry.polledStatus : Entry → Option ChargePointStatus
  | .getConnectorStatus _ s => some s
  | _ => none

/-- The statuses polled so far, oldest first. -/
def polledStatuses (h : List Entry) : List ChargePointStatus := (h.filterMap Entry.polledStatus).reverse

/-- The status a setpoint calls for, in a session. -/
def statusOf (ready : Bool) (on : Prop) [Decidable on] : ChargePointStatus :=
  if on then if ready then .charging else .suspendedEV else .suspendedEVSE

/-- The limit of a connector, once `getSetpoint` has answered. -/
def limitOn (max : ℚ) : Option (Option ℚ × Option ℚ) → ℚ
  | some (_, some v) => if v < max then v else max
  | _ => max

namespace Surroundings

def Constant (s : Surroundings) (h : List Entry) : Prop := ∀ e ∈ h, e.constant s = true

instance (s : Surroundings) (h : List Entry) : Decidable (s.Constant h) := List.decidableBAll _ h

section

variable (s : Surroundings) (cp : SimulatedChargePoint)

/-- What the charge point may draw, as far as the connectors `l` have been asked for. -/
def wholeOf (l : List Nat) : ℚ := l.foldl (fun x c => lessen x (s.limits c)) cp.maxChargePointSetpoint

def whole : ℚ := s.wholeOf cp cp.ids

def cap (c : Nat) : ℚ := min (limitOn cp.maxConnectorSetpoint (s.limits c)) (s.cable c)

/-- What the connectors in `Charging` would draw. -/
def total (statuses : Nat → ChargePointStatus) : ℚ :=
  cp.arith.sum (cp.ids.map (fun c => if statuses c = .charging ∧ s.cap cp c > 0 then s.cap cp c else 0))

/-- What connector `c` draws once it is in `Charging`: nothing, if its car is not ready. -/
def draw (c : Nat) : ℚ := if s.ready c = true ∧ 0 < s.cap cp c then s.cap cp c else 0

/-- What the connectors would draw that get a setpoint at the total `x`. -/
def demand (x : ℚ) : ℚ :=
  cp.arith.sum (cp.ids.map (fun c => if Admits cp.arith (s.whole cp) x (s.cap cp c) then s.draw cp c else 0))

/-- **The total settles at once**: the connectors that get a setpoint in the second iteration are those of the third, and
one that has its first status in the second iteration had it in the first as well. -/
def Settles (statuses : Nat → ChargePointStatus) : Prop :=
  (∀ c ∈ cp.ids, Admits cp.arith (s.whole cp) (s.demand cp (s.demand cp (s.total cp statuses))) (s.cap cp c) ↔
    Admits cp.arith (s.whole cp) (s.demand cp (s.total cp statuses)) (s.cap cp c)) ∧
  ∀ c ∈ cp.ids,
    statuses c = statusOf (s.ready c) (Admits cp.arith (s.whole cp) (s.demand cp (s.total cp statuses)) (s.cap cp c)) →
      (Admits cp.arith (s.whole cp) (s.demand cp (s.total cp statuses)) (s.cap cp c) ↔
        Admits cp.arith (s.whole cp) (s.total cp statuses) (s.cap cp c))

instance (statuses : Nat → ChargePointStatus) : Decidable (s.Settles cp statuses) := by
  unfold Settles
  infer_instance

/-- One iteration, on the statuses alone. -/
def following (statuses : Nat → ChargePointStatus) (c : Nat) : ChargePointStatus :=
  statusOf (s.ready c) (Admits cp.arith (s.whole cp) (s.total cp statuses) (s.cap cp c))

/-- The statuses the `n`-th iteration polls. -/
def orbit (statuses : Nat → ChargePointStatus) (n : Nat) : Nat → ChargePointStatus := (s.following cp)^[n] statuses

end

/-! ## The statuses alone -/

variable {s : Surroundings} {cp : SimulatedChargePoint} {statuses : Nat → ChargePointStatus} {c : Nat}

theorem statusOf_inj {ready : Bool} {p q : Prop} [Decidable p] [Decidable q] :
    statusOf ready p = statusOf ready q ↔ (p ↔ q) := by
  unfold statusOf
  by_cases hp : p <;> by_cases hq : q <;> cases ready <;> simp [hp, hq]

theorem statusOf_charging {ready : Bool} {p : Prop} [Decidable p] : statusOf ready p = .charging ↔ ready = true ∧ p := by
  unfold statusOf
  by_cases hp : p <;> cases ready <;> simp [hp]

theorem inSession_statusOf (ready : Bool) (p : Prop) [Decidable p] : (statusOf ready p).inSession = true := by
  unfold statusOf
  by_cases hp : p <;> cases ready <;> simp only [hp, if_true, if_false] <;> decide

theorem orbit_succ (n : Nat) : s.orbit cp statuses (n + 1) = s.following cp (s.orbit cp statuses n) :=
  Function.iterate_succ_apply' _ _ _

theorem inSession_orbit (h : ∀ c ∈ cp.ids, (statuses c).inSession = true) (n : Nat) (hc : c ∈ cp.ids) :
    (s.orbit cp statuses n c).inSession = true := by
  cases n with
  | zero => exact h c hc
  | succ n =>
    rw [orbit_succ]
    exact inSession_statusOf _ _

theorem total_statusOf (x : ℚ) :
    s.total cp (fun c => statusOf (s.ready c) (Admits cp.arith (s.whole cp) x (s.cap cp c))) = s.demand cp x := by
  unfold total demand draw
  refine congrArg cp.arith.sum (List.map_congr_left (fun c _ => ?_))
  simp only [statusOf_charging]
  by_cases ha : Admits cp.arith (s.whole cp) x (s.cap cp c)
  · by_cases hr : s.ready c = true <;> simp [ha, hr]
  · simp [ha]

theorem total_following : s.total cp (s.following cp statuses) = s.demand cp (s.total cp statuses) := total_statusOf _

/-- The connectors that get a setpoint at the total `x`. -/
def on (s : Surroundings) (cp : SimulatedChargePoint) (x : ℚ) : Set Nat :=
  {c | c ∈ cp.ids ∧ Admits cp.arith (s.whole cp) x (s.cap cp c)}

open Classical in
/-- What connectors that get a setpoint would draw. -/
noncomputable def level (s : Surroundings) (cp : SimulatedChargePoint) (a : Set Nat) : ℚ :=
  cp.arith.sum (cp.ids.map (fun c => if c ∈ a then s.draw cp c else 0))

theorem draw_nonneg (c : Nat) : 0 ≤ s.draw cp c := by
  unfold draw
  split
  · rename_i h
    exact le_of_lt h.2
  · exact le_refl 0

theorem on_antitone (h₀ : 0 ≤ s.whole cp) (hcap : ∀ c ∈ cp.ids, cp.arith.Holds (s.cap cp c)) : Antitone (s.on cp) :=
  fun _ _ hle c hc => ⟨hc.1, hc.2.anti h₀ (hcap c hc.1) hle⟩

theorem level_monotone : Monotone (s.level cp) := by
  classical
  intro a b hab
  refine cp.arith.sum_mono (List.forall₂_map_left_iff.2 (List.forall₂_map_right_iff.2 (List.forall₂_same.2 (fun c _ => ?_))))
  by_cases ha : c ∈ a
  · rw [if_pos ha, if_pos (hab ha)]
  · rw [if_neg ha]
    split
    · exact draw_nonneg c
    · exact le_refl 0

theorem next_eq_demand (x : ℚ) : next (s.on cp) (s.level cp) x = s.demand cp x := by
  unfold next level demand
  refine congrArg cp.arith.sum (List.map_congr_left (fun c hc => ?_))
  have hiff : c ∈ s.on cp x ↔ Admits cp.arith (s.whole cp) x (s.cap cp c) := ⟨fun h => h.2, fun h => ⟨hc, h⟩⟩
  by_cases ha : Admits cp.arith (s.whole cp) x (s.cap cp c)
  · rw [if_pos (hiff.2 ha), if_pos ha]
  · rw [if_neg (fun h => ha (hiff.1 h)), if_neg ha]

theorem total_orbit (n : Nat) :
    s.total cp (s.orbit cp statuses n) = (next (s.on cp) (s.level cp))^[n] (s.total cp statuses) := by
  induction n with
  | zero => rfl
  | succ n ih => rw [orbit_succ, total_following, ih, Function.iterate_succ_apply', next_eq_demand]

theorem on_eq_iff {x y : ℚ} : s.on cp x = s.on cp y ↔
    ∀ c ∈ cp.ids, Admits cp.arith (s.whole cp) x (s.cap cp c) ↔ Admits cp.arith (s.whole cp) y (s.cap cp c) := by
  constructor
  · intro h c hc
    have hx : c ∈ s.on cp x ↔ c ∈ s.on cp y := by rw [h]
    exact ⟨fun ha => (hx.1 ⟨hc, ha⟩).2, fun ha => (hx.2 ⟨hc, ha⟩).2⟩
  · exact fun h => Set.ext (fun c => ⟨fun hc => ⟨hc.1, (h c hc.1).1 hc.2⟩, fun hc => ⟨hc.1, (h c hc.1).2 hc.2⟩⟩)

/-- The status of a later iteration. -/
theorem orbit_succ_apply (n : Nat) (c : Nat) : s.orbit cp statuses (n + 1) c =
    statusOf (s.ready c) (Admits cp.arith (s.whole cp) (s.total cp (s.orbit cp statuses n)) (s.cap cp c)) := by
  rw [orbit_succ]
  rfl

/-- **Once the total settles, so do the statuses**, and none comes back to what it was first. -/
theorem Settles.not_returns (h : s.Settles cp statuses) (hc : c ∈ cp.ids) (n : Nat) :
    ¬Returns (trail (fun n => s.orbit cp statuses n c) n) := by
  obtain ⟨hs, hfirst⟩ := h
  have h₁ : s.total cp (s.orbit cp statuses 1) = s.demand cp (s.total cp statuses) := total_following
  refine not_returns_of_settled (fun n => ?_) (fun h₀ => ?_) n
  · have hnext : s.on cp (next (s.on cp) (s.level cp) (s.demand cp (s.total cp statuses))) =
        s.on cp (s.demand cp (s.total cp statuses)) := by
      rw [next_eq_demand]
      exact on_eq_iff.2 hs
    have hon := settled hnext n
    have ht : s.total cp (s.orbit cp statuses (n + 1)) = (next (s.on cp) (s.level cp))^[n] (s.demand cp (s.total cp statuses)) := by
      rw [total_orbit, Function.iterate_succ_apply, next_eq_demand]
    rw [orbit_succ_apply, orbit_succ_apply 1, statusOf_inj, ht, h₁]
    exact on_eq_iff.1 hon c hc
  · rw [orbit_succ_apply 1, h₁] at h₀
    rw [orbit_succ_apply 0]
    refine Eq.trans (statusOf_inj.2 ?_) h₀.symm
    exact (hfirst c hc h₀).symm

/-- **If the total does not settle at once, some connector is back in a status it has left by the fourth poll.** -/
theorem exists_returns (h₀ : 0 ≤ s.whole cp) (hcap : ∀ c ∈ cp.ids, cp.arith.Holds (s.cap cp c))
    (h : ¬s.Settles cp statuses) {n : Nat} (hn : 4 ≤ n) :
    ∃ c ∈ cp.ids, Returns (trail (fun n => s.orbit cp statuses n c) n) := by
  have h₁ : s.total cp (s.orbit cp statuses 1) = s.demand cp (s.total cp statuses) := total_following
  have h₂ : s.total cp (s.orbit cp statuses 2) = s.demand cp (s.demand cp (s.total cp statuses)) := by
    rw [orbit_succ 1, total_following, h₁]
  by_cases hs : s.on cp (s.demand cp (s.demand cp (s.total cp statuses))) = s.on cp (s.demand cp (s.total cp statuses))
  · -- the total settles, so some connector has its first status again in the third poll
    have hf : ¬∀ c ∈ cp.ids,
        statuses c = statusOf (s.ready c) (Admits cp.arith (s.whole cp) (s.demand cp (s.total cp statuses)) (s.cap cp c)) →
          (Admits cp.arith (s.whole cp) (s.demand cp (s.total cp statuses)) (s.cap cp c) ↔
            Admits cp.arith (s.whole cp) (s.total cp statuses) (s.cap cp c)) := fun hf => h ⟨on_eq_iff.1 hs, hf⟩
    simp only [not_forall] at hf
    obtain ⟨c, hc, h₀, hne⟩ := hf
    refine ⟨c, hc, (returns_trail_iff _ _).2 ⟨2, by omega, 1, by omega, 0, by omega, ?_, fun he => ?_⟩⟩
    · rw [orbit_succ_apply 1, h₁]
      exact h₀
    · rw [orbit_succ_apply 0] at he
      exact hne (statusOf_inj.1 (h₀.symm.trans he.symm))
  · obtain ⟨c, hsame, hne⟩ := exists_return (x := s.total cp statuses) (on_antitone h₀ hcap) (@level_monotone s cp)
      (by rw [next_eq_demand, next_eq_demand]; exact hs)
    rw [next_eq_demand, next_eq_demand] at hsame
    rw [next_eq_demand] at hne
    have hc : c ∈ cp.ids := by
      by_contra hc
      exact hne ⟨fun h => absurd h.1 hc, fun h => absurd h.1 hc⟩
    have hon : ∀ x, c ∈ s.on cp x ↔ Admits cp.arith (s.whole cp) x (s.cap cp c) := fun x => ⟨fun h => h.2, fun h => ⟨hc, h⟩⟩
    rw [hon, hon] at hsame hne
    refine ⟨c, hc, (returns_trail_iff _ _).2 ⟨3, by omega, 2, by omega, 1, by omega, ?_, fun he => hne ?_⟩⟩
    · rw [orbit_succ_apply 0, orbit_succ_apply 2, h₂]
      exact statusOf_inj.2 hsame
    · rw [orbit_succ_apply 0, orbit_succ_apply 1, h₁] at he
      exact statusOf_inj.1 he

end Surroundings

/-! ## What is known of a connector -/

variable {s : Surroundings} {cp : SimulatedChargePoint} {c : Nat} {x y : ChargePointStatus} {l : List ChargePointStatus}
  {R : ConnectorData → Prop}

/-- The stack has the connector in status `x`, it was polled with the statuses `l`, and its cable is the constant one. -/
structure Known (s : Surroundings) (cp : SimulatedChargePoint) (c : Nat) (x : ChargePointStatus)
    (l : List ChargePointStatus) (d : ConnectorData) (status : ChargePointStatus) (h : List Entry) : Prop where
  status : status = x
  polled : polledStatuses h = l
  cable : d.carCableCapacity = s.cable c
  rating : d.maxSetpoint = cp.maxConnectorSetpoint

/-- All this is known, and `R` of the record, as long as the surroundings are constant. -/
def Knows (s : Surroundings) (cp : SimulatedChargePoint) (c : Nat) (x : ChargePointStatus) (l : List ChargePointStatus)
    (R : ConnectorData → Prop) (d : ConnectorData) (status : ChargePointStatus) (h : List Entry) : Prop :=
  s.Constant h → Known s cp c x l d status h ∧ R d

abbrev KnowsAt (s : Surroundings) (cp : SimulatedChargePoint) (c : Nat) (x : ChargePointStatus)
    (l : List ChargePointStatus) (R : ConnectorData → Prop) (v : View) : Prop :=
  Knows s cp c x l R v.connector v.status v.history

theorem polledStatuses_cons {e : Entry} (he : e.polledStatus = none) (h : List Entry) :
    polledStatuses (e :: h) = polledStatuses h := by
  unfold polledStatuses
  rw [List.filterMap_cons_none he]

theorem polledStatuses_polled (c : Nat) (z : ChargePointStatus) (h : List Entry) :
    polledStatuses (.getConnectorStatus c z :: h) = polledStatuses h ++ [z] := List.reverse_cons

theorem Surroundings.Constant.tail {e : Entry} {h : List Entry} (hc : s.Constant (e :: h)) : s.Constant h :=
  fun e' he => hc e' (List.mem_cons_of_mem e he)

theorem lasting_inconstant (s : Surroundings) : Lasting (fun h => ¬s.Constant h) := fun _ _ h hc => h hc.tail

namespace Knows

variable {d : ConnectorData} {h : List Entry} {z : ChargePointStatus}

theorem note {e : Entry} (he : e.polledStatus = none) (hk : Knows s cp c x l R d z h) :
    Knows s cp c x l R d z (e :: h) := by
  intro hc
  obtain ⟨hd, hr⟩ := hk hc.tail
  exact ⟨⟨hd.status, (polledStatuses_cons he h).trans hd.polled, hd.cable, hd.rating⟩, hr⟩

/-- What an entry of constant surroundings tells. -/
theorem told {S : ConnectorData → Prop} {e : Entry} (he : e.polledStatus = none)
    (hS : e.constant s = true → R d → S d) (hk : Knows s cp c x l R d z h) : Knows s cp c x l S d z (e :: h) := by
  intro hc
  obtain ⟨hd, hr⟩ := hk.note he hc
  exact ⟨hd, hS (hc e List.mem_cons_self) hr⟩

theorem own {S : ConnectorData → Prop} {f : ConnectorData} (h₁ : f.carCableCapacity = d.carCableCapacity)
    (h₂ : f.maxSetpoint = d.maxSetpoint) (h₃ : R d → S f) (hk : Knows s cp c x l R d z h) : Knows s cp c x l S f z h := by
  intro hc
  obtain ⟨hd, hr⟩ := hk hc
  exact ⟨⟨hd.status, hd.polled, h₁.trans hd.cable, h₂.trans hd.rating⟩, h₃ hr⟩

theorem closed (hR : Unassigned R) : Closed c (KnowsAt s cp c x l R) := by
  intro v v' he hk
  cases he with
  | availability a =>
    have hr := hR v.connector v.connector.idTag v.connector.parentIdTag v.connector.preparingStart
      (changeAvailability c v.connector a).2
    exact note rfl (own (d := v.connector) rfl rfl hr hk)
  | moved a => exact fun hc => absurd (hc _ List.mem_cons_self) Bool.false_ne_true
  | _ => exact note rfl hk

theorem notified (hR : Unassigned R) (y : ChargePointStatus) :
    SpecAt c (KnowsAt s cp c x l R) (statusNotification cp c y) (fun _ => KnowsAt s cp c y l R) := by
  refine statusNotification_at (closed hR) (fun v hk hc => ?_)
  obtain ⟨hd, hr⟩ := hk.note (e := .statusNotification c y) rfl hc
  exact ⟨⟨rfl, hd.polled, hd.cable, hd.rating⟩, hr⟩

/-- **A pass may be followed for a record of which all this is known**: where the surroundings are not constant they
never will be. -/
theorem given {α : Type} {m : M α} {S : α → View → Prop}
    (hm : SpecAt c (fun v => ¬s.Constant v.history) m (fun _ v => ¬s.Constant v.history))
    (h : ∀ d, d.carCableCapacity = s.cable c → R d →
      SpecAt c (fun v => KnowsAt s cp c x l R v ∧ v.connector = d) m (fun a v => s.Constant v.history → S a v)) :
    SpecAt c (KnowsAt s cp c x l R) m (fun a v => s.Constant v.history → S a v) := by
  intro w script hk
  by_cases hc : s.Constant (w.view c).history
  · obtain ⟨hd, hr⟩ := hk hc
    exact h _ hd.cable hr w script ⟨hk, rfl⟩
  · exact fun hc' => absurd hc' (hm w script hc)

end Knows

theorem updateConnectorStatus_knows :
    SpecAt c (KnowsAt s cp c x l (fun _ => True)) (updateConnectorStatus cp c)
      (fun _ => KnowsAt s cp c x (l ++ [x]) (fun d => d.status = x)) := by
  refine SpecOn.bind (R := fun z => KnowsAt s cp c x (l ++ [x]) (fun _ => z = x))
    (getConnectorStatus_at (Knows.closed (fun _ _ _ _ _ h => h)) (fun v hk hc => ?_)) (fun z => ?_)
  · obtain ⟨hd, -⟩ := hk hc.tail
    refine ⟨⟨hd.status, ?_, hd.cable, hd.rating⟩, hd.status⟩
    rw [View.history_note, polledStatuses_polled, hd.polled, hd.status]
  have entryFree : EntryFree c (KnowsAt s cp c x (l ++ [x]) (fun _ => z = x)) :=
    { env := Knows.closed (fun _ _ _ _ _ h => h), cleared := fun v hk => Knows.own (d := v.connector) rfl rfl id hk
      badge := fun _ hk => hk.note rfl, timed := fun v _ hk => Knows.own (d := v.connector) rfl rfl id hk }
  refine ownData_at (fun v _ => SpecOn.ite (fun _ => SpecOn.pre (fun _ h => h.1) ?_) (fun he => ?_))
  · refine SpecOn.keep (record_at rfl (fun _ hk => hk.note rfl)) (fun _ => ?_)
    exact entering_at entryFree (fun v hk => Knows.own (d := v.connector) rfl rfl id hk)
  · refine SpecOn.pure _ (fun v' hk => Knows.own (d := v'.connector) rfl rfl (fun hz => ?_) hk.1)
    rw [hk.2, ← hz]
    exact (Decidable.of_not_not he).symm

/-! ## The setpoints -/

/-- What is known of every connector, as long as the surroundings are constant. -/
def AllKnow (s : Surroundings) (cp : SimulatedChargePoint) (P : Nat → View → Prop) (w : World) : Prop :=
  (∀ c ∈ cp.ids, s.Constant (w.history c)) → ∀ c ∈ cp.ids, P c (w.view c)

section AllKnow

variable {P Q : Nat → View → Prop}

/-- Connectors side by side: where the surroundings of one are not constant, they never will be. -/
theorem AllKnow.lift {α : Type} {m : M α} {Q : α → Nat → View → Prop}
    (hm : ∀ c ∈ cp.ids, SpecAt c (fun v => ¬s.Constant v.history) m (fun _ v => ¬s.Constant v.history))
    (h : ∀ c ∈ cp.ids, SpecAt c (fun v => s.Constant v.history → P c v) m (fun a v => s.Constant v.history → Q a c v)) :
    Spec (AllKnow s cp P) m (fun a => AllKnow s cp (Q a)) := by
  intro w script hw hconst c hc
  have hbefore : ∀ d ∈ cp.ids, s.Constant (w.history d) := by
    intro d hd
    by_contra hn
    exact hm d hd w script hn (hconst d hd)
  exact h c hc w script (fun _ => hw hbefore c hc) (hconst c hc)

theorem AllKnow.tick (hP : ∀ c, Closed c (fun v => s.Constant v.history → P c v)) (t : Tick) {w : World}
    (hw : AllKnow s cp P w) : AllKnow s cp P (w.tick cp t) := by
  intro hconst c hc
  have hbefore : ∀ d ∈ cp.ids, s.Constant (w.history d) := by
    intro d hd
    by_contra hn
    exact (lasting_inconstant s).steady.env.tick cp t w hn (hconst d hd)
  exact (hP c).tick cp t w (fun _ => hw hbefore c hc) (hconst c hc)

theorem allKnow_setOwn {d : Nat} {f : ConnectorData → ConnectorData} (own : ∀ v, P d v → Q d (v.setOwn f))
    (other : ∀ c v, c ≠ d → P c v → Q c v) : Spec (AllKnow s cp P) (setOwn d f) (fun _ => AllKnow s cp Q) := by
  refine Spec.update (fun w hw hconst c hc => ?_)
  by_cases hd : d = c
  · subst hd
    rw [view_setConnector]
    exact own _ (hw hconst d hc)
  · rw [view_setConnector_of_ne hd]
    exact other c _ (Ne.symm hd) (hw hconst c hc)

/-- Constant surroundings have one answer. -/
theorem allKnow_getSetpoint (hP : ∀ c, Closed c (fun v => s.Constant v.history → P c v)) {d : Nat} (hd : d ∈ cp.ids)
    (hn : ∀ v e, P d v → e.polledStatus = none → P d (v.note e)) (unit : ChargingRateUnitType) :
    Spec (AllKnow s cp P) (getSetpoint cp d unit) (fun r => AllKnow s cp (fun c v => r = s.limits d ∧ P c v)) := by
  unfold getSetpoint ask
  refine Spec.call (fun t w hw => AllKnow.tick hP t hw) (fun t w hw hconst c hc => ?_)
  have hself : (w.note (.getSetpoint d unit t.getSetpoint)).history d = .getSetpoint d unit t.getSetpoint :: w.history d := by
    rw [history_note]
    exact if_pos rfl
  have hanswer : t.getSetpoint = s.limits d := by
    have he := hconst d hd
    rw [hself] at he
    exact of_decide_eq_true (he _ List.mem_cons_self)
  have hbefore : ∀ c ∈ cp.ids, s.Constant (w.history c) := by
    intro c hc
    have hh := hconst c hc
    rw [history_note] at hh
    split at hh
    · exact hh.tail
    · exact hh
  refine ⟨hanswer, ?_⟩
  by_cases hdc : d = c
  · subst hdc
    rw [view_note_of_about rfl]
    exact hn _ _ (hw hbefore d hc) rfl
  · rw [view_note_of_about_ne rfl hdc]
    exact hw hbefore c hc

end AllKnow

variable {statuses : Nat → ChargePointStatus} {polls : Nat → List ChargePointStatus}

/-- The record while the limits are asked for: the connectors `seen` have been, and `now` is being. -/
structure Limited (s : Surroundings) (cp : SimulatedChargePoint) (x : ChargePointStatus) (c : Nat) (seen : List Nat)
    (now : Option Nat) (whole : ℚ) (d : ConnectorData) : Prop where
  status : d.status = x
  whole : whole = s.wholeOf cp seen
  asked : c ∈ seen → now ≠ some c → d.ocppSetpoint = limitOn cp.maxConnectorSetpoint (s.limits c)
  asking : now = some c → d.ocppSetpoint = cp.maxConnectorSetpoint

def AllLimited (s : Surroundings) (cp : SimulatedChargePoint) (statuses : Nat → ChargePointStatus)
    (polls : Nat → List ChargePointStatus) (seen : List Nat) (now : Option Nat) (whole : ℚ) (c : Nat) (v : View) : Prop :=
  Known s cp c (statuses c) (polls c) v.connector v.status v.history ∧
    Limited s cp (statuses c) c seen now whole v.connector

theorem allLimited_closed (seen : List Nat) (now : Option Nat) (whole : ℚ) (c : Nat) :
    Closed c (fun v => s.Constant v.history → AllLimited s cp statuses polls seen now whole c v) :=
  Knows.closed (R := Limited s cp (statuses c) c seen now whole) (fun _ _ _ _ _ h => ⟨h.status, h.whole, h.asked, h.asking⟩)

theorem AllLimited.note {seen : List Nat} {now : Option Nat} {whole : ℚ} {v : View} {e : Entry} (he : e.polledStatus = none)
    (h : AllLimited s cp statuses polls seen now whole c v) : AllLimited s cp statuses polls seen now whole c (v.note e) :=
  ⟨⟨h.1.status, (polledStatuses_cons he _).trans h.1.polled, h.1.cable, h.1.rating⟩, h.2⟩

theorem wholeOf_append (seen : List Nat) (d : Nat) :
    s.wholeOf cp (seen ++ [d]) = lessen (s.wholeOf cp seen) (s.limits d) := by
  unfold Surroundings.wholeOf
  rw [List.foldl_append]
  rfl

/-- What the answer makes of the record, whose limit was set to its rating before. -/
theorem apply_limitOn {d : ConnectorData} {max : ℚ} (h₁ : d.maxSetpoint = max) (h₂ : d.ocppSetpoint = max) (x y : Option ℚ) :
    (match y with
      | some v => if v < d.maxSetpoint then { d with ocppSetpoint := v } else d
      | none => d) = { d with ocppSetpoint := limitOn max (some (x, y)) } := by
  have hself : d = { d with ocppSetpoint := max } := by rw [← h₂]
  unfold limitOn
  cases y with
  | none => exact hself
  | some v =>
    dsimp only
    by_cases hv : v < max
    · rw [if_pos hv, if_pos (h₁.symm ▸ hv)]
    · rw [if_neg hv, if_neg (h₁.symm ▸ hv)]
      exact hself

theorem AllLimited.mid {seen : List Nat} {whole : ℚ} {c d : Nat} {v : View} (hc : c ≠ d)
    (h : AllLimited s cp statuses polls seen none whole c v) : AllLimited s cp statuses polls seen (some d) whole c v :=
  ⟨h.1, h.2.status, h.2.whole, fun hs _ => h.2.asked hs (by simp), fun he => absurd (Option.some.inj he).symm hc⟩

/-- What the answer for one connector comes to for another. -/
theorem AllLimited.asked {seen : List Nat} {whole a : ℚ} {c d : Nat} {v : View} {r : Option (Option ℚ × Option ℚ)}
    (hr : r = s.limits d) (ha : a = lessen whole r) (hc : c ≠ d)
    (h : AllLimited s cp statuses polls seen (some d) whole c v) :
    AllLimited s cp statuses polls (seen ++ [d]) none a c v := by
  refine ⟨h.1, h.2.status, by rw [ha, hr, h.2.whole, wholeOf_append], fun hs _ => ?_, fun he => by cases he⟩
  have hs' : c ∈ seen := (List.mem_append.1 hs).resolve_right (fun h => hc (List.mem_singleton.1 h))
  exact h.2.asked hs' (fun he => hc (Option.some.inj he).symm)

theorem AllLimited.asking {seen : List Nat} {whole a o : ℚ} {d : Nat} {v : View} {r : Option (Option ℚ × Option ℚ)}
    (hr : r = s.limits d) (ha : a = lessen whole r) (ho : o = limitOn cp.maxConnectorSetpoint r)
    (h : AllLimited s cp statuses polls seen (some d) whole d v) :
    AllLimited s cp statuses polls (seen ++ [d]) none a d (v.setOwn ({ · with ocppSetpoint := o })) := by
  refine ⟨⟨h.1.status, h.1.polled, h.1.cable, h.1.rating⟩, h.2.status, by rw [ha, hr, h.2.whole, wholeOf_append],
    fun _ _ => ?_, fun he => by cases he⟩
  rw [← hr]
  exact ho

theorem connectorSetpoint_allLimited (seen : List Nat) (whole : ℚ) {d : Nat} (hd : d ∈ cp.ids) :
    Spec (AllKnow s cp (AllLimited s cp statuses polls seen none whole)) (connectorSetpoint cp whole d)
      (fun a => AllKnow s cp (AllLimited s cp statuses polls (seen ++ [d]) none a)) := by
  refine Spec.bind (R := fun _ => AllKnow s cp (AllLimited s cp statuses polls seen (some d) whole))
    (allKnow_setOwn (fun v h => ?_) (fun c v hc h => h.mid hc)) (fun _ => ?_)
  · refine ⟨⟨h.1.status, h.1.polled, h.1.cable, h.1.rating⟩, h.2.status, h.2.whole, fun _ hn => absurd rfl hn, fun _ => h.1.rating⟩
  refine Spec.bind (Spec.read (Q := fun _ => AllKnow s cp (AllLimited s cp statuses polls seen (some d) whole)) (fun _ h => h))
    (fun unit => ?_)
  refine Spec.bind (allKnow_getSetpoint (allLimited_closed seen (some d) whole) hd (fun v e h he => h.note he) unit) (fun r => ?_)
  rcases r with _ | ⟨x, y⟩
  · refine Spec.pure _ (fun w hw hconst c hc => ?_)
    obtain ⟨hr, h⟩ := hw hconst c hc
    by_cases hcd : c = d
    · subst hcd
      have hv := h.asking hr rfl (h.2.asking rfl)
      exact hv
    · exact h.asked hr rfl hcd
  · refine Spec.bind (R := fun _ => AllKnow s cp (AllLimited s cp statuses polls (seen ++ [d]) none (lessen whole (some (x, y)))))
      (allKnow_setOwn (fun v h => ?_) (fun c v hc h => h.2.asked h.1 rfl hc)) (fun _ => Spec.pure _ (fun w hw => ?_))
    · obtain ⟨hr, h⟩ := h
      convert h.asking hr rfl rfl using 1
      exact congrArg (fun d => { v with connector := d }) (apply_limitOn h.1.rating (h.2.asking rfl) x y)
    · cases x with
      | none => exact hw
      | some v =>
        dsimp only
        rw [ite_lt_eq_lessen v whole y]
        exact hw

/-! ## Sharing out -/

theorem view_shareOut (whole : ℚ) (w : World) (c : Nat) : (w.shareOut cp whole).view c =
    (w.view c).setOwn (·.setSetpoint (share cp.arith whole (demandOf cp w.connectors) (w.connectors c).cap)) := by
  have hh : (w.shareOut cp whole).history c = w.history c := by
    unfold World.history World.shareOut
    dsimp only
    split
    · rfl
    · rfl
  show View.mk _ _ _ _ _ _ _ ((w.shareOut cp whole).history c) = _
  rw [hh]
  rfl

theorem demandOf_eq {connectors : Nat → ConnectorData}
    (h : ∀ c ∈ cp.ids, (connectors c).status = statuses c ∧ (connectors c).cap = s.cap cp c) :
    demandOf cp connectors = s.total cp statuses := by
  unfold demandOf Surroundings.total
  rw [totalConnectors_eq_sum]
  refine congrArg cp.arith.sum (List.map_congr_left (fun c hc => ?_))
  obtain ⟨hs, hcap⟩ := h c hc
  have hs' : (connectors c).limitToCable.status = statuses c := hs
  unfold ConnectorData.drawn
  rw [ConnectorData.setpoint_limitToCable, hcap]
  simp only [hs']

/-- The record of a connector with its setpoint. -/
structure Shared (s : Surroundings) (cp : SimulatedChargePoint) (statuses : Nat → ChargePointStatus) (c : Nat)
    (d : ConnectorData) : Prop where
  status : d.status = statuses c
  setpoint : d.setpoint = share cp.arith (s.whole cp) (s.total cp statuses) (s.cap cp c)

/-- **Under constant surroundings the setpoints follow from the statuses.** -/
theorem computeSetpoints_shared :
    Spec (AllKnow s cp (fun c v => Known s cp c (statuses c) (polls c) v.connector v.status v.history ∧
      v.connector.status = statuses c)) (computeSetpoints cp)
    (fun _ => AllKnow s cp (fun c v => Known s cp c (statuses c) (polls c) v.connector v.status v.history ∧
      Shared s cp statuses c v.connector)) := by
  rw [computeSetpoints_eq]
  refine Spec.bind (R := fun a => AllKnow s cp (AllLimited s cp statuses polls cp.ids none a)) ?_ (fun whole => ?_)
  · refine Spec.pre (fun w hw hconst c hc => ?_) (Spec.foldlM_seen (I := fun seen a =>
      AllKnow s cp (AllLimited s cp statuses polls seen none a)) (fun seen a d hd => connectorSetpoint_allLimited seen a hd) [] _)
    obtain ⟨hk, hs⟩ := hw hconst c hc
    exact ⟨hk, ⟨hs, rfl, fun hm => absurd hm List.not_mem_nil, fun hn => nomatch hn⟩⟩
  · refine Spec.update (fun w hw hconst c hc => ?_)
    have hbefore : ∀ c ∈ cp.ids, s.Constant (w.history c) := by
      intro c hc
      have hh : s.Constant ((w.shareOut cp whole).view c).history := hconst c hc
      rwa [view_shareOut] at hh
    have hw' := hw hbefore
    have hcap : ∀ c ∈ cp.ids, (w.connectors c).status = statuses c ∧ (w.connectors c).cap = s.cap cp c := by
      intro c hc
      obtain ⟨hk, hl⟩ := hw' c hc
      have ho : (w.connectors c).ocppSetpoint = _ := hl.asked hc (by simp)
      have hcable : (w.connectors c).carCableCapacity = s.cable c := hk.cable
      refine ⟨hl.status, ?_⟩
      unfold ConnectorData.cap Surroundings.cap
      rw [ho, hcable]
    obtain ⟨hk, hl⟩ := hw' c hc
    have hwhole : whole = s.whole cp := hl.whole
    rw [view_shareOut]
    refine ⟨⟨hk.status, hk.polled, hk.cable, hk.rating⟩, hl.status, ?_⟩
    show (share cp.arith whole (demandOf cp w.connectors) (w.connectors c).cap : ℚ) = _
    rw [demandOf_eq hcap, (hcap c hc).2, hwhole]

/-! ## The pass of a connector -/

/-- The record in a pass: its status, its setpoint, and a car of constant surroundings. -/
structure Loaded (s : Surroundings) (c : Nat) (x : ChargePointStatus) (setpoint : ℚ) (d : ConnectorData) : Prop where
  status : d.status = x
  setpoint : d.setpoint = setpoint
  ready : d.carReady = s.ready c
  fault : d.faultPending = false

theorem loaded_unassigned {setpoint : ℚ} : Unassigned (Loaded s c x setpoint) := fun _ _ _ _ _ h =>
  ⟨h.status, h.setpoint, h.ready, h.fault⟩

theorem copyData_loaded {setpoint : ℚ} {v : View}
    (hk : KnowsAt s cp c x l (fun d => d.status = x ∧ d.setpoint = setpoint) v) :
    KnowsAt s cp c x l (Loaded s c x setpoint) (v.copyData c) := by
  intro hc
  obtain ⟨hd, hx, hsp⟩ := hk hc.tail
  obtain ⟨hcable, hready, hfault⟩ := of_decide_eq_true (hc _ List.mem_cons_self)
  exact ⟨⟨hd.status, (polledStatuses_cons rfl _).trans hd.polled, hcable, hd.rating⟩, hx, hsp, hready, hfault⟩

/-- **With nothing pending and the cable plugged, no stop condition is met.** -/
theorem isTransactionStopCondition_knows {setpoint : ℚ} (hcable : s.cable c ≠ 0) :
    SpecAt c (KnowsAt s cp c x l (Loaded s c x setpoint)) (isTransactionStopCondition cp c)
      (fun r => KnowsAt s cp c x l (fun d => r = false ∧ Loaded s c x setpoint d)) := by
  have hu : ∀ p : Prop, Unassigned (fun d => p ∧ Loaded s c x setpoint d) := fun _ _ _ _ _ _ h =>
    ⟨h.1, loaded_unassigned _ _ _ _ _ h.2⟩
  have env : ∀ p : Prop, Closed c (KnowsAt s cp c x l (fun d => p ∧ Loaded s c x setpoint d)) := fun p => Knows.closed (hu p)
  have stopped : ∀ idTag reason, SpecAt c (KnowsAt s cp c x l (fun d => true = false ∧ Loaded s c x setpoint d))
      (do stopTransaction cp c idTag reason; pure true) (fun r => KnowsAt s cp c x l (fun d => r = false ∧ Loaded s c x setpoint d)) :=
    fun idTag reason => SpecOn.keep (stopTransaction_at (env _) (fun _ hk => hk.note rfl)) (fun _ => SpecOn.pure _ (fun _ h => h))
  refine SpecOn.bind (R := fun b => KnowsAt s cp c x l (fun d => b = false ∧ Loaded s c x setpoint d))
    (isIdTagPending_at (Knows.closed loaded_unassigned) (fun v hk => hk.told rfl (fun hb hd => ⟨by simpa [Entry.constant] using hb, hd⟩)))
    (fun b => ?_)
  cases b with
  | true =>
    refine SpecOn.keep (pendingIdTag_at (env _) (fun _ hk => hk.note rfl)) (fun tag => ?_)
    refine SpecOn.keep (authorize_at (env _) (fun _ _ hk => hk.note rfl)) (fun r => ?_)
    refine SpecOn.keep (resetIdTagPending_at (env _) (fun _ hk => hk.note rfl)) (fun _ => ?_)
    refine SpecOn.ite (fun _ => stopped _ _) (fun _ => SpecOn.pure _ (fun v hk hc => ?_))
    exact absurd (hk hc).2.1 Bool.noConfusion
  | false =>
    refine SpecOn.bind (R := fun b => KnowsAt s cp c x l (fun d => b = false ∧ Loaded s c x setpoint d))
      (isRemoteStopPending_at (env _) (fun v hk => hk.told rfl (fun hb hd => ⟨by simpa [Entry.constant] using hb, hd.2⟩)))
      (fun b => ?_)
    cases b with
    | true =>
      exact SpecOn.keep (resetRemoteStopPending_at (env _) (fun _ hk => hk.note rfl)) (fun _ => stopped _ _)
    | false =>
      refine ownData_at (fun v _ => SpecOn.ite (fun h₀ => SpecOn.pre (fun v' hk hc => ?_) (stopped _ _)) (fun _ =>
        SpecOn.ite (fun h₁ => SpecOn.pre (fun v' hk hc => ?_) (stopped _ _)) (fun _ => SpecOn.pure _ (fun _ hk => hk.1))))
      · obtain ⟨hd, -⟩ := hk.1 hc
        rw [← hk.2, hd.cable] at h₀
        exact absurd h₀ hcable
      · obtain ⟨-, -, hd⟩ := hk.1 hc
        rw [← hk.2, hd.fault] at h₁
        cases h₁

/-- **A pass moves the stack to the status the setpoint calls for.** -/
theorem nextStatus_knows {setpoint : ℚ} (hcable : s.cable c ≠ 0) (hx : x.inSession = true) {p : Prop} [Decidable p]
    (hp : setpoint ≠ 0 ↔ p) :
    SpecAt c (KnowsAt s cp c x l (Loaded s c x setpoint)) (nextStatus cp c)
      (fun _ => KnowsAt s cp c (statusOf (s.ready c) p) l (fun _ => True)) := by
  refine Knows.given (lasting_inconstant s).nextStatus (fun d hd hr => ?_)
  have notified : ∀ (b : Bool) (z : ChargePointStatus), z = statusOf (s.ready c) p ∨ b = true →
      SpecAt c (KnowsAt s cp c x l (fun d => b = false ∧ Loaded s c x setpoint d)) (statusNotification cp c z)
        (fun _ => KnowsAt s cp c (statusOf (s.ready c) p) l (fun _ => True)) := by
    intro b z hz
    refine SpecOn.post (Knows.notified (fun _ _ _ _ _ h => ⟨h.1, loaded_unassigned _ _ _ _ _ h.2⟩) z) (fun _ v hk hc => ?_)
    obtain ⟨hd, hb, -⟩ := hk hc
    rcases hz with rfl | rfl
    · exact ⟨hd, trivial⟩
    · cases hb
  have stay : ∀ b : Bool, x = statusOf (s.ready c) p → SpecAt c (KnowsAt s cp c x l (fun d => b = false ∧ Loaded s c x setpoint d))
      (pure () : M Unit) (fun _ => KnowsAt s cp c (statusOf (s.ready c) p) l (fun _ => True)) := fun b hs =>
    SpecOn.pure _ (fun v hk hc => hs ▸ ⟨(hk hc).1, trivial⟩)
  have evse : d.setpoint = 0 → ChargePointStatus.suspendedEVSE = statusOf (s.ready c) p := fun h => by
    have hn : ¬p := fun h' => hp.2 h' (hr.setpoint ▸ h)
    rw [statusOf, if_neg hn]
  have ev : d.setpoint ≠ 0 → d.carReady = false → ChargePointStatus.suspendedEV = statusOf (s.ready c) p := fun h hf => by
    rw [statusOf, if_pos (hp.1 (hr.setpoint ▸ h)), ← hr.ready, hf]
    rfl
  have charging : d.setpoint ≠ 0 → ¬d.carReady = false → ChargePointStatus.charging = statusOf (s.ready c) p := fun h hf => by
    rw [statusOf, if_pos (hp.1 (hr.setpoint ▸ h)), ← hr.ready, Bool.eq_true_of_not_eq_false hf]
    rfl
  refine ownData_at (fun v hv => SpecOn.pre (fun _ h => h.1.1) ?_)
  rw [hv.2, hr.status]
  cases x with
  | charging =>
    refine SpecOn.bind (isTransactionStopCondition_knows hcable) (fun b => SpecOn.ite (fun hb => notified b _ (.inr hb)) (fun _ => ?_))
    refine SpecOn.ite (fun h => notified b _ (.inl (evse h))) (fun h => SpecOn.ite (fun hf => notified b _ (.inl (ev h hf))) (fun hf => ?_))
    exact stay b (charging h hf)
  | suspendedEVSE =>
    refine SpecOn.bind (isTransactionStopCondition_knows hcable) (fun b => SpecOn.ite (fun hb => notified b _ (.inr hb)) (fun _ => ?_))
    refine SpecOn.ite (fun h => ?_) (fun h => stay b (evse (Decidable.of_not_not h)))
    exact SpecOn.ite (fun hf => notified b _ (.inl (ev h hf))) (fun hf => notified b _ (.inl (charging h hf)))
  | suspendedEV =>
    refine SpecOn.bind (isTransactionStopCondition_knows hcable) (fun b => SpecOn.ite (fun hb => notified b _ (.inr hb)) (fun _ => ?_))
    refine SpecOn.ite (fun h => notified b _ (.inl (evse h))) (fun h => SpecOn.ite (fun hf => ?_) (fun hf => ?_))
    · exact notified b _ (.inl (charging h (by rw [hf]; exact Bool.noConfusion)))
    · exact stay b (ev h (Bool.eq_false_of_not_eq_true hf))
  | available | preparing | finishing | reserved | unavailable | faulted => cases hx

/-! ## A round -/

theorem knows_steady (y : ChargePointStatus) : Steady c (KnowsAt s cp c y l (fun _ => True)) where
  env := Knows.closed (fun _ _ _ _ _ h => h)
  setpoints v _ _ hk := Knows.own (d := v.connector) rfl rfl id hk
  asked _ _ _ hk := hk.note rfl
  metered _ _ hk := hk.note rfl

theorem spend_knows {setpoint : ℚ} (hc : c ∈ cp.ids) (hcable : s.cable c ≠ 0) (hx : x.inSession = true) {p : Prop}
    [Decidable p] (hp : setpoint ≠ 0 ↔ p) :
    SpecAt c (KnowsAt s cp c x l (fun d => d.status = x ∧ d.setpoint = setpoint)) (spend cp)
      (fun _ => KnowsAt s cp c (statusOf (s.ready c) p) l (fun _ => True)) := by
  have env := (@knows_steady s cp c l (statusOf (s.ready c) p)).env
  refine afterSetpoints_at hc (Knows.closed (fun _ _ _ _ _ h => h)) (Knows.closed loaded_unassigned) env
    (fun v hk => copyData_loaded hk) ?_
  exact SpecOn.bind (nextStatus_knows hcable hx hp) (fun _ => computeConsumption_steady (knows_steady _))

theorem spend_lasting {H : List Entry → Prop} (hH : Lasting H) (hc : c ∈ cp.ids) :
    SpecAt c (fun v => H v.history) (spend cp) (fun _ v => H v.history) := by
  have env := (@Lasting.steady c H hH).env
  refine afterSetpoints_at hc env env env (fun v h => hH _ v.history h) ?_
  exact SpecOn.keep hH.nextStatus (fun _ => computeConsumption_steady hH.steady)

/-- What holds between two iterations: `n` have been run, and the stack has what the next one will poll. -/
def Between (s : Surroundings) (cp : SimulatedChargePoint) (statuses : Nat → ChargePointStatus) (n : Nat) : World → Prop :=
  AllKnow s cp (fun c v => Known s cp c (s.orbit cp statuses n c) (trail (fun n => s.orbit cp statuses n c) n)
    v.connector v.status v.history ∧ True)

theorem pollConnectors_between (n : Nat) :
    Spec (Between s cp statuses n) (pollConnectors cp) (fun _ => AllKnow s cp (fun c v =>
      Known s cp c (s.orbit cp statuses n c) (trail (fun n => s.orbit cp statuses n c) (n + 1)) v.connector v.status v.history ∧
        v.connector.status = s.orbit cp statuses n c)) := by
  refine AllKnow.lift (fun c hc => (lasting_inconstant s).pollConnectors hc) (fun c hc => ?_)
  rw [trail_succ]
  exact pollConnectors_at hc (Knows.closed (R := fun _ => True) (fun _ _ _ _ _ h => h))
    (Knows.closed (R := fun d => d.status = s.orbit cp statuses n c) (fun _ _ _ _ _ h => h)) updateConnectorStatus_knows

section
variable (hcable : ∀ c ∈ cp.ids, s.cable c ≠ 0) (hsession : ∀ c ∈ cp.ids, (statuses c).inSession = true) (h₀ : 0 ≤ s.whole cp)
include hcable hsession h₀

theorem actOnConnectors_between (n : Nat) :
    Spec (AllKnow s cp (fun c v =>
      Known s cp c (s.orbit cp statuses n c) (trail (fun n => s.orbit cp statuses n c) (n + 1)) v.connector v.status v.history ∧
        v.connector.status = s.orbit cp statuses n c))
    (actOnConnectors cp) (fun _ => Between s cp statuses (n + 1)) := by
  refine Spec.bind computeSetpoints_shared (fun _ => ?_)
  refine AllKnow.lift (fun c hc => spend_lasting (lasting_inconstant s) hc) (fun c hc => ?_)
  have hp : ((share cp.arith (s.whole cp) (s.total cp (s.orbit cp statuses n)) (s.cap cp c) : ℤ) : ℚ) ≠ 0 ↔
      Admits cp.arith (s.whole cp) (s.total cp (s.orbit cp statuses n)) (s.cap cp c) := by
    rw [Int.cast_ne_zero]
    exact share_ne_zero_iff h₀
  have hx : (s.orbit cp statuses n c).inSession = true := Surroundings.inSession_orbit hsession n hc
  rw [Surroundings.orbit_succ_apply]
  refine SpecOn.pre (fun v hk hconst => ?_) (spend_knows hc (hcable c hc) hx hp)
  obtain ⟨hd, hshared⟩ := hk hconst
  exact ⟨hd, hshared.status, hshared.setpoint⟩

/-- **A round is an iteration or none.** -/
theorem loopRound_between :
    Spec (fun w => ∃ n, Between s cp statuses n w) (loopRound cp) (fun _ w => ∃ n, Between s cp statuses n w) := by
  have passive : ∀ {α : Type} {m : M α} (n : Nat), (∀ c, Passive (World.tick cp) (World.view c) m) →
      Spec (Between s cp statuses n) m (fun _ => Between s cp statuses n) := fun n h =>
    AllKnow.lift (fun c _ => passive_at (h c) (lasting_inconstant s).steady.env)
      (fun c _ => passive_at (h c) (Knows.closed (R := fun _ => True) (fun _ _ _ _ _ h => h)))
  have round : ∀ n, Spec (Between s cp statuses n) (loopRound cp) (fun _ w => ∃ n, Between s cp statuses n w) := by
    intro n
    refine Spec.bind (passive n (fun _ => waiting_passive)) (fun b => Spec.ite (fun _ => ?_) (fun _ => ?_))
    · refine Spec.bind (passive n (fun c => waitRegistration_passive (deaf_view c))) (fun _ => Spec.pure _ (fun _ h => ⟨n, h⟩))
    · refine Spec.bind (pollConnectors_between n) (fun _ => ?_)
      refine Spec.bind (actOnConnectors_between hcable hsession h₀ n) (fun _ => ?_)
      exact Spec.post (passive (n + 1) (fun _ => goingOn_passive)) (fun _ _ h => ⟨n + 1, h⟩)
  exact fun w script ⟨n, hw⟩ => round n w script hw

end

/-! ## The run -/

/-- The world with its log emptied: the log of a run from there is the run's own. -/
def World.fresh (w : World) : World := { w with log := [] }

/-- Every connector is in a session, plugged, with the data and the rating it is to keep, and its cap is a number of the
machine. -/
def Surroundings.Begun (s : Surroundings) (cp : SimulatedChargePoint) (w : World) : Prop :=
  ∀ c ∈ cp.ids, (w.stack.status c).inSession = true ∧ s.cable c ≠ 0 ∧ (w.connectors c).carCableCapacity = s.cable c ∧
    (w.connectors c).maxSetpoint = cp.maxConnectorSetpoint ∧ cp.arith.Holds (s.cap cp c)

instance (s : Surroundings) (cp : SimulatedChargePoint) (w : World) : Decidable (s.Begun cp w) := List.decidableBAll _ cp.ids

/-- **No connector was polled with a status it had left.** -/
def Stable (cp : SimulatedChargePoint) (w : World) : Prop := ∀ c ∈ cp.ids, ¬Returns (polledStatuses (w.history c))

instance (cp : SimulatedChargePoint) (w : World) : Decidable (Stable cp w) := List.decidableBAll _ cp.ids

/-- Two cars with a cable of 30 A that have started to charge. -/
def sampleCharging : World := afterLoop .sample 5 (.start .sample .idle) (script 200
  [(0, .carMessage 1 { cable := some 30, consumptionL1 := some 25 }), (0, .idTagMessage 1 "A"),
   (0, .carMessage 2 { cable := some 30, consumptionL1 := some 25 }), (0, .idTagMessage 2 "B")])

/-- The charge point may draw `x`, and nothing else happens. -/
def sampleConstant (x : ℚ) : List Tick := (script 300 []).map ({ · with getSetpoint := some (some x, none) })

def Surroundings.sample (x : ℚ) : Surroundings := ⟨fun _ => some (some x, none), fun _ => 30, fun _ => true⟩

/-- **With a limit of 0 the connectors change between `Charging` and `SuspendedEVSE` for ever.** -/
theorem statuses_of_limit_zero :
    let w := afterLoop .sample 6 sampleCharging.fresh (sampleConstant 0)
    (Surroundings.sample 0).Begun .sample sampleCharging ∧ 0 ≤ (Surroundings.sample 0).whole .sample ∧
      (∀ c ∈ SimulatedChargePoint.ids .sample, (Surroundings.sample 0).Constant (w.history c)) ∧
      polledStatuses (w.history 1) = [.charging, .suspendedEVSE, .charging, .suspendedEVSE, .charging, .suspendedEVSE] ∧
      ¬Stable .sample w := by
  intro w
  exact ⟨by decide +kernel, by decide +kernel, by decide +kernel, by decide +kernel, by decide +kernel⟩

/-- **The statuses polled in a run under constant surroundings are those of the orbit.** -/
theorem polled_orbit {w : World} (hw : s.Begun cp w) (h₀ : 0 ≤ s.whole cp) (k : Nat) (script : List Tick)
    (hconst : ∀ c ∈ cp.ids, s.Constant ((afterLoop cp k w.fresh script).history c)) :
    ∃ n, ∀ c ∈ cp.ids, polledStatuses ((afterLoop cp k w.fresh script).history c) =
      trail (fun n => s.orbit cp w.stack.status n c) n := by
  have hstart : Between s cp w.stack.status 0 w.fresh := by
    intro _ c hc
    obtain ⟨-, -, hcable, hrating, -⟩ := hw c hc
    exact ⟨⟨rfl, rfl, hcable, hrating⟩, trivial⟩
  have hround := @loopRound_between s cp w.stack.status (fun c hc => (hw c hc).2.1) (fun c hc => (hw c hc).1) h₀
  obtain ⟨n, hn⟩ := Spec.rounds hround k w.fresh script ⟨0, hstart⟩
  exact ⟨n, fun c hc => (hn hconst c hc).1.polled⟩

/-- **Under constant limits, cables and cars no connector returns to a status it has left if the total settles at once;
and if it does not, one has returned by the fourth poll.** -/
theorem statuses_settle_iff (s : Surroundings) (cp : SimulatedChargePoint) (w : World) (k : Nat) (script : List Tick)
    (hw : s.Begun cp w) (h₀ : 0 ≤ s.whole cp)
    (hconst : ∀ c ∈ cp.ids, s.Constant ((afterLoop cp k w.fresh script).history c)) :
    (s.Settles cp w.stack.status → Stable cp (afterLoop cp k w.fresh script)) ∧
    ((∀ c ∈ cp.ids, 4 ≤ (polledStatuses ((afterLoop cp k w.fresh script).history c)).length) →
      Stable cp (afterLoop cp k w.fresh script) → s.Settles cp w.stack.status) := by
  obtain ⟨n, hn⟩ := polled_orbit hw h₀ k script hconst
  constructor
  · intro hs c hc
    rw [hn c hc]
    exact hs.not_returns hc n
  · intro hpolls hstable
    by_contra hs
    by_cases hids : cp.ids = []
    · refine hs ⟨fun c hc => ?_, fun c hc => ?_⟩ <;> rw [hids] at hc <;> cases hc
    obtain ⟨d, hd⟩ := List.exists_mem_of_ne_nil _ hids
    have hlen : 4 ≤ n := by
      have hl := hpolls d hd
      rwa [hn d hd, length_trail] at hl
    have hcap : ∀ c ∈ cp.ids, cp.arith.Holds (s.cap cp c) := by
      intro c hc
      obtain ⟨-, -, -, -, hcap⟩ := hw c hc
      exact hcap
    obtain ⟨c, hc, hr⟩ := Surroundings.exists_returns h₀ hcap hs hlen
    refine hstable c hc ?_
    rw [hn c hc]
    exact hr

/-- Two cars that may draw 20 A together. -/
theorem statuses_settle_session :
    let w := afterLoop .sample 6 sampleCharging.fresh (sampleConstant 20)
    ((Surroundings.sample 20).Settles .sample sampleCharging.stack.status → Stable .sample w) ∧
      ((∀ c ∈ SimulatedChargePoint.ids .sample, 4 ≤ (polledStatuses (w.history c)).length) → Stable .sample w →
        (Surroundings.sample 20).Settles .sample sampleCharging.stack.status) :=
  statuses_settle_iff (.sample 20) .sample sampleCharging 6 (sampleConstant 20) (by decide +kernel) (by decide +kernel)
    (by decide +kernel)

end Simu
