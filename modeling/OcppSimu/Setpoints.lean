import Mathlib.Algebra.BigOperators.Ring.List
import Mathlib.Algebra.Order.BigOperators.Group.List
import OcppSimu.Rules
/-!
# Setpoints — the connectors never draw more than the charge point may

`computeSetpoints` cuts the setpoints of the connectors down to what the charge point may draw; the consumptions come
later in the iteration, from other car data.  What ties the two is `ConnectorData.drawn`: its sum over the connectors is
under the limit once the setpoints are floored (`computeSetpoints_within`), nothing in the rest of the iteration moves
it, and it bounds what the meter of the connector is set to.
-/
namespace Simu

open Script View

/-! ## The limit of an iteration -/

/-- The charge point setpoints `getSetpoint` has returned in this iteration, newest first; an iteration begins where
`isEndOfApplication` is asked. -/
def setpointsOf : List Entry → List ℚ
  | [] => []
  | .isEndOfApplication _ :: _ => []
  | .getSetpoint _ _ (some (some v, _)) :: h => v :: setpointsOf h
  | _ :: h => setpointsOf h

def divisorsOf : List Entry → List ℚ
  | [] => []
  | .isEndOfApplication _ :: _ => []
  | .division _ den :: h => den :: divisorsOf h
  | _ :: h => divisorsOf h

/-- **The limit of the iteration**: the least of the charge point's own and those returned. -/
def limitOf (cp : SimulatedChargePoint) (h : List Entry) : ℚ := (setpointsOf h).foldr min cp.maxChargePointSetpoint

def limits (w : World) : List ℚ × List ℚ := (setpointsOf w.log, divisorsOf w.log)

def Entry.limitFree : Entry → Bool
  | .getSetpoint _ _ _ | .division _ _ | .isEndOfApplication _ => false
  | _ => true

theorem limits_cons {e : Entry} (he : e.limitFree = true) (h : List Entry) :
    (setpointsOf (e :: h), divisorsOf (e :: h)) = (setpointsOf h, divisorsOf h) := by
  cases e <;> first | rfl | cases he

theorem limits_note (w : World) {e : Entry} (he : e.limitFree = true) : limits (w.note e) = limits w := limits_cons he w.log

theorem limits_tick (cp : SimulatedChargePoint) (t : Tick) (w : World) : limits (w.tick cp t) = limits w :=
  log_tick (f := fun h => (setpointsOf h, divisorsOf h))
    (fun e h he => limits_cons (by cases e <;> first | rfl | cases he) h) t w

theorem blind_limits (d : Nat) : Blind limits d := blind_log (f := fun h => (setpointsOf h, divisorsOf h))
  (fun e h he hs => limits_cons (by cases e <;> first | rfl | (cases he; done) | cases hs) h)

theorem deaf_limits : Deaf limits := deaf_log (f := fun h => (setpointsOf h, divisorsOf h))
  (fun e h he => limits_cons (by cases e <;> first | rfl | cases he) h)

theorem limits_keep {cp : SimulatedChargePoint} {α : Type} {m : M α} (hm : Passive (World.tick cp) limits m)
    (I : List ℚ × List ℚ → Prop) : Spec (fun w => I (limits w)) m (fun _ w => I (limits w)) :=
  hm I (fun t w h => by rw [limits_tick]; exact h)

/-! ## What a connector draws -/

namespace ConnectorData

theorem drawn_nonneg (d : ConnectorData) : 0 ≤ d.drawn := by
  unfold drawn
  split
  · rename_i h
    exact le_of_lt h.2
  · exact le_refl 0

theorem setpoint_le_drawn {d : ConnectorData} (h : d.status = .charging) : d.setpoint ≤ d.drawn := by
  unfold drawn
  split
  · exact le_refl _
  · rename_i hs
    exact not_lt.1 (fun hpos => hs ⟨h, hpos⟩)

theorem drawn_floorSetpoint_le (d : ConnectorData) : d.floorSetpoint.drawn ≤ d.drawn := by
  show (if d.status = .charging ∧ (⌊d.setpoint⌋ : ℚ) > 0 then (⌊d.setpoint⌋ : ℚ) else 0) ≤ d.drawn
  split
  · rename_i h
    exact le_trans (Int.floor_le _) (setpoint_le_drawn h.1)
  · exact d.drawn_nonneg

theorem drawn_reduce_le {ratio : ℚ} (hr : 0 ≤ ratio) (d : ConnectorData) :
    (d.reduce (.exact ℚ) ratio).drawn ≤ d.drawn * ratio := by
  have h₀ : 0 ≤ d.drawn * ratio := mul_nonneg d.drawn_nonneg hr
  by_cases hs : d.setpoint > 0
  · have hn : (d.reduce (.exact ℚ) ratio).setpoint = d.setpoint * ratio := if_pos hs
    rw [drawn, hn]
    split
    · rename_i h
      rw [show d.drawn = d.setpoint from if_pos ⟨h.1, hs⟩]
    · exact h₀
  · have hn : (d.reduce (.exact ℚ) ratio).setpoint = d.setpoint := if_neg hs
    rw [drawn, hn, if_neg (fun h => hs h.2)]
    exact h₀

end ConnectorData

theorem consumptions_le_drawn (d : ConnectorData) (n p : Nat) : (consumptions d n).getD p 0 ≤ d.drawn := by
  have hx : ∀ x ∈ consumptions d n, x ≤ d.drawn := by
    intro x hx
    unfold consumptions at hx
    split at hx
    · rename_i h
      have hmin : ∀ l, min l d.setpoint ≤ d.drawn := fun l =>
        le_trans (min_le_right _ _) (ConnectorData.setpoint_le_drawn h)
      have h₀ := d.drawn_nonneg
      split at hx
      all_goals
        simp only [List.mem_cons, List.not_mem_nil, or_false] at hx
        rcases hx with rfl | rfl | rfl <;> first | exact hmin _ | exact h₀
    · simp only [List.mem_cons, List.not_mem_nil, or_false] at hx
      rcases hx with rfl | rfl | rfl <;> exact d.drawn_nonneg
  rw [List.getD_eq_getElem?_getD]
  cases hg : (consumptions d n)[p]? with
  | none => exact d.drawn_nonneg
  | some x => exact hx x (List.mem_of_getElem? hg)

/-! ## Computing the setpoints -/

variable {cp : SimulatedChargePoint}

/-- So far this iteration has been told `whole` is the least, and has divided by nothing. -/
def Told (cp : SimulatedChargePoint) (whole : ℚ) (x : List ℚ × List ℚ) : Prop :=
  x.1.foldr min (cp.maxChargePointSetpoint : ℚ) = whole ∧ x.2 = []

def lessen (whole : ℚ) : Option (Option ℚ × Option ℚ) → ℚ
  | some (some v, _) => min v whole
  | _ => whole

theorem ite_lt_eq_lessen (v whole : ℚ) (y : Option ℚ) :
    (if v < whole then v else whole) = lessen whole (some (some v, y)) := by
  show _ = min v whole
  split
  · rename_i hv
    exact (min_eq_left (le_of_lt hv)).symm
  · rename_i hv
    exact (min_eq_right (not_lt.1 hv)).symm

theorem getSetpoint_told (whole : ℚ) (c : Nat) (unit : ChargingRateUnitType) :
    Spec (fun w => Told cp whole (limits w)) (getSetpoint cp c unit)
      (fun r w => Told cp (lessen whole r) (limits w)) := by
  unfold getSetpoint ask
  refine Spec.call (fun t w h => by rw [limits_tick]; exact h) (fun t w h => ?_)
  obtain ⟨hw, hd⟩ := h
  show Told cp (lessen whole t.getSetpoint) (limits (w.note (.getSetpoint c unit t.getSetpoint)))
  rcases t.getSetpoint with _ | ⟨_ | v, y⟩
  · exact ⟨hw, hd⟩
  · exact ⟨hw, hd⟩
  · exact ⟨congrArg (min v) hw, hd⟩

theorem connectorSetpoint_told (whole : ℚ) (c : Nat) :
    Spec (fun w => Told cp whole (limits w)) (connectorSetpoint cp whole c) (fun a w => Told cp a (limits w)) := by
  refine Spec.bind (@limits_keep cp _ _ (setOwn_passive (blind_limits c) _) _) (fun _ => ?_)
  refine Spec.bind (Spec.read (Q := fun _ w => Told cp whole (limits w)) (fun _ h => h)) (fun unit => ?_)
  refine Spec.bind (getSetpoint_told whole c unit) (fun r => ?_)
  rcases r with _ | ⟨x, y⟩
  · exact Spec.pure _ (fun _ h => h)
  · refine Spec.bind (@limits_keep cp _ _ (setOwn_passive (blind_limits c) _) _) (fun _ => Spec.pure _ (fun w h => ?_))
    cases x with
    | none => exact h
    | some v =>
      show Told cp (if v < whole then v else whole) (limits w)
      rw [ite_lt_eq_lessen v whole y]
      exact h

/-- **The connectors together draw no more than the charge point may, and no divisor was zero**, in an iteration whose
limits are non-negative. -/
def Within (cp : SimulatedChargePoint) (w : World) : Prop :=
  (∀ v ∈ setpointsOf w.log, 0 ≤ v) →
    totalConnectors cp w.connectors ≤ limitOf cp w.log ∧ ∀ d ∈ divisorsOf w.log, d ≠ 0

theorem limitOf_nonneg {cp : SimulatedChargePoint} {h : List Entry} (hn : ∀ v ∈ setpointsOf h, 0 ≤ v) :
    0 ≤ limitOf cp h := by
  unfold limitOf
  generalize setpointsOf h = l at hn ⊢
  induction l with
  | nil => exact Nat.cast_nonneg _
  | cons v l ih =>
    rw [List.foldr_cons]
    exact le_min (hn v List.mem_cons_self) (ih (fun x hx => hn x (List.mem_cons_of_mem v hx)))

theorem totalConnectors_mono {f g : Nat → ConnectorData} (h : ∀ c, (f c).drawn ≤ (g c).drawn) :
    totalConnectors cp f ≤ totalConnectors cp g := by
  rw [totalConnectors_eq_sum, totalConnectors_eq_sum]
  refine cp.arith.sum_mono ?_
  rw [List.forall₂_map_left_iff, List.forall₂_map_right_iff, List.forall₂_same]
  exact fun c _ => h c

theorem totalConnectors_exact (hx : cp.arith = .exact ℚ) (connectors : Nat → ConnectorData) :
    totalConnectors cp connectors = (cp.ids.map (fun c => (connectors c).drawn)).sum := by
  rw [totalConnectors_eq_sum, hx, Rounding.exact_sum]

/-- **Cut down in exact proportion, the connectors draw the limit at most.** -/
theorem totalConnectors_reduce_le (hx : cp.arith = .exact ℚ) {connectors : Nat → ConnectorData} {whole : ℚ} (h₀ : 0 ≤ whole)
    (h : whole < totalConnectors cp connectors) :
    totalConnectors cp (fun c => (connectors c).reduce cp.arith (cp.arith.round (whole / totalConnectors cp connectors))) ≤
      whole := by
  have ht : 0 < totalConnectors cp connectors := lt_of_le_of_lt h₀ h
  have hsum := totalConnectors_exact hx connectors
  rw [totalConnectors_exact hx (fun c => (connectors c).reduce _ _), hx, Rounding.exact_round]
  generalize totalConnectors cp connectors = total at ht hsum ⊢
  calc (cp.ids.map (fun c => ((connectors c).reduce (.exact ℚ) (whole / total)).drawn)).sum
      ≤ (cp.ids.map (fun c => (connectors c).drawn * (whole / total))).sum :=
        List.sum_le_sum (fun c _ => ConnectorData.drawn_reduce_le (div_nonneg h₀ (le_of_lt ht)) (connectors c))
    _ = total * (whole / total) := by rw [List.sum_map_mul_right, ← hsum]
    _ = whole := mul_div_cancel₀ whole (ne_of_gt ht)

theorem computeSetpoints_within (hx : cp.arith = .exact ℚ) :
    Spec (fun w => limits w = ([], [])) (computeSetpoints cp) (fun _ => Within cp) := by
  have floored : Spec (Within cp) (update (·.mapConnectors ConnectorData.floorSetpoint) : M Unit)
      (fun _ => Within cp) := by
    refine Spec.update (fun w h hn => ⟨?_, (h hn).2⟩)
    exact le_trans (totalConnectors_mono (fun c => ConnectorData.drawn_floorSetpoint_le (w.connectors c))) (h hn).1
  refine Spec.bind (R := fun whole w => Told cp whole (limits w)) ?_ (fun whole => ?_)
  · refine Spec.pre (fun w h => ?_) (Spec.foldlM (fun a c _ => connectorSetpoint_told a c) _)
    rw [h]
    exact ⟨rfl, rfl⟩
  refine Spec.bind (R := fun _ w => Told cp whole (limits w)) (Spec.update (fun _ h => h)) (fun _ => ?_)
  refine Spec.read_bind (fun w₀ _ => Spec.bind (R := fun _ => Within cp) ?_ (fun _ => floored))
  -- flooring only lowers, so it is enough that the limit is kept before it
  refine Spec.ite (fun hgt => ?_) (fun hle => Spec.pure _ (fun w h hn => ?_))
  · refine Spec.bind (R := fun _ w => limitOf cp w.log = whole ∧ divisorsOf w.log = [totalConnectors cp w₀.connectors] ∧
      totalConnectors cp w.connectors = totalConnectors cp w₀.connectors) ?_ (fun _ => Spec.update (fun w h hn => ?_))
    · exact Spec.update (fun w h => ⟨h.1.1, congrArg (List.cons _) h.1.2, h.2⟩)
    · obtain ⟨hl, hd, ht⟩ := h
      have h₀ : 0 ≤ whole := hl ▸ limitOf_nonneg hn
      have hgt' : whole < totalConnectors cp w.connectors := ht ▸ hgt
      constructor
      · show totalConnectors cp (fun c => (w.connectors c).reduce _ _) ≤ limitOf cp w.log
        rw [hl, ← ht]
        exact totalConnectors_reduce_le hx h₀ hgt'
      · show ∀ d ∈ divisorsOf w.log, d ≠ 0
        rw [hd]
        intro d hm
        rw [List.mem_singleton.1 hm]
        exact ne_of_gt (lt_of_le_of_lt h₀ hgt)
  · obtain ⟨⟨hl, hd⟩, ht⟩ := h
    constructor
    · rw [ht, show limitOf cp w.log = whole from hl]
      exact not_lt.1 hle
    · rw [show divisorsOf w.log = [] from hd]
      exact fun d hm => by cases hm

/-- Both connectors get a car and a badge, and the charge point is limited to 20 A, for the runs on fixed inputs. -/
def sampleLimited : List Tick := (script 120
  [(0, .carMessage 1 { cable := some 30, consumptionL1 := some 25 }), (0, .idTagMessage 1 "A"),
   (0, .carMessage 2 { cable := some 30, consumptionL1 := some 25 }), (0, .idTagMessage 2 "B")]).map
  ({ · with getSetpoint := some (some 20, none) })

/-! ## The rest of an iteration -/

def spend (cp : SimulatedChargePoint) : M Unit := do
  updateData cp
  cp.ids.forM (fun c => do nextStatus cp c; computeConsumption cp c)
  publishData cp

theorem spend_drawn {c : Nat} (hc : c ∈ cp.ids) (x : ℚ) :
    SpecAt c (fun v => v.connector.drawn = x) (spend cp) (fun _ v => ∀ p, p < 3 → v.meter.consumptions.getD p 0 ≤ x) := by
  have hu : Unassigned (fun d => d.drawn = x) := fun _ _ _ _ _ h => h
  have hq : Closed c (fun v => ∀ p, p < 3 → v.meter.consumptions.getD p 0 ≤ x) := fun v v' hv h => by
    cases hv <;> exact h
  refine afterSetpoints_at hc hu.closed hu.closed hq (fun _ h => h) ?_
  refine SpecOn.keep hu.nextStatus (fun _ => computeConsumption_at hu.closed (fun v v' h _ p hp => ?_))
  show ((v'.meter.setConsumptions _).consumptions.getD p 0) ≤ x
  rw [MeterSimulator.getD_setConsumptions _ (by rw [length_consumptions]; exact hp), ← h]
  split
  · exact consumptions_le_drawn _ _ _
  · exact v.connector.drawn_nonneg

theorem spend_passive {ν : Type} {view : World → ν} (h : ∀ d, Blind view d) (hd : Deaf view) :
    Passive (World.tick cp) view (spend cp) :=
  Passive.bind (updateData_passive h) (fun _ => Passive.bind (passes_passive h) (fun _ => publishData_passive hd))

theorem spend_limits (x : List ℚ × List ℚ) :
    Spec (fun w => limits w = x) (spend cp) (fun _ w => limits w = x) :=
  limits_keep (spend_passive blind_limits deaf_limits) (· = x)

/-- **What the meters are set to**, in an iteration whose limits are non-negative. -/
def Consumed (cp : SimulatedChargePoint) (w : World) : Prop :=
  (∀ v ∈ setpointsOf w.log, 0 ≤ v) →
    (∀ p, p < 3 → (cp.ids.map (fun c => (w.meters c).consumptions.getD p 0)).sum ≤ limitOf cp w.log) ∧
      ∀ d ∈ divisorsOf w.log, d ≠ 0

theorem spend_consumed (hx : cp.arith = .exact ℚ) : Spec (Within cp) (spend cp) (fun _ => Consumed cp) := by
  intro w script hw
  have hl := @spend_limits cp (limits w) w script rfl
  have hd := Spec.all (fun c : { c // c ∈ cp.ids } => spend_drawn c.2 (w.connectors c).drawn) w script (fun _ => rfl)
  generalize spend cp (w, script) = r at hl hd
  have hs : setpointsOf r.2.1.log = setpointsOf w.log := congrArg Prod.fst hl
  have hv : divisorsOf r.2.1.log = divisorsOf w.log := congrArg Prod.snd hl
  intro hn
  rw [hs] at hn
  obtain ⟨ht, hz⟩ := hw hn
  rw [totalConnectors_exact hx] at ht
  have hlim : limitOf cp r.2.1.log = limitOf cp w.log := by unfold limitOf; rw [hs]
  rw [hv, hlim]
  refine ⟨fun p hp => le_trans ?_ ht, hz⟩
  exact List.sum_le_sum (fun c hc => hd ⟨c, hc⟩ p hp)

theorem waiting_limits : Spec (fun _ => True) (waiting cp) (fun _ w => limits w = ([], [])) := by
  have asked : ∀ {α : Type} {f : Tick → World → α} {entry : α → Entry}, (∀ a, (entry a).limitFree = true) →
      Spec (fun w => limits w = ([], [])) (ask cp f entry) (fun _ w => limits w = ([], [])) := fun he =>
    limits_keep (I := (· = ([], []))) (ask_passive (fun a w => limits_note w (he a)))
  refine Spec.bind (R := fun _ w => limits w = ([], [])) ?_ (fun b => ?_)
  · unfold isEndOfApplication ask
    exact Spec.call (fun _ _ _ => trivial) (fun _ _ _ => rfl)
  refine Spec.ite (fun _ => Spec.pure _ (fun _ h => h)) (fun _ => Spec.bind (asked (fun _ => rfl)) (fun _ => ?_))
  refine Spec.ite (fun _ => Spec.pure _ (fun _ h => h)) (fun _ => Spec.bind (asked (fun _ => rfl)) (fun _ => ?_))
  exact Spec.pure _ (fun _ h => h)

theorem pollConnectors_limits :
    Spec (fun w => limits w = ([], [])) (pollConnectors cp) (fun _ w => limits w = ([], [])) :=
  limits_keep (pollConnectors_passive blind_limits deaf_limits) (· = ([], []))

theorem iteration_consumed (hx : cp.arith = .exact ℚ) :
    Spec (fun w => limits w = ([], [])) (do pollConnectors cp; actOnConnectors cp) (fun _ => Consumed cp) :=
  Spec.bind pollConnectors_limits (fun _ => Spec.bind (computeSetpoints_within hx) (fun _ => spend_consumed hx))

theorem loopIterated_consumed (hx : cp.arith = .exact ℚ) (k : Nat) :
    Spec (fun _ => True) (loopIterated cp k) (fun ran w => ran = true → Consumed cp w) := by
  refine Spec.bind (R := fun _ _ => True) (fun _ _ _ => trivial) (fun _ => Spec.bind waiting_limits (fun wait => ?_))
  cases wait with
  | true => exact Spec.pure _ (fun _ _ h => by cases h)
  | false => exact Spec.bind (iteration_consumed hx) (fun _ => Spec.pure _ (fun _ h _ => h))

/-- **At the end of every iteration the meters together are set to no more, on each phase, than the charge point may
draw, and the iteration has not divided by zero**, whatever the car data were, once the limits are non-negative and the
numbers exact. -/
theorem consumptions_le_limit (cp : SimulatedChargePoint) (hx : cp.arith = .exact ℚ) (w : World) (k : Nat)
    (script : List Tick) (hr : (loopIterated cp k (w, script)).1 = true)
    (hn : ∀ v ∈ setpointsOf (afterIteration cp k w script).log, 0 ≤ v) :
    (∀ p, p < 3 → (cp.ids.map (fun c => ((afterIteration cp k w script).meters c).consumptions.getD p 0)).sum ≤
      limitOf cp (afterIteration cp k w script).log) ∧
    ∀ d ∈ divisorsOf (afterIteration cp k w script).log, d ≠ 0 :=
  loopIterated_consumed hx k w script trivial hr hn

/-- Two cars charge, and the charge point is given less than they would draw. -/
theorem consumptions_le_limit_session :
    (∀ p, p < 3 → ((SimulatedChargePoint.ids .exactSample).map (fun c =>
      ((afterIteration .exactSample 3 (.start .exactSample .idle) sampleLimited).meters c).consumptions.getD p 0)).sum ≤
      limitOf .exactSample (afterIteration .exactSample 3 (.start .exactSample .idle) sampleLimited).log) ∧
    ∀ d ∈ divisorsOf (afterIteration .exactSample 3 (.start .exactSample .idle) sampleLimited).log, d ≠ 0 :=
  consumptions_le_limit .exactSample rfl (.start .exactSample .idle) 3 sampleLimited (by decide +kernel) (by decide +kernel)

end Simu
