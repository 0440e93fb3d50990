import OcppSimu.Rationing
import OcppSimu.Setpoints
/-!
# Sharing — what the limits make of the setpoints

Once the limits have been asked for, `computeSetpoints` is a function of the records: the setpoint of a connector follows
from its own cap, from what the charge point may draw and from what the connectors in `Charging` would draw
(`computeSetpoints_eq`).  The more they would draw, the fewer connectors get a setpoint at all (`Admits.anti`).
-/
namespace Simu

open Script

/-! ## The setpoint of one connector -/

/-- The least of the limit of the connector and of its cable. -/
def ConnectorData.cap (d : ConnectorData) : ℚ := min d.ocppSetpoint d.carCableCapacity

/-- **The setpoint of a connector of cap `a`**, when the charge point may draw `whole` and the connectors in `Charging`
would draw `total`. -/
def share (r : Rounding ℚ) (whole total a : ℚ) : ℤ :=
  ⌊if whole < total ∧ 0 < a then r.round (a * r.round (whole / total)) else a⌋

def ConnectorData.setSetpoint (d : ConnectorData) (x : ℚ) : ConnectorData := { d with setpoint := x }

theorem ConnectorData.setpoint_limitToCable (d : ConnectorData) : d.limitToCable.setpoint = d.cap := by
  unfold limitToCable cap
  dsimp only
  split
  · rename_i h
    exact (min_eq_right (le_of_lt h)).symm
  · rename_i h
    exact (min_eq_left (not_lt.1 h)).symm

section

variable {r : Rounding ℚ} {whole total : ℚ}

theorem share_of_le {a : ℚ} (h : ¬whole < total) : share r whole total a = ⌊a⌋ := by
  unfold share
  rw [if_neg (fun hc => h hc.1)]

theorem share_of_lt {a : ℚ} (h : whole < total) :
    share r whole total a = ⌊if 0 < a then r.round (a * r.round (whole / total)) else a⌋ := by
  unfold share
  simp only [h, true_and]

namespace ConnectorData

theorem floorSetpoint_limitToCable (h : ¬whole < total) (d : ConnectorData) :
    d.limitToCable.floorSetpoint = d.setSetpoint (share r whole total d.cap) := by
  rw [share_of_le h, ← setpoint_limitToCable]
  rfl

theorem floorSetpoint_reduce (h : whole < total) (d : ConnectorData) :
    (d.limitToCable.reduce r (r.round (whole / total))).floorSetpoint = d.setSetpoint (share r whole total d.cap) := by
  rw [share_of_lt h, ← setpoint_limitToCable]
  rfl

end ConnectorData

end

/-! ## The setpoints of all -/

variable {cp : SimulatedChargePoint}

/-- What the connectors in `Charging` would draw, each up to its cap. -/
def demandOf (cp : SimulatedChargePoint) (connectors : Nat → ConnectorData) : ℚ :=
  totalConnectors cp (fun c => (connectors c).limitToCable)

/-- `computeSetpoints`, once the limits are known. -/
def World.shareOut (cp : SimulatedChargePoint) (whole : ℚ) (w : World) : World :=
  { w with
    connectors := fun c => (w.connectors c).setSetpoint (share cp.arith whole (demandOf cp w.connectors) (w.connectors c).cap)
    log := if whole < demandOf cp w.connectors then .division whole (demandOf cp w.connectors) :: w.log else w.log }

/-- **The setpoints are a function of the limits, the cables and the statuses.** -/
theorem computeSetpoints_eq (cp : SimulatedChargePoint) : computeSetpoints cp = (do
    let whole ← cp.ids.foldlM (connectorSetpoint cp) (cp.maxChargePointSetpoint : ℚ)
    update (World.shareOut cp whole)) := by
  unfold computeSetpoints
  refine congrArg _ (funext (fun whole => funext (fun p => ?_)))
  obtain ⟨w, script⟩ := p
  show (((if demandOf cp w.connectors > whole then do
      record (.division whole (demandOf cp w.connectors))
      update (·.mapConnectors (ConnectorData.reduce cp.arith (cp.arith.round (whole / demandOf cp w.connectors))))
    else pure ()) : M Unit) >>= fun _ => update (·.mapConnectors ConnectorData.floorSetpoint))
      (w.mapConnectors ConnectorData.limitToCable, script) = ((), w.shareOut cp whole, script)
  unfold World.shareOut
  by_cases h : whole < demandOf cp w.connectors
  · have hc : (fun c => (w.connectors c).setSetpoint (share cp.arith whole (demandOf cp w.connectors) (w.connectors c).cap)) =
        fun c => ((w.connectors c).limitToCable.reduce cp.arith
          (cp.arith.round (whole / demandOf cp w.connectors))).floorSetpoint :=
      funext (fun c => ((w.connectors c).floorSetpoint_reduce h).symm)
    rw [hc, if_pos h, if_pos h]
    rfl
  · have hc : (fun c => (w.connectors c).setSetpoint (share cp.arith whole (demandOf cp w.connectors) (w.connectors c).cap)) =
        fun c => (w.connectors c).limitToCable.floorSetpoint :=
      funext (fun c => ((w.connectors c).floorSetpoint_limitToCable h).symm)
    rw [hc, if_neg h, if_neg h]
    rfl

/-! ## Who gets a setpoint -/

/-- **A connector of cap `a` gets a setpoint other than 0**: its share is at least 1, or its cap is negative. -/
def Admits (r : Rounding ℚ) (whole total a : ℚ) : Prop :=
  if 0 < a then if whole < total then 1 ≤ r.round (a * r.round (whole / total)) else 1 ≤ a else a ≠ 0

instance (r : Rounding ℚ) (whole total a : ℚ) : Decidable (Admits r whole total a) := by unfold Admits; infer_instance

theorem floor_ne_zero_iff {q : ℚ} (h : 0 ≤ q) : ⌊q⌋ ≠ 0 ↔ 1 ≤ q := by
  have hf : 0 ≤ ⌊q⌋ := Int.floor_nonneg.2 h
  have h₁ : 1 ≤ ⌊q⌋ ↔ 1 ≤ q := by simpa using @Int.le_floor ℚ _ _ _ 1 q
  rw [← h₁]
  omega

theorem floor_ne_zero_of_neg {q : ℚ} (h : q ≤ 0) : ⌊q⌋ ≠ 0 ↔ q ≠ 0 := by
  constructor
  · rintro hf rfl
    exact hf Int.floor_zero
  · intro hq
    have hlt : ⌊q⌋ < 0 := by
      rw [Int.floor_lt]
      exact_mod_cast lt_of_le_of_ne h hq
    omega

variable {r : Rounding ℚ} {whole total a : ℚ}

theorem share_ne_zero_iff (h₀ : 0 ≤ whole) : share r whole total a ≠ 0 ↔ Admits r whole total a := by
  unfold share Admits
  by_cases ha : 0 < a
  · rw [if_pos ha]
    by_cases ht : whole < total
    · have hratio : 0 ≤ r.round (whole / total) := r.round_nonneg (div_nonneg h₀ (h₀.trans ht.le))
      rw [if_pos ⟨ht, ha⟩, if_pos ht, floor_ne_zero_iff (r.round_nonneg (mul_nonneg ha.le hratio))]
    · rw [if_neg (fun hc => ht hc.1), if_neg ht, floor_ne_zero_iff (le_of_lt ha)]
  · rw [if_neg ha, if_neg (fun hc => ha hc.2), floor_ne_zero_of_neg (not_lt.1 ha)]

/-- **The higher the demand, the fewer connectors get a setpoint.** -/
theorem Admits.anti {more : ℚ} (h₀ : 0 ≤ whole) (hh : r.Holds a) (hle : total ≤ more) (h : Admits r whole more a) :
    Admits r whole total a := by
  unfold Admits at *
  by_cases ha : 0 < a
  · rw [if_pos ha] at h ⊢
    have hration := r.ration_anti_total h₀ ha.le hh hle
    by_cases ht : whole < total
    · rw [if_pos (lt_of_lt_of_le ht hle)] at h
      rw [r.ration_of_lt ht, r.ration_of_lt (ht.trans_le hle)] at hration
      rw [if_pos ht]
      exact h.trans hration
    · rw [if_neg ht]
      by_cases hm : whole < more
      · rw [if_pos hm] at h
        rw [r.ration_of_lt hm, r.ration_of_le (not_lt.1 ht)] at hration
        exact h.trans hration
      · rwa [if_neg hm] at h
  · rwa [if_neg ha] at h ⊢

end Simu
