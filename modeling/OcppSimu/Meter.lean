import OcppSimu.Types
/-!
# Meter — `MeterSimulator`

A meter has a number of phases and three vectors of that size; their sizes are fields of the record, so no setter can
change them.
-/
namespace Simu

/-- **The loop of the setters**: `old[i] = new[i]` wherever both have an `i`. -/
def overwrite : List ℚ → List ℚ → List ℚ
  | _ :: old, x :: new => x :: overwrite old new
  | old, _ => old

@[simp] theorem length_overwrite : ∀ old new : List ℚ, (overwrite old new).length = old.length
  | [], _ => rfl
  | _ :: _, [] => rfl
  | _ :: old, _ :: new => by simp [overwrite, length_overwrite old new]

/-- **What an overwritten vector holds**: the new value where there is one. -/
theorem getElem?_overwrite : ∀ (old new : List ℚ) (i : Nat),
    (overwrite old new)[i]? = if i < old.length then (new[i]?).or old[i]? else none
  | [], _, i => by simp [overwrite]
  | o :: old, [], i => by
    simp only [overwrite, List.getElem?_nil, Option.none_or]
    split
    · rfl
    · rename_i h
      exact List.getElem?_eq_none (Nat.le_of_not_lt h)
  | _ :: old, x :: new, 0 => by simp [overwrite]
  | _ :: old, x :: new, i + 1 => by
    simp only [overwrite, List.getElem?_cons_succ, List.length_cons, Nat.add_lt_add_iff_right]
    exact getElem?_overwrite old new i

/-- A meter; the products of its `float`s are rounded. -/
structure MeterSimulator where
  arith : Rounding ℚ
  phasesCount : Nat
  voltages : List ℚ
  consumptions : List ℚ
  powers : List ℚ
  energy : ℤ
  powerFactor : ℚ
  currentOutType : ConnectorType
  voltages_length : voltages.length = phasesCount
  consumptions_length : consumptions.length = phasesCount
  powers_length : powers.length = phasesCount

namespace MeterSimulator

/-- The constructor, with the power factor `start` sets right after it. -/
def create (arith : Rounding ℚ) (phases : Nat) (type : ConnectorType) (powerFactor : ℚ) : MeterSimulator where
  arith := arith
  phasesCount := phases
  voltages := List.replicate phases 0
  consumptions := List.replicate phases 0
  powers := List.replicate phases 0
  energy := 0
  powerFactor := powerFactor
  currentOutType := type
  voltages_length := List.length_replicate
  consumptions_length := List.length_replicate
  powers_length := List.length_replicate

def setVoltages (m : MeterSimulator) (voltages : List ℚ) : MeterSimulator :=
  { m with voltages := overwrite m.voltages voltages
           voltages_length := by rw [length_overwrite, m.voltages_length] }

def setConsumptions (m : MeterSimulator) (consumptions : List ℚ) : MeterSimulator :=
  { m with consumptions := overwrite m.consumptions consumptions
           consumptions_length := by rw [length_overwrite, m.consumptions_length] }

/-- **What a meter holds once its consumptions are set**: those of the phases it has. -/
theorem getD_setConsumptions (m : MeterSimulator) {x : List ℚ} {p : Nat} (hp : p < x.length) :
    (m.setConsumptions x).consumptions.getD p 0 = if p < m.phasesCount then x.getD p 0 else 0 := by
  unfold setConsumptions
  rw [List.getD_eq_getElem?_getD, getElem?_overwrite, m.consumptions_length, List.getD_eq_getElem?_getD]
  split
  · rw [List.getElem?_eq_getElem hp, Option.some_or]
  · rfl

def getEnergy (m : MeterSimulator) : ℤ := m.energy.tdiv 1000

/-- `UPDATE_PERIOD`, in milliseconds. -/
def updatePeriod : ℤ := 500

/-- `static_cast<int64_t>` of a `float`: the fraction is dropped. -/
def truncate (q : ℚ) : ℤ := q.num.tdiv q.den

def toUnsigned (i : ℤ) : ℕ := (i % 2 ^ 32).toNat

/-- The energy of one update in mWh, an `unsigned int`. -/
def energyMwh (powers : List ℚ) : ℕ :=
  powers.foldl (fun acc p => (acc + toUnsigned ((truncate p * updatePeriod).tdiv 3600)) % 2 ^ 32) 0

/-- The powers an update computes: `voltage * consumption` for each phase in AC, the consumption of the only phase
in DC. -/
def nextPowers (m : MeterSimulator) : List ℚ :=
  match m.currentOutType with
  | .ac => List.zipWith (fun voltage consumption => m.arith.round (voltage * consumption)) m.voltages m.consumptions
  | .dc => overwrite m.powers (m.consumptions.take 1)

theorem length_nextPowers (m : MeterSimulator) : m.nextPowers.length = m.phasesCount := by
  unfold nextPowers
  cases m.currentOutType with
  | ac => simp [m.voltages_length, m.consumptions_length]
  | dc => simp [m.powers_length]

/-- **`update`**, called by the meter's timer. -/
def update (m : MeterSimulator) : MeterSimulator :=
  { m with powers := m.nextPowers
           energy := m.energy + energyMwh m.nextPowers
           powers_length := m.length_nextPowers }

end MeterSimulator

end Simu
