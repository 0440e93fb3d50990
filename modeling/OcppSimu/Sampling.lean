import OcppSimu.Access
import OcppSimu.World
/-!
# Sampling — `getMeterValue`, by phase and for all phases

The meter's vectors have one value for each phase, and the stack asks for one of them or for all.  A phase that is asked
for is compared with the number of phases by `<=`, so the first phase that the meter does not have is read past the end of
the vector, and only the ones after it are refused (`phases_agree_iff`).
-/
namespace Simu

open Access

/-- The measurands `getMeterValue` tells apart. -/
inductive Measurand
  | currentImport | currentOffered | powerOffered | energyActiveImportRegister | powerActiveImport | powerFactor | voltage
  | other
  deriving DecidableEq

inductive UnitOfMeasure
  | a | v | w
  deriving DecidableEq

/-- A phase is its number, `L1` being 0; the unit is what was written to the value of that field. -/
structure SampledValue where
  value : String
  phase : Option Nat := none
  unit : Option UnitOfMeasure := none
  deriving DecidableEq

/-- How a vector is misread: by `at`, which throws, or by `[]`, which reads on. -/
inductive Misread
  | outOfRange | pastTheEnd
  deriving DecidableEq

/-! ## `std::to_string` -/

/-- The nearest integer to `n / d`, the even one of two. -/
def nearest (n d : Nat) : Nat :=
  if d < 2 * (n % d) ∨ (2 * (n % d) = d ∧ n / d % 2 = 1) then n / d + 1 else n / d

/-- `std::to_string` of a `float`: six decimals. -/
def toText (q : ℚ) : String :=
  let n := nearest (q.num.natAbs * 10 ^ 6) q.den
  let decimals := (toString (n % 10 ^ 6)).toList
  (if q < 0 then "-" else "") ++ toString (n / 10 ^ 6) ++ "." ++
    String.ofList (List.replicate (6 - decimals.length) '0' ++ decimals)

example : toText (-1 / 3) = "-0.333333" ∧ toText 230 = "230.000000" := by decide +kernel

/-! ## `getMeterValue` -/

/-- A branch that has a value for each phase. -/
def samplePhases (values : List ℚ) (phasesCount : Nat) (unit : UnitOfMeasure) (sampled : List SampledValue) :
    Option Nat → Except Misread (Bool × List SampledValue)
  | some phase =>
    if phase ≤ phasesCount then do
      let x ← demand .pastTheEnd values[phase]?
      pure (true, sampled ++ [⟨toText x, some phase, some unit⟩])
    else pure (false, sampled)
  | none => pure (true, sampled ++ values.mapIdx (fun i x => ⟨toText x, some i, some unit⟩))

/-- **`getMeterValue`**, with the samples that the meter value has already. -/
def getMeterValue (cp : SimulatedChargePoint) (w : World) (connectorId : Nat) (measurand : Measurand × Option Nat)
    (sampled : List SampledValue) : Except Misread (Bool × List SampledValue) :=
  if 0 < connectorId then
    if connectorId ≤ cp.numberOfConnectors then
      let meter := w.meters connectorId
      let setpoint := toString (MeterSimulator.toUnsigned (MeterSimulator.truncate (w.connectors connectorId).setpoint))
      match measurand.1 with
      | .currentImport => samplePhases meter.consumptions meter.phasesCount .a sampled measurand.2
      | .currentOffered => pure (true, sampled ++ [{ value := setpoint, unit := some .a }])
      | .powerOffered => pure (true, sampled ++ [{ value := setpoint, unit := some .w }])
      | .energyActiveImportRegister => pure (true, sampled ++ [{ value := toString meter.getEnergy }])
      | .powerActiveImport =>
        if measurand.2 = none ∧ meter.currentOutType = .dc then do
          -- "only first value for DC"
          let x ← demand .pastTheEnd meter.powers[0]?
          pure (true, sampled ++ [{ value := toText x, unit := some .w }])
        else samplePhases meter.powers meter.phasesCount .w sampled measurand.2
      | .powerFactor => pure (true, sampled ++ [{ value := toText meter.powerFactor }])
      | .voltage => samplePhases meter.voltages meter.phasesCount .v sampled measurand.2
      | .other => pure (false, sampled)
    else .error .outOfRange
  else pure (false, sampled)

/-! ## The two readings -/

/-- The measurands with a value for each phase. -/
def Measurand.perPhase (type : ConnectorType) : Measurand → Prop
  | .currentImport | .voltage => True
  | .powerActiveImport => type = .ac
  | _ => False

/-- **The reading of all phases and that of the phase `p` agree**: the first has a sample for each phase, in order, and
the second has the one of `p`, and none where there is no such phase. -/
def PhasesAgree (cp : SimulatedChargePoint) (w : World) (c : Nat) (m : Measurand) (p : Nat) : Prop :=
  ∃ samples : List SampledValue,
    samples.map SampledValue.phase = (List.range (w.meters c).phasesCount).map some ∧
    ∀ sampled, getMeterValue cp w c (m, none) sampled = .ok (true, sampled ++ samples) ∧
      getMeterValue cp w c (m, some p) sampled =
        .ok (decide (p < (w.meters c).phasesCount), sampled ++ (samples[p]?).toList)

/-- **A branch with a value for each phase**: the phase right after the last is read past the end. -/
theorem samplePhases_some {values : List ℚ} {n : Nat} (hl : values.length = n) (unit : UnitOfMeasure)
    (sampled : List SampledValue) (p : Nat) : samplePhases values n unit sampled (some p) =
      if p = n then .error .pastTheEnd
      else .ok (decide (p < n), sampled ++ ((values.mapIdx (fun i x => ⟨toText x, some i, some unit⟩))[p]?).toList) := by
  unfold samplePhases
  dsimp only
  rw [List.getElem?_mapIdx]
  rcases Nat.lt_trichotomy p n with h | h | h
  · have hx : values[p]? = some (values.get ⟨p, hl ▸ h⟩) := List.getElem?_eq_getElem (hl ▸ h)
    rw [if_pos h.le, if_neg h.ne, hx, decide_eq_true h]
    rfl
  · have hx : values[p]? = none := List.getElem?_eq_none (by omega)
    rw [if_pos h.le, if_pos h, hx]
    rfl
  · have hx : values[p]? = none := List.getElem?_eq_none (by omega)
    rw [if_neg (by omega), if_neg h.ne', hx, decide_eq_false (by omega), Option.map_none, Option.toList_none, List.append_nil]
    rfl

/-- The vector that a measurand is read off, and its unit. -/
theorem getMeterValue_perPhase {cp : SimulatedChargePoint} {w : World} {c : Nat} (hc : 0 < c)
    (hn : c ≤ cp.numberOfConnectors) {m : Measurand} (hm : m.perPhase (w.meters c).currentOutType) :
    ∃ values unit, values.length = (w.meters c).phasesCount ∧ ∀ phase sampled,
      getMeterValue cp w c (m, phase) sampled = samplePhases values (w.meters c).phasesCount unit sampled phase := by
  unfold getMeterValue
  simp only [if_pos hc, if_pos hn]
  cases m with
  | currentImport => exact ⟨_, .a, (w.meters c).consumptions_length, fun _ _ => rfl⟩
  | voltage => exact ⟨_, .v, (w.meters c).voltages_length, fun _ _ => rfl⟩
  | powerActiveImport =>
    refine ⟨_, .w, (w.meters c).powers_length, fun phase sampled => if_neg ?_⟩
    have ht : (w.meters c).currentOutType = .ac := hm
    rw [ht]
    exact fun h => ConnectorType.noConfusion h.2
  | _ => exact hm.elim

/-- **The phase after the last of a meter of three is read past the end** of its voltages. -/
theorem getMeterValue_past_the_end :
    let w := World.start .sample .idle
    getMeterValue .sample w 1 (.voltage, some 3) [] = .error .pastTheEnd ∧
      ¬∀ (cp : SimulatedChargePoint) (w : World) (c : Nat) (m : Measurand) (p : Nat), 0 < c → c ≤ cp.numberOfConnectors →
        m.perPhase (w.meters c).currentOutType → PhasesAgree cp w c m p := by
  have he : getMeterValue .sample (World.start .sample .idle) 1 (.voltage, some 3) [] = .error .pastTheEnd := by
    decide +kernel
  refine ⟨he, fun h => ?_⟩
  obtain ⟨samples, -, hs⟩ := h .sample (World.start .sample .idle) 1 .voltage 3 (by decide) (by decide) trivial
  have hp := (hs []).2
  rw [he] at hp
  cases hp

/-- **The two readings agree on every phase but the first that the meter does not have.** -/
theorem phases_agree_iff (cp : SimulatedChargePoint) (w : World) {c : Nat} (hc : 0 < c) (hn : c ≤ cp.numberOfConnectors)
    {m : Measurand} (hm : m.perPhase (w.meters c).currentOutType) (p : Nat) :
    PhasesAgree cp w c m p ↔ p ≠ (w.meters c).phasesCount := by
  obtain ⟨values, unit, hl, hr⟩ := getMeterValue_perPhase hc hn hm
  unfold PhasesAgree
  simp only [hr, samplePhases_some hl]
  constructor
  · rintro ⟨samples, -, hs⟩ hp
    have hs := (hs []).2
    rw [if_pos hp] at hs
    cases hs
  · intro hp
    refine ⟨values.mapIdx (fun i x => ⟨toText x, some i, some unit⟩), ?_, fun sampled => ⟨rfl, if_neg hp⟩⟩
    rw [← hl]
    apply List.ext_getElem
    · simp
    · intro i h₁ h₂
      simp

theorem phases_agree_sample : PhasesAgree .sample (World.start .sample .idle) 1 .voltage 2 ↔ 2 ≠ 3 :=
  phases_agree_iff .sample (World.start .sample .idle) (c := 1) (by decide) (by decide) (m := .voltage) trivial 2

end Simu
