import OcppSimu.Energy
/-!
# Accuracy — how far the register is from the energy itself

An update drops the fraction of each phase's power and then the fraction of its energy.  A phase loses less than
1 W · 0.5 s by the first and at most 3500 / 3600 mWh by the second, since `500 * n` leaves a remainder that is a multiple
of a hundred; together that is 10 / 9 mWh at most, and it never gains anything.  The losses of a run add up to at most
that much for each phase and update (`meter_accuracy`).  The power is the rounded product of voltage and current: against
the exact one a phase may gain (`register_over_exact_energy`).
-/
namespace Simu

/-- A call to the meter; the timer makes the updates. -/
inductive MeterCall
  | setVoltages (voltages : List ℚ)
  | setConsumptions (consumptions : List ℚ)
  | update

namespace MeterCall

def values : MeterCall → List ℚ
  | setVoltages l | setConsumptions l => l
  | update => []

def isUpdate : MeterCall → Bool
  | update => true
  | _ => false

end MeterCall

namespace MeterSimulator

def call (m : MeterSimulator) : MeterCall → MeterSimulator
  | .setVoltages voltages => m.setVoltages voltages
  | .setConsumptions consumptions => m.setConsumptions consumptions
  | .update => m.update

def run (m : MeterSimulator) (calls : List MeterCall) : MeterSimulator := calls.foldl call m

/-! ## The energy itself -/

/-- The power of each phase, in AC the product as `r` rounds it. -/
def exactPowers (r : Rounding ℚ) (m : MeterSimulator) : List ℚ :=
  match m.currentOutType with
  | .ac => List.zipWith (fun voltage consumption => r.round (voltage * consumption)) m.voltages m.consumptions
  | .dc => m.consumptions

/-- The energy of half a second at these powers, in mWh. -/
def exactMwh (powers : List ℚ) : ℚ := (powers.map (· * 500 / 3600)).sum

/-- **The energy of one update.** -/
def exactUpdate (r : Rounding ℚ) (m : MeterSimulator) : ℚ := exactMwh (m.exactPowers r)

def exactCall (r : Rounding ℚ) (m : MeterSimulator) (c : MeterCall) : ℚ := if c.isUpdate then m.exactUpdate r else 0

/-- **The energy of all updates of a run**, not a fraction of it dropped. -/
def exactEnergy (r : Rounding ℚ) : MeterSimulator → List MeterCall → ℚ
  | _, [] => 0
  | m, c :: calls => m.exactCall r c + exactEnergy r (m.call c) calls

/-- **A product rounded up makes a mWh that the exact one does not**: 230 V and 10.0173912 A, both single-precision
numbers, are 2304 W for the meter. -/
theorem register_over_exact_energy :
    let calls := [MeterCall.setVoltages [230], .setConsumptions [2625999 / 262144], .update]
    let m := create .single 1 .ac 1
    (∀ c ∈ calls, ∀ x ∈ c.values, 0 ≤ x ∧ Rounding.single.Holds x) ∧
      (m.run calls).energy = 320 ∧ m.exactEnergy (.exact ℚ) calls < 320 := by
  intro calls m
  exact ⟨by decide +kernel, by decide +kernel, by decide +kernel⟩

/-- The energy of a phase, as an update computes it. -/
def phaseMwh (p : ℚ) : ℕ := toUnsigned ((truncate p * updatePeriod).tdiv 3600)

/-! ## One phase -/

theorem phaseMwh_of_nonneg {p : ℚ} (hp : 0 ≤ p) (h : p * 500 / 3600 < 2 ^ 32) : (phaseMwh p : ℤ) = ⌊p⌋ * 500 / 3600 := by
  have hf : 0 ≤ ⌊p⌋ := Int.floor_nonneg.2 hp
  have hd : (⌊p⌋ * updatePeriod).tdiv 3600 = ⌊p⌋ * 500 / 3600 :=
    Int.tdiv_eq_ediv_of_nonneg (by show 0 ≤ ⌊p⌋ * 500; omega)
  have hlt : ⌊p⌋ * 500 / 3600 < 2 ^ 32 := by
    have hq : (⌊p⌋ : ℚ) * 500 < 2 ^ 32 * 3600 := by
      have hl : (⌊p⌋ : ℚ) ≤ p := Int.floor_le p
      rw [div_lt_iff₀ (by norm_num)] at h
      linarith
    have hi : ⌊p⌋ * 500 < 2 ^ 32 * 3600 := by exact_mod_cast hq
    omega
  unfold phaseMwh toUnsigned
  rw [truncate_of_nonneg hp, hd, Int.toNat_of_nonneg (by omega)]
  omega

/-- **A phase loses at most 10 / 9 mWh.** -/
theorem phase_loss {p : ℚ} (hp : 0 ≤ p) (h : p * 500 / 3600 < 2 ^ 32) :
    (phaseMwh p : ℚ) ≤ p * 500 / 3600 ∧ p * 500 / 3600 - phaseMwh p ≤ 10 / 9 := by
  have he := phaseMwh_of_nonneg hp h
  have hl : (⌊p⌋ : ℚ) ≤ p := Int.floor_le p
  have hu : p < ⌊p⌋ + 1 := Int.lt_floor_add_one p
  -- the remainder of `500 * n` is a multiple of a hundred
  have h₁ : (phaseMwh p : ℤ) * 3600 ≤ ⌊p⌋ * 500 := by omega
  have h₂ : ⌊p⌋ * 500 ≤ (phaseMwh p : ℤ) * 3600 + 3500 := by omega
  have q₁ : (phaseMwh p : ℚ) * 3600 ≤ ⌊p⌋ * 500 := by exact_mod_cast h₁
  have q₂ : (⌊p⌋ : ℚ) * 500 ≤ phaseMwh p * 3600 + 3500 := by exact_mod_cast h₂
  constructor <;> linarith

/-! ## One update -/

theorem exactMwh_nonneg {powers : List ℚ} (hp : ∀ p ∈ powers, 0 ≤ p) : 0 ≤ exactMwh powers := by
  apply List.sum_nonneg
  intro x hx
  obtain ⟨p, hm, rfl⟩ := List.mem_map.1 hx
  have h := hp p hm
  positivity

/-- **An update whose energy is below 2^32 mWh does not wrap**, and loses at most 10 / 9 mWh a phase. -/
theorem foldl_loss {powers : List ℚ} (hp : ∀ p ∈ powers, 0 ≤ p) (acc : ℕ)
    (h : acc + exactMwh powers < 2 ^ 32) :
    let total : ℕ := powers.foldl (fun acc p => (acc + phaseMwh p) % 2 ^ 32) acc
    (total : ℚ) ≤ acc + exactMwh powers ∧ acc + exactMwh powers - total ≤ powers.length * (10 / 9) := by
  induction powers generalizing acc with
  | nil => simp [exactMwh]
  | cons p powers ih =>
    have hrest := fun q hq => hp q (List.mem_cons_of_mem p hq)
    have hs := exactMwh_nonneg hrest
    have hp₀ := hp p List.mem_cons_self
    have hcons : exactMwh (p :: powers) = p * 500 / 3600 + exactMwh powers := by simp [exactMwh]
    rw [hcons] at h ⊢
    have hacc : (0 : ℚ) ≤ acc := Nat.cast_nonneg acc
    obtain ⟨hle, hloss⟩ := phase_loss hp₀ (by linarith)
    have hlt : acc + phaseMwh p < 2 ^ 32 := by
      have hq : ((acc + phaseMwh p : ℕ) : ℚ) < 2 ^ 32 := by
        push_cast
        linarith
      exact_mod_cast hq
    have hi := ih hrest (acc + phaseMwh p) (by push_cast; linarith)
    dsimp only at hi ⊢
    rw [List.foldl_cons, Nat.mod_eq_of_lt hlt, List.length_cons]
    push_cast at hi ⊢
    exact ⟨by linarith [hi.1], by linarith [hi.2]⟩

/-! ## The meter -/

/-- **A meter of `P` phases that holds no negative value**, and rounds as `r` does. -/
structure Sound (r : Rounding ℚ) (P : ℕ) (m : MeterSimulator) : Prop where
  arith : m.arith = r
  phases : m.phasesCount = P
  single : m.currentOutType = .dc → P = 1
  voltages : ∀ v ∈ m.voltages, 0 ≤ v
  consumptions : ∀ x ∈ m.consumptions, 0 ≤ x

theorem mem_overwrite {x : ℚ} : ∀ {old new : List ℚ}, x ∈ overwrite old new → x ∈ old ∨ x ∈ new
  | [], _, h => .inl h
  | _ :: _, [], h => .inl h
  | o :: old, n :: new, h => by
    rcases List.mem_cons.1 h with rfl | h
    · exact .inr List.mem_cons_self
    · exact (mem_overwrite h).imp (List.mem_cons_of_mem o) (List.mem_cons_of_mem n)

namespace Sound

variable {r : Rounding ℚ} {P : ℕ} {m : MeterSimulator}

theorem create {type : ConnectorType} (h : type = .dc → P = 1) (powerFactor : ℚ) :
    Sound r P (.create r P type powerFactor) :=
  ⟨rfl, rfl, h, fun _ hv => (List.eq_of_mem_replicate hv).ge, fun _ hx => (List.eq_of_mem_replicate hx).ge⟩

theorem call (hm : Sound r P m) {c : MeterCall} (hc : ∀ x ∈ c.values, 0 ≤ x) : Sound r P (m.call c) := by
  cases c with
  | setVoltages l =>
    exact ⟨hm.arith, hm.phases, hm.single, fun v hv => (mem_overwrite hv).elim (hm.voltages v) (hc v), hm.consumptions⟩
  | setConsumptions l =>
    exact ⟨hm.arith, hm.phases, hm.single, hm.voltages, fun x hx => (mem_overwrite hx).elim (hm.consumptions x) (hc x)⟩
  | update => exact ⟨hm.arith, hm.phases, hm.single, hm.voltages, hm.consumptions⟩

theorem run (hm : Sound r P m) {calls : List MeterCall} (hc : ∀ c ∈ calls, ∀ x ∈ c.values, 0 ≤ x) : Sound r P (m.run calls) :=
  List.foldlRecOn (motive := Sound r P) calls _ hm (fun _ h c hmem => h.call (hc c hmem))

/-- The powers an update computes are those of the phases: in DC there is only one. -/
theorem nextPowers (hm : Sound r P m) : m.nextPowers = m.exactPowers r := by
  unfold MeterSimulator.nextPowers exactPowers
  cases ht : m.currentOutType with
  | ac => simp only [hm.arith]
  | dc =>
    have hl : m.powers.length = 1 := by rw [m.powers_length, hm.phases, hm.single ht]
    have hx : m.consumptions.length = 1 := by rw [m.consumptions_length, hm.phases, hm.single ht]
    obtain ⟨p, hp⟩ := List.length_eq_one_iff.1 hl
    obtain ⟨x, hx⟩ := List.length_eq_one_iff.1 hx
    simp [hp, hx, overwrite]

theorem exactPowers_nonneg (hm : Sound r P m) : ∀ p ∈ m.exactPowers r, 0 ≤ p := by
  unfold exactPowers
  cases m.currentOutType with
  | ac =>
    intro p hp
    obtain ⟨i, hi, rfl⟩ := List.mem_iff_getElem.1 hp
    rw [List.getElem_zipWith]
    exact r.round_nonneg (mul_nonneg (hm.voltages _ (List.getElem_mem _)) (hm.consumptions _ (List.getElem_mem _)))
  | dc => exact hm.consumptions

theorem length_exactPowers (hm : Sound r P m) : (m.exactPowers r).length = P := by
  rw [← hm.nextPowers, length_nextPowers, hm.phases]

/-- **One call** raises the register by the energy of its update, up to 10 / 9 mWh a phase. -/
theorem call_loss (hm : Sound r P m) {c : MeterCall} (hb : c.isUpdate = true → m.exactUpdate r < 2 ^ 32) :
    m.energy ≤ (m.call c).energy ∧ 0 ≤ m.exactCall r c - ((m.call c).energy - m.energy : ℤ) ∧
      m.exactCall r c - ((m.call c).energy - m.energy : ℤ) ≤ (if c.isUpdate then 1 else 0 : ℕ) * P * (10 / 9) := by
  cases c with
  | setVoltages l => simp [MeterSimulator.call, setVoltages, exactCall, MeterCall.isUpdate]
  | setConsumptions l => simp [MeterSimulator.call, setConsumptions, exactCall, MeterCall.isUpdate]
  | update =>
    have hl := foldl_loss hm.exactPowers_nonneg 0 (by rw [Nat.cast_zero, zero_add]; exact hb rfl)
    have hu : (m.call .update).energy = m.energy + energyMwh (m.exactPowers r) := by
      rw [← hm.nextPowers]
      rfl
    have hd : (m.call .update).energy - m.energy = (energyMwh (m.exactPowers r) : ℤ) := by omega
    have he : m.exactCall r .update = exactMwh (m.exactPowers r) := rfl
    rw [hd, Int.cast_natCast, he]
    rw [Nat.cast_zero, zero_add, hm.length_exactPowers] at hl
    refine ⟨by omega, sub_nonneg.2 hl.1, ?_⟩
    rw [MeterCall.isUpdate, if_pos rfl, Nat.cast_one, one_mul]
    exact hl.2

end Sound

/-! ## Runs -/

/-- Every update of the run has less than 2^32 mWh. -/
def Below (r : Rounding ℚ) (m : MeterSimulator) (calls : List MeterCall) : Prop :=
  ∀ before after, calls = before ++ .update :: after → (m.run before).exactUpdate r < 2 ^ 32

theorem below_cons_iff {r : Rounding ℚ} {m : MeterSimulator} {c : MeterCall} {calls : List MeterCall} :
    m.Below r (c :: calls) ↔ (c.isUpdate = true → m.exactUpdate r < 2 ^ 32) ∧ (m.call c).Below r calls := by
  constructor
  · intro h
    refine ⟨fun hu => h [] calls ?_, fun before after he => h (c :: before) after (by rw [he, List.cons_append])⟩
    cases c with
    | update => rfl
    | setVoltages l => cases hu
    | setConsumptions l => cases hu
  · rintro ⟨hc, h⟩ before after he
    cases before with
    | nil =>
      obtain ⟨rfl, rfl⟩ := List.cons.inj he
      exact hc rfl
    | cons d before =>
      obtain ⟨rfl, rfl⟩ := List.cons.inj he
      exact h before after rfl

instance decidableBelow (r : Rounding ℚ) : ∀ (m : MeterSimulator) (calls : List MeterCall), Decidable (m.Below r calls)
  | _, [] => isTrue (fun before after he => by simp at he)
  | m, c :: calls =>
    have := decidableBelow r (m.call c) calls
    decidable_of_iff _ below_cons_iff.symm

/-- **A run's losses** are those of its updates. -/
theorem Sound.run_loss {r : Rounding ℚ} {P : ℕ} {m : MeterSimulator} (hm : Sound r P m) {calls : List MeterCall}
    (hc : ∀ c ∈ calls, ∀ x ∈ c.values, 0 ≤ x) (hb : m.Below r calls) : m.energy ≤ (m.run calls).energy ∧
      0 ≤ m.exactEnergy r calls - ((m.run calls).energy - m.energy : ℤ) ∧
      m.exactEnergy r calls - ((m.run calls).energy - m.energy : ℤ) ≤ calls.countP (·.isUpdate) * P * (10 / 9) := by
  induction calls generalizing m with
  | nil =>
    have hr : m.run [] = m := rfl
    simp [hr, exactEnergy]
  | cons c calls ih =>
    obtain ⟨hb₀, hb⟩ := below_cons_iff.1 hb
    obtain ⟨h₁, h₂, h₃⟩ := ih (hm.call (hc c List.mem_cons_self)) (fun d hd => hc d (List.mem_cons_of_mem c hd)) hb
    obtain ⟨u₁, u₂, u₃⟩ := hm.call_loss hb₀
    have hr : m.run (c :: calls) = (m.call c).run calls := rfl
    rw [hr, exactEnergy, List.countP_cons]
    push_cast at h₂ h₃ u₂ u₃ ⊢
    exact ⟨u₁.trans h₁, by linarith, by linarith⟩

/-- **The register never decreases, and is at most `n * P * 10 / 9` mWh below the energy of the `n` updates**, and never
above it; `getEnergy` drops the fraction of its Wh. -/
theorem meter_accuracy (r : Rounding ℚ) (P : ℕ) (type : ConnectorType) (powerFactor : ℚ) (hP : type = .dc → P = 1)
    (calls : List MeterCall) (hc : ∀ c ∈ calls, ∀ x ∈ c.values, 0 ≤ x) (hb : (create r P type powerFactor).Below r calls) :
    let m := create r P type powerFactor
    (∀ before after, calls = before ++ after → (m.run before).energy ≤ (m.run calls).energy) ∧
      0 ≤ m.exactEnergy r calls - (m.run calls).energy ∧
      m.exactEnergy r calls - (m.run calls).energy ≤ calls.countP (·.isUpdate) * P * (10 / 9) ∧
      (m.run calls).getEnergy = ⌊((m.run calls).energy : ℚ) / 1000⌋ := by
  intro m
  have hm : Sound r P m := .create hP powerFactor
  obtain ⟨h₁, h₂, h₃⟩ := hm.run_loss hc hb
  have h₀ : m.energy = 0 := rfl
  rw [h₀, sub_zero] at h₂ h₃
  refine ⟨fun before after he => ?_, h₂, h₃, ?_⟩
  · subst he
    have hr : m.run (before ++ after) = (m.run before).run after := List.foldl_append
    rw [hr]
    have hbefore := hm.run (fun c hmem => hc c (List.mem_append_left after hmem))
    refine (hbefore.run_loss (fun c hmem => hc c (List.mem_append_right before hmem)) (fun pre post hs => ?_)).1
    have hrun : (m.run before).run pre = m.run (before ++ pre) := List.foldl_append.symm
    rw [hrun]
    exact hb (before ++ pre) post (by rw [hs, List.append_assoc])
  · unfold getEnergy
    rw [Int.tdiv_eq_ediv_of_nonneg (h₀ ▸ h₁)]
    exact_mod_cast (Rat.floor_intCast_div_natCast (m.run calls).energy 1000).symm

/-- Two phases, whose current changes between two updates. -/
def sampleCalls : List MeterCall :=
  [.setVoltages [230, 231], .setConsumptions [10, 21 / 4], .update, .setConsumptions [0, 7], .update]

theorem meter_accuracy_sample :
    let m := create .single 2 .ac 1
    (∀ before after, sampleCalls = before ++ after → (m.run before).energy ≤ (m.run sampleCalls).energy) ∧
      0 ≤ m.exactEnergy .single sampleCalls - (m.run sampleCalls).energy ∧
      m.exactEnergy .single sampleCalls - (m.run sampleCalls).energy ≤ sampleCalls.countP (·.isUpdate) * (2 : ℕ) * (10 / 9) ∧
      (m.run sampleCalls).getEnergy = ⌊((m.run sampleCalls).energy : ℚ) / 1000⌋ :=
  meter_accuracy .single 2 .ac 1 (by decide) sampleCalls (by decide +kernel) (by decide +kernel)

end MeterSimulator

end Simu
