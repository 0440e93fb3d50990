import Mathlib.Tactic.Linarith
import Mathlib.Tactic.Positivity
import OcppSimu.Consumption
import OcppSimu.Setpoints
/-!
# Energy — what the updates add to the register

An update adds the energy of half a second to the register, in mWh, and adds it as an unsigned number: a phase that gives
power back does not lower the register, it raises it by almost 2^32.  The setpoints keep every phase under the rating,
but nothing keeps a car's demand or the capacity of its cable from being negative, and the product of the voltage and the
rating may be rounded up.  The register stays within the ratings in every run in which no phase of a charging connector
gives back 8 W or more, which is what one mWh takes, or is worth a whole mWh more than the rating (`energy_bounded`).
-/
namespace Simu

open Hist Script View

/-! ## The register -/

def Entry.updates : Entry → Bool
  | .event (.meterUpdate _) => true
  | _ => false

/-- **The meter that a connector's history makes of `m`.** -/
def meterAt (m : MeterSimulator) : List Entry → MeterSimulator
  | [] => m
  | .setConsumptions _ x :: h => (meterAt m h).setConsumptions x
  | .event (.meterUpdate _) :: h => (meterAt m h).update
  | _ :: h => meterAt m h

/-- The meter that `start` creates. -/
def firstMeter (cp : SimulatedChargePoint) : MeterSimulator :=
  (MeterSimulator.create cp.arith cp.nbPhases cp.chargePointType cp.powerFactor).setVoltages
    (List.replicate cp.nbPhases cp.operatingVoltage)

/-- What a consumption is in W. -/
def SimulatedChargePoint.power (cp : SimulatedChargePoint) (x : ℚ) : ℚ :=
  match cp.chargePointType with
  | .ac => cp.arith.round (cp.operatingVoltage * x)
  | .dc => x

/-- The whole mWh of half a second at a consumption. -/
def SimulatedChargePoint.mwh (cp : SimulatedChargePoint) (x : ℚ) : ℕ := ⌊cp.power x⌋₊ * 500 / 3600

/-- The energy of half a second at the rating of one phase, in mWh. -/
def SimulatedChargePoint.phaseBound (cp : SimulatedChargePoint) : ℚ :=
  match cp.chargePointType with
  | .ac => cp.maxConnectorSetpoint * cp.operatingVoltage * 500 / 3600
  | .dc => cp.maxConnectorSetpoint * 500 / 3600

/-- The energy of one update at the ratings, in mWh. -/
def SimulatedChargePoint.energyBound (cp : SimulatedChargePoint) : ℚ :=
  match cp.chargePointType with
  | .ac => cp.nbPhases * cp.maxConnectorSetpoint * cp.operatingVoltage * 500 / 3600
  | .dc => cp.maxConnectorSetpoint * 500 / 3600

/-- What an update adds to the register. -/
def MeterSimulator.raise (m : MeterSimulator) : ℤ := m.update.energy - m.energy

/-- **Each update raised the register by at least 0 and at most what the ratings give.** -/
def EnergyBounded (cp : SimulatedChargePoint) (m : MeterSimulator) (h : List Entry) : Prop :=
  Always (fun e h => e.updates = true → 0 ≤ (meterAt m h).raise ∧ ((meterAt m h).raise : ℚ) ≤ cp.energyBound) h

instance (cp : SimulatedChargePoint) (m : MeterSimulator) (h : List Entry) : Decidable (EnergyBounded cp m h) :=
  Hist.decidableAlways _ h

/-- The limits that `getSetpoint` returns are not negative. -/
def Entry.limitsNonneg : Entry → Bool
  | .getSetpoint _ _ (some (chargePoint, connector)) => (chargePoint.all (0 ≤ ·)) && (connector.all (0 ≤ ·))
  | _ => true

/-- **No phase of a charging connector gives power back**, 8 W or more: not by the demand just copied, and not by the
cable that was known when the setpoints were computed.  And none is rounded up to a mWh that the rating does not give. -/
def Entry.forward (cp : SimulatedChargePoint) : Entry → Bool
  | .updateData _ d x => decide (d.status = .charging → ∀ l ∈ x.phases cp.nbPhases,
      -8 < cp.power l ∧ -8 < cp.power ⌊d.carCableCapacity⌋ ∧ (cp.mwh (min l cp.maxConnectorSetpoint) : ℚ) ≤ cp.phaseBound)
  | _ => true

def Forward (cp : SimulatedChargePoint) (h : List Entry) : Prop := Always (fun e _ => e.forward cp = true) h

instance (cp : SimulatedChargePoint) (h : List Entry) : Decidable (Forward cp h) := Hist.decidableAlways _ h

/-- A car that gives back 10 A on its first phase while it charges, and one update of the meter. -/
def sampleBackward : List Tick := script 160
  [(0, .carMessage 1 { cable := some 10, consumptionL1 := some (-10) }), (0, .idTagMessage 1 "A"), (150, .meterUpdate 1)]

/-- **A negative demand raises the register by almost 2^32 mWh.** -/
theorem energy_of_backward_power :
    let w := afterLoop .sample 7 (.start .sample .idle) sampleBackward
    (∀ e ∈ w.log, e.limitsNonneg = true) ∧ (w.meters 1).energy = 2 ^ 32 - 319 ∧
      SimulatedChargePoint.energyBound .sample = 3066 + 2 / 3 ∧
      ¬EnergyBounded .sample (firstMeter .sample) (w.history 1) := by
  intro w
  exact ⟨by decide +kernel, by decide +kernel, by decide +kernel, by decide +kernel⟩

/-! ## One update -/

namespace MeterSimulator

theorem truncate_of_nonneg {q : ℚ} (h : 0 ≤ q) : truncate q = ⌊q⌋ := by
  have hn : 0 ≤ q.num := Rat.num_nonneg.2 h
  unfold truncate
  rw [Int.tdiv_eq_ediv_of_nonneg hn, Rat.floor_def']

theorem truncate_of_nonpos {q : ℚ} (h : q ≤ 0) : truncate q = -⌊-q⌋ := by
  rw [← truncate_of_nonneg (neg_nonneg.2 h)]
  unfold truncate
  rw [Rat.num_neg_eq_neg_num, Rat.den_neg_eq_den, Int.neg_tdiv, neg_neg]

theorem toUnsigned_le {i : ℤ} (h : 0 ≤ i) : (toUnsigned i : ℤ) ≤ i := by
  unfold toUnsigned
  rw [Int.toNat_of_nonneg (by omega)]
  omega

/-- **A phase adds at most the whole mWh of its power**, and nothing while it gives back less than 8 W. -/
theorem toUnsigned_energy_le {p : ℚ} (h : -8 < p) :
    toUnsigned ((truncate p * updatePeriod).tdiv 3600) ≤ ⌊p⌋₊ * 500 / 3600 := by
  rcases le_total 0 p with hp | hp
  · have hf : (⌊p⌋₊ : ℤ) = ⌊p⌋ := Int.natCast_floor_eq_floor hp
    have hd : (⌊p⌋ * updatePeriod).tdiv 3600 = ⌊p⌋ * 500 / 3600 :=
      Int.tdiv_eq_ediv_of_nonneg (by show 0 ≤ ⌊p⌋ * 500; omega)
    rw [truncate_of_nonneg hp, hd]
    have hle := toUnsigned_le (i := ⌊p⌋ * 500 / 3600) (by omega)
    omega
  · have hf₀ : 0 ≤ ⌊-p⌋ := Int.floor_nonneg.2 (by linarith)
    have hf : ⌊-p⌋ < 8 := Int.floor_lt.2 (by push_cast; linarith)
    have hz : (-⌊-p⌋ * updatePeriod).tdiv 3600 = 0 := by
      have hm : -⌊-p⌋ * updatePeriod = -(⌊-p⌋ * 500) := by unfold updatePeriod; ring
      rw [hm, Int.neg_tdiv, Int.tdiv_eq_zero_of_lt (by omega) (by omega), neg_zero]
    rw [truncate_of_nonpos hp, hz]
    exact Nat.zero_le _

theorem foldl_le_of_step {add : ℕ → ℚ → ℕ} {r : ℚ} (powers : List ℚ) (h : ∀ acc, ∀ p ∈ powers, (add acc p : ℚ) ≤ acc + r)
    (acc : ℕ) : ((powers.foldl add acc : ℕ) : ℚ) ≤ acc + powers.length * r := by
  induction powers generalizing acc with
  | nil => simp
  | cons p powers ih =>
    have hp := h acc p List.mem_cons_self
    have hi := ih (fun acc q hq => h acc q (List.mem_cons_of_mem p hq)) (add acc p)
    rw [List.foldl_cons, List.length_cons]
    push_cast
    linarith

/-- Reducing the sum by 2^32 only lowers it. -/
theorem energyMwh_le {b : ℚ} (powers : List ℚ) (h : ∀ p ∈ powers, -8 < p ∧ ((⌊p⌋₊ * 500 / 3600 : ℕ) : ℚ) ≤ b) :
    (energyMwh powers : ℚ) ≤ powers.length * b := by
  have hstep : ∀ (acc : ℕ), ∀ p ∈ powers,
      (((acc + toUnsigned ((truncate p * updatePeriod).tdiv 3600)) % 2 ^ 32 : ℕ) : ℚ) ≤ acc + b := by
    intro acc p hp
    have hm : (acc + toUnsigned ((truncate p * updatePeriod).tdiv 3600)) % 2 ^ 32 ≤ acc + ⌊p⌋₊ * 500 / 3600 :=
      (Nat.mod_le _ _).trans (Nat.add_le_add_left (toUnsigned_energy_le (h p hp).1) acc)
    calc (((acc + toUnsigned ((truncate p * updatePeriod).tdiv 3600)) % 2 ^ 32 : ℕ) : ℚ)
        ≤ ((acc + ⌊p⌋₊ * 500 / 3600 : ℕ) : ℚ) := by exact_mod_cast hm
      _ = acc + ((⌊p⌋₊ * 500 / 3600 : ℕ) : ℚ) := Nat.cast_add _ _
      _ ≤ acc + b := by linarith [(h p hp).2]
  have hfold := foldl_le_of_step powers hstep 0
  rwa [Nat.cast_zero, zero_add] at hfold

end MeterSimulator

/-- A consumption gives back less than 8 W, and its whole mWh are within the rating. -/
def SimulatedChargePoint.Bears (cp : SimulatedChargePoint) (x : ℚ) : Prop :=
  -8 < cp.power x ∧ (cp.mwh x : ℚ) ≤ cp.phaseBound

/-- **The meter is the charge point's, and bears what it is set to.** -/
structure Fitted (cp : SimulatedChargePoint) (m : MeterSimulator) : Prop where
  arith : m.arith = cp.arith
  phases : m.phasesCount = cp.nbPhases
  type : m.currentOutType = cp.chargePointType
  voltages : ∀ v ∈ m.voltages, v = cp.operatingVoltage
  consumptions : ∀ x ∈ m.consumptions, cp.Bears x

/-- What the constructor sees to. -/
def SimulatedChargePoint.Constructed (cp : SimulatedChargePoint) : Prop := cp.chargePointType = .dc → cp.nbPhases = 1

theorem SimulatedChargePoint.constructed (cp : SimulatedChargePoint) : cp.construct.Constructed := by
  intro h
  unfold construct at h ⊢
  split at h
  · rfl
  · rename_i ht
    rw [ht] at h
    cases h

section
variable {cp : SimulatedChargePoint}

theorem power_mono (hv : 0 ≤ cp.operatingVoltage) {x y : ℚ} (h : x ≤ y) : cp.power x ≤ cp.power y := by
  unfold SimulatedChargePoint.power
  split
  · exact cp.arith.mono (mul_le_mul_of_nonneg_left h hv)
  · exact h

theorem power_zero : cp.power 0 = 0 := by
  unfold SimulatedChargePoint.power
  split
  · rw [mul_zero, cp.arith.zero]
  · rfl

theorem mwh_mono (hv : 0 ≤ cp.operatingVoltage) {x y : ℚ} (h : x ≤ y) : cp.mwh x ≤ cp.mwh y :=
  Nat.div_le_div_right (Nat.mul_le_mul_right 500 (Nat.floor_mono (power_mono hv h)))

theorem mwh_zero : cp.mwh 0 = 0 := by
  unfold SimulatedChargePoint.mwh
  rw [power_zero, Nat.floor_zero]

theorem phaseBound_nonneg (hv : 0 ≤ cp.operatingVoltage) : 0 ≤ cp.phaseBound := by
  unfold SimulatedChargePoint.phaseBound
  split <;> positivity

theorem energyBound_eq (hcp : cp.Constructed) : cp.energyBound = cp.nbPhases * cp.phaseBound := by
  unfold SimulatedChargePoint.energyBound SimulatedChargePoint.phaseBound
  cases ht : cp.chargePointType with
  | ac => ring
  | dc =>
    rw [hcp ht]
    push_cast
    ring

theorem bears_zero (hv : 0 ≤ cp.operatingVoltage) : cp.Bears 0 := by
  refine ⟨by rw [power_zero]; norm_num, ?_⟩
  rw [mwh_zero, Nat.cast_zero]
  exact phaseBound_nonneg hv

theorem Fitted.powers {m : MeterSimulator} (hm : Fitted cp m) (hcp : cp.Constructed) :
    ∀ p ∈ m.nextPowers, -8 < p ∧ ((⌊p⌋₊ * 500 / 3600 : ℕ) : ℚ) ≤ cp.phaseBound := by
  have hb := hm.consumptions
  unfold SimulatedChargePoint.Bears SimulatedChargePoint.mwh SimulatedChargePoint.power at hb
  unfold MeterSimulator.nextPowers
  rw [hm.type]
  intro p hp
  cases ht : cp.chargePointType with
  | ac =>
    rw [ht] at hb hp
    obtain ⟨i, hi, rfl⟩ := List.mem_iff_getElem.1 hp
    rw [List.getElem_zipWith, hm.voltages _ (List.getElem_mem _)]
    simp only [hm.arith]
    exact hb _ (List.getElem_mem _)
  | dc =>
    rw [ht] at hb hp
    have hn : m.phasesCount = 1 := hm.phases.trans (hcp ht)
    obtain ⟨q, hq⟩ := List.length_eq_one_iff.1 (m.powers_length.trans hn)
    obtain ⟨x, hx⟩ := List.length_eq_one_iff.1 (m.consumptions_length.trans hn)
    have hpx : p = x := by simpa [hq, hx, overwrite] using hp
    rw [hpx]
    exact hb x (by rw [hx]; exact List.mem_singleton_self x)

/-- **A fitted meter adds at most what the ratings give.** -/
theorem Fitted.raise {m : MeterSimulator} (hm : Fitted cp m) (hcp : cp.Constructed) :
    0 ≤ m.raise ∧ (m.raise : ℚ) ≤ cp.energyBound := by
  have hr : m.raise = MeterSimulator.energyMwh m.nextPowers := by
    unfold MeterSimulator.raise MeterSimulator.update
    exact add_sub_cancel_left _ _
  have hle := MeterSimulator.energyMwh_le m.nextPowers (hm.powers hcp)
  rw [m.length_nextPowers, hm.phases] at hle
  rw [hr, energyBound_eq hcp]
  exact ⟨Int.natCast_nonneg _, by exact_mod_cast hle⟩

/-! ## The invariant -/

/-- The entries that neither read nor write a meter, and copy no data. -/
def Entry.inert : Entry → Bool
  | .event (.meterUpdate _) | .setConsumptions _ _ | .updateData _ _ _ => false
  | _ => true

theorem meterAt_cons {e : Entry} (he : e.inert = true) (m : MeterSimulator) (h : List Entry) :
    meterAt m (e :: h) = meterAt m h := by
  cases e with
  | event x => cases x <;> first | rfl | cases he
  | _ => first | rfl | cases he

theorem updates_of_inert {e : Entry} (he : e.inert = true) : e.updates = false := by
  cases e with
  | event x => cases x <;> first | rfl | cases he
  | _ => rfl

/-- **The meter is what the history made of `m`, the updates were bounded, and the limit of the connector is within its
rating.** -/
structure Metering (cp : SimulatedChargePoint) (m : MeterSimulator) (d : ConnectorData) (k : MeterSimulator)
    (h : List Entry) : Prop where
  meter : k = meterAt m h
  fitted : Fitted cp k
  bounded : EnergyBounded cp m h
  rating : d.maxSetpoint = cp.maxConnectorSetpoint
  limit : 0 ≤ d.ocppSetpoint ∧ d.ocppSetpoint ≤ cp.maxConnectorSetpoint

/-- The invariant, and `R` of the record, as long as no phase gives power back. -/
def Under (cp : SimulatedChargePoint) (m : MeterSimulator) (R : ConnectorData → Prop) (d : ConnectorData)
    (k : MeterSimulator) (h : List Entry) : Prop :=
  Forward cp h → Metering cp m d k h ∧ R d

abbrev UnderAt (cp : SimulatedChargePoint) (m : MeterSimulator) (R : ConnectorData → Prop) (v : View) : Prop :=
  Under cp m R v.connector v.meter v.history

section
variable {m k : MeterSimulator} {R : ConnectorData → Prop} {c : Nat} {d : ConnectorData} {h : List Entry}

namespace Under

theorem noted {e : Entry} (he : e.inert = true) (hu : Under cp m R d k h) : Under cp m R d k (e :: h) := by
  intro hf
  obtain ⟨hm, hr⟩ := hu hf.tail
  refine ⟨⟨hm.meter.trans (meterAt_cons he m h).symm, hm.fitted, .cons (fun hup => ?_) hm.bounded, hm.rating, hm.limit⟩, hr⟩
  rw [updates_of_inert he] at hup
  cases hup

/-- The record changes, and its limit stays within the rating. -/
theorem limited {f : ConnectorData} {S : ConnectorData → Prop} (h₁ : f.maxSetpoint = d.maxSetpoint)
    (h₂ : Metering cp m d k h → R d → 0 ≤ f.ocppSetpoint ∧ f.ocppSetpoint ≤ cp.maxConnectorSetpoint)
    (h₃ : Metering cp m d k h → R d → S f) (hu : Under cp m R d k h) : Under cp m S f k h := by
  intro hf
  obtain ⟨hm, hr⟩ := hu hf
  exact ⟨⟨hm.meter, hm.fitted, hm.bounded, h₁.trans hm.rating, h₂ hm hr⟩, h₃ hm hr⟩

theorem own {f : ConnectorData} (h₁ : f.maxSetpoint = d.maxSetpoint) (h₂ : f.ocppSetpoint = d.ocppSetpoint)
    (h₃ : R d → R f) (hu : Under cp m R d k h) : Under cp m R f k h := by
  refine limited h₁ (fun hm _ => ?_) (fun _ => h₃) hu
  rw [h₂]
  exact hm.limit

/-- **An update adds what a fitted meter adds.** -/
theorem updated (hcp : cp.Constructed) (hu : Under cp m R d k h) :
    Under cp m R d k.update (.event (.meterUpdate c) :: h) := by
  intro hf
  obtain ⟨hm, hr⟩ := hu hf.tail
  have hfit : Fitted cp k.update :=
    ⟨hm.fitted.arith, hm.fitted.phases, hm.fitted.type, hm.fitted.voltages, hm.fitted.consumptions⟩
  refine ⟨⟨congrArg MeterSimulator.update hm.meter, hfit, .cons (fun _ => ?_) hm.bounded, hm.rating, hm.limit⟩, hr⟩
  rw [← hm.meter]
  exact hm.fitted.raise hcp

section
variable (hcp : cp.Constructed) (hR : Unassigned R)
include hcp hR

theorem closed : Closed c (UnderAt cp m R) := by
  intro v v' he hu
  cases he with
  | availability a =>
    have hr := hR v.connector v.connector.idTag v.connector.parentIdTag v.connector.preparingStart
      (changeAvailability c v.connector a).2
    exact noted rfl (own (d := v.connector) rfl rfl hr hu)
  | meterUpdate => exact updated hcp hu
  | _ => exact noted rfl hu

theorem plain : Plain c (UnderAt cp m R) where
  env := closed hcp hR
  notified _ _ hu := noted rfl hu
  asked _ _ hu := noted rfl hu
  timed v now hu := own (d := v.connector) rfl rfl
    (hR v.connector v.connector.idTag v.connector.parentIdTag now v.connector.unavailablePending) hu
  started _ _ hu _ _ := noted rfl hu
  refused v _ hu _ _ := own (d := v.connector) rfl rfl
    (hR v.connector "" "" v.connector.preparingStart v.connector.unavailablePending) (noted rfl hu)

theorem tagFree : TagFree c (UnderAt cp m R) where
  env := closed hcp hR
  noted _ e he hu := noted (by cases e <;> first | rfl | cases he) hu
  answered _ _ _ hu := noted rfl hu
  tagged v x y hu := own (d := v.connector) rfl rfl
    (hR v.connector x y v.connector.preparingStart v.connector.unavailablePending) hu
  badge _ hu := noted rfl hu
  start _ hu := noted rfl hu

theorem stopFree : StopFree c (UnderAt cp m R) where
  env := closed hcp hR
  noted _ e he hu := noted (by cases e <;> first | rfl | cases he) hu
  badge _ hu := noted rfl hu
  stop _ hu := noted rfl hu
  stopped _ _ _ hu := noted rfl hu

theorem nextStatus : SpecAt c (UnderAt cp m R) (nextStatus cp c) (fun _ => UnderAt cp m R) :=
  (plain hcp hR).nextStatus (isValidIdTagPresent_keeps (tagFree hcp hR) false)
    (isTransactionStopCondition_keeps (stopFree hcp hR))

end

theorem updateConnectorStatus (hcp : cp.Constructed) :
    SpecAt c (UnderAt cp m (fun _ => True)) (updateConnectorStatus cp c) (fun _ => UnderAt cp m (fun _ => True)) := by
  have entryFree : EntryFree c (UnderAt cp m (fun _ => True)) :=
    { env := closed hcp (fun _ _ _ _ _ h => h), cleared := fun v hu => own (d := v.connector) rfl rfl id hu
      badge := fun _ hu => noted rfl hu, timed := fun v _ hu => own (d := v.connector) rfl rfl id hu }
  exact updateConnectorStatus_keeps entryFree (fun _ hu => noted rfl hu) (fun _ _ hu => noted rfl hu)
    (fun v _ hu => own (d := v.connector) rfl rfl id hu)

end Under

/-! ## The limits -/

/-- No limit returned so far was negative. -/
def World.limitsNonneg (w : World) : Bool := w.log.all Entry.limitsNonneg

theorem limitsNonneg_cons {e : Entry} (he : e.limitsNonneg = true) (h : List Entry) :
    (e :: h).all Entry.limitsNonneg = h.all Entry.limitsNonneg := by
  rw [List.all_cons, he, Bool.true_and]

theorem limitsNonneg_note (w : World) {e : Entry} (he : e.limitsNonneg = true) :
    (w.note e).limitsNonneg = w.limitsNonneg := limitsNonneg_cons he w.log

theorem limitsNonneg_tick (t : Tick) (w : World) : (w.tick cp t).limitsNonneg = w.limitsNonneg :=
  log_tick (f := (·.all Entry.limitsNonneg))
    (fun e h he => limitsNonneg_cons (by cases e <;> first | rfl | cases he) h) t w

theorem blind_limitsNonneg (d : Nat) : Blind World.limitsNonneg d := blind_log (f := (·.all Entry.limitsNonneg))
  (fun e h he hs => limitsNonneg_cons (by cases e <;> first | rfl | (cases he; done) | cases hs) h)

theorem deaf_limitsNonneg : Deaf World.limitsNonneg := deaf_log (f := (·.all Entry.limitsNonneg))
  (fun e h he => limitsNonneg_cons (by cases e <;> first | rfl | cases he) h)

/-- `P` of the connector, as long as no limit was negative. -/
def While (c : Nat) (P : View → Prop) (w : World) : Prop := w.limitsNonneg = true → P (w.view c)

section While

variable {P Q : View → Prop}

theorem While.tick (hP : Closed c P) (t : Tick) {w : World} (hw : While c P w) : While c P (w.tick cp t) := by
  intro hn
  rw [limitsNonneg_tick] at hn
  exact hP.tick cp t w (hw hn)

/-- What is proved of a connector holds as long as the limits allow it, where the program asks for no limit. -/
theorem while_of_passive {α : Type} {m : M α} {Q : α → View → Prop} (hm : Passive (World.tick cp) World.limitsNonneg m)
    (h : SpecAt c P m Q) : Spec (While c P) m (fun a => While c (Q a)) := by
  intro w script hw hn
  have hk := hm (· = w.limitsNonneg) (fun t s hs => (limitsNonneg_tick t s).trans hs) w script rfl
  exact h w script (hw (hk.symm.trans hn))

theorem while_setOwn {d : Nat} {f : ConnectorData → ConnectorData} (h : ∀ v, P v → P (v.setOwn f)) :
    Spec (While c P) (setOwn d f) (fun _ => While c P) := by
  refine Spec.update (fun w hw hn => ?_)
  by_cases hd : d = c
  · rw [hd, view_setConnector]
    exact h (w.view c) (hw hn)
  · rw [view_setConnector_of_ne hd]
    exact hw hn

theorem while_mapConnectors {f : ConnectorData → ConnectorData} (h : ∀ v, P v → Q (v.setOwn f)) :
    Spec (While c P) (update (·.mapConnectors f) : M Unit) (fun _ => While c Q) :=
  Spec.update (fun w hw hn => h (w.view c) (hw hn))

end While

/-! ## The setpoints -/

/-- The setpoint is within the rating, and negative only where it is `f` of the cable. -/
def ConnectorData.Cut (cp : SimulatedChargePoint) (f : ℚ → ℚ) (d : ConnectorData) : Prop :=
  d.setpoint ≤ cp.maxConnectorSetpoint ∧ (0 ≤ d.setpoint ∨ d.setpoint = f d.carCableCapacity)

theorem cut_limitToCable (hd : 0 ≤ d.ocppSetpoint ∧ d.ocppSetpoint ≤ cp.maxConnectorSetpoint) :
    d.limitToCable.Cut cp id := by
  unfold ConnectorData.Cut ConnectorData.limitToCable
  dsimp only
  split
  · rename_i hc
    exact ⟨le_trans (le_of_lt hc) hd.2, .inr rfl⟩
  · exact ⟨hd.2, .inl hd.1⟩

theorem cut_reduce {ratio : ℚ} (h₀ : 0 ≤ ratio) (h₁ : ratio ≤ 1) (hd : d.Cut cp id) :
    (d.reduce cp.arith ratio).Cut cp id := by
  unfold ConnectorData.Cut ConnectorData.reduce at *
  dsimp only
  split
  · rename_i hs
    have hle : d.setpoint * ratio ≤ cp.maxConnectorSetpoint := (mul_le_of_le_one_right (le_of_lt hs) h₁).trans hd.1
    exact ⟨cp.arith.round_le cp.floats.2 hle, .inl (cp.arith.round_nonneg (mul_nonneg (le_of_lt hs) h₀))⟩
  · exact hd

theorem cut_floorSetpoint (hd : d.Cut cp id) : d.floorSetpoint.Cut cp (fun x => ⌊x⌋) := by
  refine ⟨le_trans (Int.floor_le _) hd.1, ?_⟩
  show (0 : ℚ) ≤ (⌊d.setpoint⌋ : ℚ) ∨ (⌊d.setpoint⌋ : ℚ) = (⌊d.carCableCapacity⌋ : ℚ)
  rcases hd.2 with h₀ | h₀
  · left
    exact_mod_cast Int.floor_nonneg.2 h₀
  · right
    rw [show d.setpoint = d.carCableCapacity from h₀]

/-- The loop over `getSetpoint`: the setpoint of the charge point stays non-negative. -/
def Limiting (cp : SimulatedChargePoint) (m : MeterSimulator) (whole : ℚ) (v : View) : Prop :=
  0 ≤ whole ∧ UnderAt cp m (fun _ => True) v

theorem Limiting.closed (hcp : cp.Constructed) (whole : ℚ) :
    Closed c (Limiting cp m whole) := fun v v' he h =>
  ⟨h.1, Under.closed hcp (fun _ _ _ _ _ h => h) v v' he h.2⟩

theorem getSetpoint_while (hcp : cp.Constructed) (whole : ℚ) (d : Nat)
    (unit : ChargingRateUnitType) :
    Spec (While c (Limiting cp m whole)) (getSetpoint cp d unit)
      (fun r => While c (fun v => (Entry.getSetpoint d unit r).limitsNonneg = true ∧ Limiting cp m whole v)) := by
  unfold getSetpoint ask
  refine Spec.call (fun t w hw => While.tick (Limiting.closed hcp whole) t hw) (fun t w hw hn => ?_)
  obtain ⟨he, hl⟩ := Bool.and_eq_true_iff.1 hn
  obtain ⟨h₀, hu⟩ := hw hl
  refine ⟨he, h₀, ?_⟩
  by_cases hd : d = c
  · rw [view_note_of_about (show (Entry.getSetpoint d unit t.getSetpoint).about = some c from congrArg some hd)]
    exact hu.noted rfl
  · rw [view_note_of_about_ne rfl hd]
    exact hu

theorem Under.reset (hu : Under cp m (fun _ => True) d k h) :
    Under cp m (fun _ => True) { d with ocppSetpoint := d.maxSetpoint } k h := by
  refine Under.limited (d := d) rfl (fun hm _ => ?_) (fun _ h => h) hu
  show 0 ≤ d.maxSetpoint ∧ d.maxSetpoint ≤ _
  rw [hm.rating]
  exact ⟨Nat.cast_nonneg _, le_refl _⟩

theorem Under.lowered (y : Option ℚ) (hu : Under cp m (fun _ => True) d k h) : y.all (0 ≤ ·) = true →
    Under cp m (fun _ => True) (match y with
      | some v => if v < d.maxSetpoint then { d with ocppSetpoint := v } else d
      | none => d) k h := by
  intro hy
  cases y with
  | none => exact hu
  | some y =>
    dsimp only
    split
    · rename_i hlt
      refine Under.limited (d := d) rfl (fun hm _ => ?_) (fun _ h => h) hu
      rw [hm.rating] at hlt
      exact ⟨of_decide_eq_true hy, le_of_lt hlt⟩
    · exact hu

theorem connectorSetpoint_while (hcp : cp.Constructed) (whole : ℚ) (d : Nat) :
    Spec (While c (Limiting cp m whole)) (connectorSetpoint cp whole d) (fun a => While c (Limiting cp m a)) := by
  refine Spec.bind (while_setOwn (fun v h => ⟨h.1, h.2.reset⟩)) (fun _ => ?_)
  refine Spec.bind (Spec.read (Q := fun _ => While c (Limiting cp m whole)) (fun _ h => h)) (fun unit => ?_)
  refine Spec.bind (getSetpoint_while hcp whole d unit) (fun r => ?_)
  rcases r with _ | ⟨x, y⟩
  · exact Spec.pure _ (fun w h hn => (h hn).2)
  refine Spec.bind (while_setOwn (fun v h => ⟨h.1, h.2.1, ?_⟩)) (fun _ => Spec.pure _ (fun w h hn => ?_))
  · exact h.2.2.lowered y (Bool.and_eq_true_iff.1 h.1).2
  · obtain ⟨he, h₀, hu⟩ := h hn
    obtain ⟨hx, -⟩ := Bool.and_eq_true_iff.1 he
    refine ⟨?_, hu⟩
    cases x with
    | none => exact h₀
    | some x =>
      dsimp only
      split
      · exact of_decide_eq_true hx
      · exact h₀

theorem computeSetpoints_while (hcp : cp.Constructed) :
    Spec (While c (UnderAt cp m (fun _ => True))) (computeSetpoints cp)
      (fun _ => While c (UnderAt cp m (ConnectorData.Cut cp (fun x => ⌊x⌋)))) := by
  refine Spec.bind (R := fun whole => While c (Limiting cp m whole)) ?_ (fun whole => ?_)
  · refine Spec.pre (fun w h hn => ⟨Nat.cast_nonneg _, h hn⟩) (Spec.foldlM (fun a d _ => ?_) _)
    exact connectorSetpoint_while hcp a d
  refine Spec.bind (R := fun _ => While c (fun v => 0 ≤ whole ∧ UnderAt cp m (ConnectorData.Cut cp id) v)) ?_ (fun _ => ?_)
  · refine while_mapConnectors (fun v h => ⟨h.1, Under.limited (d := v.connector) rfl ?_ ?_ h.2⟩)
    · exact fun hm _ => hm.limit
    · exact fun hm _ => cut_limitToCable hm.limit
  refine Spec.read_bind (fun w₀ _ => Spec.pre (fun _ h => h.1) ?_)
  refine Spec.bind (R := fun _ => While c (UnderAt cp m (ConnectorData.Cut cp id))) (Spec.ite (fun hgt => ?_) (fun _ => ?_))
    (fun _ => while_mapConnectors (fun v h => Under.limited (d := v.connector) rfl (fun hm _ => hm.limit)
      (fun _ h => cut_floorSetpoint h) h))
  · refine Spec.bind (Spec.update (Q := fun _ => While c (fun v => 0 ≤ whole ∧ UnderAt cp m (ConnectorData.Cut cp id) v))
      (fun w h hn => ?_)) (fun _ => while_mapConnectors (fun v h => ?_))
    · rw [view_note_of_ne (by simp [Entry.about])]
      exact h ((limitsNonneg_note w rfl).symm.trans hn)
    · have ht : 0 < totalConnectors cp w₀.connectors := lt_of_le_of_lt h.1 hgt
      have h₀ := cp.arith.round_nonneg (div_nonneg h.1 (le_of_lt ht))
      have h₁ := cp.arith.round_le_one ((div_le_one ht).2 (le_of_lt hgt))
      exact Under.limited (d := v.connector) rfl (fun hm _ => hm.limit) (fun _ h => cut_reduce h₀ h₁ h) h.2
  · exact Spec.pure _ (fun w h hn => (h hn).2)

/-! ## A round -/

theorem mem_overwrite {y : ℚ} : ∀ {old new : List ℚ}, y ∈ overwrite old new → y ∈ old ∨ y ∈ new
  | [], _, h => .inl h
  | _ :: _, [], h => .inl h
  | _ :: old, x :: new, h => by
    rcases List.mem_cons.1 h with rfl | h
    · exact .inr List.mem_cons_self
    · rcases mem_overwrite h with h | h
      · exact .inl (List.mem_cons_of_mem _ h)
      · exact .inr (List.mem_cons_of_mem _ h)

/-- The meter bears what the record makes it consume. -/
def Bearable (cp : SimulatedChargePoint) (d : ConnectorData) : Prop := ∀ x ∈ consumptions d cp.nbPhases, cp.Bears x

theorem bearable_unassigned : Unassigned (Bearable cp) := fun _ _ _ _ _ h => h

theorem bears_min (hv : 0 ≤ cp.operatingVoltage) {f : ℚ → ℚ} (hd : d.Cut cp f) {l : ℚ} (hl : -8 < cp.power l)
    (hc : -8 < cp.power (f d.carCableCapacity)) (hb : (cp.mwh (min l cp.maxConnectorSetpoint) : ℚ) ≤ cp.phaseBound) :
    cp.Bears (min l d.setpoint) := by
  have hle : cp.mwh (min l d.setpoint) ≤ cp.mwh (min l cp.maxConnectorSetpoint) := mwh_mono hv (min_le_min_left l hd.1)
  refine ⟨?_, (Nat.cast_le.2 hle).trans hb⟩
  rcases min_choice l d.setpoint with hm | hm
  · rwa [hm]
  · rw [hm]
    rcases hd.2 with h₀ | h₀
    · have hp : cp.power 0 ≤ cp.power d.setpoint := power_mono hv h₀
      rw [power_zero] at hp
      linarith
    · rwa [h₀]

/-- **A phase that does not give power back makes the meter bear the new data.** -/
theorem bearable_setCar (hv : 0 ≤ cp.operatingVoltage) {x : CarData} (hd : d.Cut cp (fun x => ⌊x⌋))
    (hf : (Entry.updateData c d x).forward cp = true) : Bearable cp (d.setCar x) := by
  have hforward := of_decide_eq_true hf
  have hzero := @bears_zero cp hv
  intro y hy
  unfold consumptions at hy
  split at hy
  · rename_i hs
    have hphase : ∀ l ∈ x.phases cp.nbPhases, cp.Bears (min l d.setpoint) := by
      intro l hl
      obtain ⟨hdemand, hcable, hrated⟩ := hforward hs l hl
      exact bears_min hv hd hdemand hcable hrated
    unfold CarData.phases at hphase
    split at hy <;> simp only [List.mem_cons, List.not_mem_nil, or_false] at hy <;> rename_i hn
    · rw [hn] at hphase
      rcases hy with rfl | rfl | rfl
      · exact hphase x.l1 (by simp)
      · exact hzero
      · exact hzero
    · rw [hn] at hphase
      rcases hy with rfl | rfl | rfl
      · exact hphase x.l1 (by simp)
      · exact hphase x.l2 (by simp)
      · exact hzero
    · rw [hn] at hphase
      rcases hy with rfl | rfl | rfl
      · exact hphase x.l1 (by simp)
      · exact hphase x.l2 (by simp)
      · exact hphase x.l3 (by simp)
    · rcases hy with rfl | rfl | rfl <;> exact hzero
  · simp only [List.mem_cons, List.not_mem_nil, or_false] at hy
    rcases hy with rfl | rfl | rfl <;> exact hzero

theorem Under.copied (hv : 0 ≤ cp.operatingVoltage) {x : CarData} (hu : Under cp m (ConnectorData.Cut cp (fun x => ⌊x⌋)) d k h) :
    Under cp m (Bearable cp) (d.setCar x) k (.updateData c d x :: h) := by
  intro hf
  obtain ⟨hm, hd⟩ := hu hf.tail
  refine ⟨⟨hm.meter, hm.fitted, .cons (fun hup => ?_) hm.bounded, hm.rating, hm.limit⟩, bearable_setCar hv hd hf.head⟩
  cases hup

theorem Under.consumed {x : List ℚ} (hx : x = consumptions d k.phasesCount) (hu : Under cp m (Bearable cp) d k h) :
    Under cp m (fun _ => True) d (k.setConsumptions x) (.setConsumptions c x :: h) := by
  intro hf
  obtain ⟨hm, hb⟩ := hu hf.tail
  have hfit : Fitted cp (k.setConsumptions x) := by
    refine ⟨hm.fitted.arith, hm.fitted.phases, hm.fitted.type, hm.fitted.voltages, fun y hy => ?_⟩
    rcases mem_overwrite hy with hy | hy
    · exact hm.fitted.consumptions y hy
    · rw [hx, hm.fitted.phases] at hy
      exact hb y hy
  refine ⟨⟨?_, hfit, .cons (fun hup => ?_) hm.bounded, hm.rating, hm.limit⟩, trivial⟩
  · exact congrArg (MeterSimulator.setConsumptions · x) hm.meter
  · cases hup

theorem computeConsumption_under (hcp : cp.Constructed) :
    SpecAt c (UnderAt cp m (Bearable cp)) (computeConsumption cp c) (fun _ => UnderAt cp m (fun _ => True)) := by
  refine SpecOn.split (fun v => consumptions v.connector v.meter.phasesCount) (fun x => ?_)
  have hx : Closed c (fun v => consumptions v.connector v.meter.phasesCount = x) := fun v v' he h => by
    cases he <;> exact h
  refine computeConsumption_at ((Under.closed hcp bearable_unassigned).and hx) (fun v v' hu hu' => ?_)
  exact Under.consumed (hu.2.trans hu'.2.symm) hu'.1

section
variable (hcp : cp.Constructed) (hv : 0 ≤ cp.operatingVoltage)
include hcp hv

theorem spend_under (hc : c ∈ cp.ids) :
    SpecAt c (UnderAt cp m (ConnectorData.Cut cp (fun x => ⌊x⌋))) (spend cp) (fun _ => UnderAt cp m (fun _ => True)) := by
  have hcut : Unassigned (ConnectorData.Cut cp (fun x => ⌊x⌋)) := fun _ _ _ _ _ h => h
  have htrue : Unassigned (fun _ => True) := fun _ _ _ _ _ h => h
  refine afterSetpoints_at hc (Under.closed hcp hcut) (Under.closed hcp bearable_unassigned) (Under.closed hcp htrue)
    (fun v hu => Under.copied hv hu) ?_
  exact SpecOn.bind (Under.nextStatus hcp bearable_unassigned) (fun _ => computeConsumption_under hcp)

/-- **A round keeps the register within the ratings.** -/
theorem loopRound_under (hc : c ∈ cp.ids) :
    Spec (While c (UnderAt cp m (fun _ => True))) (loopRound cp) (fun _ => While c (UnderAt cp m (fun _ => True))) := by
  have env : Closed c (UnderAt cp m (fun _ => True)) := Under.closed hcp (fun _ _ _ _ _ h => h)
  have noted : ∀ (w : World) (e : Entry), e.ofRound = true → (w.note e).limitsNonneg = w.limitsNonneg := fun w e he =>
    limitsNonneg_note w (by cases e <;> first | rfl | cases he)
  have passive : ∀ {α : Type} {p : M α}, Passive (World.tick cp) World.limitsNonneg p →
      Passive (World.tick cp) (World.view c) p → Spec (While c (UnderAt cp m (fun _ => True))) p
        (fun _ => While c (UnderAt cp m (fun _ => True))) := fun h h' => while_of_passive h (passive_at h' env)
  refine Spec.bind (passive (waiting_unseen noted) waiting_passive) (fun b => Spec.ite (fun _ => ?_) (fun _ => ?_))
  · refine Spec.bind (passive ?_ (waitRegistration_passive (deaf_view c))) (fun _ => Spec.pure _ (fun _ h => h))
    exact waitRegistration_passive deaf_limitsNonneg
  refine Spec.bind (while_of_passive (pollConnectors_passive blind_limitsNonneg deaf_limitsNonneg)
    (pollConnectors_at hc env env (Under.updateConnectorStatus hcp))) (fun _ => ?_)
  refine Spec.bind ?_ (fun _ => passive (goingOn_unseen noted) goingOn_passive)
  refine Spec.bind (computeSetpoints_while hcp) (fun _ => ?_)
  exact while_of_passive (spend_passive blind_limitsNonneg deaf_limitsNonneg) (spend_under hcp hv hc)

end

theorem overwrite_replicate (n : Nat) (x y : ℚ) : overwrite (List.replicate n x) (List.replicate n y) = List.replicate n y := by
  induction n with
  | zero => rfl
  | succ n ih => rw [List.replicate_succ, List.replicate_succ, overwrite, ih]

theorem fitted_firstMeter (hv : 0 ≤ cp.operatingVoltage) : Fitted cp (firstMeter cp) where
  arith := rfl
  phases := rfl
  type := rfl
  voltages v hm := by
    have hl : (firstMeter cp).voltages = List.replicate cp.nbPhases cp.operatingVoltage := overwrite_replicate _ _ _
    rw [hl] at hm
    exact List.eq_of_mem_replicate hm
  consumptions x hx := by
    rw [List.eq_of_mem_replicate hx]
    exact bears_zero hv

end

end

/-- **In every run in which no phase of a charging connector gives power back or is rounded up over the rating, every
update raises the register by no more than the ratings allow**, whatever the cars send, once the limits are
non-negative. -/
theorem energy_bounded (cp : SimulatedChargePoint) (stack : Stack) (c k : Nat) (script : List Tick)
    (hc : c ∈ cp.construct.ids) (hv : 0 ≤ cp.construct.operatingVoltage)
    (hn : ∀ e ∈ (afterLoop cp.construct k (.start cp.construct stack) script).log, e.limitsNonneg = true)
    (hf : Forward cp.construct ((afterLoop cp.construct k (.start cp.construct stack) script).history c)) :
    (afterLoop cp.construct k (.start cp.construct stack) script).meters c =
      meterAt (firstMeter cp.construct) ((afterLoop cp.construct k (.start cp.construct stack) script).history c) ∧
    EnergyBounded cp.construct (firstMeter cp.construct)
      ((afterLoop cp.construct k (.start cp.construct stack) script).history c) := by
  have hstart : While c (UnderAt cp.construct (firstMeter cp.construct) (fun _ => True)) (.start cp.construct stack) := by
    refine fun _ _ => ⟨⟨rfl, fitted_firstMeter hv, .nil, rfl, le_refl _, Nat.cast_nonneg _⟩, trivial⟩
  have hrun := Spec.rounds (loopRound_under cp.constructed hv hc) k _ script hstart
  obtain ⟨hm, -⟩ := hrun (List.all_eq_true.2 hn) hf
  exact ⟨hm.meter, hm.bounded⟩

/-- A car that draws 8 A, and three updates of its meter. -/
def sampleForward : List Tick := script 160
  [(0, .carMessage 1 { cable := some 10, consumptionL1 := some 8 }), (0, .idTagMessage 1 "A"), (60, .meterUpdate 1),
   (120, .meterUpdate 1), (150, .meterUpdate 1)]

theorem energy_bounded_session :
    let cp := SimulatedChargePoint.construct .sample
    let w := afterLoop cp 7 (.start cp .idle) sampleForward
    w.meters 1 = meterAt (firstMeter cp) (w.history 1) ∧ EnergyBounded cp (firstMeter cp) (w.history 1) :=
  energy_bounded .sample .idle 1 7 sampleForward (by decide) (by decide +kernel) (by decide +kernel) (by decide +kernel)

end Simu
