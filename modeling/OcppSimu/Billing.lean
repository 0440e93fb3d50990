import OcppSimu.Energy
import OcppSimu.Ledger
/-!
# Billing — what the transactions are charged, against what the meter counted

The stack asks `getTxStartStopMeterValue` for the register of a connector when a transaction starts and when it stops,
and the session is charged the difference.  The meter goes on between sessions: an iteration that stops a transaction
still sets the consumption of the status it polled, and only the next one sets it to nothing.  What the register counts
is charged, or is outstanding, or was counted after a stop before the consumption was set twice (`energy_billed`).
-/
namespace Simu

open Hist Script View Ledger

/-! ## The readings -/

/-- `static_cast<int>` of an `int64_t`. -/
def toInt (i : ℤ) : ℤ := i.bmod (2 ^ 32)

def getTxStartStopMeterValue (w : World) (c : Nat) : ℤ := if 0 < c then toInt (w.meters c).getEnergy else 0

/-- The register in Wh, and what the stack is told of it. -/
def registerAt (m : MeterSimulator) (h : List Entry) : ℤ := (meterAt m h).getEnergy

def readingAt (m : MeterSimulator) (h : List Entry) : ℤ := toInt (registerAt m h)

/-- **What the sessions were charged**, in Wh. -/
def billed (m : MeterSimulator) (h : List Entry) : ℤ := charged (readingAt m) Entry.starts Entry.stops h

/-- What the open session comes to so far. -/
def running (m : MeterSimulator) (h : List Entry) : ℤ := outstanding (readingAt m) Entry.starts Entry.stops h

def Entry.consumes : Entry → Bool
  | .setConsumptions _ _ => true
  | _ => false

/-- **The consumption was set at most once since the last stop.** -/
def lingers (h : List Entry) : Bool :=
  since Entry.stops Entry.consumes h ||
    sinceAt Entry.consumes (fun _ => false) (since Entry.stops Entry.consumes) h

/-! ## A meter without consumption -/

namespace MeterSimulator

variable {m : MeterSimulator}

def Idle (m : MeterSimulator) : Prop := ∀ x ∈ m.consumptions, x = 0

theorem getD_setConsumptions_of_le (m : MeterSimulator) {x : List ℚ} {i : ℕ} (hi : x.length ≤ i) :
    (m.setConsumptions x).consumptions.getD i 0 = m.consumptions.getD i 0 := by
  show (overwrite m.consumptions x).getD i 0 = _
  rw [List.getD_eq_getElem?_getD, List.getD_eq_getElem?_getD, getElem?_overwrite, List.getElem?_eq_none hi]
  split
  · rw [Option.none_or]
  · rw [List.getElem?_eq_none (by omega)]

/-- **Nothing on three phases** makes a meter idle that holds nothing on any other. -/
theorem idle_setConsumptions (hb : ∀ i, 3 ≤ i → m.consumptions.getD i 0 = 0) : (m.setConsumptions [0, 0, 0]).Idle := by
  intro x hx
  obtain ⟨i, hi, rfl⟩ := List.mem_iff_getElem.1 hx
  rw [← List.getD_eq_getElem _ 0 hi]
  by_cases h3 : i < 3
  · rw [m.getD_setConsumptions h3]
    have hcases : i = 0 ∨ i = 1 ∨ i = 2 := by omega
    rcases hcases with rfl | rfl | rfl <;> simp
  · rw [m.getD_setConsumptions_of_le (Nat.le_of_not_lt h3)]
    exact hb i (Nat.le_of_not_lt h3)

theorem energyMwh_of_zero {powers : List ℚ} (h : ∀ p ∈ powers, p = 0) : energyMwh powers = 0 := by
  unfold energyMwh
  induction powers with
  | nil => rfl
  | cons p powers ih =>
    obtain rfl := h p List.mem_cons_self
    exact ih fun q hq => h q (List.mem_cons_of_mem _ hq)

theorem Idle.nextPowers (hi : m.Idle) (hd : m.currentOutType = .dc → m.phasesCount = 1) : ∀ p ∈ m.nextPowers, p = 0 := by
  intro p hp
  unfold MeterSimulator.nextPowers at hp
  cases ht : m.currentOutType with
  | ac =>
    simp only [ht, List.mem_iff_getElem, List.getElem_zipWith] at hp
    obtain ⟨i, hl, rfl⟩ := hp
    rw [hi _ (List.getElem_mem _), mul_zero, m.arith.zero]
  | dc =>
    have hc := m.consumptions_length
    have hp' := m.powers_length
    rw [hd ht] at hc hp'
    obtain ⟨x, hx⟩ := List.length_eq_one_iff.1 hc
    obtain ⟨y, hy⟩ := List.length_eq_one_iff.1 hp'
    simp only [ht, hx, hy, List.take_succ_cons, List.take_zero, overwrite, List.mem_singleton] at hp
    rw [hp]
    exact hi x (by simp [hx])

/-- **An idle meter counts nothing.** -/
theorem Idle.raise (hi : m.Idle) (hd : m.currentOutType = .dc → m.phasesCount = 1) : m.update.energy = m.energy := by
  show m.energy + (energyMwh m.nextPowers : ℤ) = m.energy
  rw [energyMwh_of_zero (hi.nextPowers hd)]
  simp

end MeterSimulator

/-! ## What the meter holds -/

/-- The entries that neither move the meter nor belong to a session. -/
def Entry.unbilled : Entry → Bool
  | .event (.meterUpdate _) | .setConsumptions _ _ | .startTransaction _ _ _ | .stopTransaction _ _ _ => false
  | _ => true

/-- **The books of a connector**: its meter is what the history made of `m`, it is idle where no session is open and none
lingers, and it counted nothing there. -/
structure Books (m k : MeterSimulator) (h : List Entry) : Prop where
  meter : k = meterAt m h
  single : k.currentOutType = .dc → k.phasesCount = 1
  beyond : ∀ i, 3 ≤ i → k.consumptions.getD i 0 = 0
  idle : StackKeeps h → openTx h = false → lingers h = false → k.Idle
  counted : StackKeeps h → Always (fun e h => registerAt m (e :: h) ≠ registerAt m h → openTx h = true ∨ lingers h = true) h

/-- A session that was open when the status was polled is still open, or was stopped and the consumption not set since. -/
def Due (d : ConnectorData) (h : List Entry) : Prop :=
  StackKeeps h → d.status.inSession = true → openTx h = true ∨ since Entry.stops Entry.consumes h = true

section

variable {m k : MeterSimulator} {d : ConnectorData} {h : List Entry} {c : Nat}

theorem lingers_cons {e : Entry} (he : e.consumes = false) (hs : e.stops = false) : lingers (e :: h) = lingers h := by
  unfold lingers
  rw [since_cons, sinceAt_cons, he, hs]
  simp

theorem lingers_of_stop {e : Entry} (hs : e.stops = true) : lingers (e :: h) = true := by
  unfold lingers
  rw [since_cons, hs]
  rfl

theorem Due.noted {e : Entry} (he : e.consumes = false) (hd : Due d h) : Due d (e :: h) := by
  intro hk hs
  rw [since_cons, he]
  cases e with
  | stopTransaction c t r => exact .inr rfl
  | startTransaction c t a =>
    refine (hd hk.tail hs).imp (fun ho => ?_) (fun hl => ?_)
    · show (a.ok || (true && openTx h)) = true
      simp [ho]
    · simp [hl]
  | setConsumptions c x => cases he
  | _ => exact (hd hk.tail hs).imp id (fun hl => by simp [hl])

namespace Books

/-- An entry that leaves the meter as it is. -/
theorem still {e : Entry} (hm : meterAt m (e :: h) = meterAt m h) (he : e.consumes = false) (hb : Books m k h) :
    Books m k (e :: h) where
  meter := hb.meter.trans hm.symm
  single := hb.single
  beyond := hb.beyond
  idle hk ho hl := by
    cases hs : e.stops with
    | true =>
      rw [lingers_of_stop hs] at hl
      cases hl
    | false =>
      rw [lingers_cons he hs] at hl
      refine hb.idle hk.tail ?_ hl
      have hs' := (Bool.or_eq_false_iff.1 ho).2
      rw [hs] at hs'
      simpa [openTx] using hs'
  counted hk := .cons (fun hr => absurd (by rw [registerAt, hm, registerAt]) hr) (hb.counted hk.tail)

theorem noted {e : Entry} (he : e.unbilled = true) (hb : Books m k h) : Books m k (e :: h) := by
  cases e with
  | event x => cases x <;> first | exact hb.still rfl rfl | cases he
  | _ => first | exact hb.still rfl rfl | cases he

/-- **An update counts only where the meter is not idle.** -/
theorem updated (hb : Books m k h) : Books m k.update (.event (.meterUpdate c) :: h) where
  meter := congrArg MeterSimulator.update hb.meter
  single := hb.single
  beyond := hb.beyond
  idle hk ho hl := hb.idle hk.tail ho hl
  counted hk := by
    refine .cons (fun hr => ?_) (hb.counted hk.tail)
    by_contra hn
    simp only [not_or, Bool.not_eq_true] at hn
    have hi := (hb.idle hk.tail hn.1 hn.2).raise hb.single
    refine hr ?_
    show (meterAt m h).update.energy.tdiv 1000 = (meterAt m h).energy.tdiv 1000
    rw [← hb.meter, hi]

/-- **The consumption is set** from a status that was polled in a session, which is due, or in none, and is nothing. -/
theorem consumed (hd : Due d h) (hb : Books m k h) {n : Nat} :
    Books m (k.setConsumptions (consumptions d n)) (.setConsumptions c (consumptions d n) :: h) where
  meter := congrArg (·.setConsumptions (consumptions d n)) hb.meter
  single := hb.single
  beyond i hi := (k.getD_setConsumptions_of_le ((length_consumptions d n).trans_le hi)).trans (hb.beyond i hi)
  idle hk ho hl := by
    cases hs : d.status.inSession with
    | true =>
      rcases hd hk.tail hs with hopen | hstop
      · exact absurd (ho.symm.trans hopen) Bool.false_ne_true
      · have : lingers (.setConsumptions c (consumptions d n) :: h) = true := by
          unfold lingers
          rw [sinceAt_cons_of_hit rfl hstop, Bool.or_true]
        exact absurd (hl.symm.trans this) Bool.false_ne_true
    | false =>
      have hx : consumptions d n = [0, 0, 0] := by
        unfold consumptions
        rw [if_neg (fun hc => by rw [hc] at hs; cases hs)]
      rw [hx]
      exact MeterSimulator.idle_setConsumptions hb.beyond
  counted hk := .cons (fun hr => absurd rfl hr) (hb.counted hk.tail)

end Books

/-! ## The passes of the loop -/

variable {cp : SimulatedChargePoint}

def BooksAt (m : MeterSimulator) (v : View) : Prop := Books m v.meter v.history

/-- In an iteration, once the connector is polled. -/
def OwedAt (m : MeterSimulator) (v : View) : Prop := BooksAt m v ∧ Due v.connector v.history

theorem BooksAt.closed : Closed c (BooksAt m) := by
  intro v v' hv hb
  cases hv with
  | meterUpdate => exact Books.updated hb
  | _ => exact Books.noted rfl hb

theorem BooksAt.setpointFree : SetpointFree c (BooksAt m) where
  env := BooksAt.closed
  setpoints _ _ _ hb := hb
  asked _ _ _ hb := Books.noted rfl hb

theorem updateConnectorStatus_books :
    SpecAt c (BooksAt m) (updateConnectorStatus cp c) (fun _ => BooksAt m) := by
  have entryFree : EntryFree c (BooksAt m) :=
    { env := BooksAt.closed, cleared := fun _ hb => hb, badge := fun _ hb => Books.noted rfl hb, timed := fun _ _ hb => hb }
  exact updateConnectorStatus_keeps entryFree (fun _ hb => Books.noted rfl hb) (fun _ _ hb => Books.noted rfl hb)
    (fun _ _ hb => hb)

theorem OwedAt.noted {v : View} {e : Entry} (hu : e.unbilled = true) (ho : OwedAt m v) : OwedAt m (v.note e) :=
  ⟨Books.noted hu ho.1, ho.2.noted (by cases e <;> first | rfl | cases hu)⟩

theorem OwedAt.closed : Closed c (OwedAt m) := by
  intro v v' hv ho
  refine ⟨BooksAt.closed v v' hv ho.1, ?_⟩
  obtain ⟨e, he, hh⟩ := hv.history
  rw [hv.connector, hh]
  exact ho.2.noted (by cases e <;> first | rfl | cases he)

theorem OwedAt.session {v : View} {e : Entry} (hm : meterAt m (e :: v.history) = meterAt m v.history)
    (he : e.consumes = false) (ho : OwedAt m v) : OwedAt m (v.note e) := ⟨Books.still hm he ho.1, ho.2.noted he⟩

theorem nextStatus_owed : SpecAt c (OwedAt m) (nextStatus cp c) (fun _ => OwedAt m) := by
  have plain : Plain c (OwedAt m) :=
    { env := OwedAt.closed, notified := fun v _ ho => OwedAt.noted (v := v) rfl ho, asked := fun _ _ ho => ho.noted rfl
      timed := fun _ _ ho => ho, started := fun _ _ ho _ _ => ho.session rfl rfl
      refused := fun _ _ ho _ _ => ho.session rfl rfl }
  have tagFree : TagFree c (OwedAt m) :=
    { env := OwedAt.closed, noted := fun v e he ho => ho.noted (by cases e <;> first | rfl | cases he)
      answered := fun _ _ _ ho => ho.noted rfl, tagged := fun _ _ _ ho => ho
      badge := fun v ho => OwedAt.noted (v := v) rfl ho, start := fun v ho => OwedAt.noted (v := v) rfl ho }
  have stopFree : StopFree c (OwedAt m) :=
    { env := OwedAt.closed, noted := fun v e he ho => ho.noted (by cases e <;> first | rfl | cases he)
      badge := fun v ho => OwedAt.noted (v := v) rfl ho, stop := fun v ho => OwedAt.noted (v := v) rfl ho
      stopped := fun _ _ _ ho => ho.session rfl rfl }
  exact plain.nextStatus (isValidIdTagPresent_keeps tagFree false) (isTransactionStopCondition_keeps stopFree)

/-- **The consumption is set from the status that was polled.** -/
theorem computeConsumption_books : SpecAt c (OwedAt m) (computeConsumption cp c) (fun _ => BooksAt m) := by
  refine SpecOn.split (fun v => consumptions v.connector v.meter.phasesCount) (fun x => ?_)
  have hx : Closed c (fun v => consumptions v.connector v.meter.phasesCount = x) := fun v v' hv h => by
    cases hv <;> exact h
  refine computeConsumption_at (OwedAt.closed.and hx) (fun v v' hv hv' => ?_)
  rw [hv.2, ← hv'.2]
  exact Books.consumed hv'.1.2 hv'.1.1

theorem due_of_polled {v : View} (hp : Polled v) : Due v.connector v.history :=
  fun hk hs => .inl ((hp hk).2.1.trans hs)

/-- **An iteration keeps the books**, whatever the other threads do. -/
theorem actOnConnectors_books (hc : c ∈ cp.ids) :
    SpecAt c (fun v => Polled v ∧ BooksAt m v) (actOnConnectors cp) (fun _ v => Agreed v ∧ BooksAt m v) := by
  have polled : SetpointFree c (fun v => Polled v ∧ BooksAt m v) :=
    { env := (Polled.steady c).env.and BooksAt.closed
      setpoints := fun v x y h => ⟨(Polled.steady c).setpoints v x y h.1, h.2⟩
      asked := fun v u a h => ⟨(Polled.steady c).asked v u a h.1, BooksAt.setpointFree.asked v u a h.2⟩ }
  have hK := (Polled.steady c).env.and (@OwedAt.closed m c)
  refine SpecOn.keep polled.computeSetpoints (fun _ => ?_)
  refine afterSetpoints_at hc polled.env hK ((Agreed.steady c).env.and BooksAt.closed) (fun v h => ?_) ?_
  · have hp : Polled (v.copyData c) := SessOn.cons rfl h.1
    exact ⟨hp, Books.noted rfl h.2, due_of_polled hp⟩
  · refine SpecOn.bind (R := fun _ v => Agreed v ∧ OwedAt m v) (Spec.and nextStatus_sess nextStatus_owed) (fun _ => ?_)
    exact Spec.and (computeConsumption_steady (Agreed.steady c)) computeConsumption_books

theorem loop_books (hc : c ∈ cp.ids) (n : Nat) :
    SpecAt c (fun v => Agreed v ∧ BooksAt m v) (loop cp n) (fun _ v => Agreed v ∧ BooksAt m v) := by
  have env := (Agreed.steady c).env.and (@BooksAt.closed m c)
  refine Spec.rounds (SpecOn.bind (passive_at waiting_passive env) (fun b => SpecOn.ite (fun _ => ?_) (fun _ => ?_))) n
  · exact SpecOn.bind (passive_at (waitRegistration_passive (deaf_view c)) env) (fun _ => SpecOn.pure _ (fun _ h => h))
  · refine SpecOn.bind (pollConnectors_at hc env ((Polled.steady c).env.and BooksAt.closed)
      (Spec.and updateConnectorStatus_sess updateConnectorStatus_books)) (fun _ => ?_)
    exact SpecOn.bind (actOnConnectors_books hc) (fun _ => passive_at goingOn_passive env)

/-! ## The register -/

theorem energy_meterAt_cons (m : MeterSimulator) (e : Entry) (h : List Entry) :
    (meterAt m h).energy ≤ (meterAt m (e :: h)).energy := by
  cases e with
  | event x =>
    cases x with
    | meterUpdate c =>
      show _ ≤ (meterAt m h).energy + (MeterSimulator.energyMwh (meterAt m h).nextPowers : ℤ)
      omega
    | _ => exact le_refl _
  | _ => exact le_refl _

theorem energy_meterAt_nonneg (hm : 0 ≤ m.energy) : ∀ h : List Entry, 0 ≤ (meterAt m h).energy
  | [] => hm
  | e :: h => (energy_meterAt_nonneg hm h).trans (energy_meterAt_cons m e h)

/-- **The register only rises.** -/
theorem registerAt_of_suffix (hm : 0 ≤ m.energy) :
    ∀ {l h : List Entry}, l <:+ h → 0 ≤ registerAt m l ∧ registerAt m l ≤ registerAt m h
  | l, [], hl => by
    obtain rfl := List.suffix_nil.1 hl
    exact ⟨Int.tdiv_nonneg hm (by omega), le_refl _⟩
  | l, e :: h, hl => by
    have hn := energy_meterAt_nonneg hm h
    have hle : registerAt m h ≤ registerAt m (e :: h) := by
      unfold registerAt MeterSimulator.getEnergy
      rw [Int.tdiv_eq_ediv_of_nonneg hn, Int.tdiv_eq_ediv_of_nonneg (energy_meterAt_nonneg hm (e :: h))]
      exact Int.ediv_le_ediv (by omega) (energy_meterAt_cons m e h)
    rcases List.suffix_cons_iff.1 hl with rfl | hl
    · exact ⟨Int.tdiv_nonneg (energy_meterAt_nonneg hm (e :: h)) (by omega), le_refl _⟩
    · obtain ⟨h₀, h₁⟩ := registerAt_of_suffix hm hl
      exact ⟨h₀, h₁.trans hle⟩

/-- **A register below 2^31 Wh is read as it is.** -/
theorem readingAt_of_suffix (hm : 0 ≤ m.energy) (hr : registerAt m h < 2 ^ 31) {l : List Entry} (hl : l <:+ h) :
    readingAt m l = registerAt m l := by
  obtain ⟨h₀, h₁⟩ := registerAt_of_suffix hm hl
  unfold readingAt toInt
  exact Int.bmod_eq_of_le (by omega) (by omega)

theorem kept_of_wellPaired (hw : WellPaired h) : Always (Kept (registerAt m) Entry.starts Entry.stops) h := by
  refine hw.mono fun e h he => ⟨fun hs => ?_, fun hs => ?_, fun hs => ?_⟩
  · cases e <;> first | rfl | cases hs
  · cases e with
    | startTransaction c t a => simpa [Entry.pairedWith, openTx] using he
    | _ => cases hs
  · cases e <;> first | rfl | (rcases hs with hs | hs <;> cases hs)

theorem Books.balanced (hb : Books m k h) (hk : StackKeeps h) (hw : WellPaired h) (hm : m.energy = 0)
    (hr : k.getEnergy < 2 ^ 31) :
    billed m h + running m h = gained (registerAt m) openTx h ∧
      k.getEnergy = billed m h + running m h + gained (registerAt m) (fun h => !openTx h && lingers h) h := by
  have hread : ∀ l, l <:+ h → readingAt m l = registerAt m l := fun l hl =>
    readingAt_of_suffix hm.ge (by rw [hb.meter] at hr; exact hr) hl
  have hopen : billed m h + running m h = gained (registerAt m) openTx h := by
    rw [billed, running, charged_congr hread, outstanding_congr hread]
    exact charged_add_outstanding (kept_of_wellPaired hw)
  have hrest : gained (registerAt m) (fun h => !openTx h) h = gained (registerAt m) (fun h => !openTx h && lingers h) h := by
    refine gained_congr ((hb.counted hk).mono fun e h he hn => ?_)
    rcases he hn with ho | hl
    · simp [ho]
    · simp [hl]
  have h₀ : registerAt m [] = 0 := by
    show m.energy.tdiv 1000 = 0
    rw [hm]
    rfl
  refine ⟨hopen, ?_⟩
  rw [hopen, ← hrest, gained_add_not, h₀, sub_zero, hb.meter]
  rfl

end

theorem books_start (cp : SimulatedChargePoint) (stack : Stack) (c : Nat) :
    BooksAt (firstMeter cp.construct) ((World.start cp.construct stack).view c) where
  meter := rfl
  single := cp.constructed
  beyond i _ := by
    show (List.replicate _ (0 : ℚ)).getD i 0 = 0
    simp [List.getD_eq_getElem?_getD, List.getElem?_replicate]
    split <;> rfl
  idle _ _ _ x hx := List.eq_of_mem_replicate hx
  counted _ := .nil

/-- **What the meter counted is what the sessions were charged**, what the open one comes to, and what was counted after
a stop before the consumption was set twice.  The charge of a session is what the meter counted while it was open: in
every run in which the stack keeps to its three statuses and the register stays below 2^31 Wh. -/
theorem energy_billed (cp : SimulatedChargePoint) (stack : Stack) (c n : Nat) (script : List Tick)
    (hc : c ∈ cp.construct.ids) (hs : (stack.status c).inSession = false)
    (hk : StackKeeps ((afterLoop cp.construct n (.start cp.construct stack) script).history c))
    (hr : ((afterLoop cp.construct n (.start cp.construct stack) script).meters c).getEnergy < 2 ^ 31) :
    let w := afterLoop cp.construct n (.start cp.construct stack) script
    let m := firstMeter cp.construct
    getTxStartStopMeterValue w c = readingAt m (w.history c) ∧
    billed m (w.history c) + running m (w.history c) = gained (registerAt m) openTx (w.history c) ∧
    (w.meters c).getEnergy = billed m (w.history c) + running m (w.history c) +
      gained (registerAt m) (fun h => !openTx h && lingers h) (w.history c) := by
  intro w m
  obtain ⟨ha, hb⟩ := loop_books hc n _ script ⟨agreed_of_idle rfl hs, books_start cp stack c⟩
  obtain ⟨o, ho⟩ := ha
  refine ⟨?_, Books.balanced hb hk (ho hk).1 rfl hr⟩
  have h₁ : 0 < c := (List.mem_range'_1.1 hc).1
  unfold getTxStartStopMeterValue
  rw [if_pos h₁]
  exact congrArg (fun k => toInt (MeterSimulator.getEnergy k)) hb.meter

/-- A car that draws 8 A, is unplugged after five updates of its meter, and four updates more. -/
def sampleUnplugged : List Tick := script 140
  [(0, .carMessage 1 { cable := some 10, consumptionL1 := some 8 }), (0, .idTagMessage 1 "A"),
   (94, .meterUpdate 1), (94, .meterUpdate 1), (94, .meterUpdate 1), (94, .meterUpdate 1), (94, .meterUpdate 1),
   (94, .carMessage 1 { cable := some 0 }),
   (118, .meterUpdate 1), (118, .meterUpdate 1), (118, .meterUpdate 1), (118, .meterUpdate 1)]

/-- One Wh of the two is charged. -/
theorem energy_billed_unplugged :
    let cp := SimulatedChargePoint.construct .sample
    let w := afterLoop cp 6 (.start cp .idle) sampleUnplugged
    let m := firstMeter cp
    (billed m (w.history 1) = 1 ∧ running m (w.history 1) = 0 ∧ (w.meters 1).getEnergy = 2) ∧
    getTxStartStopMeterValue w 1 = readingAt m (w.history 1) ∧
    billed m (w.history 1) + running m (w.history 1) = gained (registerAt m) openTx (w.history 1) ∧
    (w.meters 1).getEnergy = billed m (w.history 1) + running m (w.history 1) +
      gained (registerAt m) (fun h => !openTx h && lingers h) (w.history 1) :=
  ⟨⟨by decide +kernel, by decide +kernel, by decide +kernel⟩,
    energy_billed .sample .idle 1 6 sampleUnplugged (by decide) rfl (by decide +kernel) (by decide +kernel)⟩

end Simu
