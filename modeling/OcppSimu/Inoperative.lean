import OcppSimu.Session
/-!
# Inoperative — an immediate unavailability never cuts a session

`changeAvailabilityRequested` answers from the loop's own copy of the status, which the stack may have left behind.  The
copy says `Available`, `Reserved` or `Faulted` only while no transaction is open (`Spared`): a transaction is started
where the copy says `Preparing`, and it is still in the stack's status when the copy is made.
-/
namespace Simu

open Hist Script View

/-! ## The answers in a history -/

/-- The statuses in which `changeAvailabilityRequested` makes the connector inoperative at once. -/
def ChargePointStatus.immediate (s : ChargePointStatus) : Bool := decide (s = .available ∨ s = .reserved ∨ s = .faulted)

/-- **An `Inoperative` request is answered `Accepted` only where no transaction is open.** -/
def Entry.spares : Entry → List Entry → Bool
  | .changeAvailabilityRequested _ .inoperative .accepted, h => !openTx h
  | _, _ => true

def Spares (h : List Entry) : Prop := Always (fun e h => e.spares h = true) h

instance (h : List Entry) : Decidable (Spares h) := Hist.decidableAlways _ h

theorem changeAvailability_inoperative {c : Nat} (hc : c ≠ 0) (d : ConnectorData) :
    changeAvailability c d .inoperative =
      if d.status.immediate then (.accepted, d.unavailablePending) else (.scheduled, true) := by
  unfold changeAvailability
  rw [if_pos (Nat.pos_of_ne_zero hc)]
  cases d.status <;> rfl

theorem inSession_of_immediate {s : ChargePointStatus} (h : s.immediate = true) : s.inSession = false := by
  cases s <;> first | rfl | exact absurd h (by decide)

/-! ## The invariant -/

/-- **No transaction is open where the copy of the status says that the connector may go at once.** -/
def SparedOn (s : ChargePointStatus) (h : List Entry) : Prop :=
  StackKeeps h → Spares h ∧ (s.immediate = true → openTx h = false)

def Spared (v : View) : Prop := SparedOn v.connector.status v.history

theorem SparedOn.cons {s : ChargePointStatus} {h : List Entry} {e : Entry} (hs : SparedOn s h)
    (he : (s.immediate = true → openTx h = false) → e.spares h = true) (ho : e.starts = true → s.immediate = false) :
    SparedOn s (e :: h) := by
  intro hk
  obtain ⟨ha, hn⟩ := hs hk.tail
  refine ⟨.cons (he hn) ha, fun hi => ?_⟩
  show (e.starts || (!e.stops && openTx h)) = false
  have hst : e.starts = false := Bool.eq_false_iff.2 (fun hst => by rw [ho hst] at hi; cases hi)
  rw [hst, hn hi, Bool.and_false]
  rfl

/-- The entries that neither start a transaction nor answer a request. -/
def Entry.harmless : Entry → Bool
  | .startTransaction _ _ _ | .changeAvailabilityRequested _ _ _ => false
  | _ => true

theorem SparedOn.harmless {s : ChargePointStatus} {h : List Entry} {e : Entry} (he : e.harmless = true) (hs : SparedOn s h) :
    SparedOn s (e :: h) := by
  refine hs.cons (fun _ => ?_) (fun hst => ?_)
  · cases e <;> first | rfl | cases he
  · cases e <;> first | cases hst | cases he

theorem Spared.closed {c : Nat} (hc : c ≠ 0) : Closed c Spared := by
  intro v v' hv h
  cases hv with
  | availability a =>
    refine SparedOn.cons (s := v.connector.status) (h := v.history) h (fun hn => ?_) (fun hst => by cases hst)
    cases a with
    | operative => rfl
    | inoperative =>
      rw [changeAvailability_inoperative hc]
      split
      · rename_i hi
        show (!openTx v.history) = true
        rw [hn hi]
        rfl
      · rfl
  | _ => exact SparedOn.harmless rfl h

theorem Spared.steady {c : Nat} (hc : c ≠ 0) : Steady c Spared where
  env := Spared.closed hc
  setpoints _ _ _ h := h
  asked _ _ _ h := SparedOn.harmless rfl h
  metered _ _ h := SparedOn.harmless rfl h

/-! ## The passes of the loop -/

variable {cp : SimulatedChargePoint} {c : Nat}

theorem harmless_of_reads {e : Entry} (he : e.reads = true) : e.harmless = true := by
  cases e <;> first | rfl | cases he

/-- **The pass keeps a property of the copy of the status** along with the invariant. -/
theorem Spared.tagFree (hc : c ≠ 0) (P : ChargePointStatus → Prop) :
    TagFree c (fun v => Spared v ∧ P v.connector.status) where
  env := (Spared.closed hc).and (closed_own (P := fun d _ => P d.status) (fun _ _ _ _ _ h => h))
  noted _ _ he h := ⟨SparedOn.harmless (harmless_of_reads he) h.1, h.2⟩
  answered _ _ _ h := ⟨SparedOn.harmless rfl h.1, h.2⟩
  tagged _ _ _ h := h
  badge _ h := ⟨SparedOn.harmless rfl h.1, h.2⟩
  start _ h := ⟨SparedOn.harmless rfl h.1, h.2⟩

theorem Spared.stopFree (hc : c ≠ 0) : StopFree c Spared where
  env := Spared.closed hc
  noted _ _ he h := SparedOn.harmless (harmless_of_reads he) h
  badge _ h := SparedOn.harmless rfl h
  stop _ h := SparedOn.harmless rfl h
  stopped _ _ _ h := SparedOn.harmless rfl h

/-- Where the copy says `Preparing`, a start does no harm. -/
theorem Spared.plain (hc : c ≠ 0) : Plain c (fun v => Spared v ∧ v.connector.status = .preparing) where
  env := (Spared.tagFree hc (· = .preparing)).env
  notified _ _ h := ⟨SparedOn.harmless rfl h.1, h.2⟩
  asked _ _ h := ⟨SparedOn.harmless rfl h.1, h.2⟩
  timed _ _ h := h
  started v _ h _ _ := ⟨SparedOn.cons (s := v.connector.status) h.1 (fun _ => rfl) (fun _ => by rw [h.2]; rfl), h.2⟩
  refused v _ h _ _ := ⟨SparedOn.cons (s := v.connector.status) h.1 (fun _ => rfl) (fun _ => by rw [h.2]; rfl), h.2⟩

theorem nextStatus_spared (hc : c ≠ 0) : SpecAt c Spared (nextStatus cp c) (fun _ => Spared) := by
  have noticeFree : NoticeFree cp c Spared := by
    refine ⟨Spared.closed hc, fun _ _ _ h => SparedOn.harmless rfl h, ?_⟩
    refine SpecOn.keep (unavailablePending_at (Spared.closed hc) (fun _ h => SparedOn.harmless rfl h)) (fun _ => ?_)
    refine SpecOn.ite (fun _ => ?_) (fun _ => NoticeFree.done)
    exact statusNotification_at (Spared.closed hc) (fun _ h => SparedOn.harmless rfl h)
  have valid : ∀ P : ChargePointStatus → Prop, SpecAt c (fun v => Spared v ∧ P v.connector.status) (isValidIdTagPresent cp c false)
      (fun _ v => Spared v ∧ P v.connector.status) := fun P => isValidIdTagPresent_keeps (Spared.tagFree hc P) false
  refine noticeFree.nextStatus ?_ (isTransactionStopCondition_keeps (Spared.stopFree hc)) (fun d hd => ?_)
  · exact SpecOn.post (SpecOn.pre (fun _ h => ⟨h, trivial⟩) (valid (fun _ => True))) (fun _ _ h => h.1)
  · refine SpecOn.post (SpecOn.pre (fun v h => ⟨h.1, ?_⟩) ((Spared.plain hc).starting.whenPreparing (valid (· = .preparing)) d)) (fun _ _ h => h.1)
    rw [h.2]
    exact hd

/-- **What is polled is a session's status exactly where a transaction is open**, so the copy may be made. -/
theorem updateConnectorStatus_spared (hc : c ≠ 0) :
    SpecAt c (fun v => Agreed v ∧ Spared v) (updateConnectorStatus cp c) (fun _ v => Polled v ∧ Spared v) := by
  refine SpecOn.bind (R := fun n v => Sess n.inSession n.inSession v ∧ Spared v) ?_ (fun n => ?_)
  · refine getConnectorStatus_at ((Agreed.steady c).env.and (Spared.closed hc)) (fun v hv => ⟨?_, SparedOn.harmless rfl hv.2⟩)
    obtain ⟨⟨o, h⟩, -⟩ := hv
    intro hk
    obtain ⟨hw, ho, hs⟩ := h hk.tail
    exact ⟨.cons rfl hw, ho.trans hs.symm, rfl⟩
  have hcl := (Sess.closed c n.inSession n.inSession).and (Spared.closed hc)
  refine ownData_at (fun v hv => SpecOn.ite (fun _ => ?_) (fun he => SpecOn.pure _ (fun v' hv' => ?_)))
  · refine SpecOn.bind (R := fun _ v => Sess n.inSession n.inSession v ∧ Spared v)
      (record_at rfl (fun _ h => ⟨SessOn.cons rfl h.1.1, SparedOn.harmless rfl h.1.2⟩)) (fun _ => ?_)
    have entryFree : EntryFree c (fun v => Sess n.inSession n.inSession v ∧ Spared v) :=
      { env := hcl, cleared := fun _ h => h, badge := fun _ h => ⟨SessOn.cons rfl h.1, SparedOn.harmless rfl h.2⟩
        timed := fun _ _ h => h }
    refine entering_at entryFree (fun v h => ⟨h.1, fun hk => ⟨(h.2 hk).1, fun hi => ?_⟩⟩)
    rw [← inSession_of_immediate hi]
    exact (h.1 hk).2.1
  · have hn : n = v'.connector.status := by
      rw [hv'.2]
      exact Classical.not_not.1 he
    refine ⟨?_, hv'.1.2⟩
    show Sess v'.connector.status.inSession v'.connector.status.inSession v'
    rw [← hn]
    exact hv'.1.1

/-! ## The run -/

theorem loop_spared (hc : c ∈ cp.ids) (h₀ : c ≠ 0) (k : Nat) :
    SpecAt c (fun v => Agreed v ∧ Spared v) (loop cp k) (fun _ v => Agreed v ∧ Spared v) := by
  have hp := (Polled.steady c).and (Spared.steady h₀)
  refine loop_at hc ((Agreed.steady c).and (Spared.steady h₀)) hp hp.env (updateConnectorStatus_spared h₀) ?_ ?_ k
  · exact fun _ h => ⟨SessOn.cons rfl h.1, SparedOn.harmless rfl h.2⟩
  · exact Spec.and nextStatus_sess (nextStatus_spared h₀)

/-- **Whenever the stack asks for the connector to be inoperative, the answer is `Accepted` only where it has no open
transaction**, in every run in which the stack keeps to its three statuses, whatever comes between two calls of the
loop. -/
theorem inoperative_spares (cp : SimulatedChargePoint) (c : Nat) (hc : c ∈ cp.ids) (w : World) (hl : w.log = [])
    (hs : (w.stack.status c).inSession = false) (k : Nat) (script : List Tick) (t : Tick)
    (hk : StackKeeps (((afterLoop cp k w script).tick cp t).history c)) :
    Spares (((afterLoop cp k w script).tick cp t).history c) := by
  have h₀ := cp.ne_zero_of_mem_ids hc
  have hh : (w.view c).history = [] := history_of_log_nil hl c
  have hw : Spared (w.view c) := by
    unfold Spared
    rw [hh]
    exact fun _ => ⟨.nil, fun _ => rfl⟩
  have h := loop_spared hc h₀ k w script ⟨agreed_of_idle hl hs, hw⟩
  exact ((Spared.closed h₀).tick cp t _ h.2 hk).1

/-- The connector is asked to go during a session, and once it has ended. -/
def sampleInoperative : List Tick := script 120
  [(0, .carMessage 1 { cable := some 10 }), (0, .idTagMessage 1 "A"), (40, .changeAvailabilityRequested 1 .inoperative),
   (62, .idTagMessage 1 "A"), (80, .carMessage 1 { cable := some 0 })]

theorem inoperative_spares_session :
    Spares (((afterLoop .sample 5 (.start .sample .idle) sampleInoperative).tick .sample
      { events := [.changeAvailabilityRequested 1 .inoperative] }).history 1) :=
  inoperative_spares .sample 1 (by decide) (.start .sample .idle) rfl rfl 5 sampleInoperative _ (by decide +kernel)

end Simu
