import OcppSimu.Rules
/-!
# Session — a connector is in a charging status exactly while it has a transaction

On the history of one connector a transaction is open when the last start that was let through is later than the last
stop.  `Sess o s` is what the passes of the loop keep: every start and stop so far found the transaction it needs, a
transaction is open iff `o`, and the stack's status is one of the three of a session iff `s`.  Between rounds the two
agree; they part only between a start or a stop and the notification that follows it.
-/
namespace Simu

open Hist Script View

/-! ## Transactions in a history -/

def Entry.starts : Entry → Bool
  | .startTransaction _ _ a => a.ok
  | _ => false

def Entry.stops : Entry → Bool
  | .stopTransaction _ _ _ => true
  | _ => false

/-- **A transaction is open**: started, and not stopped since. -/
def openTx (h : List Entry) : Bool := since Entry.starts Entry.stops h

/-- A stop finds a transaction open, a start finds none. -/
def Entry.pairedWith : Entry → List Entry → Bool
  | .stopTransaction _ _ _, h => openTx h
  | .startTransaction _ _ _, h => !openTx h
  | _, _ => true

def WellPaired (h : List Entry) : Prop := Always (fun e h => e.pairedWith h = true) h

/-- **What is assumed of the stack**: on its own it only moves a connector between `Available`, `Reserved` and
`Unavailable`. -/
def Entry.moveAllowed : Entry → Bool
  | .statusMoved _ old new => old.stackOwned && new.stackOwned
  | _ => true

def StackKeeps (h : List Entry) : Prop := Always (fun e _ => e.moveAllowed = true) h

instance (h : List Entry) : Decidable (StackKeeps h) := Hist.decidableAlways _ h

theorem inSession_of_stackOwned {s : ChargePointStatus} (h : s.stackOwned = true) : s.inSession = false := by
  cases s <;> first | rfl | exact absurd h (by decide)

theorem inSession_sessionStatus (d : ConnectorData) : (sessionStatus d).inSession = true := by
  unfold sessionStatus
  split
  · rfl
  · split <;> rfl

/-! ## The invariant -/

/-- **The state of a session**: `h` is the history of a connector, `x` its status in the stack. -/
def SessOn (o s : Bool) (h : List Entry) (x : ChargePointStatus) : Prop :=
  StackKeeps h → WellPaired h ∧ openTx h = o ∧ x.inSession = s

def Sess (o s : Bool) (v : View) : Prop := SessOn o s v.history v.status

def Entry.sessionFree : Entry → Bool
  | .startTransaction _ _ _ | .stopTransaction _ _ _ | .statusMoved _ _ _ => false
  | _ => true

theorem SessOn.cons {o s : Bool} {h : List Entry} {x : ChargePointStatus} {e : Entry} (he : e.sessionFree = true)
    (hs : SessOn o s h x) : SessOn o s (e :: h) x := by
  intro hk
  obtain ⟨hw, ho, hx⟩ := hs hk.tail
  refine ⟨.cons ?_ hw, ?_, hx⟩
  · cases e <;> first | rfl | cases he
  · rw [← ho]
    cases e <;> first | rfl | cases he

theorem SessOn.status {o s t : Bool} {h : List Entry} {x y : ChargePointStatus} (hy : y.inSession = t)
    (hs : SessOn o s h x) : SessOn o t h y := fun hk => ⟨(hs hk).1, (hs hk).2.1, hy⟩

theorem SessOn.moved {o s : Bool} {h : List Entry} {c : Nat} {x y : ChargePointStatus} (hs : SessOn o s h x) :
    SessOn o s (.statusMoved c x y :: h) y := by
  intro hk
  obtain ⟨hw, ho, hx⟩ := hs hk.tail
  have hm : x.stackOwned = true ∧ y.stackOwned = true := by simpa [Entry.moveAllowed] using hk.head
  refine ⟨.cons rfl hw, ho, ?_⟩
  rw [← hx, inSession_of_stackOwned hm.1, inSession_of_stackOwned hm.2]

theorem Sess.closed (c : Nat) (o s : Bool) : Closed c (Sess o s) := by
  intro v v' hv h
  cases hv with
  | moved x => exact SessOn.moved h
  | _ => exact SessOn.cons rfl h

theorem Sess.steady (c : Nat) (o s : Bool) : Steady c (Sess o s) where
  env := Sess.closed c o s
  setpoints _ _ _ h := h
  asked _ _ _ h := SessOn.cons rfl h
  metered _ _ h := SessOn.cons rfl h

/-- Between rounds: the status is a session's exactly when a transaction is open. -/
def Agreed (v : View) : Prop := ∃ o, Sess o o v

/-- Once polled: so is the loop's copy of the status. -/
def Polled (v : View) : Prop := Sess v.connector.status.inSession v.connector.status.inSession v

theorem Agreed.steady (c : Nat) : Steady c Agreed where
  env := fun v v' hv ⟨o, h⟩ => ⟨o, Sess.closed c o o v v' hv h⟩
  setpoints := fun v x y ⟨o, h⟩ => ⟨o, (Sess.steady c o o).setpoints v x y h⟩
  asked := fun v u a ⟨o, h⟩ => ⟨o, (Sess.steady c o o).asked v u a h⟩
  metered := fun v x ⟨o, h⟩ => ⟨o, (Sess.steady c o o).metered v x h⟩

theorem Polled.steady (c : Nat) : Steady c Polled where
  env v v' hv h := by
    have hs : v'.connector.status = v.connector.status := by rw [hv.connector]
    unfold Polled
    rw [hs]
    exact Sess.closed c _ _ v v' hv h
  setpoints _ _ _ h := h
  asked _ _ _ h := SessOn.cons rfl h
  metered _ _ h := SessOn.cons rfl h

/-! ## The passes of the loop -/

variable {cp : SimulatedChargePoint} {c : Nat}

theorem updateConnectorStatus_sess : SpecAt c Agreed (updateConnectorStatus cp c) (fun _ => Polled) := by
  refine SpecOn.bind (R := fun n v => Sess n.inSession n.inSession v) ?_ (fun n => ?_)
  · refine getConnectorStatus_at (Agreed.steady c).env (fun v hv => ?_)
    obtain ⟨o, h⟩ := hv
    intro hk
    obtain ⟨hw, ho, hs⟩ := h hk.tail
    exact ⟨.cons rfl hw, ho.trans hs.symm, rfl⟩
  refine ownData_at (fun v hv => ?_)
  refine SpecOn.pre (R := fun v' => Sess n.inSession n.inSession v' ∧ v'.connector.status = v.connector.status)
    (fun v' hv' => ⟨hv'.1, by rw [hv'.2]⟩) ?_
  refine SpecOn.ite (fun _ => ?_) (fun he => SpecOn.pure _ (fun v' hv' => ?_))
  · refine SpecOn.bind (R := fun _ => Sess n.inSession n.inSession) (record_at rfl (fun _ h => SessOn.cons rfl h.1)) (fun _ => ?_)
    have entryFree : EntryFree c (Sess n.inSession n.inSession) :=
      { env := Sess.closed c _ _, cleared := fun _ h => h, badge := fun _ h => SessOn.cons rfl h, timed := fun _ _ h => h }
    exact entering_at entryFree (fun _ h => h)
  · have hn : n = v.connector.status := Classical.not_not.1 he
    show Sess v'.connector.status.inSession v'.connector.status.inSession v'
    rw [hv'.2, ← hn]
    exact hv'.1

theorem Sess.tagFree (c : Nat) (o s : Bool) : TagFree c (Sess o s) where
  env := Sess.closed c o s
  noted _ e he h := SessOn.cons (by cases e <;> first | rfl | cases he) h
  answered _ _ _ h := SessOn.cons rfl h
  tagged _ _ _ h := h
  badge _ h := SessOn.cons rfl h
  start _ h := SessOn.cons rfl h

theorem statusNotification_sess {o s : Bool} {x : ChargePointStatus} (hx : x.inSession = o) :
    SpecAt c (Sess o s) (statusNotification cp c x) (fun _ => Agreed) :=
  statusNotification_at (Sess.closed c o s) (fun _ h => ⟨o, SessOn.cons rfl (SessOn.status hx h)⟩)

theorem stopTransaction_sess {s : Bool} (idTag : String) (reason : Reason) :
    SpecAt c (Sess true s) (do stopTransaction cp c idTag reason; pure true)
      (fun ret => Sess (!ret) s) := by
  refine SpecOn.bind (R := fun _ => Sess false s) ?_ (fun _ => SpecOn.pure _ (fun _ h => h))
  exact stopTransaction_at (Sess.closed c true s) (fun v h hk => ⟨.cons (h hk.tail).2.1 (h hk.tail).1, rfl, (h hk.tail).2.2⟩)

/-- **The stop condition is met exactly when the transaction was stopped.** -/
theorem isTransactionStopCondition_sess {s : Bool} :
    SpecAt c (Sess true s) (isTransactionStopCondition cp c) (fun ret => Sess (!ret) s) := by
  have hc := Sess.closed c true s
  refine SpecOn.keep (isIdTagPending_at hc (fun _ h => SessOn.cons rfl h)) (fun _ => SpecOn.ite (fun _ => ?_) (fun _ => ?_))
  · refine SpecOn.keep (pendingIdTag_at hc (fun _ h => SessOn.cons rfl h)) (fun _ => ?_)
    refine SpecOn.keep (authorize_at hc (fun _ _ h => SessOn.cons rfl h)) (fun _ => ?_)
    refine SpecOn.keep (resetIdTagPending_at hc (fun _ h => SessOn.cons rfl h)) (fun _ => ?_)
    exact SpecOn.ite (fun _ => stopTransaction_sess _ _) (fun _ => SpecOn.pure _ (fun _ h => h))
  · refine SpecOn.keep (isRemoteStopPending_at hc (fun _ h => SessOn.cons rfl h)) (fun _ => SpecOn.ite (fun _ => ?_) (fun _ => ?_))
    · exact SpecOn.keep (resetRemoteStopPending_at hc (fun _ h => SessOn.cons rfl h)) (fun _ => stopTransaction_sess _ _)
    · refine ownData_at (fun v _ => SpecOn.pre (fun _ h => h.1) ?_)
      refine SpecOn.ite (fun _ => stopTransaction_sess _ _) (fun _ => ?_)
      exact SpecOn.ite (fun _ => stopTransaction_sess _ _) (fun _ => SpecOn.pure _ (fun _ h => h))

theorem pure_sess {o : Bool} : SpecAt c (Sess o o) (pure () : M Unit) (fun _ => Agreed) :=
  SpecOn.pure _ (fun _ h => ⟨o, h⟩)

theorem faultOrUnavailable_sess (d : ConnectorData) :
    SpecAt c (Sess false false) (faultOrUnavailable cp c d) (fun _ => Agreed) := by
  refine SpecOn.ite (fun _ => statusNotification_sess rfl) (fun _ => ?_)
  refine SpecOn.keep (unavailablePending_at (Sess.closed c _ _) (fun _ h => SessOn.cons rfl h)) (fun _ => ?_)
  exact SpecOn.ite (fun _ => statusNotification_sess rfl) (fun _ => pure_sess)

theorem tryStart_sess (d : ConnectorData) : SpecAt c (Sess false false) (tryStart cp c d) (fun _ => Agreed) := by
  have hc := Sess.closed c false false
  refine SpecOn.ite (fun _ => ?_) (fun _ => SpecOn.ite (fun _ => statusNotification_sess rfl) (fun _ => ?_))
  · refine SpecOn.bind (R := fun a => Sess a.ok false) ?_ (fun a => SpecOn.ite (fun ha => ?_) (fun ha => ?_))
    · refine startTransaction_at hc (fun v a h hk => ?_)
      obtain ⟨hw, ho, hs⟩ := h hk.tail
      refine ⟨.cons ?_ hw, ?_, hs⟩
      · show (!openTx v.history) = true
        rw [ho]
        rfl
      · show (a.ok || (true && openTx v.history)) = a.ok
        rw [ho, Bool.and_false, Bool.or_false]
    · rw [ha]
      exact statusNotification_sess (inSession_sessionStatus d)
    · rw [Bool.not_eq_true] at ha
      rw [ha]
      exact clearIdTags_at (fun _ h => ⟨false, h⟩)
  · refine SpecOn.ite (fun _ => statusNotification_sess rfl) (fun _ => ?_)
    refine SpecOn.keep (preparingTimedOut_at hc (fun _ _ h => h)) (fun _ => ?_)
    exact SpecOn.ite (fun _ => statusNotification_sess rfl) (fun _ => pure_sess)

theorem whenPreparing_sess (d : ConnectorData) :
    SpecAt c (Sess false false) (whenPreparing cp c d) (fun _ => Agreed) := by
  refine SpecOn.keep (SpecOn.ite (fun _ => ?_) (fun _ => SpecOn.pure _ (fun _ h => h))) (fun _ => ?_)
  · refine SpecOn.keep (isValidIdTagPresent_keeps (Sess.tagFree c _ _) false) (fun _ => ?_)
    exact SpecOn.ite (fun _ => startPreparing_at (Sess.closed c _ _) (fun _ _ h => h)) (fun _ => SpecOn.pure _ (fun _ h => h))
  · exact ownData_at (fun v _ => SpecOn.pre (fun _ h => h.1) (tryStart_sess v.connector))

theorem session_sess {k : M Unit} (hk : SpecAt c (Sess true true) k (fun _ => Agreed)) :
    SpecAt c (Sess true true)
      (do if ← isTransactionStopCondition cp c then statusNotification cp c .finishing else k) (fun _ => Agreed) := by
  refine SpecOn.bind isTransactionStopCondition_sess (fun ret => SpecOn.ite (fun hr => ?_) (fun hr => ?_))
  · rw [hr]
    exact statusNotification_sess rfl
  · rw [Bool.not_eq_true] at hr
    rw [hr]
    exact hk

/-- **The pass of a connector brings status and transaction back together.** -/
theorem nextStatus_sess : SpecAt c Polled (nextStatus cp c) (fun _ => Agreed) := by
  refine ownData_at (fun v _ => SpecOn.pre (R := Sess v.connector.status.inSession v.connector.status.inSession) ?_ ?_)
  · rintro v' ⟨h, hd⟩
    rw [← hd]
    exact h
  generalize v.connector = d
  have valid := @isValidIdTagPresent_keeps cp c _ (Sess.tagFree c false false) false
  cases d.status with
  | available =>
    refine SpecOn.ite (fun _ => statusNotification_sess rfl) (fun _ => SpecOn.keep valid (fun _ => ?_))
    exact SpecOn.ite (fun _ => statusNotification_sess rfl) (fun _ => faultOrUnavailable_sess d)
  | preparing => exact whenPreparing_sess d
  | charging =>
    refine session_sess (SpecOn.ite (fun _ => statusNotification_sess rfl) (fun _ => ?_))
    exact SpecOn.ite (fun _ => statusNotification_sess rfl) (fun _ => pure_sess)
  | suspendedEVSE =>
    refine session_sess (SpecOn.ite (fun _ => ?_) (fun _ => pure_sess))
    exact SpecOn.ite (fun _ => statusNotification_sess rfl) (fun _ => statusNotification_sess rfl)
  | suspendedEV =>
    refine session_sess (SpecOn.ite (fun _ => statusNotification_sess rfl) (fun _ => ?_))
    exact SpecOn.ite (fun _ => statusNotification_sess rfl) (fun _ => pure_sess)
  | finishing =>
    refine SpecOn.ite (fun _ => statusNotification_sess rfl) (fun _ => ?_)
    exact SpecOn.ite (fun _ => statusNotification_sess rfl) (fun _ => pure_sess)
  | reserved =>
    refine SpecOn.keep valid (fun _ => ?_)
    exact SpecOn.ite (fun _ => statusNotification_sess rfl) (fun _ => faultOrUnavailable_sess d)
  | unavailable => exact pure_sess
  | faulted =>
    refine SpecOn.ite (fun _ => statusNotification_sess rfl) (fun _ => ?_)
    refine SpecOn.keep (unavailablePending_at (Sess.closed c _ _) (fun _ h => SessOn.cons rfl h)) (fun _ => ?_)
    exact SpecOn.ite (fun _ => statusNotification_sess rfl) (fun _ => pure_sess)

/-! ## The run -/

theorem loop_sess (hc : c ∈ cp.ids) (k : Nat) : SpecAt c Agreed (loop cp k) (fun _ => Agreed) :=
  loop_at hc (Agreed.steady c) (Polled.steady c) (Polled.steady c).env updateConnectorStatus_sess
    (fun _ h => SessOn.cons rfl h) nextStatus_sess k

theorem pollConnectors_sess (hc : c ∈ cp.ids) : SpecAt c Agreed (pollConnectors cp) (fun _ => Polled) :=
  pollConnectors_at hc (Agreed.steady c).env (Polled.steady c).env updateConnectorStatus_sess

theorem loopPolled_sess (hc : c ∈ cp.ids) (k : Nat) :
    SpecAt c Agreed (loopPolled cp k) (fun polled v => polled = true → Polled v) :=
  loopThen_at (Agreed.steady c).env (loop_sess hc k) (pollConnectors_sess hc)

theorem agreed_of_idle {w : World} (hl : w.log = []) (hs : (w.stack.status c).inSession = false) :
    Agreed (w.view c) := by
  have hh : w.history c = [] := history_of_log_nil hl c
  refine ⟨false, fun _ => ?_⟩
  show WellPaired (w.history c) ∧ openTx (w.history c) = false ∧ _
  rw [hh]
  exact ⟨.nil, rfl, hs⟩

/-- **The transactions of a connector are well paired, and its polled status says whether one is open.**  In every run
in which the stack keeps to its three statuses, a stop finds a transaction open and a start finds none; and when the
loop has polled, the status it holds is one of a session exactly when a transaction is open. -/
theorem transactions_wellPaired (cp : SimulatedChargePoint) (c : Nat) (hc : c ∈ cp.ids) (w : World)
    (hl : w.log = []) (hs : (w.stack.status c).inSession = false) (k : Nat) (script : List Tick) :
    (StackKeeps ((afterLoop cp k w script).history c) → WellPaired ((afterLoop cp k w script).history c)) ∧
    ((loopPolled cp k (w, script)).1 = true → StackKeeps ((afterPoll cp k w script).history c) →
      ((afterPoll cp k w script).connectors c).status.inSession = openTx ((afterPoll cp k w script).history c)) := by
  have hw := agreed_of_idle hl hs
  constructor
  · intro hk
    obtain ⟨o, h⟩ := loop_sess hc k w script hw
    exact (h hk).1
  · intro hp hk
    have h := loopPolled_sess hc k w script hw hp hk
    exact h.2.1.symm

theorem transactions_wellPaired_session :
    WellPaired ((afterLoop .sample 5 (.start .sample .idle) sampleSession).history 1) ∧
    ((afterPoll .sample 2 (.start .sample .idle) sampleSession).connectors 1).status.inSession =
      openTx ((afterPoll .sample 2 (.start .sample .idle) sampleSession).history 1) := by
  have h := transactions_wellPaired .sample 1 (by decide) (.start .sample .idle) rfl rfl
  have h₅ := (h 5 sampleSession).1 (by decide +kernel)
  have h₂ := (h 2 sampleSession).2 (by decide +kernel) (by decide +kernel)
  exact ⟨h₅, h₂⟩

end Simu
