import OcppSimu.Session
import OcppSimu.Stability
/-!
# Service — a car that asks is charged, and a connector that is left is free again

What the iterations of the loop come to for a connector, as long as the others oblige.  A bound is handed down from one
iteration to the next (`Leads`): a tag is presented and a cable plugged, and in the second iteration at the latest a
transaction is started (`served_in_two`); the cable is unplugged, and after three the connector is available again, from
whatever it was doing (`freed_in_three`).
-/
namespace Simu

open Script View

variable {cp : SimulatedChargePoint} {c : Nat}

/-! ## A bound that each iteration lowers -/

/-- How many iterations have polled the connector. -/
def polls (h : List Entry) : Nat := (polledStatuses h).length

theorem polls_cons {e : Entry} (he : e.polledStatus = none) (h : List Entry) : polls (e :: h) = polls h :=
  congrArg List.length (polledStatuses_cons he h)

theorem polls_polled (c : Nat) (z : ChargePointStatus) (h : List Entry) :
    polls (.getConnectorStatus c z :: h) = polls h + 1 := by
  unfold polls
  rw [polledStatuses_polled, List.length_append]
  rfl

theorem polledStatus_of_outside {e : Entry} (he : e.outside = true) : e.polledStatus = none := by
  cases e <;> first | rfl | cases he

/-- What is said with the number of polls. -/
theorem steady_polls {S : Nat → View → Prop} (hS : ∀ n, Steady c (S n)) (f : Nat → Nat) :
    Steady c (fun v => S (f (polls v.history)) v) where
  env v v' he h := by
    obtain ⟨e, ho, hh⟩ := he.history
    have hp : polls v'.history = polls v.history := by rw [hh, polls_cons (polledStatus_of_outside ho)]
    show S (f (polls v'.history)) v'
    rw [hp]
    exact (hS _).env v v' he h
  setpoints v x y h := (hS _).setpoints v x y h
  asked v unit a h := by
    show S (f (polls (_ :: v.history))) _
    rw [polls_cons rfl]
    exact (hS _).asked v unit a h
  metered v x h := by
    show S (f (polls (_ :: v.history))) _
    rw [polls_cons rfl]
    exact (hS _).metered v x h

theorem closed_polls (c n : Nat) : Closed c (fun v => polls v.history = n) :=
  closed_history (P := fun h => polls h = n) (fun _ h he hn => (polls_cons (polledStatus_of_outside he) h).trans hn)

/-- **An iteration polls the connector once**, and first. -/
theorem updateConnectorStatus_polls (n : Nat) : SpecAt c (fun v => polls v.history = n) (updateConnectorStatus cp c)
    (fun _ v => polls v.history = n + 1) := by
  refine SpecOn.bind (R := fun _ v => polls v.history = n + 1)
    (getConnectorStatus_at (closed_polls c n) (fun v hv => (polls_polled c _ _).trans (by rw [hv]))) (fun z => ?_)
  refine ownData_at (fun v _ => SpecOn.pre (fun _ h => h.1) (SpecOn.ite (fun _ => ?_) (fun _ => SpecOn.pure _ (fun _ h => h))))
  refine SpecOn.keep (record_at rfl (fun v hv => (polls_cons rfl v.history).trans hv)) (fun _ => ?_)
  have entryFree : EntryFree c (fun v => polls v.history = n + 1) :=
    { env := closed_polls c _, cleared := fun _ h => h, badge := fun v h => (polls_cons rfl v.history).trans h
      timed := fun _ _ h => h }
  exact entering_at entryFree (fun _ h => h)

theorem nextStatus_polls (n : Nat) :
    SpecAt c (fun v => polls v.history = n) (nextStatus cp c) (fun _ v => polls v.history = n) := by
  have note : ∀ {v : View} {e : Entry}, e.polledStatus = none → polls v.history = n → polls (v.note e).history = n :=
    fun he h => (polls_cons he _).trans h
  have reads : ∀ {e : Entry}, e.reads = true → e.polledStatus = none := fun he => by
    rename_i e
    cases e <;> first | rfl | cases he
  have plain : Plain c (fun v => polls v.history = n) :=
    { env := closed_polls c n, notified := fun v _ h => note (v := v) rfl h, asked := fun _ _ h => note rfl h
      timed := fun _ _ h => h, started := fun _ _ h _ _ => note rfl h, refused := fun v _ h _ _ => note (v := v) rfl h }
  have tagFree : TagFree c (fun v => polls v.history = n) :=
    { env := closed_polls c n, noted := fun _ _ he h => note (reads he) h, answered := fun _ _ _ h => note rfl h
      tagged := fun _ _ _ h => h, badge := fun v h => note (v := v) rfl h, start := fun v h => note (v := v) rfl h }
  have stopFree : StopFree c (fun v => polls v.history = n) :=
    { env := closed_polls c n, noted := fun _ _ he h => note (reads he) h, badge := fun v h => note (v := v) rfl h
      stop := fun v h => note (v := v) rfl h, stopped := fun _ _ _ h => note rfl h }
  exact plain.nextStatus (isValidIdTagPresent_keeps tagFree false) (isTransactionStopCondition_keeps stopFree)

/-- **An iteration leads from each bound to the next lower**: `S` holds between two, `J` once the connector is polled, and
`K` once its data are copied. -/
structure Leads (cp : SimulatedChargePoint) (c : Nat) (S J K : Nat → View → Prop) : Prop where
  between : ∀ n, Steady c (S n)
  polled : ∀ n, Steady c (J n)
  copied : ∀ n, Closed c (K n)
  poll : ∀ n, SpecAt c (S n) (updateConnectorStatus cp c) (fun _ => J n)
  copy : ∀ n v, J n v → K n (v.copyData c)
  pass : ∀ n, SpecAt c (K n) (nextStatus cp c) (fun _ => S (n - 1))

/-- **The bound is lowered as often as the connector is polled.** -/
theorem Leads.loop {S J K : Nat → View → Prop} (h : Leads cp c S J K) (hc : c ∈ cp.ids) (n k : Nat) :
    SpecAt c (fun v => S (n - polls v.history) v) (loop cp k) (fun _ v => S (n - polls v.history) v) := by
  have counted : Closed c (fun v => K (n + 1 - polls v.history) v) := by
    intro v v' he hk
    obtain ⟨e, ho, hh⟩ := he.history
    have hp : polls v'.history = polls v.history := by rw [hh, polls_cons (polledStatus_of_outside ho)]
    show K (n + 1 - polls v'.history) v'
    rw [hp]
    exact h.copied _ v v' he hk
  refine loop_at hc (steady_polls h.between (fun p => n - p)) (steady_polls h.polled (fun p => n + 1 - p)) counted ?_ ?_ ?_ k
  · refine SpecOn.split (fun v => polls v.history) (fun p => ?_)
    have both : SpecAt c (fun v => S (n - p) v ∧ polls v.history = p) (updateConnectorStatus cp c)
        (fun _ v => J (n - p) v ∧ polls v.history = p + 1) := Spec.and (h.poll (n - p)) (updateConnectorStatus_polls p)
    refine SpecOn.post (SpecOn.pre (fun v hv => ?_) both) (fun _ v hv => ?_)
    · obtain ⟨hs, hp⟩ := hv
      rw [hp] at hs
      exact ⟨hs, hp⟩
    · obtain ⟨hj, hp⟩ := hv
      rw [hp, Nat.add_sub_add_right]
      exact hj
  · intro v hj
    show K (n + 1 - polls (_ :: v.history)) _
    rw [polls_cons rfl]
    exact h.copy _ v hj
  · refine SpecOn.split (fun v => polls v.history) (fun p => ?_)
    have both : SpecAt c (fun v => K (n + 1 - p) v ∧ polls v.history = p) (nextStatus cp c)
        (fun _ v => S (n + 1 - p - 1) v ∧ polls v.history = p) := Spec.and (h.pass (n + 1 - p)) (nextStatus_polls p)
    refine SpecOn.post (SpecOn.pre (fun v hv => ?_) both) (fun _ v hv => ?_)
    · obtain ⟨hs, hp⟩ := hv
      rw [hp] at hs
      exact ⟨hs, hp⟩
    · obtain ⟨hs, hp⟩ := hv
      rw [hp, show n - p = n + 1 - p - 1 by omega]
      exact hs

/-! ## What holds unless it is over -/

/-- **It is over for good** with an entry that does not oblige, or before. -/
structure Final (obliges : Entry → Bool) (D : List Entry → Prop) : Prop where
  lasting : Lasting D
  broken : ∀ e h, obliges e = false → D (e :: h)

def Unless (D : List Entry → Prop) (P : View → Prop) (v : View) : Prop := D v.history ∨ P v

/-- A step of the other threads that obliges does not end the property. -/
def Endures (c : Nat) (obliges : Entry → Bool) (P : View → Prop) : Prop :=
  ∀ v v' e, Env c v v' → v'.history = e :: v.history → obliges e = true → P v → P v'

section Unless

variable {obliges : Entry → Bool} {D : List Entry → Prop} {P Q : View → Prop} {v : View} {e : Entry}

theorem Final.closed (hD : Final obliges D) (hP : Endures c obliges P) : Closed c (Unless D P) := by
  intro v v' he h
  obtain ⟨e, -, hh⟩ := he.history
  show D v'.history ∨ P v'
  rcases h with hd | hp
  · rw [hh]
    exact .inl (hD.lasting e _ hd)
  · cases ho : obliges e with
    | true => exact .inr (hP v v' e he hh ho hp)
    | false =>
      rw [hh]
      exact .inl (hD.broken e _ ho)

theorem Final.step {v' : View} (hD : Final obliges D) (hv : Unless D P v) (hh : v'.history = e :: v.history)
    (h : obliges e = true → P v → Q v') : Unless D Q v' := by
  unfold Unless
  rw [hh]
  rcases hv with hd | hp
  · exact .inl (hD.lasting e _ hd)
  · cases ho : obliges e with
    | true => exact .inr (h ho hp)
    | false => exact .inl (hD.broken e _ ho)

theorem Final.note (hD : Final obliges D) (hv : Unless D P v) (h : obliges e = true → P v → Q (v.note e)) :
    Unless D Q (v.note e) := hD.step hv rfl h

theorem Unless.imp {v' : View} (hv : Unless D P v) (hh : v'.history = v.history) (h : P v → Q v') : Unless D Q v' := by
  unfold Unless at hv ⊢
  rw [hh]
  exact hv.imp (fun hd => hd) h

/-- **The program may be followed for a view that has the property**: where it is over, it stays over. -/
theorem Unless.given {α : Type} {m : M α} {R : α → View → Prop}
    (hm : SpecAt c (fun v => D v.history) m (fun _ v => D v.history))
    (h : ∀ v₀, P v₀ → SpecAt c (fun v => Unless D P v ∧ v.connector = v₀.connector) m (fun a => Unless D (R a))) :
    SpecAt c (Unless D P) m (fun a => Unless D (R a)) := by
  intro w script hw
  by_cases hd : D (w.view c).history
  · exact .inl (hm w script hd)
  · have hp : P (w.view c) := hw.resolve_left hd
    exact h _ hp w script ⟨.inr hp, rfl⟩

theorem Endures.and (hP : Endures c obliges P) (hQ : Endures c obliges Q) : Endures c obliges (fun v => P v ∧ Q v) :=
  fun v v' e he hh ho h => ⟨hP v v' e he hh ho h.1, hQ v v' e he hh ho h.2⟩

theorem Endures.or (hP : Endures c obliges P) (hQ : Endures c obliges Q) : Endures c obliges (fun v => P v ∨ Q v) :=
  fun v v' e he hh ho h => h.imp (hP v v' e he hh ho) (hQ v v' e he hh ho)

theorem endures_const (p : Prop) : Endures c obliges (fun _ => p) := fun _ _ _ _ _ _ h => h

theorem endures_own {R : ConnectorData → Prop} (hR : Unassigned R) : Endures c obliges (fun v => R v.connector) :=
  fun v v' _ he _ _ h => hR.closed v v' he h

theorem endures_idTag (P : String → Prop) : Endures c obliges (fun v => P v.connector.idTag) :=
  fun v v' _ he _ _ h => closed_idTag c P v v' he h

/-- Where the stack does not oblige by moving the connector, its status endures. -/
theorem endures_status (hm : ∀ d x y, obliges (.statusMoved d x y) = false) (P : ChargePointStatus → Prop) :
    Endures c obliges (fun v => P v.status) := by
  intro v v' e he hh ho h
  cases he with
  | moved s =>
    obtain ⟨rfl, -⟩ := List.cons.inj hh
    rw [hm] at ho
    cases ho
  | _ => exact h

end Unless

/-! ## The poll -/

/-- What follows the comparison of the statuses. -/
def enter (cp : SimulatedChargePoint) (c : Nat) (x : ChargePointStatus) : M Unit := do
  record (.entered c x)
  (if x = .available then do
    clearIdTags c
    resetIdTagPending cp c
  else if x = .preparing then startPreparing cp c
  else pure ())
  setOwn c ({ · with status := x })

theorem enter_lasting {D : List Entry → Prop} (hD : Lasting D) (x : ChargePointStatus) :
    SpecAt c (fun v => D v.history) (enter cp c x) (fun _ v => D v.history) := by
  have entryFree : EntryFree c (fun v => D v.history) :=
    { env := hD.steady.env, cleared := fun _ h => h, badge := fun v h => hD _ v.history h, timed := fun _ _ h => h }
  exact SpecOn.keep (record_at rfl (fun v h => hD _ v.history h)) (fun _ => entering_at entryFree (fun _ h => h))

/-- **A connector whose status is known is polled**: its record has the status already, or takes it on. -/
theorem poll_unless {obliges : Entry → Bool} {D : List Entry → Prop} (hD : Final obliges D) {P Q : View → Prop}
    {x : ChargePointStatus} (hP : Endures c obliges P) (hx : ∀ v, P v → v.status = x)
    (hn : ∀ v e, P v → P (v.note e)) (same : ∀ v, P v → v.connector.status = x → Q v)
    (entering : SpecAt c (Unless D (fun v => P v ∧ v.connector.status ≠ x)) (enter cp c x) (fun _ => Unless D Q)) :
    SpecAt c (Unless D P) (updateConnectorStatus cp c) (fun _ => Unless D Q) := by
  refine SpecOn.bind (R := fun z => Unless D (fun v => z = x ∧ P v))
    (getConnectorStatus_at (hD.closed hP) (fun v hv => hD.note hv (fun _ hp => ⟨hx v hp, hn v _ hp⟩))) (fun z => ?_)
  refine ownData_at (fun v hv => SpecOn.ite (fun hne => ?_) (fun he => SpecOn.pure _ (fun v' hv' => ?_)))
  · by_cases hz : z = x
    · subst hz
      refine SpecOn.pre (fun v' hv' => ?_) entering
      refine hv'.1.imp rfl (fun hp => ⟨hp.2, ?_⟩)
      rw [hv'.2]
      exact Ne.symm hne
    · refine SpecOn.post (SpecOn.pre (fun v' hv' => ?_) (enter_lasting hD.lasting z)) (fun _ v' hd => .inl hd)
      exact hv'.1.resolve_right (fun hp => hz hp.1)
  · refine hv'.1.imp rfl (fun hp => same v' hp.2 ?_)
    rw [hv'.2, ← hp.1]
    exact (Decidable.of_not_not he).symm

/-! ## A car that asks -/

/-- What obliges a car that asks: a tag is not taken back, the cable stays plugged, and what is asked for is granted. -/
def Entry.obliges : Entry → Bool
  | .event (.idTagMessage _ id) => decide (id ≠ "")
  | .remoteStartTransactionRequested _ id _ => decide (id ≠ "")
  | .statusMoved _ _ _ => false
  | .updateData _ _ new => decide (new.cable ≠ 0)
  | .authorize _ _ a | .startTransaction _ _ a => a.ok
  | _ => true

/-- **A transaction has been started**, or someone has not obliged. -/
def Served (h : List Entry) : Prop := (∃ e ∈ h, e.starts = true) ∨ ∃ e ∈ h, e.obliges = false

theorem served_final : Final Entry.obliges Served where
  lasting e _ h := h.imp (fun ⟨x, hx, hs⟩ => ⟨x, List.mem_cons_of_mem e hx, hs⟩)
    (fun ⟨x, hx, hs⟩ => ⟨x, List.mem_cons_of_mem e hx, hs⟩)
  broken e _ he := .inr ⟨e, List.mem_cons_self, he⟩

/-- A tag in one of the mailboxes. -/
def Presented (v : View) : Prop := v.mqtt.idTag ≠ "" ∨ v.startPending = true ∧ v.startIdTag ≠ ""

/-- The connector is in that status, with `R` of its record and `E` besides. -/
structure In (x : ChargePointStatus) (R : ConnectorData → Prop) (E : View → Prop) (v : View) : Prop where
  status : v.status = x
  record : R v.connector
  also : E v

def Tagged (v : View) : Prop := v.connector.idTag ≠ ""

theorem endures_in {obliges : Entry → Bool} (hm : ∀ d x y, obliges (.statusMoved d x y) = false) {x : ChargePointStatus}
    {R : ConnectorData → Prop} (hR : Unassigned R) {E : View → Prop} (hE : Endures c obliges E) :
    Endures c obliges (In x R E) := fun v v' e he hh ho h =>
  ⟨endures_status hm (· = x) v v' e he hh ho h.status, endures_own hR v v' e he hh ho h.record, hE v v' e he hh ho h.also⟩

theorem endures_badge : Endures c Entry.obliges (fun v => v.mqtt.idTag ≠ "") := by
  intro v v' e he hh ho h
  cases he with
  | badge id =>
    obtain ⟨rfl, -⟩ := List.cons.inj hh
    exact of_decide_eq_true ho
  | _ => exact h

theorem endures_start : Endures c Entry.obliges (fun v => v.startPending = true ∧ v.startIdTag ≠ "") := by
  intro v v' e he hh ho h
  cases he with
  | remoteStart asked id =>
    obtain ⟨rfl, -⟩ := List.cons.inj hh
    exact ⟨rfl, of_decide_eq_true ho⟩
  | _ => exact h

theorem endures_presented : Endures c Entry.obliges Presented := endures_badge.or endures_start

section Asking

variable {R : ConnectorData → Prop} (hR : Unassigned R)
include hR

theorem endures_prepared {E : View → Prop} (hE : Endures c Entry.obliges E) : Endures c Entry.obliges (In .preparing R E) :=
  endures_in (fun _ _ _ => rfl) hR hE

theorem closed_tagged : Closed c (Unless Served (In .preparing R Tagged)) :=
  served_final.closed (endures_prepared hR (endures_idTag (· ≠ "")))

theorem tag_served {idTag : String} : SpecAt c (Unless Served (In .preparing R (fun _ => idTag ≠ "")))
    (setOwn c ({ · with idTag := idTag })) (fun _ => Unless Served (In .preparing R Tagged)) := by
  refine setOwn_at (fun v h => h.imp rfl (fun hp => ⟨hp.status, ?_, hp.also⟩))
  exact hR v.connector idTag v.connector.parentIdTag v.connector.preparingStart v.connector.unavailablePending hp.record

theorem authorizeOwn_served (idTag : String) : SpecAt c (Unless Served (In .preparing R Tagged)) (authorizeOwn cp c idTag)
    (fun a => Unless Served (fun v => a.ok = true ∧ In .preparing R Tagged v)) := by
  refine SpecOn.bind (R := fun r => Unless Served (fun v => r.1.ok = true ∧ In .preparing R Tagged v))
    (authorize_at (closed_tagged hR) (fun v r h => served_final.note h (fun ho hp => ⟨ho, hp.status, hp.record, hp.also⟩)))
    (fun r => ?_)
  refine SpecOn.keep (setOwn_at (fun v h => ?_)) (fun _ => SpecOn.pure _ (fun _ h => h))
  refine h.imp rfl (fun hp => ⟨hp.1, hp.2.status, ?_, hp.2.also⟩)
  exact hR v.connector v.connector.idTag r.2 v.connector.preparingStart v.connector.unavailablePending hp.2.record

/-- **A tag that is presented is found valid**, and is the connector's own from then on. -/
theorem isValidIdTagPresent_served : SpecAt c (Unless Served (In .preparing R Presented)) (isValidIdTagPresent cp c false)
    (fun _ => Unless Served (In .preparing R Tagged)) := by
  have closed : ∀ {E : View → Prop} {p : Prop}, Endures c Entry.obliges E →
      Closed c (Unless Served (fun v => p ∧ In .preparing R E v)) := fun hE =>
    served_final.closed ((endures_const _).and (endures_prepared hR hE))
  refine SpecOn.bind (R := fun r => Unless Served (fun v => r.2 = true ∧ In .preparing R Tagged v)) ?_ (fun r => ?_)
  · refine SpecOn.bind (R := fun b => Unless Served (In .preparing R (fun v =>
      if b then v.mqtt.idTag ≠ "" else v.startPending = true ∧ v.startIdTag ≠ "")))
      (isIdTagPending_at (served_final.closed (endures_prepared hR endures_presented)) (fun v h =>
        served_final.note h (fun _ hp => ⟨hp.status, hp.record, ?_⟩))) (fun b => ?_)
    · by_cases hb : v.mqtt.idTag ≠ ""
      · rw [decide_eq_true hb, if_pos rfl]
        exact hb
      · rw [decide_eq_false hb, if_neg Bool.false_ne_true]
        exact hp.also.resolve_left hb
    cases b with
    | true =>
      refine SpecOn.bind (R := fun tag => Unless Served (In .preparing R (fun _ => tag ≠ "")))
        (pendingIdTag_at (served_final.closed (endures_prepared hR endures_badge)) (fun v h =>
          served_final.note h (fun _ hp => ⟨hp.status, hp.record, hp.also⟩))) (fun tag => ?_)
      refine SpecOn.bind (tag_served hR) (fun _ => SpecOn.bind (authorizeOwn_served hR tag) (fun a => ?_))
      refine SpecOn.keep (resetIdTagPending_at (closed (endures_idTag (· ≠ ""))) (fun v h => ?_))
        (fun _ => SpecOn.pure _ (fun _ h => h))
      exact served_final.step h rfl (fun _ hp => ⟨hp.1, hp.2.status, hp.2.record, hp.2.also⟩)
    | false =>
      refine SpecOn.bind (R := fun b => Unless Served (fun v => b = true ∧ In .preparing R (fun v => v.startPending = true ∧ v.startIdTag ≠ "") v))
        (SpecOn.ite (fun h => absurd h Bool.false_ne_true) (fun _ => isRemoteStartPending_at
          (served_final.closed (endures_prepared hR endures_start)) (fun v h =>
            served_final.note h (fun _ hp => ⟨hp.also.1, hp.status, hp.record, hp.also⟩)))) (fun b => ?_)
      refine SpecOn.ite (fun _ => ?_) (fun hb => SpecOn.pure _ (fun v h => h.imp rfl (fun hp => absurd hp.1 hb)))
      refine SpecOn.bind (R := fun tag => Unless Served (In .preparing R (fun _ => tag ≠ "")))
        (remoteStartIdTag_at (closed endures_start) (fun v h =>
          served_final.note h (fun _ hp => ⟨hp.2.status, hp.2.record, hp.2.also.2⟩))) (fun tag => ?_)
      refine SpecOn.bind (tag_served hR) (fun _ => ?_)
      refine SpecOn.bind (R := fun a => Unless Served (fun v => a.ok = true ∧ In .preparing R Tagged v)) ?_ (fun a => ?_)
      · refine SpecOn.keep (authorizeRemoteTxRequests_at (closed_tagged hR) (fun v b h =>
          served_final.note h (fun _ hp => ⟨hp.status, hp.record, hp.also⟩))) (fun _ => ?_)
        exact SpecOn.ite (fun _ => authorizeOwn_served hR tag) (fun _ => SpecOn.pure _ (fun v h => h.imp rfl (fun hp => ⟨rfl, hp⟩)))
      · refine SpecOn.keep (resetRemoteStartPending_at (closed (endures_idTag (· ≠ ""))) (fun v h => ?_))
          (fun _ => SpecOn.pure _ (fun _ h => h))
        exact served_final.step h rfl (fun _ hp => ⟨hp.1, hp.2.status, hp.2.record, hp.2.also⟩)
  · refine SpecOn.bind (R := fun _ => Unless Served (In .preparing R Tagged)) (SpecOn.ite (fun hr => ?_) (fun _ => ?_)) (fun _ => ?_)
    · exact clearIdTags_at (fun v h => h.imp rfl (fun hp => by rw [hr] at hp; exact absurd hp.1 Bool.false_ne_true))
    · exact SpecOn.pure _ (fun v h => h.imp rfl (fun hp => hp.2))
    · exact SpecOn.keep (record_at rfl (fun v h => served_final.note h (fun _ hp => ⟨hp.status, hp.record, hp.also⟩)))
        (fun _ => SpecOn.pure _ (fun _ h => h))

end Asking

/-- The record of a connector with a cable, in that status. -/
def WithCable (x : ChargePointStatus) (d : ConnectorData) : Prop := d.status = x ∧ d.carCableCapacity ≠ 0

theorem unassigned_withCable (x : ChargePointStatus) : Unassigned (WithCable x) := fun _ _ _ _ _ h => h

theorem unassigned_status (x : ChargePointStatus) : Unassigned (fun d => d.status = x) := fun _ _ _ _ _ h => h

/-- The connector is waiting for the car or the tag to be looked at, for at most `n` more iterations. -/
def Waiting (R : ChargePointStatus → ConnectorData → Prop) (n : Nat) (v : View) : Prop :=
  2 ≤ n ∧ In .available (R .available) Presented v ∨
    1 ≤ n ∧ In .preparing (R .preparing) (fun v => Presented v ∨ Tagged v) v

theorem endures_tagged : Endures c Entry.obliges (fun v => Presented v ∨ Tagged v) :=
  endures_presented.or (endures_idTag (· ≠ ""))

theorem endures_waiting {R : ChargePointStatus → ConnectorData → Prop} (hR : ∀ x, Unassigned (R x)) (n : Nat) :
    Endures c Entry.obliges (Waiting R n) :=
  ((endures_const _).and (endures_in (fun _ _ _ => rfl) (hR _) endures_presented)).or
    ((endures_const _).and (endures_in (fun _ _ _ => rfl) (hR _) endures_tagged))

theorem Waiting.note {R : ChargePointStatus → ConnectorData → Prop} {n : Nat} {v : View} (e : Entry) (h : Waiting R n v) :
    Waiting R n (v.note e) :=
  h.imp (fun h => ⟨h.1, h.2.status, h.2.record, h.2.also⟩) (fun h => ⟨h.1, h.2.status, h.2.record, h.2.also⟩)

/-- **Two ways to wait.** -/
theorem waiting_cases {R : ChargePointStatus → ConnectorData → Prop} {n : Nat} {m : M Unit} {Q : View → Prop}
    (hm : SpecAt c (fun v => Served v.history) m (fun _ v => Served v.history))
    (available : 2 ≤ n → SpecAt c (Unless Served (In .available (R .available) Presented)) m (fun _ => Unless Served Q))
    (preparing : 1 ≤ n → SpecAt c (Unless Served (In .preparing (R .preparing) (fun v => Presented v ∨ Tagged v))) m
      (fun _ => Unless Served Q)) :
    SpecAt c (Unless Served (Waiting R n)) m (fun _ => Unless Served Q) := by
  intro w script hw
  rcases hw with hd | ⟨hn, h⟩ | ⟨hn, h⟩
  · exact .inl (hm w script hd)
  · exact available hn w script (.inr h)
  · exact preparing hn w script (.inr h)

theorem pollAvailable_served :
    SpecAt c (Unless Served (In .available (fun d => d.status = .available) Presented)) (updateConnectorStatus cp c)
      (fun _ => Unless Served (In .available (fun d => d.status = .available) Presented)) := by
  refine poll_unless served_final (endures_in (fun _ _ _ => rfl) (unassigned_status _) endures_presented)
    (fun _ h => h.status) (fun _ _ h => ⟨h.status, h.record, h.also⟩) (fun _ h _ => h) ?_
  -- the record has the status, so that it is not taken on again and the badge stays
  refine SpecOn.post (SpecOn.pre (fun v hv => ?_) (enter_lasting served_final.lasting _)) (fun _ _ h => .inl h)
  exact hv.resolve_right (fun hp => hp.2 hp.1.record)

theorem pollPreparing_served :
    SpecAt c (Unless Served (In .preparing (fun _ => True) (fun v => Presented v ∨ Tagged v))) (updateConnectorStatus cp c)
      (fun _ => Unless Served (In .preparing (fun d => d.status = .preparing) (fun v => Presented v ∨ Tagged v))) := by
  refine poll_unless served_final (endures_in (fun _ _ _ => rfl) (fun _ _ _ _ _ h => h) endures_tagged)
    (fun _ h => h.status) (fun _ _ h => ⟨h.status, h.record, h.also⟩) (fun _ h hs => ⟨h.status, hs, h.also⟩) ?_
  have env : Closed c (Unless Served (In .preparing (fun _ => True) (fun v => Presented v ∨ Tagged v))) :=
    served_final.closed (endures_in (fun _ _ _ => rfl) (fun _ _ _ _ _ h => h) endures_tagged)
  refine SpecOn.pre (fun v hv => hv.imp rfl (fun hp => hp.1)) ?_
  refine SpecOn.keep (record_at rfl (fun v h => served_final.note h (fun _ hp => ⟨hp.status, hp.record, hp.also⟩))) (fun _ => ?_)
  refine SpecOn.keep (SpecOn.ite (fun h => by cases h) (fun _ => SpecOn.ite (fun _ => ?_) (fun _ => SpecOn.pure _ (fun _ h => h))))
    (fun _ => setOwn_at (fun v h => h.imp rfl (fun hp => ⟨hp.status, rfl, hp.also⟩)))
  exact startPreparing_at env (fun v now h => h.imp rfl (fun hp => ⟨hp.status, hp.record, hp.also⟩))

/-- With a cable and a tag of its own the transaction is started. -/
theorem tryStart_served {d : ConnectorData} (h₁ : d.carCableCapacity ≠ 0) (h₂ : d.idTag ≠ "") :
    SpecAt c (fun _ => True) (tryStart cp c d) (fun _ v => Served v.history) := by
  have lasting := served_final.lasting
  refine SpecOn.ite (fun _ => ?_) (fun hn => absurd ⟨h₁, h₂⟩ hn)
  refine SpecOn.bind (R := fun _ v => Served v.history) (startTransaction_at (fun _ _ _ _ => trivial) (fun v a _ => ?_)) (fun a => ?_)
  · cases ha : a.ok with
    | true => exact .inl ⟨_, List.mem_cons_self, ha⟩
    | false => exact served_final.broken _ _ ha
  · refine SpecOn.ite (fun _ => ?_) (fun _ => clearIdTags_at (fun _ h => h))
    exact statusNotification_at lasting.steady.env (fun v h => lasting _ v.history h)

theorem starting_served : Starting c (fun v => Served v.history) where
  env := served_final.lasting.steady.env
  notified v _ _ h := served_final.lasting _ v.history h
  timed _ _ h := h
  started v _ h _ _ := served_final.lasting _ v.history h
  refused v _ h _ _ := served_final.lasting _ v.history h

/-- **In `Preparing`, with a cable, a tag that is there or presented starts the transaction.** -/
theorem whenPreparing_served (d : ConnectorData) :
    SpecAt c (fun v => Unless Served (In .preparing (WithCable .preparing) (fun v => Presented v ∨ Tagged v)) v ∧ v.connector = d)
      (whenPreparing cp c d) (fun _ v => Served v.history) := by
  have hR := unassigned_withCable .preparing
  refine SpecOn.bind (R := fun _ => Unless Served (In .preparing (WithCable .preparing) Tagged)) (SpecOn.ite (fun ht => ?_) (fun ht => ?_))
    (fun _ => ?_)
  · refine SpecOn.bind (SpecOn.pre (fun v hv => ?_) (isValidIdTagPresent_served hR)) (fun _ => SpecOn.ite (fun _ => ?_) (fun _ => ?_))
    · refine hv.1.imp rfl (fun hp => ⟨hp.status, hp.record, hp.also.resolve_right (fun h => h ?_)⟩)
      rw [hv.2]
      exact ht
    · exact startPreparing_at (closed_tagged hR) (fun v now h => h.imp rfl (fun hp => ⟨hp.status, hp.record, hp.also⟩))
    · exact SpecOn.pure _ (fun _ h => h)
  · refine SpecOn.pure _ (fun v hv => hv.1.imp rfl (fun hp => ⟨hp.status, hp.record, ?_⟩))
    unfold Tagged
    rw [hv.2]
    exact ht
  · refine SpecOn.post (Unless.given (R := fun _ _ => False) ?_ (fun v₀ h₀ => ?_)) (fun _ v h => h.resolve_right (fun h => h))
    · exact ownData_at (fun v _ => SpecOn.pre (fun _ h => ⟨h.1, by rw [h.2]⟩) (starting_served.tryStart v.connector))
    · refine ownData_at (fun v hv => ?_)
      rw [hv.2]
      exact SpecOn.post (SpecOn.pre (fun _ _ => trivial) (tryStart_served h₀.record.2 h₀.also)) (fun _ _ h => .inl h)

theorem nextStatus_served (n : Nat) : SpecAt c (Unless Served (Waiting WithCable n)) (nextStatus cp c)
    (fun _ => Unless Served (Waiting (fun x d => x = .available → d.status = x) (n - 1))) := by
  have lasting := served_final.lasting
  refine waiting_cases lasting.nextStatus (fun hn => Unless.given lasting.nextStatus (fun v₀ h₀ => ?_))
    (fun _ => Unless.given lasting.nextStatus (fun v₀ h₀ => ?_))
  · refine ownData_at (fun v hv => ?_)
    rw [hv.2, h₀.record.1]
    -- with a cable `Available` is left for `Preparing`
    refine SpecOn.ite (fun _ => SpecOn.pre (fun v' hv' => hv'.1.1) ?_) (fun h => absurd h₀.record.2 h)
    refine statusNotification_at (served_final.closed (endures_in (fun _ _ _ => rfl) (unassigned_withCable _) endures_presented))
      (fun v' h => ?_)
    exact served_final.step h rfl (fun _ hp => .inr ⟨by omega, rfl, nofun, .inl hp.also⟩)
  · refine ownData_at (fun v hv => ?_)
    rw [hv.2, h₀.record.1]
    exact SpecOn.post (SpecOn.pre (fun v' hv' => ⟨hv'.1.1, hv'.2⟩) (whenPreparing_served v₀.connector)) (fun _ _ h => .inl h)

theorem steady_waiting {R : ChargePointStatus → ConnectorData → Prop} (hR : ∀ x, Unassigned (R x))
    (hs : ∀ x d a b, R x d → R x { d with ocppSetpoint := a, setpoint := b }) (n : Nat) :
    Steady c (Unless Served (Waiting R n)) where
  env := served_final.closed (endures_waiting hR n)
  setpoints v a b h := h.imp rfl (fun hw => hw.imp
    (fun h => ⟨h.1, h.2.status, hs _ v.connector a b h.2.record, h.2.also⟩)
    (fun h => ⟨h.1, h.2.status, hs _ v.connector a b h.2.record, h.2.also⟩))
  asked _ _ _ h := served_final.note h (fun _ hw => hw.note _)
  metered _ _ h := served_final.step h rfl (fun _ hw => hw.imp
    (fun h => ⟨h.1, h.2.status, h.2.record, h.2.also⟩) (fun h => ⟨h.1, h.2.status, h.2.record, h.2.also⟩))

/-- **Two iterations lead from a tag that is presented to a transaction.** -/
theorem leads_served (cp : SimulatedChargePoint) (c : Nat) :
    Leads cp c (fun n => Unless Served (Waiting (fun x d => x = .available → d.status = x) n))
      (fun n => Unless Served (Waiting (fun x d => d.status = x) n)) (fun n => Unless Served (Waiting WithCable n)) where
  between n := steady_waiting (fun _ _ _ _ _ _ h => h) (fun _ _ _ _ h => h) n
  polled n := steady_waiting unassigned_status (fun _ _ _ _ h => h) n
  copied n := served_final.closed (endures_waiting unassigned_withCable n)
  poll n := by
    refine waiting_cases served_final.lasting.updateConnectorStatus (fun hn => ?_) (fun hn => ?_)
    · refine SpecOn.post (SpecOn.pre (fun v h => ?_) pollAvailable_served) (fun _ v h => h.imp rfl (fun hp => .inl ⟨hn, hp⟩))
      exact h.imp rfl (fun hp => ⟨hp.status, hp.record rfl, hp.also⟩)
    · refine SpecOn.post (SpecOn.pre (fun v h => ?_) pollPreparing_served) (fun _ v h => h.imp rfl (fun hp => .inr ⟨hn, hp⟩))
      exact h.imp rfl (fun hp => ⟨hp.status, trivial, hp.also⟩)
  copy n v h := by
    refine served_final.step h rfl (fun ho hw => ?_)
    have hcable : v.mqtt.carCableCapacity ≠ 0 := of_decide_eq_true ho
    exact hw.imp (fun h => ⟨h.1, h.2.status, ⟨h.2.record, hcable⟩, h.2.also⟩)
      (fun h => ⟨h.1, h.2.status, ⟨h.2.record, hcable⟩, h.2.also⟩)
  pass n := nextStatus_served n

/-- **A car that asks is served**: a tag is in a mailbox of a connector that is `Available`, or is so or taken in
`Preparing`; as long as the tag is not taken back, the cable plugged and the requests granted, two polls of the connector
later a transaction has been started, whatever the other connectors and threads do. -/
theorem served_in_two (cp : SimulatedChargePoint) (c : Nat) (hc : c ∈ cp.ids) (w : World) (hl : w.log = [])
    (h : (w.stack.status c = .available ∧ (w.connectors c).status = .available ∧ Presented (w.view c)) ∨
      (w.stack.status c = .preparing ∧ (Presented (w.view c) ∨ (w.connectors c).idTag ≠ "")))
    (k : Nat) (script : List Tick) (ho : ∀ e ∈ (afterLoop cp k w script).history c, e.obliges = true)
    (hp : 2 ≤ polls ((afterLoop cp k w script).history c)) :
    ∃ e ∈ (afterLoop cp k w script).history c, e.starts = true := by
  have hh : (w.view c).history = [] := history_of_log_nil hl c
  have hw : Unless Served (Waiting (fun x d => x = .available → d.status = x) (2 - polls (w.view c).history)) (w.view c) := by
    rw [hh]
    refine .inr (h.imp (fun h => ⟨le_refl 2, h.1, fun _ => h.2.1, h.2.2⟩) (fun h => ⟨by decide, h.1, nofun, h.2⟩))
  have hrun := (leads_served cp c).loop hc 2 k w script hw
  have hserved : Served ((afterLoop cp k w script).history c) := by
    refine hrun.resolve_right (fun hwait => ?_)
    have hzero : 2 - polls ((loop cp k (w, script)).2.1.view c).history = 0 := Nat.sub_eq_zero_of_le hp
    rw [hzero] at hwait
    rcases hwait with ⟨hn, -⟩ | ⟨hn, -⟩ <;> omega
  refine hserved.resolve_right ?_
  rintro ⟨e, he, hf⟩
  rw [ho e he] at hf
  cases hf

/-- A badge for the first connector, which is free. -/
def sampleAsked : World := (World.start .sample .idle).setMqttConnector 1 ({ · with idTag := "A" })

def samplePlugged : List Tick := script 60 [(0, .carMessage 1 { cable := some 10 })]

theorem samplePlugged_obliges :
    ((afterLoop .sample 2 sampleAsked samplePlugged).history 1).all Entry.obliges = true := by decide +kernel

/-- The badge is there, the car is plugged, and the second round starts a transaction. -/
theorem served_in_two_plugged : ∃ e ∈ (afterLoop .sample 2 sampleAsked samplePlugged).history 1, e.starts = true :=
  served_in_two .sample 1 (by decide) sampleAsked rfl (.inl ⟨rfl, rfl, .inl (by decide)⟩) 2 samplePlugged
    (List.all_eq_true.1 samplePlugged_obliges) (by decide +kernel)

/-! ## A connector that is left -/

/-- What leaves a connector alone: no cable and no fault, no request, and a stack that does not move it. -/
def Entry.leaves : Entry → Bool
  | .updateData _ _ new => decide (new.cable = 0) && !new.fault
  | .isIdTagPending _ b | .isRemoteStartPending _ b | .isRemoteStopPending _ b | .unavailablePending _ b => !b
  | .statusMoved _ _ _ => false
  | _ => true

def Disturbed (h : List Entry) : Prop := ∃ e ∈ h, e.leaves = false

theorem disturbed_final : Final Entry.leaves Disturbed where
  lasting e _ h := h.imp (fun _ h => ⟨List.mem_cons_of_mem e h.1, h.2⟩)
  broken e _ he := ⟨e, List.mem_cons_self, he⟩

/-- The transaction was stopped because the car was gone. -/
def Disconnected (c : Nat) (h : List Entry) : Prop := .stopTransaction c "" .evDisconnected ∈ h

/-- How many iterations bring a connector to `Available`, the last of which has it take the status on. -/
def ChargePointStatus.stepsToFree : ChargePointStatus → Option Nat
  | .charging | .suspendedEV | .suspendedEVSE => some 3
  | .finishing | .preparing | .faulted => some 2
  | .available => some 1
  | .reserved | .unavailable => none

/-- **The connector is being left** in that status: at most `n` iterations are to come, and a session it was in has been
stopped once it is in none. -/
structure Leaving (c : Nat) (p : Prop) (R : ConnectorData → Prop) (n : Nat) (x : ChargePointStatus) (v : View) : Prop where
  status : v.status = x
  record : R v.connector
  steps : ∃ m ≤ n, x.stepsToFree = some m
  tag : x = .preparing → v.connector.idTag = ""
  stopped : x.inSession = false → p → Disconnected c v.history

/-- **The connector is free.** -/
structure Free (c : Nat) (p : Prop) (R : ConnectorData → Prop) (v : View) : Prop where
  status : v.status = .available
  own : v.connector.status = .available
  record : R v.connector
  tag : v.connector.idTag = ""
  stopped : p → Disconnected c v.history

theorem Disconnected.cons {h : List Entry} (e : Entry) (hd : Disconnected c h) : Disconnected c (e :: h) :=
  List.mem_cons_of_mem e hd

section Leaving

variable {p : Prop} {R : ConnectorData → Prop} {n : Nat} {x : ChargePointStatus} {v : View}

theorem Leaving.note (e : Entry) (h : Leaving c p R n x v) : Leaving c p R n x (v.note e) :=
  ⟨h.status, h.record, h.steps, h.tag, fun hs hp => (h.stopped hs hp).cons e⟩

theorem Free.note (e : Entry) (h : Free c p R v) : Free c p R (v.note e) :=
  ⟨h.status, h.own, h.record, h.tag, fun hp => (h.stopped hp).cons e⟩

theorem endures_disconnected (q : Prop) : Endures c Entry.leaves (fun v => q → Disconnected c v.history) := by
  intro v v' e _ hh _ h hq
  rw [hh]
  exact (h hq).cons e

theorem endures_leaving (hR : Unassigned R) : Endures c Entry.leaves (Leaving c p R n x) := fun v v' e he hh ho h =>
  ⟨endures_status (fun _ _ _ => rfl) (· = x) v v' e he hh ho h.status, endures_own hR v v' e he hh ho h.record, h.steps,
    fun hx => endures_idTag (· = "") v v' e he hh ho (h.tag hx),
    fun hs hp => endures_disconnected _ v v' e he hh ho (h.stopped hs) hp⟩

theorem endures_free (hR : Unassigned R) : Endures c Entry.leaves (Free c p R) := fun v v' e he hh ho h =>
  ⟨endures_status (fun _ _ _ => rfl) (· = .available) v v' e he hh ho h.status,
    endures_own (unassigned_status .available) v v' e he hh ho h.own, endures_own hR v v' e he hh ho h.record,
    endures_idTag (· = "") v v' e he hh ho h.tag, fun hp => endures_disconnected _ v v' e he hh ho h.stopped hp⟩

end Leaving

/-! ### The authorization and the stop condition -/

theorem authorizing_lasting {D : List Entry → Prop} (hD : Lasting D) : Authorizing c (fun v => D v.history) where
  env := hD.steady.env
  tagged _ _ _ h := h
  asked v _ h := hD _ v.history h
  authorized v _ _ h := hD _ v.history h

/-- Where a mailbox was not empty, it is over. -/
theorem over_of_true {α : Type} {P : View → Prop} {b : Bool} {m : M α} {Q : α → View → Prop} (hb : b = true)
    (hm : SpecAt c (fun v => Disturbed v.history) m (fun _ v => Disturbed v.history)) :
    SpecAt c (Unless Disturbed (fun v => b = false ∧ P v)) m (fun a => Unless Disturbed (Q a)) :=
  SpecOn.post (SpecOn.pre (fun v h => h.resolve_right (fun hp => by rw [hp.1] at hb; cases hb)) hm) (fun _ _ h => .inl h)

section Alone

variable {P : View → Prop} (hP : Endures c Entry.leaves P) (hn : ∀ v e, P v → P (v.note e))
include hP hn

/-- **Left alone a connector finds no tag**, and has none. -/
theorem isValidIdTagPresent_left (ht : ∀ v x y, P v → P (v.setOwn ({ · with idTag := x, parentIdTag := y }))) :
    SpecAt c (Unless Disturbed P) (isValidIdTagPresent cp c false)
      (fun b => Unless Disturbed (fun v => b = false ∧ P v ∧ v.connector.idTag = "")) := by
  have lasting := disturbed_final.lasting
  have env := lasting.steady (c := c).env
  refine SpecOn.bind (R := fun r => Unless Disturbed (fun v => r.2 = false ∧ P v)) ?_ (fun r => ?_)
  · refine SpecOn.bind (R := fun b => Unless Disturbed (fun v => b = false ∧ P v)) (isIdTagPending_at (disturbed_final.closed hP)
      (fun v h => disturbed_final.note h (fun ho hp => ⟨by simpa [Entry.leaves] using ho, hn v _ hp⟩))) (fun b => ?_)
    refine SpecOn.ite (fun hb => over_of_true hb ?_) (fun _ => SpecOn.pre (fun v h => h.imp rfl (fun hp => hp.2)) ?_)
    · refine SpecOn.keep (pendingIdTag_at env (fun v h => lasting _ v.history h)) (fun tag => ?_)
      exact (authorizing_lasting lasting).takeBadge (fun v _ h => lasting _ v.history h)
    refine SpecOn.bind (R := fun b => Unless Disturbed (fun v => b = false ∧ P v))
      (SpecOn.ite (fun h => absurd h Bool.false_ne_true) (fun _ => isRemoteStartPending_at (disturbed_final.closed hP)
        (fun v h => disturbed_final.note h (fun ho hp => ⟨by simpa [Entry.leaves] using ho, hn v _ hp⟩)))) (fun b => ?_)
    refine SpecOn.ite (fun hb => over_of_true hb ?_) (fun _ => SpecOn.pure _ (fun v h => h.imp rfl (fun hp => ⟨rfl, hp.2⟩)))
    refine SpecOn.keep (remoteStartIdTag_at env (fun v h => lasting _ v.history h)) (fun tag => ?_)
    exact (authorizing_lasting lasting).takeRemoteStart (fun v _ h => lasting _ v.history h)
  · refine SpecOn.bind (R := fun _ => Unless Disturbed (fun v => r.2 = false ∧ P v ∧ v.connector.idTag = ""))
      (SpecOn.ite (fun _ => ?_) (fun hr => ?_)) (fun _ => ?_)
    · exact clearIdTags_at (fun v h => h.imp rfl (fun hp => ⟨hp.1, ht v "" "" hp.2, rfl⟩))
    · exact SpecOn.pure _ (fun v h => .inl (h.resolve_right (fun hp => hr hp.1)))
    · exact SpecOn.keep (record_at rfl (fun v h => disturbed_final.note h (fun _ hp => ⟨hp.1, hn v _ hp.2.1, hp.2.2⟩)))
        (fun _ => SpecOn.pure _ (fun _ h => h))

/-- **Without a car the transaction is stopped.** -/
theorem isTransactionStopCondition_left (hcable : ∀ v, P v → v.connector.carCableCapacity = 0) :
    SpecAt c (Unless Disturbed P) (isTransactionStopCondition cp c)
      (fun b => Unless Disturbed (fun v => b = true ∧ P v ∧ Disconnected c v.history)) := by
  have lasting := disturbed_final.lasting
  have env := lasting.steady (c := c).env
  have stopping : ∀ idTag reason, SpecAt c (fun v => Disturbed v.history) (do stopTransaction cp c idTag reason; pure true)
      (fun _ v => Disturbed v.history) := stopping_at env (fun v _ _ h => lasting _ v.history h)
  refine SpecOn.bind (R := fun b => Unless Disturbed (fun v => b = false ∧ P v)) (isIdTagPending_at (disturbed_final.closed hP)
    (fun v h => disturbed_final.note h (fun ho hp => ⟨by simpa [Entry.leaves] using ho, hn v _ hp⟩))) (fun b => ?_)
  refine SpecOn.ite (fun hb => over_of_true hb ?_) (fun _ => ?_)
  · refine SpecOn.keep (pendingIdTag_at env (fun v h => lasting _ v.history h)) (fun _ => ?_)
    refine SpecOn.keep (authorize_at env (fun v _ h => lasting _ v.history h)) (fun _ => ?_)
    refine SpecOn.keep (resetIdTagPending_at env (fun v h => lasting _ v.history h)) (fun _ => ?_)
    exact SpecOn.ite (fun _ => stopping _ _) (fun _ => SpecOn.pure _ (fun _ h => h))
  refine SpecOn.bind (R := fun b => Unless Disturbed (fun v => b = false ∧ P v)) (SpecOn.pre (fun v h => h.imp rfl (fun hp => hp.2))
    (isRemoteStopPending_at (disturbed_final.closed hP)
      (fun v h => disturbed_final.note h (fun ho hp => ⟨by simpa [Entry.leaves] using ho, hn v _ hp⟩)))) (fun b => ?_)
  refine SpecOn.ite (fun hb => over_of_true hb ?_) (fun _ => ?_)
  · exact SpecOn.keep (resetRemoteStopPending_at env (fun v h => lasting _ v.history h)) (fun _ => stopping _ _)
  refine ownData_at (fun v hv => SpecOn.ite (fun _ => ?_) (fun h₀ => ?_))
  · refine SpecOn.bind (R := fun _ => Unless Disturbed (fun v => P v ∧ Disconnected c v.history))
      (stopTransaction_at (disturbed_final.closed hP) (fun v' h => disturbed_final.note h (fun _ hp => ⟨hn v' _ hp, List.mem_cons_self⟩)))
      (fun _ => SpecOn.pure _ (fun _ h => h.imp rfl (fun hp => ⟨rfl, hp⟩)))
      |> SpecOn.pre (fun v' h => h.1.imp rfl (fun hp => hp.2))
  · refine SpecOn.post (SpecOn.pre (fun v' h => ?_) (SpecOn.ite (fun _ => stopping _ _) (fun _ => SpecOn.pure _ (fun _ h => h))))
      (fun _ _ h => .inl h)
    refine h.1.resolve_right (fun hp => h₀ ?_)
    rw [← h.2]
    exact hcable v' hp.2

end Alone

/-! ### What one iteration comes to -/

/-- The record of a connector without a cable and without a fault, in that status. -/
def Bare (x : ChargePointStatus) (d : ConnectorData) : Prop :=
  d.status = x ∧ d.carCableCapacity = 0 ∧ d.faultPending = false

theorem unassigned_bare (x : ChargePointStatus) : Unassigned (Bare x) := fun _ _ _ _ _ h => h

/-- The connector is being left, or free already. -/
def Left (c : Nat) (p : Prop) (R : ChargePointStatus → ConnectorData → Prop) (n : Nat) (v : View) : Prop :=
  (∃ x, Leaving c p (R x) n x v) ∨ Free c p (R .available) v

section Left

variable {p : Prop} {R : ChargePointStatus → ConnectorData → Prop} {n : Nat}

theorem Left.note {v : View} (e : Entry) (h : Left c p R n v) : Left c p R n (v.note e) :=
  h.imp (fun ⟨x, h⟩ => ⟨x, h.note e⟩) (fun h => h.note e)

theorem endures_left (hR : ∀ x, Unassigned (R x)) : Endures c Entry.leaves (Left c p R n) := fun v v' e he hh ho h =>
  h.imp (fun ⟨x, h⟩ => ⟨x, endures_leaving (hR x) v v' e he hh ho h⟩) (endures_free (hR _) v v' e he hh ho)

/-- **In one of the statuses, or free.** -/
theorem left_cases {m : M Unit} {Q : View → Prop}
    (hm : SpecAt c (fun v => Disturbed v.history) m (fun _ v => Disturbed v.history))
    (leaving : ∀ x, SpecAt c (Unless Disturbed (Leaving c p (R x) n x)) m (fun _ => Unless Disturbed Q))
    (free : SpecAt c (Unless Disturbed (Free c p (R .available))) m (fun _ => Unless Disturbed Q)) :
    SpecAt c (Unless Disturbed (Left c p R n)) m (fun _ => Unless Disturbed Q) := by
  intro w script hw
  rcases hw with hd | ⟨x, h⟩ | h
  · exact .inl (hm w script hd)
  · exact leaving x w script (.inr h)
  · exact free w script (.inr h)

theorem pollLeaving_left (x : ChargePointStatus) :
    SpecAt c (Unless Disturbed (Leaving c p (fun _ => True) n x)) (updateConnectorStatus cp c)
      (fun _ => Unless Disturbed (Left c p (fun x d => d.status = x) n)) := by
  have endures : Endures c Entry.leaves (Leaving c p (fun _ => True) n x) := endures_leaving (fun _ _ _ _ _ h => h)
  have taken : ∀ v, Leaving c p (fun _ => True) n x v → v.connector.status = x → Left c p (fun x d => d.status = x) n v :=
    fun v h hs => .inl ⟨x, h.status, hs, h.steps, h.tag, h.stopped⟩
  refine poll_unless disturbed_final endures (fun _ h => h.status) (fun _ e h => h.note e) taken ?_
  refine SpecOn.pre (fun v hv => hv.imp rfl (fun hp => hp.1)) ?_
  have entryFree : EntryFree c (Unless Disturbed (Leaving c p (fun _ => True) n x)) :=
    { env := disturbed_final.closed endures
      cleared := fun v h => h.imp rfl (fun h => ⟨h.status, trivial, h.steps, fun _ => rfl, h.stopped⟩)
      badge := fun v h => disturbed_final.step h rfl (fun _ h => ⟨h.status, trivial, h.steps, h.tag, (h.note _).stopped⟩)
      timed := fun v now h => h.imp rfl (fun h => ⟨h.status, trivial, h.steps, h.tag, h.stopped⟩) }
  refine SpecOn.keep (record_at rfl (fun v h => disturbed_final.note h (fun _ h => h.note _))) (fun _ => ?_)
  refine entering_at entryFree (fun v h => h.imp rfl (fun h => taken _ ?_ rfl))
  exact ⟨h.status, trivial, h.steps, h.tag, h.stopped⟩

theorem pollFree_left : SpecAt c (Unless Disturbed (Free c p (fun _ => True))) (updateConnectorStatus cp c)
    (fun _ => Unless Disturbed (Left c p (fun x d => d.status = x) n)) := by
  refine poll_unless disturbed_final (endures_free (fun _ _ _ _ _ h => h)) (fun _ h => h.status) (fun _ e h => h.note e)
    (fun v h hs => .inr ⟨h.status, h.own, hs, h.tag, h.stopped⟩) ?_
  refine SpecOn.post (SpecOn.pre (fun v hv => ?_) (enter_lasting disturbed_final.lasting _)) (fun _ _ h => .inl h)
  exact hv.resolve_right (fun hp => hp.2 hp.1.own)

theorem notify_left {s : ChargePointStatus} (hs : ∃ m ≤ n, s.stepsToFree = some m) (hp : s ≠ .preparing) :
    SpecAt c (Unless Disturbed (fun v => p → Disconnected c v.history)) (statusNotification cp c s)
      (fun _ => Unless Disturbed (Left c p (fun _ _ => True) n)) := by
  refine statusNotification_at (disturbed_final.closed (endures_disconnected p)) (fun v h => ?_)
  refine disturbed_final.step h rfl (fun _ h => .inl ⟨s, rfl, trivial, hs, fun hx => absurd hx hp, fun _ hq => ?_⟩)
  exact (h hq).cons _

/-- **A session is ended and `Finishing` notified.** -/
theorem session_left {x : ChargePointStatus} (hn : 3 ≤ n) {m : M Unit}
    (hm : SpecAt c (fun v => Disturbed v.history) m (fun _ v => Disturbed v.history)) :
    SpecAt c (Unless Disturbed (Leaving c p (Bare x) n x))
      (do if ← isTransactionStopCondition cp c then statusNotification cp c .finishing else m)
      (fun _ => Unless Disturbed (Left c p (fun _ _ => True) (n - 1))) := by
  refine SpecOn.bind (isTransactionStopCondition_left (endures_leaving (unassigned_bare x)) (fun _ e h => h.note e)
    (fun _ h => h.record.2.1)) (fun b => SpecOn.ite (fun _ => ?_) (fun hb => ?_))
  · refine SpecOn.pre (fun v h => h.imp rfl (fun hp _ => hp.2.2)) (notify_left ⟨2, by omega, rfl⟩ (by decide))
  · exact SpecOn.post (SpecOn.pre (fun v h => h.resolve_right (fun hp => hb hp.1)) hm) (fun _ _ h => .inl h)

/-- **Where no tag, no cable and no fault is found, the connector stays free.** -/
theorem whenAvailable_left {d : ConnectorData} (hd : Bare .available d) :
    SpecAt c (Unless Disturbed (In .available (Bare .available) (fun v => p → Disconnected c v.history))) (whenAvailable cp c d)
      (fun _ => Unless Disturbed (Left c p (fun _ _ => True) n)) := by
  have lasting := disturbed_final.lasting
  have ends : ∀ {b : Bool} {Q R : View → Prop} {s}, b = true →
      SpecAt c (Unless Disturbed (fun v => b = false ∧ Q v)) (statusNotification cp c s) (fun _ => Unless Disturbed R) :=
    fun hb => over_of_true hb (statusNotification_at (lasting.steady (c := c)).env (fun v h => lasting _ v.history h))
  have endures : Endures c Entry.leaves (In .available (Bare .available) (fun v => p → Disconnected c v.history)) :=
    endures_in (fun _ _ _ => rfl) (unassigned_bare _) (endures_disconnected p)
  have note : ∀ v e, In .available (Bare .available) (fun v => p → Disconnected c v.history) v →
      In .available (Bare .available) (fun v => p → Disconnected c v.history) (v.note e) := fun v e h =>
    ⟨h.status, h.record, fun hp => (h.also hp).cons e⟩
  refine SpecOn.ite (fun h => absurd hd.2.1 h) (fun _ => SpecOn.bind (isValidIdTagPresent_left endures note
    (fun _ _ _ h => ⟨h.status, h.record, h.also⟩)) (fun b => ?_))
  refine SpecOn.ite (fun hb => ends hb) (fun _ => SpecOn.ite (fun h => by rw [hd.2.2] at h; cases h) (fun _ => ?_))
  refine SpecOn.bind (R := fun b => Unless Disturbed (fun v => b = false ∧
      In .available (Bare .available) (fun v => p → Disconnected c v.history) v ∧ v.connector.idTag = ""))
    (SpecOn.pre (fun v h => h.imp rfl (fun hp => hp.2)) (unavailablePending_at
      (disturbed_final.closed (endures.and (endures_idTag (· = "")))) (fun v h => disturbed_final.note h (fun ho hp =>
        ⟨by simpa [Entry.leaves] using ho, note v _ hp.1, hp.2⟩)))) (fun b => ?_)
  refine SpecOn.ite (fun hb => ends hb) (fun _ => SpecOn.pure _ (fun v h => h.imp rfl (fun ⟨_, hp, ht⟩ => .inr ?_)))
  exact ⟨hp.status, hp.record.1, trivial, ht, hp.also⟩

theorem starting_disturbed : Starting c (fun v => Disturbed v.history) where
  env := disturbed_final.lasting.steady.env
  notified v _ _ h := disturbed_final.lasting _ v.history h
  timed _ _ h := h
  started v _ h _ _ := disturbed_final.lasting _ v.history h
  refused v _ h _ _ := disturbed_final.lasting _ v.history h

/-- **Nobody came**: `Preparing` is left for `Available`. -/
theorem whenPreparing_left (hn : 2 ≤ n) (d : ConnectorData) (hd : d.idTag = "") :
    SpecAt c (Unless Disturbed (Leaving c p (Bare .preparing) n .preparing)) (whenPreparing cp c d)
      (fun _ => Unless Disturbed (Left c p (fun _ _ => True) (n - 1))) := by
  have lasting := disturbed_final.lasting
  have endures : Endures c Entry.leaves (fun v => Bare .preparing v.connector ∧ (p → Disconnected c v.history)) :=
    (endures_own (unassigned_bare _)).and (endures_disconnected p)
  refine SpecOn.bind (R := fun _ => Unless Disturbed (fun v =>
    (Bare .preparing v.connector ∧ (p → Disconnected c v.history)) ∧ v.connector.idTag = "")) (SpecOn.ite (fun _ => ?_)
      (fun h => absurd hd h)) (fun _ => Unless.given ?_ (fun v₀ h₀ => ownData_at (fun v hv => ?_)))
  · refine SpecOn.bind (SpecOn.pre (fun v h => h.imp rfl (fun hp => ⟨hp.record, hp.stopped rfl⟩))
      (isValidIdTagPresent_left endures (fun v e h => ⟨h.1, fun hp => (h.2 hp).cons e⟩) (fun _ _ _ h => h))) (fun b => ?_)
    refine SpecOn.ite (fun hb => over_of_true hb ?_) (fun _ => SpecOn.pure _ (fun v h => h.imp rfl (fun hp => hp.2)))
    exact startPreparing_at lasting.steady.env (fun _ _ h => h)
  · exact ownData_at (fun v _ => SpecOn.pre (fun _ h => ⟨h.1, by rw [h.2]⟩) (starting_disturbed.tryStart v.connector))
  · obtain ⟨⟨⟨-, hcable, -⟩, -⟩, htag⟩ := h₀
    obtain ⟨-, hread⟩ := hv
    rw [hread]
    refine SpecOn.ite (fun ⟨_, hne⟩ => absurd htag hne) (fun _ => SpecOn.ite (fun _ => ?_) (fun h => absurd ⟨hcable, htag⟩ h))
    refine SpecOn.pre (fun v' ⟨⟨hu, _⟩, _⟩ => hu.imp rfl ?_) (notify_left ⟨1, by omega, rfl⟩ (by decide))
    exact fun ⟨⟨_, hstopped⟩, _⟩ => hstopped

theorem passFree_left : SpecAt c (Unless Disturbed (Free c p (Bare .available))) (nextStatus cp c)
    (fun _ => Unless Disturbed (Left c p (fun _ _ => True) n)) := by
  refine Unless.given disturbed_final.lasting.nextStatus (fun v₀ h₀ => ownData_at (fun v hv => ?_))
  rw [hv.2, h₀.own]
  exact SpecOn.pre (fun v' h => h.1.1.imp rfl (fun hp => ⟨hp.status, hp.record, hp.stopped⟩)) (whenAvailable_left h₀.record)

theorem passLeaving_left (x : ChargePointStatus) : SpecAt c (Unless Disturbed (Leaving c p (Bare x) n x)) (nextStatus cp c)
    (fun _ => Unless Disturbed (Left c p (fun _ _ => True) (n - 1))) := by
  have lasting := disturbed_final.lasting
  have sn : ∀ s, SpecAt c (fun v => Disturbed v.history) (statusNotification cp c s) (fun _ v => Disturbed v.history) :=
    fun s => statusNotification_at (lasting.steady (c := c)).env (fun v h => lasting _ v.history h)
  have idle : SpecAt c (fun v => Disturbed v.history) (pure ()) (fun _ v => Disturbed v.history) := SpecOn.pure _ (fun _ h => h)
  have toFree : 2 ≤ n → x.inSession = false → SpecAt c (Unless Disturbed (Leaving c p (Bare x) n x))
      (statusNotification cp c .available) (fun _ => Unless Disturbed (Left c p (fun _ _ => True) (n - 1))) := fun hn hx =>
    SpecOn.pre (fun v h => h.imp rfl (fun hp => hp.stopped hx)) (notify_left ⟨1, by omega, rfl⟩ (by decide))
  refine Unless.given lasting.nextStatus (fun v₀ h₀ => ownData_at (fun v hv => ?_))
  obtain ⟨m, hm, hx⟩ := h₀.steps
  have hrecord : Bare x v₀.connector := h₀.record
  obtain ⟨hstatus, hcable, hfault⟩ := h₀.record
  obtain ⟨-, hread⟩ := hv
  rw [hread, hstatus]
  refine SpecOn.pre (fun v' ⟨⟨hu, _⟩, _⟩ => hu) ?_
  cases x with
  | available =>
    exact SpecOn.pre (fun v' h => h.imp rfl (fun hp => ⟨hp.status, hp.record, hp.stopped rfl⟩)) (whenAvailable_left hrecord)
  | preparing =>
    cases hx
    exact whenPreparing_left hm v₀.connector (h₀.tag rfl)
  | charging | suspendedEV =>
    cases hx
    exact session_left hm (SpecOn.ite (fun _ => sn _) (fun _ => SpecOn.ite (fun _ => sn _) (fun _ => idle)))
  | suspendedEVSE =>
    cases hx
    exact session_left hm (SpecOn.ite (fun _ => SpecOn.ite (fun _ => sn _) (fun _ => sn _)) (fun _ => idle))
  | finishing =>
    cases hx
    have hfree := toFree hm rfl
    refine SpecOn.ite (fun h => ?_) (fun _ => SpecOn.ite (fun _ => hfree) (fun h => absurd hcable h))
    rw [hfault] at h
    cases h
  | faulted =>
    cases hx
    exact SpecOn.ite (fun _ => toFree hm rfl) (fun h => absurd hfault h)
  | reserved | unavailable => cases hx

end Left

theorem steady_left {p : Prop} {R : ChargePointStatus → ConnectorData → Prop} (hR : ∀ x, Unassigned (R x))
    (hs : ∀ x d a b, R x d → R x { d with ocppSetpoint := a, setpoint := b }) (n : Nat) :
    Steady c (Unless Disturbed (Left c p R n)) where
  env := disturbed_final.closed (endures_left hR)
  setpoints v a b h := h.imp rfl (fun hl => hl.imp
    (fun ⟨x, h⟩ => ⟨x, h.status, hs x v.connector a b h.record, h.steps, h.tag, h.stopped⟩)
    (fun h => ⟨h.status, h.own, hs _ v.connector a b h.record, h.tag, h.stopped⟩))
  asked _ _ _ h := disturbed_final.note h (fun _ hl => hl.note _)
  metered _ _ h := disturbed_final.step h rfl (fun _ hl => hl.imp
    (fun ⟨x, h⟩ => ⟨x, h.status, h.record, h.steps, h.tag, (h.note _).stopped⟩)
    (fun h => ⟨h.status, h.own, h.record, h.tag, (h.note _).stopped⟩))

/-- **Each iteration leads a connector that is left one step further.** -/
theorem leads_left (cp : SimulatedChargePoint) (c : Nat) (p : Prop) :
    Leads cp c (fun n => Unless Disturbed (Left c p (fun _ _ => True) n))
      (fun n => Unless Disturbed (Left c p (fun x d => d.status = x) n)) (fun n => Unless Disturbed (Left c p Bare n)) where
  between n := steady_left (fun _ _ _ _ _ _ h => h) (fun _ _ _ _ h => h) n
  polled n := steady_left unassigned_status (fun _ _ _ _ h => h) n
  copied n := disturbed_final.closed (endures_left unassigned_bare)
  poll n := left_cases disturbed_final.lasting.updateConnectorStatus pollLeaving_left pollFree_left
  copy n v h := by
    refine disturbed_final.step h rfl (fun ho hl => ?_)
    have hcar : v.mqtt.car.cable = 0 ∧ v.mqtt.car.fault = false := by simpa [Entry.leaves] using ho
    exact hl.imp (fun ⟨x, h⟩ => ⟨x, h.status, ⟨h.record, hcar⟩, h.steps, h.tag, (h.note _).stopped⟩)
      (fun h => ⟨h.status, h.own, ⟨h.record, hcar⟩, h.tag, (h.note _).stopped⟩)
  pass n := left_cases disturbed_final.lasting.nextStatus passLeaving_left passFree_left

/-- **A connector that is left is free again**: from every status but `Reserved` and `Unavailable`, as long as no car, no
fault and no request turn up, three polls later the connector is `Available`, for the stack and for the loop, without an id
tag, and the session it was in was stopped because the car was gone. -/
theorem freed_in_three (cp : SimulatedChargePoint) (c : Nat) (hc : c ∈ cp.ids) (w : World) (hl : w.log = [])
    (hs : (w.stack.status c).stepsToFree ≠ none)
    (ht : w.stack.status c = .preparing → (w.connectors c).idTag = "")
    (k : Nat) (script : List Tick) (hq : ∀ e ∈ (afterLoop cp k w script).history c, e.leaves = true)
    (hp : 3 ≤ polls ((afterLoop cp k w script).history c)) :
    (afterLoop cp k w script).stack.status c = .available ∧
    ((afterLoop cp k w script).connectors c).status = .available ∧ ((afterLoop cp k w script).connectors c).idTag = "" ∧
    ((w.stack.status c).inSession = true →
      Entry.stopTransaction c "" .evDisconnected ∈ (afterLoop cp k w script).history c) := by
  have hh : (w.view c).history = [] := history_of_log_nil hl c
  have hw : Unless Disturbed (Left c ((w.stack.status c).inSession = true) (fun _ _ => True) (3 - polls (w.view c).history))
      (w.view c) := by
    rw [hh]
    refine .inr (.inl ⟨w.stack.status c, rfl, trivial, ?_, ht, fun h hp => ?_⟩)
    · cases hx : w.stack.status c <;> rw [hx] at hs <;> first | exact absurd rfl hs | exact ⟨_, by decide, rfl⟩
    · rw [h] at hp
      cases hp
  have hrun := (leads_left cp c ((w.stack.status c).inSession = true)).loop hc 3 k w script hw
  rcases hrun with ⟨e, he, hf⟩ | hleft
  · rw [hq e he] at hf
    cases hf
  · have hzero : 3 - polls ((loop cp k (w, script)).2.1.view c).history = 0 := Nat.sub_eq_zero_of_le hp
    rw [hzero] at hleft
    rcases hleft with ⟨x, h⟩ | h
    · obtain ⟨m, hm, hx⟩ := h.steps
      cases x <;> cases hx <;> omega
    · exact ⟨h.status, h.own, h.tag, h.stopped⟩

/-- A session at the first connector, whose car is gone. -/
def sampleLeft : World :=
  ((World.start .sample .idle).setConnector 1 ({ · with status := .charging, idTag := "A" })).setStatus 1 .charging

theorem sampleLeft_leaves :
    ((afterLoop .sample 3 sampleLeft (script 90 [])).history 1).all Entry.leaves = true := by decide +kernel

/-- The session is stopped, `Finishing` left, and the connector free with the third poll. -/
theorem freed_in_three_gone :
    (afterLoop .sample 3 sampleLeft (script 90 [])).stack.status 1 = .available ∧
    ((afterLoop .sample 3 sampleLeft (script 90 [])).connectors 1).status = .available ∧
    ((afterLoop .sample 3 sampleLeft (script 90 [])).connectors 1).idTag = "" ∧
    ((sampleLeft.stack.status 1).inSession = true →
      Entry.stopTransaction 1 "" .evDisconnected ∈ (afterLoop .sample 3 sampleLeft (script 90 [])).history 1) :=
  freed_in_three .sample 1 (by decide) sampleLeft rfl nofun nofun 3 (script 90 [])
    (List.all_eq_true.1 sampleLeft_leaves) (by decide +kernel)

end Simu
