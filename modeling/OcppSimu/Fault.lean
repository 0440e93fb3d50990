import OcppSimu.Consumption
/-!
# Fault — what an iteration does with a pending fault

Each of the nine branches tests the fault after other things, and `Preparing` answers it with `Preparing`.  What an
iteration does for a connector once its data are copied is summed up in a `Pass`, read off the log: what it was told of
badges, remote starts and authorizations, and whether it did one of the things a fault forbids.  `heeds` says for each
status what it has to be told for the fault to be heeded (`fault_safe_iff`).
-/
namespace Simu

open Hist Script View

/-! ## A pass in the log -/

/-- **What the log says of the pass of a connector** since its data were copied: the first six are what the loop was
told, `breach` and `left` are what it did. -/
structure Pass where
  badge : Bool := false
  start : Bool := false
  unchecked : Bool := false
  ok : Bool := false
  accepted : Bool := false
  tag : String := ""
  breach : Bool := false
  left : Bool := false
  deriving DecidableEq

/-- The statuses a fault forbids. -/
def ChargePointStatus.inUse : ChargePointStatus → Bool
  | .preparing | .charging | .suspendedEV | .suspendedEVSE => true
  | _ => false

def ChargePointStatus.wayOut : ChargePointStatus → Bool
  | .faulted | .available => true
  | _ => false

def Pass.notified (s : Pass) (x : ChargePointStatus) : Pass :=
  { s with breach := s.breach || x.inUse, left := s.left || x.wayOut }

def Entry.onPass : Entry → Pass → Pass
  | .updateData _ _ _, _ => {}
  | .isIdTagPending _ b, s => { s with badge := b }
  | .pendingIdTag _ idTag, s => { s with tag := idTag }
  | .authorize _ _ a, s => { s with ok := a.ok, accepted := decide (a = .accepted) }
  | .isRemoteStartPending _ b, s => { s with start := b }
  | .remoteStartIdTag _ idTag, s => { s with tag := idTag }
  | .authorizeRemoteTxRequests _ b, s => { s with unchecked := !b }
  | .startTransaction _ _ _, s => { s with breach := true }
  | .statusNotification _ x, s => s.notified x
  | _, s => s

def passOf (h : List Entry) : Pass := h.foldr Entry.onPass {}

/-- An id tag was let through: a badge if one was pending, else a remote start. -/
def Pass.letThrough (s : Pass) : Bool := if s.badge then s.ok else s.start && (s.unchecked || s.ok)

/-- A badge was pending and was not accepted. -/
def Pass.refused (s : Pass) : Bool := s.badge && !s.accepted

/-- **The fault is heeded**: no transaction was started, no status of use notified, and `Preparing` was left. -/
def Pass.Safe (s : Pass) (d : ConnectorData) : Prop :=
  s.breach = false ∧ (d.status = .preparing → s.left = true)

instance (s : Pass) (d : ConnectorData) : Decidable (s.Safe d) := instDecidableAnd

/-- **What a pass has to be told to heed a fault**, with the record `d` and the data `x` copied into it. -/
def heeds (d : ConnectorData) (x : CarData) (s : Pass) : Bool :=
  match d.status with
  | .available => decide (x.cable = 0) && !s.letThrough
  | .preparing => decide (x.cable = 0) && decide (d.idTag = "") && !(s.letThrough && decide (s.tag ≠ ""))
  | .suspendedEVSE => !s.refused || decide (d.setpoint = 0)
  | .suspendedEV => !s.refused || (decide (d.setpoint ≠ 0) && !x.ready)
  | .charging => !s.refused || (decide (d.setpoint ≠ 0) && x.ready)
  | .reserved => !s.letThrough
  | .finishing | .unavailable | .faulted => true

/-- **The last iteration of a history was safe**, if it read a fault. -/
def FaultSafe (h : List Entry) : Prop := ∀ p ∈ lastCopy h, p.2.fault = true → (passOf h).Safe p.1

instance (h : List Entry) : Decidable (FaultSafe h) := inferInstanceAs (Decidable (∀ p ∈ lastCopy h, _))

/-- **The last iteration of a history heeds a fault**, if it read one. -/
def heedsFault (h : List Entry) : Bool :=
  match lastCopy h with
  | some (d, x) => !x.fault || heeds d x (passOf h)
  | none => true

/-- **A connector with its cable plugged stays in `Preparing` while the fault lasts.** -/
theorem preparing_despite_fault :
    let h := (afterIteration .sample 4 (.start .sample .idle) (script 120
      [(0, .carMessage 1 { cable := some 10 }), (40, .faultedMessage 1 true)])).history 1
    (lastCopy h).map (fun p => (p.1.status, p.2.fault)) = some (.preparing, true) ∧ ¬FaultSafe h := by
  decide +kernel

/-! ## What a pass keeps -/

theorem heeds_notified (d : ConnectorData) (x : CarData) (s : Pass) (y : ChargePointStatus) :
    heeds d x (s.notified y) = heeds d x s := by
  unfold heeds
  cases d.status <;> rfl

theorem Pass.safe_notified {s : Pass} {d : ConnectorData} {x : ChargePointStatus} : (s.notified x).Safe d ↔
    s.breach = false ∧ x.inUse = false ∧ (d.status = .preparing → s.left = true ∨ x.wayOut = true) := by
  simp [Pass.Safe, Pass.notified, and_assoc]

/-- **A pass under way**: the record is the one the data `p.2` were copied into, its id tag is `t`, and the log says
`s`. -/
structure Passing (p : ConnectorData × CarData) (t : String) (s : Pass) (v : View) : Prop where
  copied : Copied p (fun _ => True) v.connector v.history
  idTag : v.connector.idTag = t
  pass : passOf v.history = s

/-- **A pass that is over**: the fault was heeded exactly if the pass was told what it takes. -/
structure Judged (p : ConnectorData × CarData) (v : View) : Prop where
  copied : Copied p (fun _ => True) v.connector v.history
  judged : p.2.fault = true → ((passOf v.history).Safe p.1 ↔ heeds p.1 p.2 (passOf v.history) = true)

variable {cp : SimulatedChargePoint} {c : Nat} {p : ConnectorData × CarData} {t : String} {s : Pass}

theorem passOf_cons (e : Entry) (h : List Entry) : passOf (e :: h) = e.onPass (passOf h) := rfl

theorem onPass_of_outside {e : Entry} (he : e.outside = true) (s : Pass) : e.onPass s = s := by
  cases e <;> first | rfl | cases he

theorem copied_note {d : ConnectorData} {h : List Entry} {e : Entry} (he : e.copies = false)
    (hc : Copied p (fun _ => True) d h) : Copied p (fun _ => True) d (e :: h) := hc.cons he (fun _ => trivial)

theorem Passing.closed (c : Nat) : Closed c (Passing p t s) := by
  intro v v' hv h
  have hc := Copied.closed c (fun _ _ _ ht => ht) v v' hv h.copied
  refine ⟨hc, closed_idTag c (· = t) v v' hv h.idTag, ?_⟩
  obtain ⟨e, he, hh⟩ := hv.history
  rw [hh, passOf_cons, onPass_of_outside he]
  exact h.pass

theorem Passing.noted {v : View} {e : Entry} {s' : Pass} (he : e.copies = false) (hs : e.onPass s = s')
    (h : Passing p t s v) : Passing p t s' (v.note e) where
  copied := copied_note he h.copied
  idTag := h.idTag
  pass := by
    rw [View.history_note, passOf_cons, h.pass, hs]

theorem Passing.tagged {v : View} (x y : String) (h : Passing p t s v) :
    Passing p x s (v.setOwn ({ · with idTag := x, parentIdTag := y })) :=
  ⟨h.copied.assigned x y _ _, rfl, h.pass⟩

theorem Passing.moved {v v' : View} (h : Passing p t s v) (hc : v'.connector = v.connector)
    (hh : v'.history = v.history) : Passing p t s v' := by
  refine ⟨?_, ?_, ?_⟩
  · rw [hc, hh]; exact h.copied
  · rw [hc]; exact h.idTag
  · rw [hh]; exact h.pass

theorem Judged.closed (c : Nat) : Closed c (Judged p) := by
  intro v v' hv h
  have hc := Copied.closed c (fun _ _ _ ht => ht) v v' hv h.copied
  refine ⟨hc, ?_⟩
  obtain ⟨e, he, hh⟩ := hv.history
  rw [hh, passOf_cons, onPass_of_outside he]
  exact h.judged

theorem statusNotification_judged {x : ChargePointStatus} (h : (s.notified x).Safe p.1 ↔ heeds p.1 p.2 s = true) :
    SpecAt c (Passing p t s) (statusNotification cp c x) (fun _ => Judged p) := by
  refine statusNotification_at (Passing.closed c) (fun v hv => ⟨copied_note rfl hv.copied, fun _ => ?_⟩)
  have hp : passOf (.statusNotification c x :: v.history) = s.notified x := by
    rw [passOf_cons, hv.pass]
    rfl
  rw [View.history_note, hp, heeds_notified]
  exact h

theorem pure_judged (h : s.Safe p.1 ↔ heeds p.1 p.2 s = true) :
    SpecAt c (Passing p t s) (pure () : M Unit) (fun _ => Judged p) := by
  refine SpecOn.pure _ (fun v hv => ⟨hv.copied, fun _ => ?_⟩)
  rw [hv.pass]
  exact h

/-! ## Authorization and the stop condition -/

theorem authorizeOwn_passing (x : String) (s : Pass) : SpecAt c (Passing p x s) (authorizeOwn cp c x) (fun a v =>
    Passing p x { s with ok := a.ok, accepted := decide (a = .accepted) } v) := by
  refine SpecOn.bind (R := fun r => Passing p x { s with ok := r.1.ok, accepted := decide (r.1 = .accepted) })
    (authorize_at (Passing.closed c) (fun v r h => h.noted rfl rfl)) (fun r => ?_)
  refine SpecOn.keep (setOwn_at (fun v h => ?_)) (fun _ => SpecOn.pure _ (fun _ h => h))
  exact ⟨h.copied.assigned v.connector.idTag r.2 _ _, h.idTag, h.pass⟩

/-- **What the search for a tag leaves**: a tag that is let through is the one in hand. -/
def Sought (p : ConnectorData × CarData) (r : Option (TagSource × String) × Bool) (v : View) : Prop :=
  ∃ x, ∃ s : Pass, ((r.2 = true → x = s.tag) ∧ s.letThrough = r.2 ∧ s.breach = false ∧ s.left = false) ∧ Passing p x s v

theorem takeBadge_passing : SpecAt c (Passing p t { badge := true })
    (do
      let tag ← pendingIdTag cp c
      setOwn c ({ · with idTag := tag })
      let status ← authorizeOwn cp c tag
      resetIdTagPending cp c
      pure (some (TagSource.badge, tag), status.ok)) (Sought p) := by
  refine SpecOn.bind (R := fun x => Passing p t { badge := true, tag := x })
    (pendingIdTag_at (Passing.closed c) (fun v h => h.noted rfl rfl)) (fun x => ?_)
  refine SpecOn.bind (R := fun _ => Passing p x { badge := true, tag := x }) (setOwn_at (fun v h => ?_)) (fun _ => ?_)
  · exact h.tagged x v.connector.parentIdTag
  refine SpecOn.bind (authorizeOwn_passing x _) (fun a => ?_)
  refine SpecOn.keep (resetIdTagPending_at (Passing.closed c) (fun v h => Passing.noted rfl rfl (h.moved rfl rfl))) (fun _ => ?_)
  exact SpecOn.pure _ (fun v h => ⟨x, _, ⟨fun _ => rfl, rfl, rfl, rfl⟩, h⟩)

theorem takeRemoteStart_passing : SpecAt c (Passing p t { start := true })
    (do
      let tag ← remoteStartIdTag cp c
      setOwn c ({ · with idTag := tag })
      let status ← (do if ← authorizeRemoteTxRequests cp c then authorizeOwn cp c tag else pure .accepted)
      resetRemoteStartPending cp c
      pure (some (TagSource.remoteStart, tag), status.ok)) (Sought p) := by
  refine SpecOn.bind (R := fun x => Passing p t { start := true, tag := x })
    (remoteStartIdTag_at (Passing.closed c) (fun v h => h.noted rfl rfl)) (fun x => ?_)
  refine SpecOn.bind (R := fun _ => Passing p x { start := true, tag := x }) (setOwn_at (fun v h => ?_)) (fun _ => ?_)
  · exact h.tagged x v.connector.parentIdTag
  refine SpecOn.bind (R := fun a v => ∃ s : Pass, (x = s.tag ∧ s.letThrough = a.ok ∧ s.breach = false ∧ s.left = false) ∧
    Passing p x s v) ?_ (fun a => SpecOn.exists (fun s => SpecOn.given (fun hs => ?_)))
  · refine SpecOn.bind (R := fun b => Passing p x { start := true, tag := x, unchecked := !b })
      (authorizeRemoteTxRequests_at (Passing.closed c) (fun v b h => h.noted rfl rfl)) (fun b => SpecOn.ite (fun hb => ?_) (fun hb => ?_))
    · subst hb
      exact SpecOn.post (authorizeOwn_passing x _) (fun a v h => ⟨_, ⟨rfl, by simp [Pass.letThrough], rfl, rfl⟩, h⟩)
    · rw [Bool.not_eq_true] at hb
      subst hb
      exact SpecOn.pure _ (fun v h => ⟨_, ⟨rfl, rfl, rfl, rfl⟩, h⟩)
  · refine SpecOn.keep (resetRemoteStartPending_at (Passing.closed c) (fun v h => Passing.noted rfl rfl (h.moved rfl rfl)))
      (fun _ => SpecOn.pure _ (fun v h => ⟨x, s, ⟨fun _ => hs.1, hs.2⟩, h⟩))

/-- **What the authorization of a tag tells the pass.** -/
theorem isValidIdTagPresent_passing : SpecAt c (Passing p t {}) (isValidIdTagPresent cp c false) (fun ret v =>
    ∃ s : Pass, (s.letThrough = ret ∧ s.breach = false ∧ s.left = false) ∧ Passing p (if ret then s.tag else "") s v) := by
  refine SpecOn.bind (R := Sought p) ?_ (fun r => ?_)
  · refine SpecOn.bind (R := fun b => Passing p t { badge := b })
      (isIdTagPending_at (Passing.closed c) (fun v h => h.noted rfl rfl)) (fun b => SpecOn.ite (fun hb => ?_) (fun hb => ?_))
    · subst hb
      exact takeBadge_passing
    · rw [Bool.not_eq_true] at hb
      subst hb
      refine SpecOn.bind (R := fun b => Passing p t { start := b })
        (isRemoteStartPending_at (Passing.closed c) (fun v h => h.noted rfl rfl)) (fun b => SpecOn.ite (fun hb => ?_) (fun hb => ?_))
      · subst hb
        exact takeRemoteStart_passing
      · rw [Bool.not_eq_true] at hb
        subst hb
        exact SpecOn.pure _ (fun v h => ⟨t, _, ⟨(fun h => by cases h), rfl, rfl, rfl⟩, h⟩)
  · refine SpecOn.exists (fun x => SpecOn.exists (fun s => SpecOn.given (fun hs => ?_)))
    obtain ⟨hx, hs⟩ := hs
    refine SpecOn.bind (R := fun _ => Passing p (if r.2 then s.tag else "") s) (SpecOn.ite (fun hr => ?_) (fun hr => ?_))
      (fun _ => SpecOn.keep (record_at rfl (fun v h => h.noted rfl rfl)) (fun _ => SpecOn.pure _ (fun v h => ⟨s, hs, h⟩)))
    · rw [hr]
      exact clearIdTags_at (fun v h => h.tagged "" "")
    · rw [Bool.not_eq_false] at hr
      rw [hr, if_pos rfl, ← hx hr]
      exact SpecOn.pure _ (fun v h => h)

/-- **With a fault copied, only a badge that is refused keeps the transaction.** -/
theorem isTransactionStopCondition_passing (hf : p.2.fault = true) :
    SpecAt c (Passing p t {}) (isTransactionStopCondition cp c) (fun ret v =>
      ∃ s : Pass, (s.refused = !ret ∧ s.breach = false) ∧ Passing p t s v) := by
  have stopped : ∀ (s : Pass) (x : String) (reason : Reason), s.refused = false → s.breach = false →
      SpecAt c (Passing p t s) (do stopTransaction cp c x reason; pure true) (fun ret v =>
        ∃ s : Pass, (s.refused = !ret ∧ s.breach = false) ∧ Passing p t s v) := fun s x reason hr hb =>
    SpecOn.keep (stopTransaction_at (Passing.closed c) (fun v h => h.noted rfl rfl))
      (fun _ => SpecOn.pure _ (fun v h => ⟨s, ⟨hr, hb⟩, h⟩))
  refine SpecOn.bind (R := fun b => Passing p t { badge := b })
    (isIdTagPending_at (Passing.closed c) (fun v h => h.noted rfl rfl)) (fun b => SpecOn.ite (fun hb => ?_) (fun hb => ?_))
  · subst hb
    refine SpecOn.bind (R := fun x => Passing p t { badge := true, tag := x })
      (pendingIdTag_at (Passing.closed c) (fun v h => h.noted rfl rfl)) (fun x => ?_)
    refine SpecOn.bind (R := fun r => Passing p t { badge := true, tag := x, ok := r.1.ok, accepted := decide (r.1 = .accepted) })
      (authorize_at (Passing.closed c) (fun v r h => h.noted rfl rfl)) (fun r => ?_)
    refine SpecOn.keep (resetIdTagPending_at (Passing.closed c) (fun v h => Passing.noted rfl rfl (h.moved rfl rfl)))
      (fun _ => SpecOn.ite (fun ha => ?_) (fun ha => ?_))
    · exact stopped _ x .local_ (by simp [Pass.refused, ha]) rfl
    · exact SpecOn.pure _ (fun v h => ⟨_, ⟨by simp [Pass.refused, ha], rfl⟩, h⟩)
  · rw [Bool.not_eq_true] at hb
    subst hb
    refine SpecOn.keep (isRemoteStopPending_at (Passing.closed c) (fun v h => h.noted rfl rfl))
      (fun b => SpecOn.ite (fun _ => ?_) (fun _ => ?_))
    · refine SpecOn.keep (resetRemoteStopPending_at (Passing.closed c) (fun v h => Passing.noted rfl rfl (h.moved rfl rfl)))
        (fun _ => ?_)
      exact stopped _ "" .remote rfl rfl
    · refine ownData_at (fun v hv => SpecOn.pre (fun _ h => h.1) ?_)
      have hd : v.connector.faultPending = true := (congrArg CarData.fault hv.copied.car).trans hf
      refine SpecOn.ite (fun _ => stopped _ "" .evDisconnected rfl rfl) (fun _ => SpecOn.ite (fun _ => ?_) (fun hn => ?_))
      · exact stopped _ "" .other rfl rfl
      · exact absurd hd hn

/-! ## The nine statuses -/

/-- The record the pass is made for, as far as the pass reads it. -/
structure Reads (p : ConnectorData × CarData) (d : ConnectorData) : Prop where
  status : d.status = p.1.status
  setpoint : d.setpoint = p.1.setpoint
  cable : d.carCableCapacity = p.2.cable
  ready : d.carReady = p.2.ready
  fault : d.faultPending = p.2.fault

theorem reads_of_copied {T : List Entry → Prop} {d : ConnectorData} {h : List Entry} (hc : Copied p T d h) :
    Reads p d where
  status := hc.status
  setpoint := hc.setpoint
  cable := congrArg CarData.cable hc.car
  ready := congrArg CarData.ready hc.car
  fault := congrArg CarData.fault hc.car

theorem faultOrUnavailable_judged {d : ConnectorData} (hd : Reads p d) (hf : p.2.fault = true)
    (h : (s.notified .faulted).Safe p.1 ↔ heeds p.1 p.2 s = true) :
    SpecAt c (Passing p t s) (faultOrUnavailable cp c d) (fun _ => Judged p) := by
  have hn : d.faultPending = true := hd.fault.trans hf
  unfold faultOrUnavailable
  rw [if_pos hn]
  exact statusNotification_judged h

theorem validOr_judged {k : M Unit} (hh : ∀ s : Pass, heeds p.1 p.2 s = !s.letThrough) (hs : p.1.status ≠ .preparing)
    (hk : ∀ t s, (s.notified .faulted).Safe p.1 → heeds p.1 p.2 s = true → SpecAt c (Passing p t s) k (fun _ => Judged p)) :
    SpecAt c (Passing p t {}) (do if ← isValidIdTagPresent cp c false then statusNotification cp c .preparing else k)
      (fun _ => Judged p) := by
  refine SpecOn.bind isValidIdTagPresent_passing (fun ret => SpecOn.exists (fun s => SpecOn.given (fun h => ?_)))
  obtain ⟨hl, hb, -⟩ := h
  refine SpecOn.ite (fun hr => statusNotification_judged ?_) (fun hr => hk _ s ?_ ?_)
  · simp [Pass.safe_notified, ChargePointStatus.inUse, hh, hl, hr]
  · simp [Pass.safe_notified, ChargePointStatus.inUse, hb, hs]
  · simp [hh, hl, hr]

theorem whenAvailable_judged {d : ConnectorData} (hd : Reads p d) (hf : p.2.fault = true)
    (hs : p.1.status = .available) : SpecAt c (Passing p t {}) (whenAvailable cp c d) (fun _ => Judged p) := by
  refine SpecOn.ite (fun hc => statusNotification_judged ?_) (fun hc => ?_)
  · rw [hd.cable] at hc
    simp [Pass.safe_notified, ChargePointStatus.inUse, heeds, hs, hc]
  · rw [not_not, hd.cable] at hc
    refine validOr_judged (fun s => by simp [heeds, hs, hc]) (by simp [hs]) (fun t s h hh => ?_)
    exact faultOrUnavailable_judged hd hf (iff_of_true h hh)

theorem whenReserved_judged {d : ConnectorData} (hd : Reads p d) (hf : p.2.fault = true)
    (hs : p.1.status = .reserved) : SpecAt c (Passing p t {}) (whenReserved cp c d) (fun _ => Judged p) := by
  refine validOr_judged (fun s => by simp [heeds, hs]) (by simp [hs]) (fun t s h hh => ?_)
  exact faultOrUnavailable_judged hd hf (iff_of_true h hh)

theorem tryStart_judged {d : ConnectorData} (hd : Reads p d) (hf : p.2.fault = true) (hs : p.1.status = .preparing)
    (hb : s.breach = false) (hh : heeds p.1 p.2 s = true ↔ p.2.cable = 0 ∧ d.idTag = "") :
    SpecAt c (Passing p d.idTag s) (tryStart cp c d) (fun _ => Judged p) := by
  have hn : d.faultPending = true := hd.fault.trans hf
  unfold tryStart
  rw [hd.cable]
  refine SpecOn.ite (fun hc => ?_) (fun hc => SpecOn.ite (fun hc' => ?_) (fun hc' => SpecOn.ite (fun _ => ?_) (fun hx => absurd hn hx)))
  · have hno : ¬heeds p.1 p.2 s = true := fun h => hc.1 (hh.1 h).1
    have hu : heeds p.1 p.2 { s with breach := true } = heeds p.1 p.2 s := by
      unfold heeds
      rw [hs]
      rfl
    refine SpecOn.bind (R := fun _ => Passing p d.idTag { s with breach := true })
      (startTransaction_at (Passing.closed c) (fun v a h => h.noted rfl rfl)) (fun a => SpecOn.ite (fun _ => ?_) (fun _ => ?_))
    · refine statusNotification_judged (iff_of_false (fun h => ?_) (by rwa [hu]))
      exact absurd (Pass.safe_notified.1 h).1 (by simp)
    · refine SpecOn.post (clearIdTags_at (Q := fun _ => Passing p "" { s with breach := true }) (fun v h => h.tagged "" "")) ?_
      intro _ v h
      refine ⟨h.copied, fun _ => ?_⟩
      rw [h.pass, hu]
      exact iff_of_false (fun h => absurd h.1 (by simp)) hno
  · refine statusNotification_judged (iff_of_true ?_ (hh.2 hc'))
    simp [Pass.safe_notified, ChargePointStatus.inUse, ChargePointStatus.wayOut, hb]
  · refine statusNotification_judged (iff_of_false ?_ (fun h => hc' (hh.1 h)))
    simp [Pass.safe_notified, ChargePointStatus.inUse]

theorem whenPreparing_judged {d : ConnectorData} (hf : p.2.fault = true) (hs : p.1.status = .preparing)
    (ht : d.idTag = p.1.idTag) : SpecAt c (Passing p d.idTag {}) (whenPreparing cp c d) (fun _ => Judged p) := by
  refine SpecOn.bind (R := fun _ v => ∃ x, ∃ s : Pass, (s.breach = false ∧
    (heeds p.1 p.2 s = true ↔ p.2.cable = 0 ∧ x = "")) ∧ Passing p x s v) (SpecOn.ite (fun h₀ => ?_) (fun h₀ => ?_)) (fun _ => ?_)
  · refine SpecOn.bind isValidIdTagPresent_passing (fun ret => SpecOn.exists (fun s => SpecOn.given (fun h => ?_)))
    obtain ⟨hl, hb, -⟩ := h
    have hh : heeds p.1 p.2 s = true ↔ p.2.cable = 0 ∧ (if ret then s.tag else "") = "" := by
      rw [ht] at h₀
      cases ret <;> simp [heeds, hs, h₀, hl]
    have keep : SpecAt c (Passing p (if ret then s.tag else "") s) (if ret then startPreparing cp c else pure ())
        (fun _ => Passing p (if ret then s.tag else "") s) := by
      refine SpecOn.ite (fun _ => ?_) (fun _ => SpecOn.pure _ (fun _ h => h))
      exact startPreparing_at (Passing.closed c) (fun v now h => ⟨h.copied.assigned _ _ now _, h.idTag, h.pass⟩)
    exact SpecOn.post keep (fun _ v h => ⟨_, s, ⟨hb, hh⟩, h⟩)
  · refine SpecOn.pure _ (fun v h => ⟨d.idTag, _, ⟨rfl, ?_⟩, h⟩)
    rw [ht] at h₀ ⊢
    simp [heeds, hs, h₀]
  · refine SpecOn.exists (fun x => SpecOn.exists (fun s => SpecOn.given (fun h => ?_)))
    refine ownData_at (fun v hv => SpecOn.pre (fun _ h => h.1) ?_)
    obtain rfl : v.connector.idTag = x := hv.idTag
    exact tryStart_judged (reads_of_copied hv.copied) hf hs h.1 h.2

/-- **The branches of a session**: a badge that is refused leaves the fault unheeded, unless the rest, `k`, does
nothing. -/
theorem session_judged {k : M Unit} (hf : p.2.fault = true) {b : Bool} (hs : p.1.status ≠ .preparing)
    (hh : ∀ s : Pass, heeds p.1 p.2 s = (!s.refused || b))
    (hk : ∀ s : Pass, s.breach = false → heeds p.1 p.2 s = b → SpecAt c (Passing p t s) k (fun _ => Judged p)) :
    SpecAt c (Passing p t {})
      (do if ← isTransactionStopCondition cp c then statusNotification cp c .finishing else k) (fun _ => Judged p) := by
  refine SpecOn.bind (isTransactionStopCondition_passing hf) (fun ret => SpecOn.exists (fun s => SpecOn.given (fun h => ?_)))
  obtain ⟨hr, hb⟩ := h
  refine SpecOn.ite (fun hret => statusNotification_judged ?_) (fun hret => hk s hb ?_)
  · simp [Pass.safe_notified, ChargePointStatus.inUse, hh, hr, hret, hb, hs]
  · simp [hh, hr, hret]

/-- Where the rest of such a branch notifies a status of use, it leaves the fault unheeded. -/
theorem inUse_judged {x : ChargePointStatus} (hx : x.inUse = true) (hh : heeds p.1 p.2 s = false) :
    SpecAt c (Passing p t s) (statusNotification cp c x) (fun _ => Judged p) := by
  refine statusNotification_judged (iff_of_false (fun h => ?_) (by simp [hh]))
  have hn := (Pass.safe_notified.1 h).2.1
  rw [hx] at hn
  cases hn

theorem quiet_judged (hs : p.1.status ≠ .preparing) (hb : s.breach = false) (hh : heeds p.1 p.2 s = true) :
    SpecAt c (Passing p t s) (pure () : M Unit) (fun _ => Judged p) :=
  pure_judged (iff_of_true ⟨hb, fun h => absurd h hs⟩ hh)

theorem whenCharging_judged {d : ConnectorData} (hd : Reads p d) (hf : p.2.fault = true) (hs : p.1.status = .charging) :
    SpecAt c (Passing p t {}) (whenCharging cp c d) (fun _ => Judged p) := by
  have hn : p.1.status ≠ .preparing := by simp [hs]
  refine session_judged hf hn (b := decide (p.1.setpoint ≠ 0) && p.2.ready) (fun s => by simp [heeds, hs]) (fun s hb hh => ?_)
  rw [hd.setpoint, hd.ready]
  refine SpecOn.ite (fun h₀ => inUse_judged rfl (by simp [hh, h₀])) (fun h₀ => ?_)
  refine SpecOn.ite (fun h₁ => inUse_judged rfl (by simp [hh, h₁])) (fun h₁ => ?_)
  exact quiet_judged hn hb (by simpa [hh, h₀] using h₁)

theorem whenSuspendedEV_judged {d : ConnectorData} (hd : Reads p d) (hf : p.2.fault = true)
    (hs : p.1.status = .suspendedEV) : SpecAt c (Passing p t {}) (whenSuspendedEV cp c d) (fun _ => Judged p) := by
  have hn : p.1.status ≠ .preparing := by simp [hs]
  refine session_judged hf hn (b := decide (p.1.setpoint ≠ 0) && !p.2.ready) (fun s => by simp [heeds, hs]) (fun s hb hh => ?_)
  rw [hd.setpoint, hd.ready]
  refine SpecOn.ite (fun h₀ => inUse_judged rfl (by simp [hh, h₀])) (fun h₀ => ?_)
  refine SpecOn.ite (fun h₁ => inUse_judged rfl (by simp [hh, h₁])) (fun h₁ => ?_)
  exact quiet_judged hn hb (by simpa [hh, h₀] using h₁)

theorem whenSuspendedEVSE_judged {d : ConnectorData} (hd : Reads p d) (hf : p.2.fault = true)
    (hs : p.1.status = .suspendedEVSE) : SpecAt c (Passing p t {}) (whenSuspendedEVSE cp c d) (fun _ => Judged p) := by
  have hn : p.1.status ≠ .preparing := by simp [hs]
  refine session_judged hf hn (b := decide (p.1.setpoint = 0)) (fun s => by simp [heeds, hs]) (fun s hb hh => ?_)
  rw [hd.setpoint, hd.ready]
  refine SpecOn.ite (fun h₀ => ?_) (fun h₀ => ?_)
  · have hno : heeds p.1 p.2 s = false := hh.trans (decide_eq_false h₀)
    exact SpecOn.ite (fun _ => inUse_judged rfl hno) (fun _ => inUse_judged rfl hno)
  · rw [not_not] at h₀
    exact quiet_judged hn hb (hh.trans (decide_eq_true h₀))

/-- **A pass heeds a fault exactly where it is told what its status takes.** -/
theorem nextStatus_judged (hf : p.2.fault = true) :
    SpecAt c (Passing p p.1.idTag {}) (nextStatus cp c) (fun _ => Judged p) := by
  refine ownData_at (fun v hv => SpecOn.pre (fun _ h => h.1) ?_)
  have hd := reads_of_copied hv.copied
  have ht : v.connector.idTag = p.1.idTag := hv.idTag
  have hn : v.connector.faultPending = true := hd.fault.trans hf
  generalize v.connector = d at hd ht hn
  have hst := hd.status
  cases hs : p.1.status with
  | available =>
    rw [hst, hs]
    exact whenAvailable_judged hd hf hs
  | preparing =>
    rw [hst, hs, ← ht]
    exact whenPreparing_judged hf hs ht
  | charging =>
    rw [hst, hs]
    exact whenCharging_judged hd hf hs
  | suspendedEVSE =>
    rw [hst, hs]
    exact whenSuspendedEVSE_judged hd hf hs
  | suspendedEV =>
    rw [hst, hs]
    exact whenSuspendedEV_judged hd hf hs
  | finishing =>
    rw [hst, hs]
    refine SpecOn.ite (fun _ => statusNotification_judged ?_) (fun h => absurd hn h)
    simp [Pass.safe_notified, ChargePointStatus.inUse, heeds, hs]
  | reserved =>
    rw [hst, hs]
    exact whenReserved_judged hd hf hs
  | unavailable =>
    rw [hst, hs]
    exact quiet_judged (by simp [hs]) rfl (by simp [heeds, hs])
  | faulted =>
    rw [hst, hs]
    refine SpecOn.ite (fun h => by rw [hn] at h; cases h) (fun _ => ?_)
    refine SpecOn.keep (unavailablePending_at (Passing.closed c) (fun v h => h.noted rfl rfl)) (fun _ => ?_)
    refine SpecOn.ite (fun _ => statusNotification_judged ?_) (fun _ => quiet_judged (by simp [hs]) rfl (by simp [heeds, hs]))
    simp [Pass.safe_notified, ChargePointStatus.inUse, heeds, hs]

/-! ## The run -/

theorem pass_judged (p : ConnectorData × CarData) :
    SpecAt c (Passing p p.1.idTag {}) (do nextStatus cp c; computeConsumption cp c) (fun _ => Judged p) := by
  refine SpecOn.bind (R := fun _ => Judged p) ?_ (fun _ => ?_)
  · cases hf : p.2.fault with
    | true => exact nextStatus_judged hf
    | false =>
      refine SpecOn.post (SpecOn.pre (fun _ h => h.copied) (nextStatus_copied p)) (fun _ v h => ⟨h, fun h' => ?_⟩)
      rw [hf] at h'
      cases h'
  · refine computeConsumption_at (Judged.closed c) (fun v v' _ h => ⟨copied_note rfl h.copied, h.judged⟩)

theorem actOnConnectors_judged (hc : c ∈ cp.ids) :
    SpecAt c (fun _ => True) (actOnConnectors cp) (fun _ v => ∃ p, Judged p v) := by
  have hs : Steady c (fun _ => True) := ⟨fun _ _ _ _ => trivial, fun _ _ _ _ => trivial, fun _ _ _ _ => trivial, fun _ _ _ => trivial⟩
  refine SpecOn.keep (computeSetpoints_steady hs) (fun _ => ?_)
  refine afterSetpoints_at hc hs.env (Closed.exists (fun _ => Passing.closed c)) (Closed.exists (fun _ => Judged.closed c))
    (fun v _ => ?_) (SpecOn.exists (fun p => SpecOn.post (pass_judged p) (fun _ _ h => ⟨p, h⟩)))
  exact ⟨(v.connector, v.mqtt.car), ⟨rfl, rfl, rfl, rfl, fun _ => trivial⟩, rfl, rfl⟩

/-- **An iteration that reads a fault starts no transaction, notifies no status of use and leaves `Preparing`, exactly
where it is told what the polled status takes** (`heeds`): from every state, after any number of rounds, whatever the
other threads do. -/
theorem fault_safe_iff (cp : SimulatedChargePoint) (c : Nat) (hc : c ∈ cp.ids) (w : World) (k : Nat)
    (script : List Tick) (hr : (loopIterated cp k (w, script)).1 = true) :
    (lastCopy ((afterIteration cp k w script).history c)).isSome = true ∧
      (FaultSafe ((afterIteration cp k w script).history c) ↔
        heedsFault ((afterIteration cp k w script).history c) = true) := by
  have hI : Closed c (fun _ : View => True) := fun _ _ _ _ => trivial
  have hk : SpecAt c (fun _ : View => True) (loop cp k) (fun _ _ => True) := fun _ _ _ => trivial
  have hp : SpecAt c (fun _ : View => True) (pollConnectors cp) (fun _ _ => True) := fun _ _ _ => trivial
  have h := loopThen_at hI hk (SpecOn.bind hp (fun _ => actOnConnectors_judged hc)) w script trivial hr
  obtain ⟨p, hj⟩ := h
  have hl : lastCopy ((afterIteration cp k w script).history c) = some p := hj.copied.last
  have hjudged : p.2.fault = true → ((passOf ((afterIteration cp k w script).history c)).Safe p.1 ↔
      heeds p.1 p.2 (passOf ((afterIteration cp k w script).history c)) = true) := hj.judged
  refine ⟨by rw [hl]; rfl, ?_⟩
  unfold FaultSafe heedsFault
  rw [hl]
  cases hf : p.2.fault with
  | false => simp [hf]
  | true =>
    have h := hjudged hf
    simpa [hf] using h

/-- A fault ends a session. -/
theorem fault_safe_session :
    let h := (afterIteration .sample 3 (.start .sample .idle) (script 160
      [(0, .carMessage 1 { cable := some 10 }), (0, .idTagMessage 1 "A"), (70, .faultedMessage 1 true)])).history 1
    (lastCopy h).map (fun p => (p.1.status, p.2.fault)) = some (.charging, true) ∧ FaultSafe h :=
  ⟨by decide +kernel, (fault_safe_iff .sample 1 (by decide) (.start .sample .idle) 3 _ (by decide +kernel)).2.2
    (by decide +kernel)⟩

end Simu
