import OcppSimu.Fates
import OcppSimu.Mailbox
/-!
# Window — a request that comes while another is being authorized

The loop tests, reads and resets the badge mailbox and the remote start mailbox in separate critical sections, with the
authorization in between; the reset erases whatever has come since the read.  Where nothing comes in that window, every
request is authorized or used, replaced by a newer one, discarded by the connector entering `Available`, or still in its
mailbox (`requests_kept`).
-/
namespace Simu

open Hist Script View Fates

/-! ## The two mailboxes -/

/-- The mailbox of the badges: a message without an id empties it, and entering `Available` does too. -/
def badgeMail : Box Entry String where
  request
    | .event (.idTagMessage _ id) => if id = "" then none else some id
    | _ => none
  replaces
    | .event (.idTagMessage _ _) => true
    | _ => false
  reads
    | .pendingIdTag _ idTag => some idTag
    | _ => none
  uses idTag
    | .authorize _ t _ => decide (t = idTag)
    | _ => false
  resets
    | .resetIdTagPending _ => true
    | _ => false
  clears
    | .entered _ .available => true
    | _ => false

/-- The mailbox of the remote starts: one that needs no authorization is used as it is. -/
def startMail : Box Entry String where
  request
    | .remoteStartTransactionRequested _ idTag (some _) => some idTag
    | _ => none
  replaces
    | .remoteStartTransactionRequested _ _ (some _) => true
    | _ => false
  reads
    | .remoteStartIdTag _ idTag => some idTag
    | _ => none
  uses idTag
    | .authorize _ t _ => decide (t = idTag)
    | .authorizeRemoteTxRequests _ b => !b
    | _ => false
  resets
    | .resetRemoteStartPending _ => true
    | _ => false
  clears _ := false

/-- What the badge mailbox of the connector holds. -/
def View.badgeContent (v : View) : Option String := if v.mqtt.idTag = "" then none else some v.mqtt.idTag

def View.startContent (v : View) : Option String := if v.startPending then some v.startIdTag else none

variable {cp : SimulatedChargePoint} {c : Nat}

/-! ## The badge mailbox -/

def BadgeIdle (v : View) : Prop := badgeMail.Idle v.badgeContent v.history

/-- The entries the badge mailbox has nothing to do with. -/
def Entry.badgeMailFree : Entry → Bool
  | .event (.idTagMessage _ _) | .pendingIdTag _ _ | .resetIdTagPending _ => false
  | _ => true

theorem BadgeIdle.note {v : View} {e : Entry} (he : e.badgeMailFree = true) (h : BadgeIdle v) : BadgeIdle (v.note e) := by
  have hq : badgeMail.request e = none := by
    cases e with
    | event x => cases x <;> first | rfl | cases he
    | _ => rfl
  have hp : badgeMail.replaces e = false := by
    cases e with
    | event x => cases x <;> first | rfl | cases he
    | _ => rfl
  exact Box.Idle.other hq hp (by cases e <;> first | rfl | cases he) (by cases e <;> first | rfl | cases he) h

theorem BadgeIdle.closed (c : Nat) : Closed c BadgeIdle := by
  intro v v' hv h
  cases hv with
  | badge id => exact Box.Idle.replaced (e := .event (.idTagMessage c id)) rfl rfl rfl h
  | _ => exact BadgeIdle.note (v := v) rfl h

/-- **A phase of the window** says nothing but of the history, and outlives the other threads. -/
theorem reading_closed (c : Nat) (B : Box Entry String) (t : String) (hr : ∀ e, e.outside = true → B.reads e = none)
    (hs : ∀ e, e.outside = true → B.resets e = false) : Closed c (fun v => B.Reading t v.history) :=
  closed_history (P := B.Reading t) (fun e _ he h => h.other (hr e he) (hs e he))

theorem done_closed (c : Nat) (B : Box Entry String) (hr : ∀ e, e.outside = true → B.reads e = none)
    (hs : ∀ e, e.outside = true → B.resets e = false) : Closed c (fun v => B.Done v.history) :=
  closed_history (P := B.Done) (fun e _ he h => h.other (hr e he) (hs e he))

theorem badge_reads_outside (e : Entry) (he : e.outside = true) : badgeMail.reads e = none := by
  cases e <;> first | rfl | cases he

theorem badge_resets_outside (e : Entry) (he : e.outside = true) : badgeMail.resets e = false := by
  cases e <;> first | rfl | cases he

/-- **A check of the badge mailbox**: what it reads is authorized before the reset. -/
theorem pendingIdTag_reading {P : View → Prop} (hP : Closed c P) (h : ∀ v, P v → BadgeIdle v) :
    SpecAt c P (pendingIdTag cp c) (fun t v => badgeMail.Reading t v.history) := by
  refine pendingIdTag_at hP (fun v hv => ?_)
  refine Box.Idle.read rfl rfl rfl (fun t' ht => ?_) (h v hv)
  unfold badgeContent at ht
  split at ht
  · cases ht
  · exact (Option.some.inj ht).symm

theorem authorize_badge (t : String) :
    SpecAt c (fun v => badgeMail.Reading t v.history) (authorize cp c t) (fun _ v => badgeMail.Done v.history) :=
  authorize_at (reading_closed c badgeMail t badge_reads_outside badge_resets_outside)
    (fun _ _ h => h.use rfl rfl rfl (decide_eq_true rfl))

theorem resetIdTagPending_badge :
    SpecAt c (fun v => badgeMail.Done v.history) (resetIdTagPending cp c) (fun _ => BadgeIdle) :=
  resetIdTagPending_at (done_closed c badgeMail badge_reads_outside badge_resets_outside) (fun _ h => h.reset rfl rfl rfl)

theorem BadgeIdle.authorizing (c : Nat) : Authorizing c BadgeIdle where
  env := BadgeIdle.closed c
  tagged _ _ _ h := h
  asked _ _ h := h.note rfl
  authorized _ _ _ h := h.note rfl

theorem BadgeIdle.plain (c : Nat) : Plain c BadgeIdle where
  env := BadgeIdle.closed c
  notified v s h := BadgeIdle.note (v := { v with status := s }) rfl h
  asked _ _ h := h.note rfl
  timed _ _ h := h
  started _ _ h _ _ := h.note rfl
  refused _ _ h _ _ := h.note rfl

theorem BadgeIdle.steady (c : Nat) : Steady c BadgeIdle where
  env := BadgeIdle.closed c
  setpoints _ _ _ h := h
  asked _ _ _ h := h.note rfl
  metered v x h := BadgeIdle.note (v := { v with meter := v.meter.setConsumptions x }) rfl h

theorem isValidIdTagPresent_badge : SpecAt c BadgeIdle (isValidIdTagPresent cp c false) (fun _ => BadgeIdle) := by
  have hcl := BadgeIdle.closed c
  refine isValidIdTagPresent_branches hcl (fun _ h => h.note rfl) (fun _ _ _ h => h) (fun _ _ _ h => h.note rfl) ?_ ?_
  · refine SpecOn.bind (pendingIdTag_reading hcl (fun _ h => h)) (fun t => ?_)
    refine SpecOn.keep (setOwn_at (fun _ h => h)) (fun _ => ?_)
    refine SpecOn.bind (R := fun _ v => badgeMail.Done v.history) ?_ (fun a => ?_)
    · exact SpecOn.bind (authorize_badge t) (fun _ => SpecOn.keep (setOwn_at (fun _ h => h)) (fun _ => SpecOn.pure _ (fun _ h => h)))
    · exact SpecOn.bind resetIdTagPending_badge (fun _ => SpecOn.pure _ (fun _ h => h))
  · refine SpecOn.keep (isRemoteStartPending_at hcl (fun _ h => h.note rfl)) (fun _ => ?_)
    refine SpecOn.ite (fun _ => ?_) (fun _ => SpecOn.pure _ (fun _ h => h))
    refine SpecOn.keep (remoteStartIdTag_at hcl (fun _ h => h.note rfl)) (fun t => ?_)
    refine (BadgeIdle.authorizing c).takeRemoteStart (fun v _ h => ?_)
    exact BadgeIdle.note (v := { v with startPending := false }) rfl h

theorem isTransactionStopCondition_badge : SpecAt c BadgeIdle (isTransactionStopCondition cp c) (fun _ => BadgeIdle) := by
  have hcl := BadgeIdle.closed c
  have stopped : ∀ v idTag reason, BadgeIdle v → BadgeIdle (v.note (.stopTransaction c idTag reason)) :=
    fun _ _ _ h => h.note rfl
  refine isTransactionStopCondition_branches hcl (fun _ h => h.note rfl) (fun _ h => h.note rfl) (fun v h => ?_) stopped ?_
  · exact BadgeIdle.note (v := { v with stopPending := false }) rfl h
  refine SpecOn.bind (pendingIdTag_reading hcl (fun _ h => h)) (fun t => SpecOn.bind (authorize_badge t) (fun r => ?_))
  refine SpecOn.bind resetIdTagPending_badge (fun _ => SpecOn.ite (fun _ => ?_) (fun _ => SpecOn.pure _ (fun _ h => h)))
  exact stopping_at hcl stopped _ _

/-- **Entering `Available` discards the badge**: the reset was announced. -/
theorem updateConnectorStatus_badge : SpecAt c BadgeIdle (updateConnectorStatus cp c) (fun _ => BadgeIdle) := by
  have hcl := BadgeIdle.closed c
  refine SpecOn.keep (getConnectorStatus_at hcl (fun _ h => h.note rfl)) (fun s => ?_)
  refine ownData_at (fun v _ => SpecOn.pre (fun _ h => h.1) (SpecOn.ite (fun _ => ?_) (fun _ => SpecOn.pure _ (fun _ h => h))))
  refine SpecOn.bind (R := fun _ v => BadgeIdle v ∧ (s = .available → badgeMail.clearing v.history = true))
    (record_at rfl (fun v h => ⟨h.note rfl, fun hs => ?_⟩)) (fun _ => ?_)
  · rw [hs]
    exact since_cons_of_hit rfl
  refine SpecOn.bind (R := fun _ => BadgeIdle) (SpecOn.ite (fun hs => ?_) (fun _ => SpecOn.pre (fun _ h => h.1) ?_))
    (fun _ => setOwn_at (fun _ h => h))
  · refine SpecOn.pre (R := fun v => BadgeIdle v ∧ badgeMail.clearing v.history = true) (fun _ h => ⟨h.1, h.2 hs⟩) ?_
    refine SpecOn.keep (clearIdTags_at (fun _ h => h)) (fun _ => ?_)
    refine resetIdTagPending_at (hcl.and ?_) (fun v h => h.1.clear rfl rfl rfl rfl h.2)
    exact closed_history (P := fun h => badgeMail.clearing h = true)
      (fun e _ he h => since_cons_of_not_kill (badge_resets_outside e he) h)
  · exact SpecOn.ite (fun _ => startPreparing_at hcl (fun _ _ h => h)) (fun _ => SpecOn.pure _ (fun _ h => h))

theorem loop_badge (hc : c ∈ cp.ids) (k : Nat) : SpecAt c BadgeIdle (loop cp k) (fun _ => BadgeIdle) :=
  loop_at hc (BadgeIdle.steady c) (BadgeIdle.steady c) (BadgeIdle.closed c) updateConnectorStatus_badge
    (fun _ h => h.note rfl) ((BadgeIdle.plain c).nextStatus isValidIdTagPresent_badge isTransactionStopCondition_badge) k

/-! ## The remote start mailbox -/

def StartIdle (v : View) : Prop := startMail.Idle v.startContent v.history

/-- The entries the remote start mailbox has nothing to do with. -/
def Entry.startMailFree : Entry → Bool
  | .remoteStartTransactionRequested _ _ _ | .remoteStartIdTag _ _ | .resetRemoteStartPending _ => false
  | _ => true

theorem StartIdle.note {v : View} {e : Entry} (he : e.startMailFree = true) (h : StartIdle v) : StartIdle (v.note e) :=
  Box.Idle.other (by cases e <;> first | rfl | cases he) (by cases e <;> first | rfl | cases he)
    (by cases e <;> first | rfl | cases he) (by cases e <;> first | rfl | cases he) h

theorem StartIdle.closed (c : Nat) : Closed c StartIdle := by
  intro v v' hv h
  cases hv with
  | remoteStart asked idTag =>
    exact Box.Idle.replaced (e := .remoteStartTransactionRequested asked idTag (some c)) rfl rfl rfl h
  | _ => exact StartIdle.note (v := v) rfl h

theorem start_reads_outside (e : Entry) (he : e.outside = true) : startMail.reads e = none := by
  cases e <;> first | rfl | cases he

theorem start_resets_outside (e : Entry) (he : e.outside = true) : startMail.resets e = false := by
  cases e <;> first | rfl | cases he

theorem StartIdle.plain (c : Nat) : Plain c StartIdle where
  env := StartIdle.closed c
  notified v s h := StartIdle.note (v := { v with status := s }) rfl h
  asked _ _ h := h.note rfl
  timed _ _ h := h
  started _ _ h _ _ := h.note rfl
  refused _ _ h _ _ := h.note rfl

theorem StartIdle.steady (c : Nat) : Steady c StartIdle where
  env := StartIdle.closed c
  setpoints _ _ _ h := h
  asked _ _ _ h := h.note rfl
  metered v x h := StartIdle.note (v := { v with meter := v.meter.setConsumptions x }) rfl h

theorem StartIdle.authorizing (c : Nat) : Authorizing c StartIdle where
  env := StartIdle.closed c
  tagged _ _ _ h := h
  asked _ _ h := h.note rfl
  authorized _ _ _ h := h.note rfl

/-- The remote start that was read is authorized, or used as it is. -/
theorem useRemoteStart_done (t : String) :
    SpecAt c (fun v => startMail.Reading t v.history)
      (do if ← authorizeRemoteTxRequests cp c then authorizeOwn cp c t else pure .accepted)
      (fun _ v => startMail.Done v.history) := by
  have hcl := reading_closed c startMail t start_reads_outside start_resets_outside
  refine SpecOn.bind (R := fun b v => if b then startMail.Reading t v.history else startMail.Done v.history)
    (authorizeRemoteTxRequests_at hcl (fun v b h => ?_)) (fun b => SpecOn.ite (fun hb => ?_) (fun hb => ?_))
  · cases b with
    | true => exact h.other rfl rfl
    | false => exact h.use rfl rfl rfl rfl
  · rw [hb]
    refine SpecOn.bind (R := fun _ v => startMail.Done v.history)
      (authorize_at hcl (fun _ _ h => h.use rfl rfl rfl (decide_eq_true rfl))) (fun _ => ?_)
    exact SpecOn.keep (setOwn_at (fun _ h => h)) (fun _ => SpecOn.pure _ (fun _ h => h))
  · rw [Bool.not_eq_true] at hb
    rw [hb]
    exact SpecOn.pure _ (fun _ h => h)

theorem isValidIdTagPresent_start : SpecAt c StartIdle (isValidIdTagPresent cp c false) (fun _ => StartIdle) := by
  have hcl := StartIdle.closed c
  refine isValidIdTagPresent_branches hcl (fun _ h => h.note rfl) (fun _ _ _ h => h) (fun _ _ _ h => h.note rfl) ?_ ?_
  · refine SpecOn.keep (pendingIdTag_at hcl (fun _ h => h.note rfl)) (fun _ => ?_)
    refine (StartIdle.authorizing c).takeBadge (fun v _ h => ?_)
    exact StartIdle.note (v := { v with mqtt := { v.mqtt with idTag := "" } }) rfl h
  · refine SpecOn.keep (isRemoteStartPending_at hcl (fun _ h => h.note rfl)) (fun _ => ?_)
    refine SpecOn.ite (fun _ => ?_) (fun _ => SpecOn.pure _ (fun _ h => h))
    refine SpecOn.bind (R := fun t v => startMail.Reading t v.history) (remoteStartIdTag_at hcl (fun v h => ?_)) (fun t => ?_)
    · refine Box.Idle.read rfl rfl rfl (fun t' ht => ?_) h
      unfold startContent at ht
      split at ht
      · exact (Option.some.inj ht).symm
      · cases ht
    refine SpecOn.keep (setOwn_at (fun _ h => h)) (fun _ => SpecOn.bind (useRemoteStart_done t) (fun _ => ?_))
    refine SpecOn.bind (R := fun _ => StartIdle) ?_ (fun _ => SpecOn.pure _ (fun _ h => h))
    exact resetRemoteStartPending_at (done_closed c startMail start_reads_outside start_resets_outside)
      (fun _ h => h.reset rfl rfl rfl)

theorem isTransactionStopCondition_start : SpecAt c StartIdle (isTransactionStopCondition cp c) (fun _ => StartIdle) := by
  have hcl := StartIdle.closed c
  have stopped : ∀ v idTag reason, StartIdle v → StartIdle (v.note (.stopTransaction c idTag reason)) :=
    fun _ _ _ h => h.note rfl
  refine isTransactionStopCondition_branches hcl (fun _ h => h.note rfl) (fun _ h => h.note rfl) (fun v h => ?_) stopped ?_
  · exact StartIdle.note (v := { v with stopPending := false }) rfl h
  refine SpecOn.keep (pendingIdTag_at hcl (fun _ h => h.note rfl)) (fun _ => ?_)
  refine SpecOn.keep (authorize_at hcl (fun _ _ h => h.note rfl)) (fun _ => ?_)
  refine SpecOn.keep (resetIdTagPending_at hcl (fun v h => ?_)) (fun _ => ?_)
  · exact StartIdle.note (v := { v with mqtt := { v.mqtt with idTag := "" } }) rfl h
  · exact SpecOn.ite (fun _ => stopping_at hcl stopped _ _) (fun _ => SpecOn.pure _ (fun _ h => h))

theorem loop_start (hc : c ∈ cp.ids) (k : Nat) : SpecAt c StartIdle (loop cp k) (fun _ => StartIdle) := by
  have entryFree : EntryFree c StartIdle :=
    { env := StartIdle.closed c, cleared := fun _ h => h, timed := fun _ _ h => h
      badge := fun v h => StartIdle.note (v := { v with mqtt := { v.mqtt with idTag := "" } }) rfl h }
  refine loop_at hc (StartIdle.steady c) (StartIdle.steady c) (StartIdle.closed c) ?_ (fun _ h => h.note rfl)
    ((StartIdle.plain c).nextStatus isValidIdTagPresent_start isTransactionStopCondition_start) k
  exact updateConnectorStatus_keeps entryFree (fun _ h => h.note rfl) (fun _ _ h => h.note rfl) (fun _ _ h => h)

/-! ## The run -/

/-- The two mailboxes. -/
def mailOf : TagSource → Box Entry String
  | .badge => badgeMail
  | .remoteStart => startMail

/-- **A request that is not lost**: it was heeded, gave way as it should, or is still in its mailbox. -/
def Kept (content : Option String) (f : Fate String) : Prop :=
  f.settled = true ∨ ∃ t, content = some t ∧ f = .waiting t

def View.content (v : View) : TagSource → Option String
  | .badge => v.badgeContent
  | .remoteStart => v.startContent

theorem not_kept_lost (content : Option String) : ¬Kept content .lost := by
  rintro (h | ⟨t, -, h⟩)
  · cases h
  · cases h

/-- **The reset erases what came during the authorization**: a second badge, and a second remote start. -/
theorem requests_lost :
    (let w := afterLoop .sample 4 (.start .sample .idle) (script 120
       [(0, .carMessage 1 { cable := some 10 }), (0, .idTagMessage 1 "A"), (34, .idTagMessage 1 "B")])
     ¬∀ f ∈ (mailOf .badge).fates (w.history 1), Kept ((w.view 1).content .badge) f) ∧
    (let w := afterLoop .sample 4 (.start .sample .idle) (script 120
       [(0, .remoteStartTransactionRequested 1 "A"), (15, .remoteStartTransactionRequested 1 "B")])
     ¬∀ f ∈ (mailOf .remoteStart).fates (w.history 1), Kept ((w.view 1).content .remoteStart) f) := by
  constructor
  · exact fun h => not_kept_lost _ (h .lost (by decide +kernel))
  · exact fun h => not_kept_lost _ (h .lost (by decide +kernel))

/-- **Where no badge and no remote start comes between the read of its mailbox and the reset, none is lost**: each is
authorized or used, replaced by a newer one, discarded by the connector entering `Available`, or still in its mailbox. -/
theorem requests_kept (cp : SimulatedChargePoint) (c : Nat) (hc : c ∈ cp.ids) (w : World) (hl : w.log = []) (k : Nat)
    (script : List Tick) (t : Tick) (s : TagSource)
    (hu : (mailOf s).Undisturbed (((afterLoop cp k w script).tick cp t).history c)) :
    ∀ f ∈ (mailOf s).fates (((afterLoop cp k w script).tick cp t).history c),
      Kept ((((afterLoop cp k w script).tick cp t).view c).content s) f := by
  have hh : (w.view c).history = [] := history_of_log_nil hl c
  cases s with
  | badge =>
    have h₀ : BadgeIdle (w.view c) := by
      unfold BadgeIdle
      rw [hh]
      exact Box.Idle.nil _
    have h := (BadgeIdle.closed c).tick cp t _ (loop_badge hc k w script h₀)
    exact (h hu).2
  | remoteStart =>
    have h₀ : StartIdle (w.view c) := by
      unfold StartIdle
      rw [hh]
      exact Box.Idle.nil _
    have h := (StartIdle.closed c).tick cp t _ (loop_start hc k w script h₀)
    exact (h hu).2

/-- After a badge that starts a session and one that ends it, the next is still in its mailbox. -/
theorem requests_kept_session :
    Kept ((((afterLoop .sample 5 (.start .sample .idle) sampleSession).tick .sample
      { events := [.idTagMessage 1 "B"] }).view 1).content .badge) (.waiting "B") :=
  requests_kept .sample 1 (by decide) (.start .sample .idle) rfl 5 sampleSession _ .badge (by decide +kernel) _
    (by decide +kernel)

end Simu
