import OcppSimu.Rules
/-!
# Authorize — no transaction without a fresh authorization

A transaction is started with the id tag the loop keeps for the connector, and that tag is not empty only when a call
of `isValidIdTagPresent` has answered `true` for it since the last entry that clears it.  The call itself took the tag
from a mailbox of the connector, and asked for its authorization if it had to.
-/
namespace Simu

open Hist Script View

/-! ## What the history says of a tag -/

/-- **The entries after which the connector holds no tag**: it was seen entering `Available`, or its transaction was
refused. -/
def Entry.clearsTag : Entry → Bool
  | .entered _ s => decide (s = .available)
  | .startTransaction _ _ a => !a.ok
  | _ => false

/-- A call of `isValidIdTagPresent` that answered `true` for the tag. -/
def Entry.validates (idTag : String) : Entry → Bool
  | .isValidIdTagPresent _ (some (_, t)) true => decide (t = idTag)
  | _ => false

def Entry.accepts (c : Nat) (idTag : String) : Entry → Bool
  | .authorize d t a => decide (d = c ∧ t = idTag) && a.ok
  | _ => false

def Entry.asksBadge : Entry → Bool
  | .isIdTagPending _ _ => true
  | _ => false

/-- The call under way, which began with `isIdTagPending`, has left such an entry. -/
def inCall (p : Entry → Bool) (h : List Entry) : Bool := since p Entry.asksBadge h

/-- **The tag was read from that mailbox of the connector, and let through**: `authorize` accepted it, or it came with
a remote start, which needed no authorization. -/
def taken (c : Nat) (source : TagSource) (idTag : String) (h : List Entry) : Bool :=
  match source with
  | .badge => inCall (fun e => decide (e = .pendingIdTag c idTag)) h && inCall (Entry.accepts c idTag) h
  | .remoteStart => inCall (fun e => decide (e = .remoteStartIdTag c idTag)) h &&
      (inCall (Entry.accepts c idTag) h || inCall (fun e => decide (e = .authorizeRemoteTxRequests c false)) h)

/-- A transaction is started with a tag validated since the tag was last cleared, and a tag is validated as `taken`
says. -/
def Entry.authorized : Entry → List Entry → Bool
  | .startTransaction _ idTag _, h => decide (idTag ≠ "") && since (Entry.validates idTag) Entry.clearsTag h
  | .isValidIdTagPresent c (some (source, idTag)) true, h => taken c source idTag h
  | _, _ => true

def Authorized (h : List Entry) : Prop := Always (fun e h => e.authorized h = true) h

instance (h : List Entry) : Decidable (Authorized h) := Hist.decidableAlways _ h

/-! ## The invariant -/

/-- **The tag the connector holds was validated since it was last cleared.** -/
def TagFresh (d : ConnectorData) (h : List Entry) : Prop :=
  Authorized h ∧ (d.idTag ≠ "" → since (Entry.validates d.idTag) Entry.clearsTag h = true)

def Fresh (v : View) : Prop := TagFresh v.connector v.history

def Entry.tagFree : Entry → Bool
  | .startTransaction _ _ _ | .isValidIdTagPresent _ _ _ => false
  | .entered _ s => decide (s ≠ .available)
  | _ => true

theorem Authorized.cons {h : List Entry} {e : Entry} (he : e.tagFree = true) (ha : Authorized h) :
    Authorized (e :: h) := by
  refine Always.cons ?_ ha
  cases e <;> first | rfl | cases he

theorem clearsTag_of_tagFree {e : Entry} (he : e.tagFree = true) : e.clearsTag = false := by
  cases e <;> first | rfl | cases he | simpa [Entry.tagFree, Entry.clearsTag] using he

theorem TagFresh.cons {d : ConnectorData} {h : List Entry} {e : Entry} (he : e.tagFree = true) (hf : TagFresh d h) :
    TagFresh d (e :: h) :=
  ⟨hf.1.cons he, fun hd => since_cons_of_not_kill (clearsTag_of_tagFree he) (hf.2 hd)⟩

theorem tagFree_of_outside {e : Entry} (he : e.outside = true) : e.tagFree = true := by
  cases e <;> first | rfl | cases he

theorem asksBadge_of_outside {e : Entry} (he : e.outside = true) : e.asksBadge = false := by
  cases e <;> first | rfl | cases he

theorem inCall_cons {p : Entry → Bool} {h : List Entry} {e : Entry} (he : e.asksBadge = false)
    (hi : inCall p h = true) : inCall p (e :: h) = true := since_cons_of_not_kill he hi

theorem Fresh.steady (c : Nat) : Steady c Fresh where
  env := closed_own (P := TagFresh) (fun _ _ _ _ he h => h.cons (tagFree_of_outside he))
  setpoints _ _ _ h := h
  asked _ _ _ h := TagFresh.cons rfl h
  metered _ _ h := TagFresh.cons rfl h

theorem authorized_closed (c : Nat) : Closed c (fun v => Authorized v.history) :=
  closed_history (fun _ _ he h => h.cons (tagFree_of_outside he))

/-! ## The passes of the loop -/

variable {cp : SimulatedChargePoint} {c : Nat}

/-- **What the call under way has found**: it has left an entry of each kind in `ps`. -/
def Found (ps : List (Entry → Bool)) (h : List Entry) : Prop := Authorized h ∧ ∀ p ∈ ps, inCall p h = true

theorem Found.cons {ps : List (Entry → Bool)} {h : List Entry} {e : Entry} (he : e.tagFree = true)
    (hb : e.asksBadge = false) (hf : Found ps h) : Found ps (e :: h) :=
  ⟨hf.1.cons he, fun p hp => inCall_cons hb (hf.2 p hp)⟩

theorem Found.hit {ps : List (Entry → Bool)} {p : Entry → Bool} {h : List Entry} {e : Entry} (he : e.tagFree = true)
    (hb : e.asksBadge = false) (hp : p e = true) (hf : Found ps h) : Found (p :: ps) (e :: h) := by
  refine ⟨hf.1.cons he, fun q hq => ?_⟩
  rcases List.mem_cons.1 hq with rfl | hq
  · exact since_cons_of_hit hp
  · exact inCall_cons hb (hf.2 q hq)

def Held (idTag : String) (ps : List (Entry → Bool)) (v : View) : Prop := v.connector.idTag = idTag ∧ Found ps v.history

theorem Held.closed (c : Nat) (idTag : String) (ps : List (Entry → Bool)) : Closed c (Held idTag ps) :=
  (closed_idTag c (· = idTag)).and
    (closed_history (fun _ _ he h => h.cons (tagFree_of_outside he) (asksBadge_of_outside he)))

theorem authorizeOwn_held (idTag : String) (ps : List (Entry → Bool)) :
    SpecAt c (Held idTag ps) (authorizeOwn cp c idTag)
      (fun a => Held idTag (if a.ok then Entry.accepts c idTag :: ps else ps)) := by
  refine SpecOn.bind (R := fun r => Held idTag (if r.1.ok then Entry.accepts c idTag :: ps else ps)) ?_ (fun r => ?_)
  · refine authorize_at (Held.closed c idTag ps) (fun v r h => ⟨h.1, ?_⟩)
    by_cases ha : r.1.ok = true
    · rw [if_pos ha]
      exact h.2.hit rfl rfl (by simp [Entry.accepts, ha])
    · rw [if_neg ha]
      exact h.2.cons rfl rfl
  · exact SpecOn.keep (setOwn_at (fun _ h => h)) (fun _ => SpecOn.pure _ (fun _ h => h))

theorem taken_cons {source : TagSource} {idTag : String} {h : List Entry} {e : Entry} (he : e.asksBadge = false)
    (ht : taken c source idTag h = true) : taken c source idTag (e :: h) = true := by
  cases source with
  | badge =>
    obtain ⟨hr, ha⟩ := (Bool.and_eq_true _ _).mp ht
    exact (Bool.and_eq_true _ _).mpr ⟨inCall_cons he hr, inCall_cons he ha⟩
  | remoteStart =>
    obtain ⟨hr, ha⟩ := (Bool.and_eq_true _ _).mp ht
    refine (Bool.and_eq_true _ _).mpr ⟨inCall_cons he hr, (Bool.or_eq_true _ _).mpr ?_⟩
    exact ((Bool.or_eq_true _ _).mp ha).imp (inCall_cons he) (inCall_cons he)

/-- **What `isValidIdTagPresent` has decided**: where it will answer `true`, the connector holds a tag that was taken
from a mailbox. -/
def Decision (c : Nat) (r : Option (TagSource × String) × Bool) (d : ConnectorData) (h : List Entry) : Prop :=
  Authorized h ∧ (r.2 = true → ∃ source, r.1 = some (source, d.idTag) ∧ taken c source d.idTag h = true)

def Decided (c : Nat) (r : Option (TagSource × String) × Bool) (v : View) : Prop := Decision c r v.connector v.history

theorem Decision.cons {r : Option (TagSource × String) × Bool} {d : ConnectorData} {h : List Entry} {e : Entry}
    (he : e.tagFree = true) (hb : e.asksBadge = false) (hd : Decision c r d h) : Decision c r d (e :: h) := by
  refine ⟨hd.1.cons he, fun hr => ?_⟩
  obtain ⟨source, hs, ht⟩ := hd.2 hr
  exact ⟨source, hs, taken_cons hb ht⟩

theorem Decided.closed (r : Option (TagSource × String) × Bool) : Closed c (Decided c r) :=
  closed_own (P := Decision c r) (fun _ _ _ _ he h => h.cons (tagFree_of_outside he) (asksBadge_of_outside he))

theorem decided_of_held {source : TagSource} {idTag : String} {ps : List (Entry → Bool)} {ok : Bool} {v : View}
    (h : Held idTag ps v) (ht : ok = true → taken c source idTag v.history = true) :
    Decided c (some (source, idTag), ok) v := by
  refine ⟨h.2.1, fun ho => ⟨source, ?_, ?_⟩⟩
  · rw [h.1]
  · rw [h.1]
    exact ht ho

theorem badge_decided (idTag : String) :
    SpecAt c (fun v => Found [fun e => decide (e = .pendingIdTag c idTag)] v.history) (do
      setOwn c ({ · with idTag := idTag })
      let status ← authorizeOwn cp c idTag
      resetIdTagPending cp c
      pure (some (TagSource.badge, idTag), status.ok)) (Decided c) := by
  refine SpecOn.bind (setOwn_at (Q := fun _ => Held idTag _) (fun v h => ⟨rfl, h⟩)) (fun _ => ?_)
  refine SpecOn.bind (R := fun a => Decided c (some (.badge, idTag), a.ok)) ?_ (fun a => ?_)
  · refine SpecOn.post (authorizeOwn_held idTag _) (fun a v h => decided_of_held h (fun ha => ?_))
    have hf := h.2.2
    rw [if_pos ha] at hf
    simpa [taken, and_comm] using hf
  · refine SpecOn.keep (resetIdTagPending_at (Decided.closed _) (fun _ h => Decision.cons rfl rfl h)) (fun _ => ?_)
    exact SpecOn.pure _ (fun _ h => h)

theorem remoteStart_decided (idTag : String) :
    SpecAt c (fun v => Found [fun e => decide (e = .remoteStartIdTag c idTag)] v.history) (do
      setOwn c ({ · with idTag := idTag })
      let status ← (do if ← authorizeRemoteTxRequests cp c then authorizeOwn cp c idTag else pure .accepted)
      resetRemoteStartPending cp c
      pure (some (TagSource.remoteStart, idTag), status.ok)) (Decided c) := by
  refine SpecOn.bind (setOwn_at (Q := fun _ => Held idTag _) (fun v h => ⟨rfl, h⟩)) (fun _ => ?_)
  refine SpecOn.bind (R := fun a => Decided c (some (.remoteStart, idTag), a.ok)) ?_ (fun a => ?_)
  · refine SpecOn.bind (R := fun b => Held idTag
      [fun e => decide (e = .authorizeRemoteTxRequests c b), fun e => decide (e = .remoteStartIdTag c idTag)]) ?_ ?_
    · exact authorizeRemoteTxRequests_at (Held.closed c idTag _) (fun v b h => ⟨h.1, h.2.hit rfl rfl (by simp)⟩)
    intro b
    cases b with
    | true =>
      refine SpecOn.post (authorizeOwn_held idTag _) (fun a v h => decided_of_held h (fun ha => ?_))
      have hf := h.2.2
      rw [if_pos ha] at hf
      simp only [List.mem_cons, List.not_mem_nil, or_false, forall_eq_or_imp, forall_eq] at hf
      simp [taken, hf.1, hf.2.2]
    | false =>
      refine SpecOn.pure _ (fun v h => decided_of_held h (fun _ => ?_))
      have hf := h.2.2
      simp only [List.mem_cons, List.not_mem_nil, or_false, forall_eq_or_imp, forall_eq] at hf
      simp [taken, hf.1, hf.2]
  · refine SpecOn.keep (resetRemoteStartPending_at (Decided.closed _) (fun _ h => Decision.cons rfl rfl h)) (fun _ => ?_)
    exact SpecOn.pure _ (fun _ h => h)

/-- **A call of `isValidIdTagPresent` leaves the connector with a fresh tag or none**, whatever it held before. -/
theorem isValidIdTagPresent_fresh (localOnly : Bool) :
    SpecAt c (fun v => Authorized v.history) (isValidIdTagPresent cp c localOnly) (fun _ => Fresh) := by
  have ha := authorized_closed c
  refine SpecOn.bind (R := Decided c) ?_ (fun r => ?_)
  · refine SpecOn.keep (isIdTagPending_at ha (fun _ h => h.cons rfl)) (fun _ => SpecOn.ite (fun _ => ?_) (fun _ => ?_))
    · refine SpecOn.bind ?_ badge_decided
      exact pendingIdTag_at ha (fun v h => Found.hit rfl rfl (by simp) ⟨h, by simp⟩)
    · refine SpecOn.keep (SpecOn.ite (fun _ => SpecOn.pure _ (fun _ h => h)) (fun _ => ?_)) (fun _ => ?_)
      · exact isRemoteStartPending_at ha (fun _ h => h.cons rfl)
      refine SpecOn.ite (fun _ => ?_) (fun _ => SpecOn.pure _ (fun _ h => ⟨h, fun ho => by cases ho⟩))
      refine SpecOn.bind ?_ remoteStart_decided
      exact remoteStartIdTag_at ha (fun v h => Found.hit rfl rfl (by simp) ⟨h, by simp⟩)
  · obtain ⟨tag, ret⟩ := r
    cases ret with
    | false =>
      refine SpecOn.bind (clearIdTags_at (Q := fun _ v => Fresh v) (fun v h => ⟨h.1, fun hd => absurd rfl hd⟩)) (fun _ => ?_)
      refine SpecOn.keep (record_at rfl (fun v h => ?_)) (fun _ => SpecOn.pure _ (fun _ h => h))
      refine ⟨Always.cons ?_ h.1, fun hd => since_cons_of_not_kill rfl (h.2 hd)⟩
      cases tag <;> rfl
    | true =>
      refine SpecOn.bind (SpecOn.pure () (Q := fun _ => Decided c (tag, true)) (fun _ h => h)) (fun _ => ?_)
      refine SpecOn.bind (record_at (Q := fun _ => Fresh) rfl (fun v h => ?_)) (fun _ => SpecOn.pure _ (fun _ h => h))
      obtain ⟨source, rfl, ht⟩ := h.2 rfl
      exact ⟨Always.cons ht h.1, fun _ => since_cons_of_hit (by simp [Entry.validates])⟩

theorem updateConnectorStatus_fresh : SpecAt c Fresh (updateConnectorStatus cp c) (fun _ => Fresh) := by
  have hf := (Fresh.steady c).env
  refine SpecOn.keep (getConnectorStatus_at hf (fun _ h => TagFresh.cons rfl h)) (fun s => ?_)
  refine ownData_at (fun v _ => SpecOn.pre (fun _ h => h.1) (SpecOn.ite (fun _ => ?_) (fun _ => SpecOn.pure _ (fun _ h => h))))
  refine SpecOn.bind (R := fun _ v => Authorized v.history ∧ (s ≠ .available → Fresh v)) ?_ (fun _ => ?_)
  · refine record_at rfl (fun v h => ⟨Always.cons rfl h.1, fun hs => TagFresh.cons (by simpa [Entry.tagFree] using hs) h⟩)
  refine SpecOn.bind (R := fun _ => Fresh) (SpecOn.ite (fun _ => ?_) (fun hs => ?_)) (fun _ => setOwn_at (fun _ h => h))
  · refine SpecOn.bind (clearIdTags_at (Q := fun _ v => Fresh v) (fun v h => ⟨h.1, fun hd => absurd rfl hd⟩)) (fun _ => ?_)
    exact resetIdTagPending_at hf (fun _ h => TagFresh.cons rfl h)
  · refine SpecOn.pre (fun v h => h.2 hs) (SpecOn.ite (fun _ => ?_) (fun _ => SpecOn.pure _ (fun _ h => h)))
    exact startPreparing_at hf (fun _ _ h => h)

theorem Fresh.plain (c : Nat) : Plain c Fresh where
  env := (Fresh.steady c).env
  notified _ _ h := TagFresh.cons rfl h
  asked _ _ h := TagFresh.cons rfl h
  timed _ _ h := h
  started v a h ht ha := by
    have hs : (Entry.startTransaction c v.connector.idTag a).authorized v.history = true :=
      (Bool.and_eq_true _ _).mpr ⟨decide_eq_true ht, h.2 ht⟩
    exact ⟨Always.cons hs h.1, fun _ => since_cons_of_not_kill (by simp [Entry.clearsTag, ha]) (h.2 ht)⟩
  refused v a h ht _ := by
    have hs : (Entry.startTransaction c v.connector.idTag a).authorized v.history = true :=
      (Bool.and_eq_true _ _).mpr ⟨decide_eq_true ht, h.2 ht⟩
    exact ⟨Always.cons hs h.1, fun hd => absurd rfl hd⟩

theorem Fresh.stopFree (c : Nat) : StopFree c Fresh where
  env := (Fresh.steady c).env
  noted _ e he h := TagFresh.cons (by cases e <;> first | rfl | cases he) h
  badge _ h := TagFresh.cons rfl h
  stop _ h := TagFresh.cons rfl h
  stopped _ _ _ h := TagFresh.cons rfl h

theorem loop_fresh (hc : c ∈ cp.ids) (k : Nat) : SpecAt c Fresh (loop cp k) (fun _ => Fresh) :=
  loop_at hc (Fresh.steady c) (Fresh.steady c) (Fresh.steady c).env updateConnectorStatus_fresh
    (fun _ h => TagFresh.cons rfl h)
    ((Fresh.plain c).nextStatus (SpecOn.pre (fun _ h => h.1) (isValidIdTagPresent_fresh false))
      (isTransactionStopCondition_keeps (Fresh.stopFree c))) k

/-- **No transaction is started without a fresh authorization**, in any run that begins with no tag in hand. -/
theorem startTransaction_authorized (cp : SimulatedChargePoint) (c : Nat) (hc : c ∈ cp.ids) (w : World)
    (hl : w.log = []) (ht : (w.connectors c).idTag = "") (k : Nat) (script : List Tick) :
    Authorized ((afterLoop cp k w script).history c) := by
  have hh : w.history c = [] := history_of_log_nil hl c
  have hw : Fresh (w.view c) := by
    refine ⟨?_, fun hd => absurd ht hd⟩
    show Authorized (w.history c)
    rw [hh]
    exact .nil
  exact (loop_fresh hc k w script hw).1

theorem startTransaction_authorized_session :
    Authorized ((afterLoop .sample 5 (.start .sample .idle) sampleSession).history 1) :=
  startTransaction_authorized .sample 1 (by decide) (.start .sample .idle) rfl rfl 5 sampleSession

end Simu
