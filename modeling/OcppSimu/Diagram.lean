import OcppSimu.Fault
/-!
# Diagram — the passes of the loop follow a state diagram

What an iteration does for a connector once its data are copied is summed up in a `Turn`, read off the log: what it was
answered, the transaction it started or stopped, and the statuses it notified.  `Goes` is the diagram of the charge point
without its threads and mailboxes, one rule for each of the transitions the loop comments on; a session goes wherever
the setpoint and the car say, so three of the nine branches are one rule.  Every turn of every run is one of the diagram
(`turns_follow_diagram`).
-/
namespace Simu

open Hist Script View

/-! ## A turn in the log -/

/-- **What the log says of the turn of a connector** since its data were copied. -/
structure Turn where
  badge : Bool := false
  sought : Option (Option (TagSource × String) × Bool) := none
  started : Option (String × AuthorizationStatus) := none
  stopped : Option (String × Reason) := none
  gone : Option Bool := none
  notified : List ChargePointStatus := []
  deriving DecidableEq

def Entry.onTurn : Entry → Turn → Turn
  | .updateData _ _ _, _ => {}
  | .isIdTagPending _ b, t => { t with badge := b }
  | .isValidIdTagPresent _ tag answer, t => { t with sought := some (tag, answer) }
  | .startTransaction _ idTag a, t => { t with started := some (idTag, a) }
  | .stopTransaction _ idTag r, t => { t with stopped := some (idTag, r) }
  | .unavailablePending _ b, t => { t with gone := some b }
  | .statusNotification _ s, t => { t with notified := t.notified ++ [s] }
  | _, t => t

def turnOf (h : List Entry) : Turn := h.foldr Entry.onTurn {}

/-! ## The diagram -/

/-- No car and no tag holds the connector: `Reserved`, or `Available` with no cable. -/
def ConnectorData.Free (d : ConnectorData) : Prop :=
  d.status = .reserved ∨ d.status = .available ∧ d.carCableCapacity = 0

def tagOf (tag : Option (TagSource × String)) : String := (tag.map Prod.snd).getD ""

/-- **The tag in hand**: the one the connector has, or what was found where it has none. -/
inductive TagInHand (d : ConnectorData) : Bool → Option (Option (TagSource × String) × Bool) → String → Prop
  | own : d.idTag ≠ "" → TagInHand d false none d.idTag
  | found (b : Bool) (tag : Option (TagSource × String)) : d.idTag = "" → TagInHand d b (some (tag, true)) (tagOf tag)
  | refused (b : Bool) (tag : Option (TagSource × String)) : d.idTag = "" → TagInHand d b (some (tag, false)) ""

/-- **The reason fits**: a badge was there or was not, and the car or the fault are as the reason says. -/
def ConnectorData.StopsFor (d : ConnectorData) (badge : Bool) (idTag : String) : Reason → Prop
  | .local_ => badge = true
  | .remote => badge = false ∧ idTag = ""
  | .evDisconnected => badge = false ∧ idTag = "" ∧ d.carCableCapacity = 0
  | .other => badge = false ∧ idTag = "" ∧ d.carCableCapacity ≠ 0 ∧ d.faultPending = true

/-- **The state diagram**: the turns of a connector whose record is `d`. -/
inductive Goes (d : ConnectorData) : Turn → Prop
  /-- "If car plug => Preparing" -/
  | plugged : d.status = .available → d.carCableCapacity ≠ 0 → Goes d { notified := [.preparing] }
  /-- "If valid id tag => Preparing" -/
  | authorized (b : Bool) (tag : TagSource × String) : d.Free →
      Goes d { badge := b, sought := some (some tag, true), notified := [.preparing] }
  /-- "If fault pending => Faulted" -/
  | fails (b : Bool) (tag : Option (TagSource × String)) : d.Free → d.faultPending = true →
      Goes d { badge := b, sought := some (tag, false), notified := [.faulted] }
  /-- "If unavailable request pending => Unavailable" -/
  | leaves (b : Bool) (tag : Option (TagSource × String)) (gone : Bool) : d.Free → d.faultPending = false →
      Goes d { badge := b, sought := some (tag, false), gone := some gone,
               notified := if gone then [.unavailable] else [] }
  /-- "Try to start charge if plugged and valid id tag" -/
  | starts (b : Bool) (sought : Option (Option (TagSource × String) × Bool)) (tag : String) (a : AuthorizationStatus) :
      d.status = .preparing → TagInHand d b sought tag → d.carCableCapacity ≠ 0 → tag ≠ "" →
      Goes d { badge := b, sought := sought, started := some (tag, a),
               notified := if a.ok then [sessionStatus d] else [] }
  /-- "If no more car nor valid id tag => Available" -/
  | ended (b : Bool) (sought : Option (Option (TagSource × String) × Bool)) : d.status = .preparing →
      TagInHand d b sought "" → d.carCableCapacity = 0 → Goes d { badge := b, sought := sought, notified := [.available] }
  /-- "If fault pending => Faulted", where the source notifies `Preparing` -/
  | faulty (b : Bool) (sought : Option (Option (TagSource × String) × Bool)) (tag : String) : d.status = .preparing →
      TagInHand d b sought tag → (d.carCableCapacity = 0 ↔ tag ≠ "") → d.faultPending = true →
      Goes d { badge := b, sought := sought, notified := [.preparing] }
  /-- "If timeout => Available" -/
  | waits (b : Bool) (sought : Option (Option (TagSource × String) × Bool)) (tag : String) (timedOut : Bool) :
      d.status = .preparing → TagInHand d b sought tag → (d.carCableCapacity = 0 ↔ tag ≠ "") → d.faultPending = false →
      Goes d { badge := b, sought := sought, notified := if timedOut then [.available] else [] }
  /-- "If transaction stop condition => Finishing" -/
  | stops (b : Bool) (idTag : String) (r : Reason) : d.status.inSession = true → d.StopsFor b idTag r →
      Goes d { badge := b, stopped := some (idTag, r), notified := [.finishing] }
  /-- A session that is not stopped goes where the setpoint and the car say. -/
  | charges (b : Bool) : d.status.inSession = true → (b = false → d.carCableCapacity ≠ 0 ∧ d.faultPending = false) →
      Goes d { badge := b, notified := if sessionStatus d = d.status then [] else [sessionStatus d] }
  /-- "If fault pending => Faulted", "If unplugged => Available" -/
  | finishes : d.status = .finishing → Goes d { notified := if d.faultPending then [.faulted]
                                                            else if d.carCableCapacity = 0 then [.available] else [] }
  /-- "Wait to be available again" -/
  | rests : d.status = .unavailable → Goes d {}
  /-- "If no pending fault => Available" -/
  | recovers : d.status = .faulted → d.faultPending = false → Goes d { notified := [.available] }
  /-- "If unavailable request pending => Unavailable" -/
  | retires (gone : Bool) : d.status = .faulted → d.faultPending = true →
      Goes d { gone := some gone, notified := if gone then [.unavailable] else [] }

/-- **The turn the log is in, or the last one, is one of the diagram.** -/
def Follows (h : List Entry) : Prop := ∀ p ∈ lastCopy h, Goes (p.1.setCar p.2) (turnOf h)

/-- A turn ends where the consumption is set. -/
def Entry.endsTurn : Entry → Bool
  | .setConsumptions _ _ => true
  | _ => false

/-- **Every turn of the history is one of the diagram.** -/
def FollowsDiagram (h : List Entry) : Prop := Always (fun e h => e.endsTurn = true → Follows h) h

/-! ## What the diagram says -/

/-- Where a status may lead to. -/
def ChargePointStatus.successors : ChargePointStatus → List ChargePointStatus
  | .available => [.preparing, .faulted, .unavailable]
  | .preparing => [.charging, .suspendedEVSE, .suspendedEV, .available, .preparing]
  | .charging => [.suspendedEVSE, .suspendedEV, .finishing]
  | .suspendedEVSE => [.charging, .suspendedEV, .finishing]
  | .suspendedEV => [.charging, .suspendedEVSE, .finishing]
  | .finishing => [.faulted, .available]
  | .reserved => [.preparing, .faulted, .unavailable]
  | .unavailable => []
  | .faulted => [.available, .unavailable]

/-- **Every turn of the history notifies at most one status**, which the one polled before it leads to. -/
def Advances (h : List Entry) : Prop := Always (fun e h => e.endsTurn = true → ∀ p ∈ lastCopy h,
  (turnOf h).notified.length ≤ 1 ∧ ∀ s ∈ (turnOf h).notified, s ∈ p.1.status.successors) h

variable {d : ConnectorData} {t : Turn}

theorem Goes.length_le (h : Goes d t) : t.notified.length ≤ 1 := by
  cases h <;> dsimp only <;> repeat' first | exact Nat.le_refl 1 | exact Nat.zero_le 1 | split

theorem mem_successors_preparing : ∀ {s : ChargePointStatus}, s.inSession = true → s ∈ ChargePointStatus.preparing.successors := by
  intro s
  cases s <;> decide

/-- A session leads to its other statuses and to `Finishing`. -/
theorem mem_successors_of_inSession : ∀ {s x : ChargePointStatus}, s.inSession = true →
    x.inSession = true ∧ x ≠ s ∨ x = .finishing → x ∈ s.successors := by
  intro s x
  cases s <;> cases x <;> decide

theorem mem_successors_of_free (hf : d.Free) {s : ChargePointStatus} (hs : s ∈ ChargePointStatus.available.successors) :
    s ∈ d.status.successors := by
  rcases hf with hd | ⟨hd, -⟩
  · rw [hd]
    exact hs
  · rw [hd]
    exact hs

theorem mem_ite_singleton {b : Prop} [Decidable b] {s x : ChargePointStatus} (h : x ∈ if b then [s] else []) : x = s := by
  split at h
  · exact List.mem_singleton.1 h
  · cases h

/-- **A status leads to its successors only.** -/
theorem Goes.successors (h : Goes d t) : ∀ s ∈ t.notified, s ∈ d.status.successors := by
  intro s hs
  cases h with
  | plugged hd =>
    rw [List.mem_singleton.1 hs, hd]
    decide
  | authorized _ _ hf | fails _ _ hf => exact mem_successors_of_free hf (by rw [List.mem_singleton.1 hs]; decide)
  | leaves _ _ _ hf => exact mem_successors_of_free hf (by rw [mem_ite_singleton hs]; decide)
  | starts _ _ _ _ hd =>
    rw [mem_ite_singleton hs, hd]
    exact mem_successors_preparing (inSession_sessionStatus d)
  | ended _ _ hd | faulty _ _ _ hd | recovers hd =>
    rw [List.mem_singleton.1 hs, hd]
    decide
  | waits _ _ _ _ hd | retires _ hd =>
    rw [mem_ite_singleton hs, hd]
    decide
  | stops _ _ _ hd => exact mem_successors_of_inSession hd (.inr (List.mem_singleton.1 hs))
  | charges _ hd =>
    dsimp only at hs
    split at hs
    · cases hs
    · rename_i hne
      rw [List.mem_singleton.1 hs]
      exact mem_successors_of_inSession hd (.inl ⟨inSession_sessionStatus d, hne⟩)
  | finishes hd =>
    dsimp only at hs
    rw [hd]
    split at hs
    · rw [List.mem_singleton.1 hs]
      decide
    · rw [mem_ite_singleton hs]
      decide
  | rests => cases hs

theorem FollowsDiagram.advances {h : List Entry} (hf : FollowsDiagram h) : Advances h :=
  hf.mono fun _ _ hturn he p hp => ⟨(hturn he p hp).length_le, (hturn he p hp).successors⟩

/-! ## A turn under way -/

variable {cp : SimulatedChargePoint} {c : Nat} {p : ConnectorData × CarData} {x : String}

theorem turnOf_cons (e : Entry) (h : List Entry) : turnOf (e :: h) = e.onTurn (turnOf h) := rfl

theorem onTurn_of_outside {e : Entry} (he : e.outside = true) (t : Turn) : e.onTurn t = t := by
  cases e <;> first | rfl | cases he

/-- **A turn under way**: the record is the one the data `p.2` were copied into, its id tag is `x`, and the log says
`t`. -/
structure Turning (p : ConnectorData × CarData) (x : String) (t : Turn) (v : View) : Prop where
  copied : Copied p (fun _ => True) v.connector v.history
  idTag : v.connector.idTag = x
  turn : turnOf v.history = t

/-- **A turn that is over.** -/
structure Turned (p : ConnectorData × CarData) (v : View) : Prop where
  copied : Copied p (fun _ => True) v.connector v.history
  goes : Goes (p.1.setCar p.2) (turnOf v.history)

theorem Turning.closed (c : Nat) : Closed c (Turning p x t) := by
  intro v v' hv h
  refine ⟨Copied.closed c (fun _ _ _ ht => ht) v v' hv h.copied, closed_idTag c (· = x) v v' hv h.idTag, ?_⟩
  obtain ⟨e, he, hh⟩ := hv.history
  rw [hh, turnOf_cons, onTurn_of_outside he]
  exact h.turn

theorem Turned.closed (c : Nat) : Closed c (Turned p) := by
  intro v v' hv h
  refine ⟨Copied.closed c (fun _ _ _ ht => ht) v v' hv h.copied, ?_⟩
  obtain ⟨e, he, hh⟩ := hv.history
  rw [hh, turnOf_cons, onTurn_of_outside he]
  exact h.goes

theorem Turning.noted {v : View} {e : Entry} {t' : Turn} (he : e.copies = false) (ht : e.onTurn t = t')
    (h : Turning p x t v) : Turning p x t' (v.note e) where
  copied := h.copied.cons he (fun _ => trivial)
  idTag := h.idTag
  turn := by
    rw [View.history_note, turnOf_cons, h.turn, ht]

theorem Turning.tagged {v : View} (y parent : String) (h : Turning p x t v) :
    Turning p y t (v.setOwn ({ · with idTag := y, parentIdTag := parent })) :=
  ⟨h.copied.assigned y parent _ _, rfl, h.turn⟩

theorem Turning.moved {v v' : View} (h : Turning p x t v) (hc : v'.connector = v.connector)
    (hh : v'.history = v.history) : Turning p x t v' := by
  refine ⟨?_, ?_, ?_⟩
  · rw [hc, hh]; exact h.copied
  · rw [hc]; exact h.idTag
  · rw [hh]; exact h.turn

theorem statusNotification_turned {s : ChargePointStatus}
    (h : Goes (p.1.setCar p.2) { t with notified := t.notified ++ [s] }) :
    SpecAt c (Turning p x t) (statusNotification cp c s) (fun _ => Turned p) := by
  refine statusNotification_at (Turning.closed c) (fun v hv => ⟨hv.copied.cons rfl (fun _ => trivial), ?_⟩)
  rw [View.history_note, turnOf_cons, hv.turn]
  exact h

theorem pure_turned (h : Goes (p.1.setCar p.2) t) :
    SpecAt c (Turning p x t) (pure () : M Unit) (fun _ => Turned p) := by
  refine SpecOn.pure _ (fun v hv => ⟨hv.copied, ?_⟩)
  rw [hv.turn]
  exact h

/-! ## Authorization and the stop condition -/

theorem authorizeOwn_turning (y : String) :
    SpecAt c (Turning p x t) (authorizeOwn cp c y) (fun _ => Turning p x t) := by
  refine SpecOn.keep (authorize_at (Turning.closed c) (fun v r h => h.noted rfl rfl)) (fun r => ?_)
  refine SpecOn.keep (setOwn_at (fun v h => ?_)) (fun _ => SpecOn.pure _ (fun _ h => h))
  exact ⟨h.copied.assigned v.connector.idTag r.2 _ _, h.idTag, h.turn⟩

/-- **What the search for a tag leaves**: a tag that is let through is the one in hand. -/
def TagFound (p : ConnectorData × CarData) (r : Option (TagSource × String) × Bool) (v : View) : Prop :=
  ∃ b y, (r.2 = true → r.1.isSome = true ∧ y = tagOf r.1) ∧ Turning p y { badge := b } v

theorem takeBadge_turning : SpecAt c (Turning p x { badge := true })
    (do
      let tag ← pendingIdTag cp c
      setOwn c ({ · with idTag := tag })
      let status ← authorizeOwn cp c tag
      resetIdTagPending cp c
      pure (some (TagSource.badge, tag), status.ok)) (TagFound p) := by
  refine SpecOn.keep (pendingIdTag_at (Turning.closed c) (fun v h => h.noted rfl rfl)) (fun y => ?_)
  refine SpecOn.bind (R := fun _ => Turning p y { badge := true })
    (setOwn_at (fun v h => h.tagged y v.connector.parentIdTag)) (fun _ => ?_)
  refine SpecOn.keep (authorizeOwn_turning y) (fun a => ?_)
  refine SpecOn.keep (resetIdTagPending_at (Turning.closed c) (fun v h => Turning.noted rfl rfl (h.moved rfl rfl)))
    (fun _ => ?_)
  exact SpecOn.pure _ (fun v h => ⟨true, y, fun _ => ⟨rfl, rfl⟩, h⟩)

theorem takeRemoteStart_turning : SpecAt c (Turning p x {})
    (do
      let tag ← remoteStartIdTag cp c
      setOwn c ({ · with idTag := tag })
      let status ← (do if ← authorizeRemoteTxRequests cp c then authorizeOwn cp c tag else pure .accepted)
      resetRemoteStartPending cp c
      pure (some (TagSource.remoteStart, tag), status.ok)) (TagFound p) := by
  refine SpecOn.keep (remoteStartIdTag_at (Turning.closed c) (fun v h => h.noted rfl rfl)) (fun y => ?_)
  refine SpecOn.bind (R := fun _ => Turning p y {}) (setOwn_at (fun v h => h.tagged y v.connector.parentIdTag)) (fun _ => ?_)
  refine SpecOn.keep ?_ (fun a => ?_)
  · refine SpecOn.keep (authorizeRemoteTxRequests_at (Turning.closed c) (fun v b h => h.noted rfl rfl)) (fun b => ?_)
    exact SpecOn.ite (fun _ => authorizeOwn_turning y) (fun _ => SpecOn.pure _ (fun _ h => h))
  refine SpecOn.keep (resetRemoteStartPending_at (Turning.closed c) (fun v h => Turning.noted rfl rfl (h.moved rfl rfl)))
    (fun _ => ?_)
  exact SpecOn.pure _ (fun v h => ⟨false, y, fun _ => ⟨rfl, rfl⟩, h⟩)

/-- **What the turn is told of a tag.** -/
theorem isValidIdTagPresent_turning : SpecAt c (Turning p x {}) (isValidIdTagPresent cp c false) (fun ret v =>
    ∃ b tag, (ret = true → tag.isSome = true) ∧
      Turning p (if ret then tagOf tag else "") { badge := b, sought := some (tag, ret) } v) := by
  refine SpecOn.bind (R := TagFound p) ?_ (fun r => ?_)
  · refine SpecOn.bind (R := fun b => Turning p x { badge := b })
      (isIdTagPending_at (Turning.closed c) (fun v h => h.noted rfl rfl)) (fun b => SpecOn.ite (fun hb => ?_) (fun hb => ?_))
    · subst hb
      exact takeBadge_turning
    rw [Bool.not_eq_true] at hb
    subst hb
    refine SpecOn.keep (isRemoteStartPending_at (Turning.closed c) (fun v h => h.noted rfl rfl))
      (fun b => SpecOn.ite (fun _ => takeRemoteStart_turning) (fun _ => ?_))
    exact SpecOn.pure _ (fun v h => ⟨false, x, (fun h => by cases h), h⟩)
  · refine SpecOn.exists (fun b => SpecOn.exists (fun y => SpecOn.given (fun hy => ?_)))
    refine SpecOn.bind (R := fun _ => Turning p (if r.2 then tagOf r.1 else "") { badge := b })
      (SpecOn.ite (fun hr => ?_) (fun hr => ?_)) (fun _ => ?_)
    · rw [hr]
      exact clearIdTags_at (fun v h => h.tagged "" "")
    · rw [Bool.not_eq_false] at hr
      rw [hr, if_pos rfl, ← (hy hr).2]
      exact SpecOn.pure _ (fun v h => h)
    · refine SpecOn.bind (R := fun _ => Turning p (if r.2 then tagOf r.1 else "") { badge := b, sought := some r })
        (record_at rfl (fun v h => h.noted rfl rfl)) (fun _ => ?_)
      exact SpecOn.pure _ (fun v h => ⟨b, r.1, fun hr => (hy hr).1, h⟩)

/-- **What the stop condition makes of a turn.** -/
inductive Stops (d : ConnectorData) : Bool → Turn → Prop
  | stopped (b : Bool) (idTag : String) (r : Reason) : d.StopsFor b idTag r →
      Stops d true { badge := b, stopped := some (idTag, r) }
  | goesOn (b : Bool) : (b = false → d.carCableCapacity ≠ 0 ∧ d.faultPending = false) → Stops d false { badge := b }

theorem isTransactionStopCondition_turning : SpecAt c (Turning p x {}) (isTransactionStopCondition cp c)
    (fun ret v => ∃ t, Stops (p.1.setCar p.2) ret t ∧ Turning p x t v) := by
  have stopped : ∀ (b : Bool) (idTag : String) (r : Reason), (p.1.setCar p.2).StopsFor b idTag r →
      SpecAt c (Turning p x { badge := b }) (do stopTransaction cp c idTag r; pure true) (fun ret v =>
        ∃ t, Stops (p.1.setCar p.2) ret t ∧ Turning p x t v) := fun b idTag r hr =>
    SpecOn.bind (R := fun _ => Turning p x { badge := b, stopped := some (idTag, r) })
      (stopTransaction_at (Turning.closed c) (fun v h => h.noted rfl rfl))
      (fun _ => SpecOn.pure _ (fun v h => ⟨_, .stopped b idTag r hr, h⟩))
  refine SpecOn.bind (R := fun b => Turning p x { badge := b })
    (isIdTagPending_at (Turning.closed c) (fun v h => h.noted rfl rfl)) (fun b => SpecOn.ite (fun hb => ?_) (fun hb => ?_))
  · subst hb
    refine SpecOn.keep (pendingIdTag_at (Turning.closed c) (fun v h => h.noted rfl rfl)) (fun y => ?_)
    refine SpecOn.keep (authorize_at (Turning.closed c) (fun v r h => h.noted rfl rfl)) (fun r => ?_)
    refine SpecOn.keep (resetIdTagPending_at (Turning.closed c) (fun v h => Turning.noted rfl rfl (h.moved rfl rfl)))
      (fun _ => SpecOn.ite (fun _ => stopped true y .local_ rfl) (fun _ => ?_))
    exact SpecOn.pure _ (fun v h => ⟨_, .goesOn true (fun hf => by cases hf), h⟩)
  rw [Bool.not_eq_true] at hb
  subst hb
  refine SpecOn.keep (isRemoteStopPending_at (Turning.closed c) (fun v h => h.noted rfl rfl))
    (fun b => SpecOn.ite (fun _ => ?_) (fun _ => ?_))
  · refine SpecOn.keep (resetRemoteStopPending_at (Turning.closed c) (fun v h => Turning.noted rfl rfl (h.moved rfl rfl)))
      (fun _ => stopped false "" .remote ⟨rfl, rfl⟩)
  refine ownData_at (fun v hv => SpecOn.pre (fun _ h => h.1) ?_)
  have hd := reads_of_copied hv.copied
  rw [hd.cable, hd.fault]
  refine SpecOn.ite (fun hc => stopped false "" .evDisconnected ⟨rfl, rfl, hc⟩) (fun hc => SpecOn.ite (fun hf => ?_) (fun hf => ?_))
  · exact stopped false "" .other ⟨rfl, rfl, hc, hf⟩
  · exact SpecOn.pure _ (fun v h => ⟨_, .goesOn false (fun _ => ⟨hc, Bool.eq_false_iff.2 hf⟩), h⟩)

/-! ## The nine statuses -/

theorem ite_turned {b : Bool} {s : ChargePointStatus}
    (h : Goes (p.1.setCar p.2) { t with notified := if b then t.notified ++ [s] else t.notified }) :
    SpecAt c (Turning p x t) (if b then statusNotification cp c s else pure ()) (fun _ => Turned p) := by
  cases b with
  | true => exact statusNotification_turned h
  | false => exact pure_turned h

theorem gone_turned {k : Bool → M Unit}
    (hk : ∀ b, SpecAt c (Turning p x { t with gone := some b }) (k b) (fun _ => Turned p)) :
    SpecAt c (Turning p x t) (unavailablePending cp c >>= k) (fun _ => Turned p) :=
  SpecOn.bind (R := fun b => Turning p x { t with gone := some b })
    (unavailablePending_at (Turning.closed c) (fun _ h => h.noted rfl rfl)) hk

theorem faultOrUnavailable_turned {d : ConnectorData} {b : Bool} {tag : Option (TagSource × String)} (hd : Reads p d)
    (hf : (p.1.setCar p.2).Free) :
    SpecAt c (Turning p x { badge := b, sought := some (tag, false) }) (faultOrUnavailable cp c d) (fun _ => Turned p) := by
  unfold faultOrUnavailable
  rw [hd.fault]
  refine SpecOn.ite (fun hp => statusNotification_turned (.fails b tag hf hp)) (fun hp => gone_turned (fun gone => ?_))
  exact ite_turned (.leaves b tag gone hf (Bool.eq_false_iff.2 hp))

theorem validOr_turned {d : ConnectorData} (hd : Reads p d) (hf : (p.1.setCar p.2).Free) :
    SpecAt c (Turning p x {})
      (do if ← isValidIdTagPresent cp c false then statusNotification cp c .preparing else faultOrUnavailable cp c d)
      (fun _ => Turned p) := by
  refine SpecOn.bind isValidIdTagPresent_turning (fun ret => SpecOn.exists (fun b => SpecOn.exists (fun tag =>
    SpecOn.given (fun ht => ?_))))
  cases ret with
  | true =>
    obtain ⟨tag, rfl⟩ := Option.isSome_iff_exists.1 (ht rfl)
    exact statusNotification_turned (.authorized b tag hf)
  | false => exact faultOrUnavailable_turned hd hf

theorem whenAvailable_turned {d : ConnectorData} (hd : Reads p d) (hs : p.1.status = .available) :
    SpecAt c (Turning p x {}) (whenAvailable cp c d) (fun _ => Turned p) := by
  unfold whenAvailable
  rw [hd.cable]
  refine SpecOn.ite (fun hc => statusNotification_turned (.plugged hs hc)) (fun hc => ?_)
  exact validOr_turned hd (.inr ⟨hs, not_not.1 hc⟩)

theorem sessionStatus_of_reads {d : ConnectorData} (hd : Reads p d) :
    sessionStatus d = sessionStatus (p.1.setCar p.2) := by
  unfold sessionStatus
  rw [hd.setpoint, hd.ready]
  rfl

theorem tryStart_turned {d : ConnectorData} {b : Bool} {sought : Option (Option (TagSource × String) × Bool)}
    (hd : Reads p d) (hs : p.1.status = .preparing) (hi : TagInHand (p.1.setCar p.2) b sought d.idTag) :
    SpecAt c (Turning p d.idTag { badge := b, sought := sought }) (tryStart cp c d) (fun _ => Turned p) := by
  unfold tryStart
  rw [hd.cable, hd.fault, sessionStatus_of_reads hd]
  refine SpecOn.ite (fun hc => ?_) (fun hc => SpecOn.ite (fun hc' => ?_) (fun hc' => ?_))
  · refine SpecOn.bind (R := fun a => Turning p d.idTag { badge := b, sought := sought, started := some (d.idTag, a) })
      (startTransaction_at (Turning.closed c) (fun v a h => h.noted rfl rfl)) (fun a => ?_)
    have hg := Goes.starts (d := p.1.setCar p.2) b sought d.idTag a hs hi hc.1 hc.2
    refine SpecOn.ite (fun ha => statusNotification_turned ?_) (fun ha => ?_)
    · rwa [ha, if_pos rfl] at hg
    · rw [if_neg ha] at hg
      refine SpecOn.bind (R := fun _ => Turning p "" { badge := b, sought := sought, started := some (d.idTag, a) })
        (clearIdTags_at (fun v h => h.tagged "" "")) (fun _ => pure_turned hg)
  · exact statusNotification_turned (.ended b sought hs (hc'.2 ▸ hi) hc'.1)
  have hone : p.2.cable = 0 ↔ d.idTag ≠ "" := by tauto
  refine SpecOn.ite (fun hf => statusNotification_turned (.faulty b sought d.idTag hs hi hone hf)) (fun hf => ?_)
  refine SpecOn.keep (preparingTimedOut_at (Turning.closed c) (fun _ _ h => h)) (fun timedOut => ?_)
  exact ite_turned (.waits b sought d.idTag timedOut hs hi hone (Bool.eq_false_iff.2 hf))

theorem whenPreparing_turned {d : ConnectorData} (hs : p.1.status = .preparing) (ht : d.idTag = p.1.idTag) :
    SpecAt c (Turning p d.idTag {}) (whenPreparing cp c d) (fun _ => Turned p) := by
  refine SpecOn.bind (R := fun _ v => ∃ y b sought, TagInHand (p.1.setCar p.2) b sought y ∧
    Turning p y { badge := b, sought := sought } v) (SpecOn.ite (fun h₀ => ?_) (fun h₀ => ?_)) (fun _ => ?_)
  · refine SpecOn.bind isValidIdTagPresent_turning (fun ret => SpecOn.exists (fun b => SpecOn.exists (fun tag =>
      SpecOn.given (fun _ => ?_))))
    have hi : TagInHand (p.1.setCar p.2) b (some (tag, ret)) (if ret then tagOf tag else "") := by
      cases ret with
      | true => exact .found b tag (ht.symm.trans h₀)
      | false => exact .refused b tag (ht.symm.trans h₀)
    have keep : SpecAt c (Turning p (if ret then tagOf tag else "") { badge := b, sought := some (tag, ret) })
        (if ret then startPreparing cp c else pure ())
        (fun _ => Turning p (if ret then tagOf tag else "") { badge := b, sought := some (tag, ret) }) := by
      refine SpecOn.ite (fun _ => ?_) (fun _ => SpecOn.pure _ (fun _ h => h))
      exact startPreparing_at (Turning.closed c) (fun v now h => ⟨h.copied.assigned _ _ now _, h.idTag, h.turn⟩)
    exact SpecOn.post keep (fun _ v h => ⟨_, b, _, hi, h⟩)
  · refine SpecOn.pure _ (fun v h => ⟨d.idTag, false, none, ?_, h⟩)
    rw [ht] at h₀ ⊢
    exact .own h₀
  · refine SpecOn.exists (fun y => SpecOn.exists (fun b => SpecOn.exists (fun sought => SpecOn.given (fun hi => ?_))))
    refine ownData_at (fun v hv => SpecOn.pre (fun _ h => h.1) ?_)
    obtain rfl : v.connector.idTag = y := hv.idTag
    exact tryStart_turned (reads_of_copied hv.copied) hs hi

/-- **The branches of a session** differ in how they say where it goes on to. -/
theorem session_turned {k : M Unit} (hs : p.1.status.inSession = true)
    (hk : ∀ b : Bool, (b = false → p.2.cable ≠ 0 ∧ p.2.fault = false) →
      SpecAt c (Turning p x { badge := b }) k (fun _ => Turned p)) :
    SpecAt c (Turning p x {})
      (do if ← isTransactionStopCondition cp c then statusNotification cp c .finishing else k) (fun _ => Turned p) := by
  refine SpecOn.bind isTransactionStopCondition_turning (fun ret => SpecOn.exists (fun t => SpecOn.given (fun ht => ?_)))
  cases ht with
  | stopped b idTag r hr => exact statusNotification_turned (.stops b idTag r hs hr)
  | goesOn b hb => exact hk b hb

theorem charges_turned {b : Bool} {s : ChargePointStatus} (hs : p.1.status.inSession = true)
    (hb : b = false → p.2.cable ≠ 0 ∧ p.2.fault = false) (h : sessionStatus (p.1.setCar p.2) = s) (hne : s ≠ p.1.status) :
    SpecAt c (Turning p x { badge := b }) (statusNotification cp c s) (fun _ => Turned p) := by
  have hg := Goes.charges (d := p.1.setCar p.2) b hs hb
  rw [h] at hg
  have hn : (if s = (p.1.setCar p.2).status then [] else [s]) = [s] := if_neg hne
  rw [hn] at hg
  exact statusNotification_turned hg

theorem stays_turned {b : Bool} (hs : p.1.status.inSession = true)
    (hb : b = false → p.2.cable ≠ 0 ∧ p.2.fault = false) (h : sessionStatus (p.1.setCar p.2) = p.1.status) :
    SpecAt c (Turning p x { badge := b }) (pure () : M Unit) (fun _ => Turned p) := by
  have hg := Goes.charges (d := p.1.setCar p.2) b hs hb
  rw [h] at hg
  have hn : (if p.1.status = (p.1.setCar p.2).status then [] else [p.1.status]) = [] := if_pos rfl
  rw [hn] at hg
  exact pure_turned hg

theorem whenCharging_turned {d : ConnectorData} (hd : Reads p d) (hs : p.1.status = .charging) :
    SpecAt c (Turning p x {}) (whenCharging cp c d) (fun _ => Turned p) := by
  have hin : p.1.status.inSession = true := by rw [hs]; rfl
  refine session_turned hin (fun b hb => ?_)
  have h := sessionStatus_of_reads hd
  unfold sessionStatus at h
  refine SpecOn.ite (fun h₀ => ?_) (fun h₀ => SpecOn.ite (fun h₁ => ?_) (fun h₁ => ?_))
  · rw [if_pos h₀] at h
    exact charges_turned hin hb h.symm (by rw [hs]; decide)
  · rw [if_neg h₀, if_pos h₁] at h
    exact charges_turned hin hb h.symm (by rw [hs]; decide)
  · rw [if_neg h₀, if_neg h₁] at h
    exact stays_turned hin hb (h.symm.trans hs.symm)

theorem whenSuspendedEV_turned {d : ConnectorData} (hd : Reads p d) (hs : p.1.status = .suspendedEV) :
    SpecAt c (Turning p x {}) (whenSuspendedEV cp c d) (fun _ => Turned p) := by
  have hin : p.1.status.inSession = true := by rw [hs]; rfl
  refine session_turned hin (fun b hb => ?_)
  have h := sessionStatus_of_reads hd
  unfold sessionStatus at h
  refine SpecOn.ite (fun h₀ => ?_) (fun h₀ => SpecOn.ite (fun h₁ => ?_) (fun h₁ => ?_))
  · rw [if_pos h₀] at h
    exact charges_turned hin hb h.symm (by rw [hs]; decide)
  · rw [if_neg h₀, if_neg (by rw [h₁]; decide)] at h
    exact charges_turned hin hb h.symm (by rw [hs]; decide)
  · rw [if_neg h₀, if_pos (Bool.eq_false_iff.2 h₁)] at h
    exact stays_turned hin hb (h.symm.trans hs.symm)

theorem whenSuspendedEVSE_turned {d : ConnectorData} (hd : Reads p d) (hs : p.1.status = .suspendedEVSE) :
    SpecAt c (Turning p x {}) (whenSuspendedEVSE cp c d) (fun _ => Turned p) := by
  have hin : p.1.status.inSession = true := by rw [hs]; rfl
  refine session_turned hin (fun b hb => ?_)
  have h := sessionStatus_of_reads hd
  unfold sessionStatus at h
  refine SpecOn.ite (fun h₀ => SpecOn.ite (fun h₁ => ?_) (fun h₁ => ?_)) (fun h₀ => ?_)
  · rw [if_neg h₀, if_pos h₁] at h
    exact charges_turned hin hb h.symm (by rw [hs]; decide)
  · rw [if_neg h₀, if_neg h₁] at h
    exact charges_turned hin hb h.symm (by rw [hs]; decide)
  · rw [if_pos (not_not.1 h₀)] at h
    exact stays_turned hin hb (h.symm.trans hs.symm)

theorem whenFinishing_turned {d : ConnectorData} (hd : Reads p d) (hs : p.1.status = .finishing) :
    SpecAt c (Turning p x {}) (whenFinishing cp c d) (fun _ => Turned p) := by
  have hg : Goes (p.1.setCar p.2) { notified := if p.2.fault then [.faulted] else if p.2.cable = 0 then [.available] else [] } :=
    .finishes hs
  unfold whenFinishing
  rw [hd.fault, hd.cable]
  refine SpecOn.ite (fun hf => statusNotification_turned ?_) (fun hf => SpecOn.ite (fun hc => statusNotification_turned ?_)
    (fun hc => pure_turned ?_))
  · rwa [if_pos hf] at hg
  · rwa [if_neg hf, if_pos hc] at hg
  · rwa [if_neg hf, if_neg hc] at hg

theorem whenFaulted_turned {d : ConnectorData} (hd : Reads p d) (hs : p.1.status = .faulted) :
    SpecAt c (Turning p x {}) (whenFaulted cp c d) (fun _ => Turned p) := by
  unfold whenFaulted
  rw [hd.fault]
  refine SpecOn.ite (fun hf => statusNotification_turned (.recovers hs hf)) (fun hf => gone_turned (fun gone => ?_))
  exact ite_turned (.retires gone hs (eq_true_of_ne_false (fun h => hf h)))

/-- **A pass makes a turn of the diagram.** -/
theorem nextStatus_turned (p : ConnectorData × CarData) :
    SpecAt c (Turning p p.1.idTag {}) (nextStatus cp c) (fun _ => Turned p) := by
  refine ownData_at (fun v hv => SpecOn.pre (fun _ h => h.1) ?_)
  have hd := reads_of_copied hv.copied
  have ht : v.connector.idTag = p.1.idTag := hv.idTag
  generalize v.connector = d at hd ht
  rw [hd.status]
  cases hs : p.1.status with
  | available => exact whenAvailable_turned hd hs
  | preparing =>
    rw [← ht]
    exact whenPreparing_turned hs ht
  | charging => exact whenCharging_turned hd hs
  | suspendedEVSE => exact whenSuspendedEVSE_turned hd hs
  | suspendedEV => exact whenSuspendedEV_turned hd hs
  | finishing => exact whenFinishing_turned hd hs
  | reserved => exact validOr_turned hd (.inl hs)
  | unavailable => exact pure_turned (.rests hs)
  | faulted => exact whenFaulted_turned hd hs

/-! ## The run -/

theorem endsTurn_of_outside {e : Entry} (he : e.outside = true) : e.endsTurn = false := by
  cases e <;> first | rfl | cases he

theorem FollowsDiagram.cons {e : Entry} {h : List Entry} (he : e.endsTurn = false) (hf : FollowsDiagram h) :
    FollowsDiagram (e :: h) := Always.cons (fun h' => by rw [he] at h'; cases h') hf

theorem FollowsDiagram.nextStatus :
    SpecAt c (fun v => FollowsDiagram v.history) (nextStatus cp c) (fun _ v => FollowsDiagram v.history) := by
  have env : Closed c (fun v => FollowsDiagram v.history) :=
    closed_history (fun _ _ he hf => hf.cons (endsTurn_of_outside he))
  have noted : ∀ (v : View) (e : Entry), e.reads = true → FollowsDiagram v.history → FollowsDiagram (v.note e).history :=
    fun v e he hf => hf.cons (by cases e <;> first | rfl | cases he)
  have plain : Plain c (fun v => FollowsDiagram v.history) :=
    { env := env, notified := fun _ _ h => h.cons rfl, asked := fun _ _ h => h.cons rfl, timed := fun _ _ h => h
      started := fun _ _ h _ _ => h.cons rfl, refused := fun _ _ h _ _ => h.cons rfl }
  have tagFree : TagFree c (fun v => FollowsDiagram v.history) :=
    { env := env, noted := noted, answered := fun _ _ _ h => h.cons rfl, tagged := fun _ _ _ h => h
      badge := fun _ h => h.cons rfl, start := fun _ h => h.cons rfl }
  have stopFree : StopFree c (fun v => FollowsDiagram v.history) :=
    { env := env, noted := noted, badge := fun _ h => h.cons rfl, stop := fun _ h => h.cons rfl
      stopped := fun _ _ _ h => h.cons rfl }
  exact plain.nextStatus (isValidIdTagPresent_keeps tagFree false) (isTransactionStopCondition_keeps stopFree)

/-- **Between rounds**: so far every turn was one of the diagram, and so is the last one. -/
def OnDiagram (v : View) : Prop := FollowsDiagram v.history ∧ Follows v.history

/-- **Once the data are copied**: so far every turn was one of the diagram, and one begins. -/
def TurnBegins (v : View) : Prop := FollowsDiagram v.history ∧ ∃ p, Turning p p.1.idTag {} v

theorem Follows.cons {e : Entry} {h : List Entry} (hc : e.copied = none) (ht : ∀ t, e.onTurn t = t) (hf : Follows h) :
    Follows (e :: h) := by
  unfold Follows
  rw [lastCopy, last_cons, hc, turnOf_cons, ht]
  exact hf

theorem OnDiagram.steady (c : Nat) : Steady c OnDiagram where
  env := closed_history (P := fun h => FollowsDiagram h ∧ Follows h) (fun e h he hf =>
    ⟨hf.1.cons (endsTurn_of_outside he),
      hf.2.cons (by cases e <;> first | rfl | cases he) (onTurn_of_outside he)⟩)
  setpoints _ _ _ h := h
  asked _ _ _ h := ⟨h.1.cons rfl, h.2.cons rfl (fun _ => rfl)⟩
  metered _ _ h := ⟨Always.cons (fun _ => h.2) h.1, h.2.cons rfl (fun _ => rfl)⟩

theorem updateConnectorStatus_onDiagram :
    SpecAt c OnDiagram (updateConnectorStatus cp c) (fun _ => OnDiagram) := by
  have noted : ∀ (v : View) (e : Entry), e.copied = none → (∀ t, e.onTurn t = t) → e.endsTurn = false → OnDiagram v →
      OnDiagram (v.note e) := fun v e hc ht he h => ⟨h.1.cons he, h.2.cons hc ht⟩
  have entryFree : EntryFree c OnDiagram :=
    { env := (OnDiagram.steady c).env, cleared := fun _ h => h
      badge := fun v h => noted v (.resetIdTagPending c) rfl (fun _ => rfl) rfl h, timed := fun _ _ h => h }
  exact updateConnectorStatus_keeps entryFree (fun v h => noted v _ rfl (fun _ => rfl) rfl h)
    (fun v _ h => noted v _ rfl (fun _ => rfl) rfl h) (fun _ _ h => h)

theorem OnDiagram.copyData {v : View} (h : OnDiagram v) : TurnBegins (v.copyData c) :=
  ⟨h.1.cons rfl, (v.connector, v.mqtt.car), ⟨rfl, rfl, rfl, rfl, fun _ => trivial⟩, rfl, rfl⟩

theorem Turned.follows {v : View} (h : Turned p v) : Follows v.history := by
  intro q hq
  obtain rfl : p = q := Option.some.inj (h.copied.last.symm.trans hq)
  exact h.goes

theorem TurnBegins.closed (c : Nat) : Closed c TurnBegins :=
  (closed_history (fun _ _ he hf => FollowsDiagram.cons (endsTurn_of_outside he) hf)).and
    (Closed.exists (fun _ => Turning.closed c))

theorem nextStatus_onDiagram : SpecAt c TurnBegins (nextStatus cp c) (fun _ => OnDiagram) := by
  have turned : SpecAt c (fun v => ∃ p, Turning p p.1.idTag {} v) (nextStatus cp c) (fun _ v => Follows v.history) :=
    SpecOn.exists (fun p => SpecOn.post (nextStatus_turned p) (fun _ _ h => h.follows))
  exact Spec.and FollowsDiagram.nextStatus turned

theorem loop_onDiagram (hc : c ∈ cp.ids) (k : Nat) : SpecAt c OnDiagram (loop cp k) (fun _ => OnDiagram) :=
  loop_at hc (OnDiagram.steady c) (OnDiagram.steady c) (TurnBegins.closed c) updateConnectorStatus_onDiagram
    (fun _ h => h.copyData) nextStatus_onDiagram k

theorem actOnConnectors_turned (hc : c ∈ cp.ids) :
    SpecAt c OnDiagram (actOnConnectors cp) (fun _ v => ∃ p, Turned p v) := by
  refine SpecOn.keep (computeSetpoints_steady (OnDiagram.steady c)) (fun _ => ?_)
  refine afterSetpoints_at hc (OnDiagram.steady c).env (TurnBegins.closed c) (Closed.exists (fun _ => Turned.closed c))
    (fun _ h => h.copyData) ?_
  refine SpecOn.pre (fun _ h => h.2) (SpecOn.exists (fun p => SpecOn.bind (nextStatus_turned p) (fun _ => ?_)))
  exact computeConsumption_at (Turned.closed c) (fun _ _ _ h => ⟨p, h.copied.cons rfl (fun _ => trivial), h.goes⟩)

/-- **Every turn of every run is one of the diagram**: whenever the consumption of a connector is set, what was done for
it since its data were copied follows the diagram at the record and the data of that copy, which leads to one status or
stays; and there is such a copy after every iteration. -/
theorem turns_follow_diagram (cp : SimulatedChargePoint) (c : Nat) (hc : c ∈ cp.ids) (w : World) (hl : w.log = [])
    (k : Nat) (script : List Tick) :
    FollowsDiagram ((afterLoop cp k w script).history c) ∧ Advances ((afterLoop cp k w script).history c) ∧
    ((loopIterated cp k (w, script)).1 = true → ∃ d x, lastCopy ((afterIteration cp k w script).history c) = some (d, x) ∧
      Goes (d.setCar x) (turnOf ((afterIteration cp k w script).history c))) := by
  have hw : OnDiagram (w.view c) := by
    have hh : w.history c = [] := history_of_log_nil hl c
    show FollowsDiagram (w.history c) ∧ Follows (w.history c)
    rw [hh]
    exact ⟨.nil, fun _ h => by cases h⟩
  obtain ⟨hrun, -⟩ := loop_onDiagram hc k w script hw
  refine ⟨hrun, hrun.advances, fun hr => ?_⟩
  have poll := pollConnectors_at hc (OnDiagram.steady c).env (OnDiagram.steady c).env
    (@updateConnectorStatus_onDiagram cp c)
  obtain ⟨p, hp⟩ := loopThen_at (OnDiagram.steady c).env (loop_onDiagram hc k)
    (SpecOn.bind poll (fun _ => actOnConnectors_turned hc)) w script hw hr
  exact ⟨p.1, p.2, hp.copied.last, hp.goes⟩

/-- A session follows the diagram from plug to start. -/
theorem turns_follow_diagram_session :
    FollowsDiagram ((afterLoop .sample 5 (.start .sample .idle) sampleSession).history 1) ∧
    Advances ((afterLoop .sample 5 (.start .sample .idle) sampleSession).history 1) ∧
    ∃ d x, lastCopy ((afterIteration .sample 2 (.start .sample .idle) sampleSession).history 1) = some (d, x) ∧
      Goes (d.setCar x) (turnOf ((afterIteration .sample 2 (.start .sample .idle) sampleSession).history 1)) := by
  obtain ⟨hfollows, hadvances, -⟩ := turns_follow_diagram .sample 1 (by decide) (.start .sample .idle) rfl 5 sampleSession
  obtain ⟨-, -, hgoes⟩ := turns_follow_diagram .sample 1 (by decide) (.start .sample .idle) rfl 2 sampleSession
  exact ⟨hfollows, hadvances, hgoes (by decide +kernel)⟩

end Simu
