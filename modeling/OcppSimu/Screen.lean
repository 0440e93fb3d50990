import Mathlib.Algebra.Group.Nat.Even
import Mathlib.Data.List.Perm.Basic
import OcppSimu.Restart
/-!
# Screen — the list of charge points that `SupervisorScreen` shows

The screen is told of a charge point after each of its messages, and that it is deleted after an empty status message.  It
looks it up in its list, takes it out, adds it, or moves it to the end when it comes alive or dies.  The list stands for
a map from identifiers to whether the charge point is alive, and a notification changes it at one identifier; so what is
shown of a charge point depends on how many empty status messages came since its last other message, and agrees with the
registry exactly when there were none, or evenly many and it is not dead (`screen_agrees_iff`).
-/
namespace Supervisor

open Wire

/-- A row of `rv_chargers.data`. -/
structure Row where
  text : String
  alive : Bool
  deriving DecidableEq

/-- `status == "Dead"`. -/
def isDead : Json → Bool
  | .str s => decide (s = "Dead")
  | _ => false

/-- What becomes of the row at an index: it goes to the end when it dies or comes alive. -/
def settle (rows : List Row) (i : Nat) (status : Json) : List Row :=
  match rows[i]? with
  | none => rows
  | some row =>
    if isDead status then
      if row.alive then rows.eraseIdx i ++ [{ row with alive := false }] else rows
    else if row.alive then rows
    else rows.eraseIdx i ++ [{ row with alive := true }]

/-- `__on_cp_update`, but for the widgets. -/
def onCpUpdate (rows : List Row) (cp : ChargePoint) (deleted : Bool) : List Row :=
  match rows.findIdx? (fun row => decide (row.text = cp.id)) with
  | some i => if deleted then rows.eraseIdx i else settle rows i cp.status
  | none =>
    -- the index is −1: the row that was added is appended once more and popped
    rows ++ [⟨cp.id, !isDead cp.status⟩]

/-- The call of `on_cp_update` that a message ends with, unless its handler raises. -/
def notification (m : ChargePointManager) (topic : String) (payload : Payload) : Option (ChargePoint × Bool) :=
  if topic = "cp_simu/launcher/status" then none
  else
    match (levels topic)[2]? with
    | none => none
    | some part =>
      let cpId := String.ofList part
      match payload with
      | .empty => if hasConnectors topic then none else some ({ id := cpId }, true)
      | payload =>
        match ChargePoint.receive topic payload ((m.cps.lookup cpId).getD { id := cpId }) with
        | (.ok _, cp) => some (cp, false)
        | (.error _, _) => none

/-- The supervisor with its screen. -/
structure Screen where
  manager : ChargePointManager := .empty
  rows : List Row := []

namespace Screen

def receive (s : Screen) (topic : String) (payload : Payload) : Screen where
  manager := s.manager.onMessageReceived topic payload
  rows := match notification s.manager topic payload with
    | some (cp, deleted) => onCpUpdate s.rows cp deleted
    | none => s.rows

def receiveAll (s : Screen) (messages : List (String × Payload)) : Screen :=
  messages.foldl (fun s x => s.receive x.1 x.2) s

end Screen

/-! ## The list as a map -/

/-- **The rows stand for a map**: no identifier has two, and each says whether its charge point is alive. -/
structure Shows (rows : List Row) (f : String → Option Bool) : Prop where
  distinct : (rows.map Row.text).Nodup
  mem : ∀ id b, ⟨id, b⟩ ∈ rows ↔ f id = some b

variable {rows rows' : List Row} {f : String → Option Bool}

theorem Shows.nil : Shows [] (fun _ => none) := ⟨List.nodup_nil, fun _ _ => iff_of_false List.not_mem_nil nofun⟩

theorem Shows.perm (h : Shows rows f) (hp : rows.Perm rows') : Shows rows' f :=
  ⟨(hp.map Row.text).nodup_iff.1 h.distinct, fun id b => hp.mem_iff.symm.trans (h.mem id b)⟩

/-- A row that is taken out. -/
theorem Shows.tail {row : Row} (h : Shows (row :: rows) f) : Shows rows (Function.update f row.text none) := by
  have hd := List.nodup_cons.1 h.distinct
  refine ⟨hd.2, fun id b => ?_⟩
  by_cases hid : id = row.text
  · subst hid
    rw [Function.update_self]
    exact iff_of_false (fun hm => hd.1 (List.mem_map.2 ⟨_, hm, rfl⟩)) nofun
  · rw [Function.update_of_ne hid, ← h.mem, List.mem_cons]
    exact ⟨.inr, fun hm => hm.resolve_left fun he => hid (congrArg Row.text he)⟩

/-- A row that is put in. -/
theorem Shows.cons (h : Shows rows f) {id : String} (hf : f id = none) (b : Bool) :
    Shows (⟨id, b⟩ :: rows) (Function.update f id (some b)) := by
  refine ⟨List.nodup_cons.2 ⟨fun hm => ?_, h.distinct⟩, fun id' b' => ?_⟩
  · obtain ⟨⟨_, b'⟩, hr, rfl⟩ := List.mem_map.1 hm
    rw [(h.mem _ _).1 hr] at hf
    cases hf
  · by_cases hid : id' = id
    · subst hid
      rw [Function.update_self, List.mem_cons]
      refine ⟨fun hm => ?_, fun he => .inl (by rw [Option.some.inj he])⟩
      rcases hm with hm | hm
      · cases hm
        rfl
      · rw [(h.mem _ _).1 hm] at hf
        cases hf
    · rw [Function.update_of_ne hid, ← h.mem, List.mem_cons]
      exact ⟨fun hm => hm.resolve_left fun he => hid (congrArg Row.text he), .inr⟩

/-- What a notification makes of what is shown of its charge point. -/
def next (cp : ChargePoint) (deleted : Bool) (shown : Option Bool) : Option Bool :=
  if deleted && shown.isSome then none else some (!isDead cp.status)

theorem perm_eraseIdx {i : Nat} {row : Row} (hi : rows[i]? = some row) : rows.Perm (row :: rows.eraseIdx i) := by
  obtain ⟨hlt, rfl⟩ := List.getElem?_eq_some_iff.1 hi
  exact (List.getElem_cons_eraseIdx_perm hlt).symm

/-- **A row that is settled** is the one it was, or the same charge point's at the end. -/
theorem settle_perm {i : Nat} {row : Row} (hi : rows[i]? = some row) (status : Json) :
    (settle rows i status).Perm (⟨row.text, !isDead status⟩ :: rows.eraseIdx i) := by
  have hkept : row.alive = !isDead status → rows.Perm (⟨row.text, !isDead status⟩ :: rows.eraseIdx i) := fun ha => by
    rw [← ha]
    exact perm_eraseIdx hi
  unfold settle
  rw [hi]
  cases hs : isDead status <;> cases ha : row.alive <;> rw [hs, ha] at hkept <;>
    simp only [ha, Bool.false_eq_true, if_false, if_true]
  · exact List.perm_append_singleton _ _
  · exact hkept rfl
  · exact hkept rfl
  · exact List.perm_append_singleton _ _

/-- **A notification changes the map at one identifier.** -/
theorem Shows.onCpUpdate (h : Shows rows f) (cp : ChargePoint) (deleted : Bool) :
    Shows (onCpUpdate rows cp deleted) (Function.update f cp.id (next cp deleted (f cp.id))) := by
  unfold Supervisor.onCpUpdate
  cases hfind : rows.findIdx? (fun row => decide (row.text = cp.id)) with
  | some i =>
    obtain ⟨hlt, ht, -⟩ := List.findIdx?_eq_some_iff_getElem.1 hfind
    have hi : rows[i]? = some rows[i] := List.getElem?_eq_getElem hlt
    have ht : rows[i].text = cp.id := of_decide_eq_true ht
    have hf : f cp.id = some rows[i].alive := by
      rw [← h.mem, ← ht]
      exact List.getElem_mem hlt
    have hrest := (h.perm (perm_eraseIdx hi)).tail
    rw [ht] at hrest
    cases deleted with
    | true =>
      rw [show next cp true (f cp.id) = none by rw [next, hf]; rfl]
      exact hrest
    | false =>
      have hs := (hrest.cons (Function.update_self ..) (!isDead cp.status)).perm (ht ▸ settle_perm hi cp.status).symm
      rw [Function.update_idem] at hs
      exact hs
  | none =>
    have hf : f cp.id = none := Option.eq_none_iff_forall_ne_some.2 fun b hb =>
      absurd rfl (of_decide_eq_false (List.findIdx?_eq_none_iff.1 hfind _ ((h.mem cp.id b).2 hb)))
    rw [show next cp deleted (f cp.id) = some (!isDead cp.status) by rw [next, hf]; simp]
    exact (h.cons hf (!isDead cp.status)).perm (List.perm_append_singleton _ _).symm

/-! ## A whole run -/

instance (topic id : String) : Decidable (IsTopic topic id) :=
  decidable_of_iff (topic ≠ "cp_simu/launcher/status" ∧ (levels topic)[2]? = some id.toList)
    ⟨fun h => ⟨h.1, h.2⟩, fun h => ⟨h.launcher, h.level⟩⟩

/-- The handler of the message does not raise. -/
def Handled (m : ChargePointManager) (x : String × Payload) : Prop :=
  x.2 = .empty ∨ ∀ id, IsTopic x.1 id → (notification m x.1 x.2).isSome = true

/-- No handler raises. -/
def AllHandled : ChargePointManager → List (String × Payload) → Prop
  | _, [] => True
  | m, x :: messages => Handled m x ∧ AllHandled (m.onMessageReceived x.1 x.2) messages

/-- The empty status messages since the last other message, with one more. -/
def emptied (id : String) (n : Nat) (x : String × Payload) : Nat :=
  if IsTopic x.1 id then
    match x.2 with
    | .empty => if hasConnectors x.1 then n else n + 1
    | _ => 0
  else n

/-- What is shown of a charge point after so many of them. -/
def expected (cp : Option ChargePoint) (n : Nat) : Option Bool :=
  match cp with
  | none => if Even n then none else some true
  | some cp => if n = 0 then some (!isDead cp.status) else if Even n then some true else none

theorem notification_empty {m : ChargePointManager} {topic id : String} (ht : IsTopic topic id) :
    notification m topic .empty = if hasConnectors topic then none else some ({ id := id }, true) := by
  unfold notification
  rw [if_neg ht.launcher, ht.level]
  dsimp only
  rw [String.ofList_toList]

/-- **A message that is handled** is told with the object it leaves in the registry. -/
theorem notification_handled {m : ChargePointManager} {topic id : String} {payload : Payload} (ht : IsTopic topic id)
    (hp : payload ≠ .empty) (hs : (notification m topic payload).isSome = true) :
    ∃ cp, notification m topic payload = some (cp, false) ∧ (m.onMessageReceived topic payload).cps.lookup id = some cp := by
  unfold notification at hs ⊢
  unfold ChargePointManager.onMessageReceived
  rw [if_neg ht.launcher, ht.level] at hs ⊢
  rw [if_neg ht.launcher]
  cases payload with
  | empty => exact absurd rfl hp
  | json j | other =>
    dsimp only at hs ⊢
    rw [String.ofList_toList] at hs ⊢
    rw [AList.lookup_insert]
    unfold Py.exec
    split at hs
    next cp hr =>
      rw [hr]
      exact ⟨cp, rfl, rfl⟩
    next => cases hs

/-- **A notification is about the charge point of the topic.** -/
theorem isTopic_notification {m : ChargePointManager} (hm : Filed m) {topic : String} {payload : Payload} {cp : ChargePoint}
    {deleted : Bool} (h : notification m topic payload = some (cp, deleted)) : IsTopic topic cp.id := by
  have hl : topic ≠ "cp_simu/launcher/status" := fun he => by
    unfold notification at h
    rw [if_pos he] at h
    cases h
  cases hp : (levels topic)[2]? with
  | none =>
    unfold notification at h
    rw [if_neg hl, hp] at h
    cases h
  | some part =>
    have ht : IsTopic topic (String.ofList part) := ⟨hl, by rw [hp, String.toList_ofList]⟩
    by_cases he : payload = .empty
    · subst he
      rw [notification_empty ht] at h
      split at h
      next => cases h
      next =>
        obtain ⟨rfl, -⟩ := Prod.mk.inj (Option.some.inj h)
        exact ht
    · obtain ⟨cp', hn, hlook⟩ := notification_handled ht he (by rw [h]; rfl)
      obtain ⟨rfl, -⟩ := Prod.mk.inj (Option.some.inj (hn.symm.trans h))
      rw [((hm.onMessageReceived topic payload) _ _ hlook).1]
      exact ht

/-- **The screen, the registry and the count**, at every identifier. -/
structure Follows (s : Screen) (count : String → Nat) : Prop where
  filed : Filed s.manager
  shows : Shows s.rows (fun id => expected (s.manager.cps.lookup id) (count id))

theorem Follows.start : Follows {} (fun _ => 0) where
  filed _ _ h := by cases h
  shows := Shows.nil

/-- One more empty message. -/
theorem expected_succ (cp : Option ChargePoint) (n : Nat) (id : String) :
    next { id := id } true (expected cp n) = expected cp (n + 1) := by
  unfold next expected
  cases cp with
  | none => by_cases he : Even n <;> simp [he, Nat.even_add_one, isDead]
  | some cp =>
    by_cases hn : n = 0
    · simp [hn]
    · by_cases he : Even n <;> simp [he, hn, Nat.even_add_one, isDead]

theorem onMessageReceived_empty (m : ChargePointManager) (topic : String) : m.onMessageReceived topic .empty = m := by
  unfold ChargePointManager.onMessageReceived
  split
  · rfl
  · split <;> rfl

theorem expected_other {m : ChargePointManager} {x : String × Payload} {id : String} (h : ¬ IsTopic x.1 id) (n : Nat) :
    expected ((m.onMessageReceived x.1 x.2).cps.lookup id) (emptied id n x) = expected (m.cps.lookup id) n := by
  rw [lookup_onMessageReceived_of_not h, emptied, if_neg h]

/-- **One message.** -/
theorem Follows.receive {s : Screen} {count : String → Nat} (h : Follows s count) {x : String × Payload}
    (hx : Handled s.manager x) : Follows (s.receive x.1 x.2) (fun id => emptied id (count id) x) := by
  refine ⟨h.filed.onMessageReceived x.1 x.2, ?_⟩
  obtain ⟨topic, payload⟩ := x
  show Shows (match notification s.manager topic payload with
    | some (cp, deleted) => onCpUpdate s.rows cp deleted
    | none => s.rows) (fun id => expected ((s.manager.onMessageReceived topic payload).cps.lookup id) _)
  cases hn : notification s.manager topic payload with
  | none =>
    have hf : (fun id => expected ((s.manager.onMessageReceived topic payload).cps.lookup id)
        (emptied id (count id) (topic, payload))) = fun id => expected (s.manager.cps.lookup id) (count id) := by
      funext id
      by_cases ht : IsTopic topic id
      · rcases hx with he | hx
        · obtain rfl : payload = .empty := he
          have hw : hasConnectors topic = true := by
            by_contra hw
            rw [notification_empty ht, if_neg hw] at hn
            cases hn
          rw [onMessageReceived_empty, emptied, if_pos ht]
          simp [hw]
        · have hs := hx id ht
          rw [show notification s.manager topic payload = none from hn] at hs
          cases hs
      · exact expected_other (x := (topic, payload)) ht (count id)
    rw [hf]
    exact h.shows
  | some r =>
    obtain ⟨cp, deleted⟩ := r
    have ht := isTopic_notification h.filed hn
    have hf : (fun id => expected ((s.manager.onMessageReceived topic payload).cps.lookup id)
        (emptied id (count id) (topic, payload))) = Function.update (fun id => expected (s.manager.cps.lookup id) (count id)) cp.id
          (next cp deleted (expected (s.manager.cps.lookup cp.id) (count cp.id))) := by
      funext id
      by_cases hid : id = cp.id
      · subst hid
        rw [Function.update_self]
        by_cases he : payload = .empty
        · subst he
          rw [notification_empty ht] at hn
          split at hn
          next => cases hn
          next hw =>
            obtain ⟨hcp, rfl⟩ := Prod.mk.inj (Option.some.inj hn)
            rw [onMessageReceived_empty, emptied, if_pos ht, ← hcp, expected_succ]
            simp [hw]
        · obtain ⟨cp', hn', hlook⟩ := notification_handled ht he (by rw [hn]; rfl)
          obtain ⟨rfl, rfl⟩ := Prod.mk.inj (Option.some.inj (hn'.symm.trans hn))
          have hz : emptied cp'.id (count cp'.id) (topic, payload) = 0 := by
            rw [emptied, if_pos ht]
            cases payload with
            | empty => exact absurd rfl he
            | json | other => rfl
          rw [hlook, hz]
          rfl
      · rw [Function.update_of_ne hid]
        exact expected_other (x := (topic, payload)) (ht.not_of_ne hid) (count id)
    rw [hf]
    exact h.shows.onCpUpdate cp deleted

theorem Follows.receiveAll {s : Screen} {count : String → Nat} (h : Follows s count) {messages : List (String × Payload)}
    (hm : AllHandled s.manager messages) :
    Follows (s.receiveAll messages) (fun id => messages.foldl (emptied id) (count id)) := by
  induction messages generalizing s count with
  | nil => exact h
  | cons x messages ih => exact ih (h.receive hm.1) hm.2

theorem expected_eq_iff (cp : Option ChargePoint) (n : Nat) : expected cp n = cp.map (fun cp => !isDead cp.status) ↔
    Even n ∧ (n = 0 ∨ ∀ c ∈ cp, isDead c.status = false) := by
  unfold expected
  cases cp with
  | none => by_cases he : Even n <;> simp [he]
  | some cp =>
    by_cases hn : n = 0
    · simp [hn]
    · by_cases he : Even n <;> cases hd : isDead cp.status <;> simp [he, hn, hd]

/-- **What the screen shows** of a charge point is told by its object and the number of empty status messages since its last
other message; it agrees with the registry exactly when that number is even, and zero or the charge point not dead. -/
theorem screen_agrees_iff (messages : List (String × Payload)) (hm : AllHandled .empty messages) :
    let s := Screen.receiveAll {} messages
    (s.rows.map Row.text).Nodup ∧ ∀ id, let n := messages.foldl (emptied id) 0
      (∀ b, ⟨id, b⟩ ∈ s.rows ↔ expected (s.manager.cps.lookup id) n = some b) ∧
      ((∀ b, ⟨id, b⟩ ∈ s.rows ↔ (s.manager.cps.lookup id).map (fun cp => !isDead cp.status) = some b) ↔
        Even n ∧ (n = 0 ∨ ∀ cp ∈ s.manager.cps.lookup id, isDead cp.status = false)) := by
  intro s
  have h : Follows s (fun id => messages.foldl (emptied id) 0) := Follows.start.receiveAll hm
  refine ⟨h.shows.distinct, fun id => ?_⟩
  intro n
  have hshown := h.shows.mem id
  refine ⟨hshown, ?_⟩
  rw [← expected_eq_iff, Option.ext_iff]
  exact forall_congr' fun b => by rw [hshown b]

/-- Two charge points and a connector; the second is emptied, and a third that was never heard of. -/
def sampleTold : List (String × Payload) :=
  [("cp_simu/cps/A/status", .json (sampleStatus "A").toJson), ("cp_simu/cps/B/status", .json (sampleStatus "B").toJson),
   ("cp_simu/cps/A/connectors/1/status", .json ((sampleConnector "A").toJson 3)), ("cp_simu/cps/B/status", .empty),
   ("cp_simu/cps/C/status", .empty)]

/-- An empty status message takes a charge point that is shown off the screen, which stays in the registry, and puts one
that is not on it. -/
theorem screen_agrees_iff_ghost : ⟨"A", true⟩ ∈ (Screen.receiveAll {} sampleTold).rows ∧
    (∀ b, ⟨"B", b⟩ ∉ (Screen.receiveAll {} sampleTold).rows) ∧
    ((Screen.receiveAll {} sampleTold).manager.cps.lookup "B").isSome = true ∧
    ⟨"C", true⟩ ∈ (Screen.receiveAll {} sampleTold).rows ∧
    (Screen.receiveAll {} sampleTold).manager.cps.lookup "C" = none := by
  have hm : AllHandled .empty sampleTold :=
    ⟨.inr (fun _ _ => by decide +kernel), .inr (fun _ _ => by decide +kernel), .inr (fun _ _ => by decide +kernel), .inl rfl,
      .inl rfl, trivial⟩
  have h := (screen_agrees_iff sampleTold hm).2
  refine ⟨((h "A").1 true).2 (by decide +kernel), fun b hb => ?_, by decide +kernel,
    ((h "C").1 true).2 (by decide +kernel), by decide +kernel⟩
  have hnone := ((h "B").1 b).1 hb
  revert hnone b
  decide +kernel

end Supervisor
