import OcppSimu.Withdrawal
/-!
# Setup — the file a fleet is saved to and loaded from

The supervisor saves its charge points as the list of a start command.  To load such a file it kills what it knows of,
polls its registry four times at most until it counts as many dead as there are, forgets them all, clears their topics
and publishes the list.  It counts anew at every poll, four polls are a failure even where the last finds all dead, and a
charge point heard of for the first time while the registry is gone through ends the loop with an error.  After the
registry is forgotten there is no way back, and it is not looked at again after the last test: so a setup is loaded as a
whole or not at all exactly where there was nothing to forget, or where what was forgotten was known at that test, the
connection lasts and the file has a list (`loading_all_or_nothing_iff`).
-/
namespace Supervisor

open Wire Simu Launcher

/-! ## Loops over the registry -/

/-- What ends a loop over a dictionary: its body raises, or the dictionary has grown. -/
inductive LoopError
  | raised (e : PyError)
  | changedSize

def ChargePointManager.size (m : ChargePointManager) : Nat := m.cps.keys.length

/-- **The order in which Python goes through the registry**: every key, once. -/
structure Order where
  keys : ChargePointManager → List String
  perm : ∀ m, (keys m).Perm m.cps.keys

/-- The order of the registry itself. -/
def Order.listed : Order := ⟨fun m => m.cps.keys, fun _ => .refl _⟩

/-- **A `for` over the registry**, `news t` being the messages that come before the step `t` of the iterator. -/
def forKeys {α : Type} (news : Nat → List (String × Payload)) (body : ChargePointManager → String → α → Except PyError α)
    (size : Nat) : Nat → List String → ChargePointManager → α → Except LoopError α × ChargePointManager
  | t, [], m, a =>
    let m := m.receiveAll (news t)
    (if m.size = size then .ok a else .error .changedSize, m)
  | t, id :: ids, m, a =>
    let m := m.receiveAll (news t)
    if m.size = size then
      match body m id a with
      | .ok a => forKeys news body size (t + 1) ids m a
      | .error e => (.error (.raised e), m)
    else (.error .changedSize, m)

/-! ## The two methods -/

/-- `"charge_points" in setup_data`; where that raises, the answer is no. -/
def hasChargePoints : Json → Bool
  | .obj members => members.any (fun x => decide (x.1 = "charge_points"))
  | .arr l => l.any (fun j => match j with
    | .str s => decide (s = "charge_points")
    | _ => false)
  | .str s => decide ("charge_points".toList <:+: s.toList)
  | _ => false

/-- "Load the file", which there is or is not. -/
def setupData : Option Payload → Option Json
  | some (.json j) => if hasChargePoints j then some j else none
  | _ => none

/-- The messages that come while a setup is loaded: up to the kill command, up to the first test, in the polls, up to the
test after each of them, from the last test until the registry is forgotten, and from then on. -/
structure Arrivals where
  listing : Nat → List (String × Payload)
  killed : List (String × Payload)
  looking : Nat → Nat → List (String × Payload)
  asleep : Nat → List (String × Payload)
  resetting : List (String × Payload)
  starting : List (String × Payload)

/-- The body of the inner loop. -/
def countDead (m : ChargePointManager) (id : String) (totalDead : Nat) : Except PyError Nat :=
  .ok (totalDead + ((m.cps.lookup id).any ChargePoint.isDead).toNat)

/-- "Wait for all the charge points to be dead", with so many of the four retries left. -/
def awaitDead (order : Order) (news : Arrivals) :
    Nat → ChargePointManager → Nat → Except LoopError Nat × ChargePointManager
  | 0, m, _ => (.ok 0, m)
  | left + 1, m, totalDead =>
    if totalDead = m.size then (.ok (left + 1), m)
    else
      match forKeys (news.looking (3 - left)) countDead m.size 0 (order.keys m) m 0 with
      | (.ok totalDead, m) => awaitDead order news left (m.receiveAll (news.asleep (3 - left))) totalDead
      | (.error e, m) => (.error e, m)

/-- `__new_charge_points`, where the message is published. -/
def newChargePoints (published : Bool) (chargePoints : Json) : List (String × Payload) :=
  if published then
    [("cp_simu/launcher/cmd", .json (.obj [("type", .str "start"), ("charge_points", chargePoints)]))]
  else []

/-- What `__kill_charge_points`, `is_connected` in `__clean_state` and `__new_charge_points` answer. -/
structure Answers where
  kill : Bool
  clean : Bool
  start : Bool

/-- What a call comes to. -/
structure Loading where
  ret : Except LoopError Bool
  manager : ChargePointManager
  published : List (String × Payload)

/-- "Reset internal list", "Clean broker state" and "Start new charge points", after the kill commands `killed`; the new
list is `m` by the end. -/
def startAnew (answers : Answers) (m : ChargePointManager) (cps : List ChargePoint) (killed : List (String × Payload))
    (data : Json) : Loading :=
  let cleaned := killed ++ (cleanState answers.clean cps).2
  match item data "charge_points" with
  | .ok chargePoints => ⟨.ok answers.start, m, cleaned ++ newChargePoints answers.start chargePoints⟩
  | .error e => ⟨.error (.raised e), m, cleaned⟩

/-- **`load_setup`**. -/
def loadSetup (order : Order) (answers : Answers) (news : Arrivals) (file : Option Payload) (m : ChargePointManager) :
    Loading :=
  match setupData file with
  | none => ⟨.ok false, m, []⟩
  | some data =>
    match forKeys news.listing (fun _ id ids => .ok (ids ++ [id])) m.size 0 (order.keys m) m [] with
    | (.error e, m) => ⟨.error e, m, []⟩
    | (.ok ids, m) =>
      let killed := killChargePoints answers.kill ids
      if answers.kill then
        match awaitDead order news 4 (m.receiveAll news.killed) 0 with
        | (.error e, m) => ⟨.error e, m, killed⟩
        | (.ok 0, m) => ⟨.ok false, m, killed⟩
        | (.ok (_ + 1), m) =>
          let m := m.receiveAll news.resetting
          startAnew answers (ChargePointManager.empty.receiveAll news.starting) ((order.keys m).filterMap m.cps.lookup)
            killed data
      else ⟨.ok false, m, killed⟩

/-! ## A call -/

/-- **A call of `load_setup`.** -/
structure LoadCall where
  order : Order
  answers : Answers
  news : Arrivals
  manager : ChargePointManager
  file : Option Payload
  filed : Filed manager

namespace LoadCall

def loading (c : LoadCall) : Loading := loadSetup c.order c.answers c.news c.file c.manager

/-- **The registry at the test `k` of the wait**, as the messages make it. -/
def before (c : LoadCall) : Nat → ChargePointManager
  | 0 => (told c.manager c.news.listing (c.manager.size + 1)).receiveAll c.news.killed
  | k + 1 => (told (c.before k) (c.news.looking k) ((c.before k).size + 1)).receiveAll (c.news.asleep k)

/-- No charge point is heard of for the first time while the kill command is made. -/
def ListsAll (c : LoadCall) : Prop := (told c.manager c.news.listing (c.manager.size + 1)).size = c.manager.size

/-- Nor in the poll `k`. -/
def Polls (c : LoadCall) (k : Nat) : Prop :=
  (told (c.before k) (c.news.looking k) ((c.before k).size + 1)).size = (c.before k).size

/-- **In the poll `k` every charge point is dead** when it is looked at. -/
def SeenDead (c : LoadCall) (k : Nat) : Prop :=
  ∀ i id, (c.order.keys (c.before k))[i]? = some id → deadAt (c.before k) (c.news.looking k) i id = true

/-- **What the test `k` asks for**: nothing to wait for, or all seen dead in the poll before and none heard of since. -/
def Done (c : LoadCall) : Nat → Prop
  | 0 => (c.before 0).size = 0
  | k + 1 => c.SeenDead k ∧ (c.before (k + 1)).size = (c.before k).size

/-- The wait comes to its test `k`. -/
def Reaches (c : LoadCall) (k : Nat) : Prop := ∀ j < k, ¬c.Done j ∧ c.Polls j

/-- The wait is begun and comes to its test `k`. -/
def Tests (c : LoadCall) (k : Nat) : Prop :=
  (∃ data, setupData c.file = some data) ∧ c.ListsAll ∧ c.answers.kill = true ∧ c.Reaches k

/-- **The registry is forgotten after the test `k`.** -/
def Forgets (c : LoadCall) (k : Nat) : Prop := k < 4 ∧ c.Tests k ∧ c.Done k

/-- **The registry that is forgotten** after the test `k`. -/
def forgotten (c : LoadCall) (k : Nat) : ChargePointManager := (c.before k).receiveAll c.news.resetting

/-- What is known after that. -/
def started (c : LoadCall) : ChargePointManager := ChargePointManager.empty.receiveAll c.news.starting

/-- The file has a list, and not only the word. -/
def HasList (c : LoadCall) : Prop := ∀ data, setupData c.file = some data → data.isObject = true

/-- The topics of the charge point are cleared. -/
def Cleared (r : Loading) (id : String) (cp : ChargePoint) : Prop :=
  (Wire.statusTopic id, Payload.empty) ∈ r.published ∧
    ∀ con ∈ cp.connectors, (connectorStatusTopic id con, Payload.empty) ∈ r.published

/-- **The new fleet is started in place of the old**, of which every charge point was known at the test, where it was
dead, and is cleared. -/
def Replaced (c : LoadCall) (r : Loading) : Prop :=
  r.ret = .ok true ∧ r.manager = c.started ∧
    (∃ k, c.Forgets k ∧ ∀ id cp, (c.forgotten k).cps.lookup id = some cp → id ∈ (c.before k).cps ∧ Cleared r id cp) ∧
    ∃ data chargePoints, setupData c.file = some data ∧ item data "charge_points" = .ok chargePoints ∧
      r.published.getLast? = (newChargePoints true chargePoints).head?

/-- **The old fleet stays known**: the registry is what messages made of it, with every charge point known at a test,
none was forgotten, and nothing but a kill command was published. -/
def Kept (c : LoadCall) (r : Loading) : Prop :=
  r.ret ≠ .ok true ∧ (∃ messages, r.manager = c.manager.receiveAll messages) ∧
    (∀ k ≤ 4, c.Tests k → ∀ id ∈ (c.before k).cps, id ∈ r.manager.cps) ∧ (∀ k, c.Forgets k → (c.forgotten k).size = 0) ∧
    ∀ x ∈ r.published, ∃ ids, x ∈ killChargePoints true ids

/-- **As a whole or not at all.** -/
def AllOrNothing (c : LoadCall) : Prop := c.Replaced c.loading ∨ c.Kept c.loading

end LoadCall

/-! ## A loop over the registry -/

variable {m : ChargePointManager} {news : Nat → List (String × Payload)}

/-- **A registry only grows.** -/
theorem size_receiveAll (m : ChargePointManager) (l : List (String × Payload)) : m.size ≤ (m.receiveAll l).size := by
  refine (List.subperm_of_subset m.cps.keys_nodup fun id hid => ?_).length_le
  exact AList.mem_keys.1 (mem_receiveAll l (AList.mem_keys.2 hid))

theorem size_told (m : ChargePointManager) (news : Nat → List (String × Payload)) {t s : Nat} (h : t ≤ s) :
    (told m news t).size ≤ (told m news s).size := by
  induction s with
  | zero => rw [Nat.le_zero.1 h]
  | succ s ih =>
    rcases Nat.lt_or_eq_of_le h with h | rfl
    · exact (ih (Nat.le_of_lt_succ h)).trans (size_receiveAll _ _)
    · exact Nat.le_refl _

theorem receiveAll_append (m : ChargePointManager) (l l' : List (String × Payload)) :
    (m.receiveAll l).receiveAll l' = m.receiveAll (l ++ l') := by
  unfold ChargePointManager.receiveAll
  rw [List.foldl_append]

theorem told_eq_receiveAll (m : ChargePointManager) (news : Nat → List (String × Payload)) :
    ∀ t, ∃ messages, told m news t = m.receiveAll messages
  | 0 => ⟨[], rfl⟩
  | t + 1 => by
    obtain ⟨messages, h⟩ := told_eq_receiveAll m news t
    exact ⟨messages ++ news t, by rw [← receiveAll_append, ← h]; rfl⟩

theorem mem_told {id : String} (h : id ∈ m.cps) (t : Nat) :
    id ∈ (told m news t).cps := by
  obtain ⟨messages, ht⟩ := told_eq_receiveAll m news t
  rw [ht]
  exact mem_receiveAll messages h

theorem size_eq_zero_iff {m : ChargePointManager} : m.size = 0 ↔ m = .empty := by
  constructor
  · intro h
    have he : m.cps.entries = [] := List.map_eq_nil_iff.1 (List.eq_nil_of_length_eq_zero h)
    obtain ⟨⟨entries, nodup⟩⟩ := m
    subst he
    rfl
  · rintro rfl
    rfl

/-- What the steps of a loop come to, `g t id` being what the body does at the step `t`. -/
def steps {α : Type} (g : Nat → String → α → α) : Nat → List String → α → α
  | _, [], a => a
  | t, id :: ids, a => steps g (t + 1) ids (g t id a)

section

variable {α : Type} {body : ChargePointManager → String → α → Except PyError α} {size : Nat}

theorem forKeys_nil (t : Nat) (a : α) : forKeys news body size t [] (told m news t) a =
    (if (told m news (t + 1)).size = size then .ok a else .error .changedSize, told m news (t + 1)) := rfl

theorem forKeys_cons (t : Nat) (id : String) (ids : List String) (a : α) :
    forKeys news body size t (id :: ids) (told m news t) a =
      if (told m news (t + 1)).size = size then
        match body (told m news (t + 1)) id a with
        | .ok a => forKeys news body size (t + 1) ids (told m news (t + 1)) a
        | .error e => (.error (.raised e), told m news (t + 1))
      else (.error .changedSize, told m news (t + 1)) := rfl

theorem last_step (t : Nat) (id : String) (ids : List String) : t + (id :: ids).length + 1 = t + 1 + ids.length + 1 := by
  rw [List.length_cons]
  omega

/-- **A loop whose registry does not grow** makes all its steps. -/
theorem forKeys_of_size {g : Nat → String → α → α} : ∀ (ids : List String) (t : Nat) (a : α),
    (∀ i id a, ids[i]? = some id → body (told m news (t + i + 1)) id a = .ok (g (t + i) id a)) →
    (told m news t).size = size → (told m news (t + ids.length + 1)).size = size →
    forKeys news body size t ids (told m news t) a = (.ok (steps g t ids a), told m news (t + ids.length + 1))
  | [], t, a, _, _, hs => by
    have h₁ : (told m news (t + 1)).size = size := hs
    rw [forKeys_nil, if_pos h₁]
    rfl
  | id :: ids, t, a, hb, h₀, hs => by
    rw [last_step] at hs ⊢
    have h₁ : (told m news (t + 1)).size = size := by
      have hle := size_told m news (show t ≤ t + 1 by omega)
      have hge := size_told m news (show t + 1 ≤ t + 1 + ids.length + 1 by omega)
      omega
    have hstep : body (told m news (t + 1)) id a = .ok (g t id a) := hb 0 id a rfl
    have hrest := forKeys_of_size ids (t + 1) (g t id a) (fun i id' a' hi => by
      have h := hb (i + 1) id' a' hi
      rwa [show t + (i + 1) = t + 1 + i by omega] at h) h₁ hs
    rw [forKeys_cons, if_pos h₁, hstep]
    exact hrest

/-- **A loop whose registry grows** ends with an error, if its body raises none. -/
theorem forKeys_of_grown (hb : ∀ m id a, ∃ b, body m id a = .ok b) : ∀ (ids : List String) (t : Nat) (a : α),
    (told m news (t + ids.length + 1)).size ≠ size →
    ∃ s, forKeys news body size t ids (told m news t) a = (.error .changedSize, told m news s)
  | [], t, a, hs => by
    have h₁ : (told m news (t + 1)).size ≠ size := hs
    exact ⟨t + 1, by rw [forKeys_nil, if_neg h₁]⟩
  | id :: ids, t, a, hs => by
    rw [last_step] at hs
    by_cases h₁ : (told m news (t + 1)).size = size
    · obtain ⟨b, hstep⟩ := hb (told m news (t + 1)) id a
      obtain ⟨s, hrest⟩ := forKeys_of_grown hb ids (t + 1) b hs
      refine ⟨s, ?_⟩
      rw [forKeys_cons, if_pos h₁, hstep]
      exact hrest
    · exact ⟨t + 1, by rw [forKeys_cons, if_neg h₁]⟩

end

theorem Order.length_keys (order : Order) (m : ChargePointManager) : (order.keys m).length = m.size :=
  (order.perm m).length_eq

theorem steps_cons {α : Type} (g : Nat → String → α → α) (t : Nat) (id : String) (ids : List String) (a : α) :
    steps g t (id :: ids) a = steps g (t + 1) ids (g t id a) := rfl

/-- What a loop adds up is the number of its steps exactly where every step adds. -/
theorem steps_count {f : Nat → String → Bool} : ∀ (ids : List String) (t a : Nat),
    steps (fun t id a => a + (f t id).toNat) t ids a ≤ a + ids.length ∧
    (steps (fun t id a => a + (f t id).toNat) t ids a = a + ids.length ↔
      ∀ i id, ids[i]? = some id → f (t + i) id = true)
  | [], t, a => ⟨Nat.le_refl a, iff_of_true rfl (fun i id h => by cases h)⟩
  | id :: ids, t, a => by
    obtain ⟨hle, hiff⟩ := steps_count (f := f) ids (t + 1) (a + (f t id).toNat)
    have hb := Bool.toNat_le (f t id)
    rw [List.length_cons, steps_cons]
    refine ⟨by omega, fun h i id' hi => ?_, fun h => ?_⟩
    · have hone : f t id = true := Bool.toNat_eq_one.1 (by omega)
      have hall := hiff.1 (by omega)
      cases i with
      | zero =>
        rw [← Option.some.inj hi]
        exact hone
      | succ i =>
        rw [show t + (i + 1) = t + 1 + i by omega]
        exact hall i id' hi
    · have hone : f t id = true := h 0 id rfl
      have hall := hiff.2 (fun i id' hi => by
        have h' := h (i + 1) id' hi
        rwa [show t + (i + 1) = t + 1 + i by omega] at h')
      rw [hall, hone, Bool.toNat_true]
      omega

/-! ## The wait -/

namespace LoadCall

variable {c : LoadCall} {k : Nat}

/-- What the poll `k` counts. -/
def counted (c : LoadCall) (k : Nat) : Nat :=
  steps (fun t id a => a + (deadAt (c.before k) (c.news.looking k) t id).toNat) 0 (c.order.keys (c.before k)) 0

/-- What `total_dead` is at the test `k`. -/
def totalDead (c : LoadCall) : Nat → Nat
  | 0 => 0
  | k + 1 => c.counted k

theorem counted_spec (c : LoadCall) (k : Nat) :
    c.counted k ≤ (c.before k).size ∧ (c.counted k = (c.before k).size ↔ c.SeenDead k) := by
  have h := steps_count (f := deadAt (c.before k) (c.news.looking k)) (c.order.keys (c.before k)) 0 0
  rw [Order.length_keys, Nat.zero_add] at h
  simp only [Nat.zero_add] at h
  exact h

/-- **The test of the wait** is what it is meant to be. -/
theorem done_iff (c : LoadCall) : ∀ k, c.Done k ↔ c.totalDead k = (c.before k).size
  | 0 => eq_comm
  | k + 1 => by
    obtain ⟨hle, hiff⟩ := c.counted_spec k
    have hgrow : (c.before k).size ≤ (c.before (k + 1)).size :=
      (size_told (c.before k) (c.news.looking k) (Nat.zero_le _)).trans (size_receiveAll _ _)
    show c.SeenDead k ∧ (c.before (k + 1)).size = (c.before k).size ↔ c.counted k = (c.before (k + 1)).size
    rw [← hiff]
    omega

theorem poll_of_polls (h : c.Polls k) :
    forKeys (c.news.looking k) countDead (c.before k).size 0 (c.order.keys (c.before k)) (c.before k) 0 =
      (.ok (c.counted k), told (c.before k) (c.news.looking k) ((c.before k).size + 1)) := by
  have hf := @forKeys_of_size (c.before k) (c.news.looking k) _ countDead (c.before k).size
    (fun t id a => a + (deadAt (c.before k) (c.news.looking k) t id).toNat) (c.order.keys (c.before k)) 0 0
    (fun i id a _ => by rw [Nat.zero_add]; rfl) rfl (by rw [Order.length_keys, Nat.zero_add]; exact h)
  rw [Order.length_keys, Nat.zero_add] at hf
  exact hf

theorem poll_of_not_polls (h : ¬c.Polls k) : ∃ s,
    forKeys (c.news.looking k) countDead (c.before k).size 0 (c.order.keys (c.before k)) (c.before k) 0 =
      (.error .changedSize, told (c.before k) (c.news.looking k) s) := by
  refine @forKeys_of_grown (c.before k) (c.news.looking k) _ _ _ (fun _ _ _ => ⟨_, rfl⟩)
    (c.order.keys (c.before k)) 0 0 ?_
  rw [Order.length_keys, Nat.zero_add]
  exact h

/-- **A test that is not met leads to the next one**, if no charge point is heard of for the first time in the poll. -/
theorem await_step {left : Nat} (hk : k + left = 3) (hd : ¬c.Done k) (hp : c.Polls k) :
    awaitDead c.order c.news (left + 1) (c.before k) (c.totalDead k) =
      awaitDead c.order c.news left (c.before (k + 1)) (c.totalDead (k + 1)) := by
  rw [done_iff] at hd
  rw [awaitDead, if_neg hd, show 3 - left = k by omega, poll_of_polls hp]
  rfl

theorem await_done {left : Nat} (hd : c.Done k) :
    awaitDead c.order c.news (left + 1) (c.before k) (c.totalDead k) = (.ok (left + 1), c.before k) := by
  rw [awaitDead, if_pos ((done_iff c k).1 hd)]

theorem await_raises {left : Nat} (hk : k + left = 3) (hd : ¬c.Done k) (hp : ¬c.Polls k) :
    ∃ s, awaitDead c.order c.news (left + 1) (c.before k) (c.totalDead k) =
      (.error .changedSize, told (c.before k) (c.news.looking k) s) := by
  obtain ⟨s, hs⟩ := poll_of_not_polls hp
  rw [done_iff] at hd
  refine ⟨s, ?_⟩
  rw [awaitDead, if_neg hd, show 3 - left = k by omega, hs]

/-- **The wait comes to every test it reaches.** -/
theorem await_of_reaches : ∀ {k : Nat}, k ≤ 4 → c.Reaches k →
    awaitDead c.order c.news 4 (c.before 0) 0 = awaitDead c.order c.news (4 - k) (c.before k) (c.totalDead k)
  | 0, _, _ => rfl
  | k + 1, hk, hr => by
    obtain ⟨hd, hp⟩ := hr k (Nat.lt_succ_self k)
    rw [await_of_reaches (by omega) (fun j hj => hr j (Nat.lt_succ_of_lt hj)), show 4 - k = 4 - (k + 1) + 1 by omega]
    exact await_step (by omega) hd hp

/-- **What the wait comes to**: a test that is met, none that is, or an error in a poll. -/
theorem await_cases (c : LoadCall) :
    (∃ k < 4, c.Reaches k ∧ c.Done k ∧ awaitDead c.order c.news 4 (c.before 0) 0 = (.ok (4 - k), c.before k)) ∨
    (c.Reaches 4 ∧ awaitDead c.order c.news 4 (c.before 0) 0 = (.ok 0, c.before 4)) ∨
    ∃ k < 4, c.Reaches k ∧ ¬c.Done k ∧ ¬c.Polls k ∧ ∃ s, awaitDead c.order c.news 4 (c.before 0) 0 =
      (.error .changedSize, told (c.before k) (c.news.looking k) s) := by
  by_cases hall : c.Reaches 4
  · exact .inr (.inl ⟨hall, await_of_reaches (Nat.le_refl 4) hall⟩)
  -- the first test that does not lead to the next one
  have hex : ∃ k, k < 4 ∧ ¬(¬c.Done k ∧ c.Polls k) := by
    unfold Reaches at hall
    push Not at hall
    obtain ⟨k, hk, h⟩ := hall
    exact ⟨k, hk, fun h' => h h'.1 h'.2⟩
  classical
  obtain ⟨hk, hstop⟩ := Nat.find_spec hex
  have hr : c.Reaches (Nat.find hex) := fun j hj => by
    by_contra h
    exact Nat.find_min hex hj ⟨hj.trans hk, h⟩
  have hw := await_of_reaches (Nat.le_of_lt hk) hr
  obtain ⟨left, hleft⟩ : ∃ left, 4 - Nat.find hex = left + 1 := ⟨3 - Nat.find hex, by omega⟩
  by_cases hd : c.Done (Nat.find hex)
  · refine .inl ⟨_, hk, hr, hd, ?_⟩
    rw [hw, hleft, await_done hd]
  · have hp : ¬c.Polls (Nat.find hex) := fun hp => hstop ⟨hd, hp⟩
    obtain ⟨s, hs⟩ := @await_raises c (Nat.find hex) left (by omega) hd hp
    refine .inr (.inr ⟨_, hk, hr, hd, hp, s, ?_⟩)
    rw [hw, hleft, hs]

/-- The registry is forgotten once. -/
theorem Forgets.unique {j : Nat} (hj : c.Forgets j) (hk : c.Forgets k) : j = k := by
  rcases Nat.lt_trichotomy j k with h | h | h
  · exact absurd hj.2.2 (hk.2.1.2.2.2 j h).1
  · exact h
  · exact absurd hk.2.2 (hj.2.1.2.2.2 k h).1

theorem before_eq_receiveAll (c : LoadCall) : ∀ k, ∃ messages, c.before k = c.manager.receiveAll messages
  | 0 => by
    obtain ⟨messages, h⟩ := told_eq_receiveAll c.manager c.news.listing (c.manager.size + 1)
    exact ⟨messages ++ c.news.killed, by rw [← receiveAll_append, ← h]; rfl⟩
  | k + 1 => by
    obtain ⟨messages, h⟩ := before_eq_receiveAll c k
    obtain ⟨messages', h'⟩ := told_eq_receiveAll (c.before k) (c.news.looking k) ((c.before k).size + 1)
    exact ⟨messages ++ messages' ++ c.news.asleep k, by rw [← receiveAll_append, ← receiveAll_append, ← h, ← h']; rfl⟩

theorem mem_before {id : String} {j : Nat} (h : id ∈ (c.before j).cps) (hj : j ≤ k) : id ∈ (c.before k).cps := by
  induction k with
  | zero => rwa [Nat.le_zero.1 hj] at h
  | succ k ih =>
    rcases Nat.lt_or_eq_of_le hj with hj | rfl
    · exact mem_receiveAll _ (mem_told (ih (Nat.le_of_lt_succ hj)) _)
    · exact h

/-! ## The whole call -/

theorem lookup_reverse_isSome {members : List (String × Json)} {name : String}
    (h : members.any (fun x => decide (x.1 = name)) = true) : ∃ v, members.reverse.lookup name = some v := by
  obtain ⟨x, hx, hn⟩ := List.any_eq_true.1 h
  rw [← Option.isSome_iff_exists, List.lookup_isSome_iff]
  exact ⟨x, List.mem_reverse.2 hx, by rw [of_decide_eq_true hn]; exact beq_self_eq_true name⟩

/-- **The list is read off an object**; a text or a list with the word has none. -/
theorem item_eq_ok_iff {data : Json} (h : hasChargePoints data = true) :
    (∃ chargePoints, item data "charge_points" = .ok chargePoints) ↔ data.isObject = true := by
  cases data with
  | obj members =>
    obtain ⟨v, hv⟩ := lookup_reverse_isSome h
    refine iff_of_true ⟨v, ?_⟩ rfl
    simp only [item, hv]
  | _ => exact iff_of_false (fun ⟨_, h⟩ => by cases h) (fun h => by cases h)

theorem hasChargePoints_of_setupData {file : Option Payload} {data : Json} (h : setupData file = some data) :
    hasChargePoints data = true := by
  unfold setupData at h
  split at h
  · split at h
    · rename_i hc
      rw [← Option.some.inj h]
      exact hc
    · cases h
  · cases h

theorem steps_append : ∀ (ids : List String) (t : Nat) (a : List String),
    steps (fun _ id ids => ids ++ [id]) t ids a = a ++ ids
  | [], _, a => (List.append_nil a).symm
  | id :: ids, t, a => by
    rw [steps_cons, steps_append ids, List.append_assoc]
    rfl

theorem listing_of_listsAll (h : c.ListsAll) :
    forKeys c.news.listing (fun _ id ids => .ok (ids ++ [id])) c.manager.size 0 (c.order.keys c.manager) c.manager [] =
      (.ok (c.order.keys c.manager), told c.manager c.news.listing (c.manager.size + 1)) := by
  have hf := @forKeys_of_size c.manager c.news.listing _ (fun _ id ids => .ok (ids ++ [id])) c.manager.size
    (fun _ id ids => ids ++ [id]) (c.order.keys c.manager) 0 []
    (fun _ _ _ _ => rfl) rfl (by rw [Order.length_keys, Nat.zero_add]; exact h)
  rw [Order.length_keys, Nat.zero_add, steps_append] at hf
  exact hf

theorem listing_of_not_listsAll (h : ¬c.ListsAll) : ∃ s,
    forKeys c.news.listing (fun _ id ids => .ok (ids ++ [id])) c.manager.size 0 (c.order.keys c.manager) c.manager [] =
      (.error .changedSize, told c.manager c.news.listing s) := by
  refine @forKeys_of_grown c.manager c.news.listing _ _ _ (fun _ _ _ => ⟨_, rfl⟩)
    (c.order.keys c.manager) 0 [] ?_
  rw [Order.length_keys, Nat.zero_add]
  exact h

/-- The charge points that are forgotten after the test `k`. -/
def known (c : LoadCall) (k : Nat) : List ChargePoint :=
  (c.order.keys (c.forgotten k)).filterMap (c.forgotten k).cps.lookup

/-- **A call that comes to the wait.** -/
theorem loading_eq {data : Json} (hd : setupData c.file = some data) (hl : c.ListsAll) (hk : c.answers.kill = true) :
    c.loading = match awaitDead c.order c.news 4 (c.before 0) 0 with
      | (.error e, m) => ⟨.error e, m, killChargePoints true (c.order.keys c.manager)⟩
      | (.ok 0, m) => ⟨.ok false, m, killChargePoints true (c.order.keys c.manager)⟩
      | (.ok (_ + 1), m) =>
        startAnew c.answers c.started
          ((c.order.keys (m.receiveAll c.news.resetting)).filterMap (m.receiveAll c.news.resetting).cps.lookup)
          (killChargePoints true (c.order.keys c.manager)) data := by
  unfold loading loadSetup
  rw [hd]
  dsimp only
  rw [listing_of_listsAll hl]
  dsimp only
  rw [hk]
  rfl

theorem loading_of_forgets {data : Json} (hd : setupData c.file = some data) (hf : c.Forgets k) :
    c.loading = startAnew c.answers c.started (c.known k) (killChargePoints true (c.order.keys c.manager)) data := by
  obtain ⟨hk, ⟨-, hl, hkill, hr⟩, hdone⟩ := hf
  obtain ⟨left, hleft⟩ : ∃ left, 4 - k = left + 1 := ⟨3 - k, by omega⟩
  rw [loading_eq hd hl hkill, await_of_reaches (Nat.le_of_lt hk) hr, hleft, await_done hdone]
  rfl

/-- **A file that has a list**: the call ends with the start command. -/
theorem loading_of_list {data chargePoints : Json} (hd : setupData c.file = some data) (hf : c.Forgets k)
    (hi : item data "charge_points" = .ok chargePoints) :
    c.loading = ⟨.ok c.answers.start, c.started, killChargePoints true (c.order.keys c.manager) ++
      (cleanState c.answers.clean (c.known k)).2 ++ newChargePoints c.answers.start chargePoints⟩ := by
  rw [loading_of_forgets hd hf]
  unfold startAnew
  rw [hi]

/-- One that only has the word: it ends with the error. -/
theorem loading_of_word {data : Json} {e : PyError} (hd : setupData c.file = some data) (hf : c.Forgets k)
    (hi : item data "charge_points" = .error e) :
    c.loading = ⟨.error (.raised e), c.started, killChargePoints true (c.order.keys c.manager) ++
      (cleanState c.answers.clean (c.known k)).2⟩ := by
  rw [loading_of_forgets hd hf]
  unfold startAnew
  rw [hi]

theorem kept_of_messages {r : Loading} (hret : r.ret ≠ .ok true) (hm : ∃ messages, r.manager = c.manager.receiveAll messages)
    (hk : ∀ k ≤ 4, c.Tests k → ∀ id ∈ (c.before k).cps, id ∈ r.manager.cps) (hn : ∀ k, c.Forgets k → (c.forgotten k).size = 0)
    (hp : r.published = [] ∨ r.published = killChargePoints true (c.order.keys c.manager)) : c.Kept r := by
  refine ⟨hret, hm, hk, hn, fun x hx => ?_⟩
  rcases hp with hp | hp
  · rw [hp] at hx
    cases hx
  · rw [hp] at hx
    exact ⟨_, hx⟩

/-- **Where the registry is not forgotten it is kept.** -/
theorem kept_of_not_forgets (h : ∀ k, ¬c.Forgets k) : c.Kept c.loading := by
  have hn : ∀ k, c.Forgets k → (c.forgotten k).size = 0 := fun k hk => absurd hk (h k)
  cases hd : setupData c.file with
  | none =>
    have hr : c.loading = ⟨.ok false, c.manager, []⟩ := by
      unfold loading loadSetup
      rw [hd]
    rw [hr]
    refine kept_of_messages (fun h => by cases h) ⟨[], rfl⟩ (fun k _ ht => ?_) hn (.inl rfl)
    obtain ⟨⟨data, hdata⟩, -⟩ := ht
    rw [hd] at hdata
    cases hdata
  | some data =>
    by_cases hl : c.ListsAll
    · cases hk : c.answers.kill with
      | false =>
        have hr : c.loading = ⟨.ok false, told c.manager c.news.listing (c.manager.size + 1), []⟩ := by
          unfold loading loadSetup
          rw [hd]
          dsimp only
          rw [listing_of_listsAll hl]
          dsimp only
          rw [hk]
          rfl
        rw [hr]
        refine kept_of_messages (fun h => by cases h) (told_eq_receiveAll _ _ _) (fun k _ ht => ?_) hn (.inl rfl)
        have hkill := ht.2.2.1
        rw [hk] at hkill
        cases hkill
      | true =>
        rcases c.await_cases with ⟨k, hk4, hr, hdone, -⟩ | ⟨-, hw⟩ | ⟨k, hk4, hr, hdone, hpolls, s, hw⟩
        · exact absurd ⟨hk4, ⟨⟨data, hd⟩, hl, hk, hr⟩, hdone⟩ (h k)
        · rw [loading_eq hd hl hk, hw]
          exact kept_of_messages (fun h => by cases h) (c.before_eq_receiveAll 4)
            (fun j hj _ id hid => mem_before hid hj) hn (.inr rfl)
        · rw [loading_eq hd hl hk, hw]
          refine kept_of_messages (fun h => by cases h) ?_ (fun j _ ht id hid => ?_) hn (.inr rfl)
          · obtain ⟨messages, hb⟩ := c.before_eq_receiveAll k
            obtain ⟨messages', ht⟩ := told_eq_receiveAll (c.before k) (c.news.looking k) s
            exact ⟨messages ++ messages', by rw [← receiveAll_append, ← hb, ← ht]⟩
          · have hjk : j ≤ k := by
              by_contra hlt
              exact hpolls (ht.2.2.2 k (by omega)).2
            exact mem_told (mem_before hid hjk) s
    · obtain ⟨s, hs⟩ := listing_of_not_listsAll hl
      have hr : c.loading = ⟨.error .changedSize, told c.manager c.news.listing s, []⟩ := by
        unfold loading loadSetup
        rw [hd]
        dsimp only
        rw [hs]
      rw [hr]
      exact kept_of_messages (fun h => by cases h) (told_eq_receiveAll _ _ _) (fun k _ ht => absurd ht.2.1 hl) hn (.inl rfl)

theorem known_of_size (h : (c.forgotten k).size = 0) : c.known k = [] := by
  have hk : c.order.keys (c.forgotten k) = [] := List.eq_nil_of_length_eq_zero ((c.order.length_keys _).trans h)
  unfold known
  rw [hk]
  rfl

/-- Nothing is forgotten that was not known at the test exactly where nothing was heard of for the first time since. -/
theorem forgotten_subset_iff (c : LoadCall) (k : Nat) :
    (∀ id ∈ (c.forgotten k).cps, id ∈ (c.before k).cps) ↔ (c.forgotten k).size = (c.before k).size := by
  have hle : (c.before k).size ≤ (c.forgotten k).size := size_receiveAll _ _
  constructor
  · intro h
    have hsub := List.subperm_of_subset (c.forgotten k).cps.keys_nodup fun id hid => AList.mem_keys.1 (h id (AList.mem_keys.2 hid))
    exact Nat.le_antisymm hsub.length_le hle
  · intro h id hid
    have hsub := List.subperm_of_subset (c.before k).cps.keys_nodup fun id hid =>
      AList.mem_keys.1 (mem_receiveAll c.news.resetting (AList.mem_keys.2 hid))
    exact AList.mem_keys.2 ((hsub.perm_of_length_le (Nat.le_of_eq h)).mem_iff.2 (AList.mem_keys.1 hid))

theorem cleanState_nil (isConnected : Bool) : (cleanState isConnected []).2 = [] := by cases isConnected <;> rfl

/-- **What is forgotten and cleaned** is cleared. -/
theorem cleared_of_known (hf : Filed (c.forgotten k)) {r : Loading} (hp : ∀ x ∈ (cleanState true (c.known k)).2, x ∈ r.published)
    {id : String} {cp : ChargePoint} (hcp : (c.forgotten k).cps.lookup id = some cp) : Cleared r id cp := by
  have hid : cp.id = id := (hf id cp hcp).1
  have hmem : cp ∈ c.known k := by
    refine List.mem_filterMap.2 ⟨id, (c.order.perm _).mem_iff.2 (AList.mem_keys.1 ?_), hcp⟩
    exact AList.lookup_isSome.1 (by rw [hcp]; rfl)
  refine ⟨hp _ (List.mem_flatMap.2 ⟨cp, hmem, List.mem_append_right _ ?_⟩), fun con hcon =>
    hp _ (List.mem_flatMap.2 ⟨cp, hmem, List.mem_append_left _ (List.mem_map.2 ⟨con, AList.mem_keys.1 hcon, ?_⟩)⟩)⟩
  · rw [hid]
    exact List.mem_singleton.2 rfl
  · rw [hid]

theorem not_cleared {r : Loading} (hp : ∀ x ∈ r.published, x.2 ≠ .empty) (id : String) (cp : ChargePoint) :
    ¬Cleared r id cp := fun h => hp _ h.1 rfl

theorem payload_of_kill {isConnected : Bool} {ids : List String} {x : String × Payload}
    (h : x ∈ killChargePoints isConnected ids) : x.2 ≠ .empty := by
  unfold killChargePoints at h
  split at h
  · rw [List.mem_singleton.1 h]
    exact Payload.noConfusion
  · cases h

theorem payload_of_start {published : Bool} {chargePoints : Json} {x : String × Payload}
    (h : x ∈ newChargePoints published chargePoints) : x.2 ≠ .empty := by
  unfold newChargePoints at h
  split at h
  · rw [List.mem_singleton.1 h]
    exact Payload.noConfusion
  · cases h

/-- **With nothing to forget** the call starts the new fleet or does nothing. -/
theorem allOrNothing_of_size (hf : c.Forgets k) (h : (c.forgotten k).size = 0) : c.AllOrNothing := by
  obtain ⟨data, hd⟩ := hf.2.1.1
  have hempty := size_eq_zero_iff.1 h
  have hnone : ∀ id, id ∉ (c.forgotten k).cps := by
    intro id hid
    rw [hempty] at hid
    exact AList.notMem_empty id hid
  have kept : ∀ ret : Except LoopError Bool, ret ≠ .ok true →
      c.Kept ⟨ret, c.started, killChargePoints true (c.order.keys c.manager)⟩ := by
    intro ret hret
    refine kept_of_messages hret ?_ (fun j _ ht id hid => ?_) (fun j hj => ?_) (.inr rfl)
    · obtain ⟨messages, hm⟩ := c.before_eq_receiveAll k
      refine ⟨messages ++ c.news.resetting ++ c.news.starting, ?_⟩
      rw [← receiveAll_append, ← receiveAll_append, ← hm]
      exact congrArg (·.receiveAll c.news.starting) hempty.symm
    · have hjk : j ≤ k := by
        by_contra hlt
        exact (ht.2.2.2 k (by omega)).1 hf.2.2
      exact absurd (mem_receiveAll _ (mem_before hid hjk)) (hnone id)
    · rwa [Forgets.unique hj hf]
  unfold AllOrNothing
  cases hi : item data "charge_points" with
  | error e =>
    rw [loading_of_word hd hf hi, known_of_size h, cleanState_nil, List.append_nil]
    exact .inr (kept _ (fun h => by cases h))
  | ok chargePoints =>
    rw [loading_of_list hd hf hi, known_of_size h, cleanState_nil, List.append_nil]
    cases hs : c.answers.start with
    | false =>
      refine .inr ?_
      rw [show newChargePoints false chargePoints = [] from rfl, List.append_nil]
      exact kept _ (fun h => by cases h)
    | true =>
      refine .inl ⟨rfl, rfl, ⟨k, hf, fun id cp hcp => ?_⟩, data, chargePoints, hd, hi, List.getLast?_concat⟩
      exact absurd (AList.lookup_isSome.1 (Option.isSome_of_eq_some hcp)) (hnone id)

/-- **Without a connection nothing is cleared.** -/
theorem clean_of_cleared {data chargePoints : Json} (hd : setupData c.file = some data) (hf : c.Forgets k)
    (hi : item data "charge_points" = .ok chargePoints) {id : String} {cp : ChargePoint} (hc : Cleared c.loading id cp) :
    c.answers.clean = true := by
  by_contra hn
  rw [Bool.not_eq_true] at hn
  refine absurd hc (not_cleared (fun x hx => ?_) id cp)
  rw [loading_of_list hd hf hi, hn, show (cleanState false (c.known k)).2 = [] from rfl, List.append_nil] at hx
  rcases List.mem_append.1 hx with hx | hx
  · exact payload_of_kill hx
  · exact payload_of_start hx

/-- **With something to forget** it has to be known at the test, the connection has to last, and the file to have a
list. -/
theorem allOrNothing_iff_of_size (hf : c.Forgets k) (h : (c.forgotten k).size ≠ 0) (hfiled : Filed (c.forgotten k)) :
    c.AllOrNothing ↔
      (c.forgotten k).size = (c.before k).size ∧ c.answers.clean = true ∧ c.answers.start = true ∧ c.HasList := by
  obtain ⟨data, hd⟩ := hf.2.1.1
  have not_kept : ¬c.Kept c.loading := by
    rintro ⟨-, -, -, hn, -⟩
    exact h (hn k hf)
  have list_iff : c.HasList ↔ ∃ chargePoints, item data "charge_points" = .ok chargePoints := by
    rw [item_eq_ok_iff (hasChargePoints_of_setupData hd)]
    exact ⟨fun hl => hl data hd, fun hl data' hd' => by rwa [← Option.some.inj (hd.symm.trans hd')]⟩
  have known_of_mem : ∀ {id}, id ∈ (c.forgotten k).cps → ∃ cp, (c.forgotten k).cps.lookup id = some cp :=
    fun hid => Option.isSome_iff_exists.1 (AList.lookup_isSome.2 hid)
  unfold AllOrNothing
  rw [or_iff_left not_kept, list_iff, ← forgotten_subset_iff]
  constructor
  · rintro ⟨hret, -, ⟨j, hfj, hcl⟩, data', chargePoints, hd', hi, -⟩
    obtain rfl := Forgets.unique hfj hf
    obtain rfl := Option.some.inj (hd.symm.trans hd')
    have hsub : ∀ id ∈ (c.forgotten j).cps, id ∈ (c.before j).cps := by
      intro id hid
      obtain ⟨cp, hcp⟩ := known_of_mem hid
      exact (hcl id cp hcp).1
    obtain ⟨id, hid⟩ := List.exists_mem_of_length_pos (Nat.pos_of_ne_zero h)
    obtain ⟨cp, hcp⟩ := known_of_mem (AList.mem_keys.2 hid)
    have hclean := clean_of_cleared hd hf hi (hcl id cp hcp).2
    rw [loading_of_list hd hf hi] at hret
    exact ⟨hsub, hclean, Except.ok.inj hret, chargePoints, hi⟩
  · rintro ⟨hsub, hclean, hstart, chargePoints, hi⟩
    rw [loading_of_list hd hf hi, hclean, hstart]
    refine ⟨rfl, rfl, ⟨k, hf, fun id cp hcp => ⟨hsub id ?_, cleared_of_known hfiled (fun x hx => ?_) hcp⟩⟩, data,
      chargePoints, hd, hi, List.getLast?_concat⟩
    · exact AList.lookup_isSome.1 (Option.isSome_of_eq_some hcp)
    · exact List.mem_append_left _ (List.mem_append_right _ hx)

end LoadCall

/-- **A setup is loaded as a whole or not at all exactly where** the registry that is forgotten is empty, or was known at
the last test, the connection lasts and the file has a list. -/
theorem loading_all_or_nothing_iff (c : LoadCall) : c.AllOrNothing ↔ ∀ k, c.Forgets k → (c.forgotten k).size = 0 ∨
    ((c.forgotten k).size = (c.before k).size ∧ c.answers.clean = true ∧ c.answers.start = true ∧ c.HasList) := by
  by_cases hex : ∃ k, c.Forgets k
  · obtain ⟨k, hk⟩ := hex
    have hfiled : Filed (c.forgotten k) := by
      obtain ⟨messages, hm⟩ := c.before_eq_receiveAll k
      rw [LoadCall.forgotten, hm]
      exact (c.filed.receiveAll messages).receiveAll _
    have hall : (∀ j, c.Forgets j → (c.forgotten j).size = 0 ∨
          ((c.forgotten j).size = (c.before j).size ∧ c.answers.clean = true ∧ c.answers.start = true ∧ c.HasList)) ↔
        (c.forgotten k).size = 0 ∨
          ((c.forgotten k).size = (c.before k).size ∧ c.answers.clean = true ∧ c.answers.start = true ∧ c.HasList) := by
      refine ⟨fun h => h k hk, fun h j hj => ?_⟩
      rwa [LoadCall.Forgets.unique hj hk]
    rw [hall]
    by_cases hs : (c.forgotten k).size = 0
    · exact iff_of_true (LoadCall.allOrNothing_of_size hk hs) (.inl hs)
    · rw [or_iff_right hs]
      exact LoadCall.allOrNothing_iff_of_size hk hs hfiled
  · push Not at hex
    exact iff_of_true (.inr (LoadCall.kept_of_not_forgets hex)) (fun k hk => absurd hk (hex k))

theorem filed_lost : Filed (ChargePointManager.empty.receiveAll [(Wire.statusTopic "A", .json (sampleStatus "A").toJson)]) :=
  filed_empty.receiveAll _

/-- A charge point that says it is dead as soon as it is killed. -/
def lostCall : LoadCall where
  order := .listed
  answers := ⟨true, false, false⟩
  news := ⟨fun _ => [], [(Wire.statusTopic "A", .json { sampleStatus "A" with status := "Dead" }.toJson)], fun _ _ => [],
    fun _ => [], [], []⟩
  manager := ChargePointManager.empty.receiveAll [(Wire.statusTopic "A", .json (sampleStatus "A").toJson)]
  file := some (.json (.obj [("charge_points", .arr [])]))
  filed := filed_lost

/-- Where the connection is lost after the kill, the fleet is forgotten and no other is started. -/
example : lostCall.loading.ret.toOption = some false ∧ lostCall.manager.size = 1 ∧ lostCall.loading.manager.size = 0 ∧
    lostCall.loading.published.length = 1 := by decide +kernel

end Supervisor
