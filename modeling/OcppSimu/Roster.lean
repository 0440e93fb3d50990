import OcppSimu.Registry
/-!
# Roster — the launcher's two maps are the fold of what it was told

`m_cp_status` is written by every status message, `m_cp_pids` by those of a process that is alive, and both are erased
where a status is emptied; the lookups of the commands write `m_cp_status` too.  Together they answer one question: which
process, if any, the last status message of a charge point speaks of.  A `kill` sends its signal to that process as long
as a `pid_t` can hold its pid (`launcher_acts_iff`), and a `start` or a `restart` launches where there is none.
-/
namespace Launcher

open Access Hist Wire

/-! ## The last word of a charge point -/

/-- What a message says of a charge point: the process it is alive in, if it is. -/
def Message.tells (id : String) : Message → Option (Option Nat)
  | .status c s pid => if c = id then some (if s = "Dead" then none else some pid) else none
  | .empty c => if c = id then some none else none
  | _ => none

/-- **The process of the last status message**, where there is one that is neither empty nor `Dead`. -/
def alive (messages : List (String × Payload)) (id : String) : Option Nat :=
  (last (fun m => (Message.ofPayload m.1 m.2).tells id) messages.reverse).join

/-- The belief `a`, and a message. -/
def hear (a : String → Option Nat) (m : Message) (id : String) : Option Nat := (m.tells id).getD (a id)

theorem alive_append (messages : List (String × Payload)) (topic : String) (payload : Payload) :
    alive (messages ++ [(topic, payload)]) = hear (alive messages) (.ofPayload topic payload) := by
  funext id
  unfold alive hear
  rw [List.reverse_append, List.reverse_singleton, List.singleton_append, last_cons]
  cases Message.tells id (.ofPayload topic payload) with
  | none => rw [Option.none_or, Option.getD_none]
  | some w => rw [Option.some_or, Option.getD_some, Option.join_some]

theorem hear_of_tells {a : String → Option Nat} {m : Message} (h : ∀ id, m.tells id = none) : hear a m = a := by
  funext id
  rw [hear, h id, Option.getD_none]

/-- The signal for a listed element, `send` being what is made of its pid. -/
def signal (send : Nat → ℤ) (a : String → Option Nat) (e : Json) : Option Entry := do
  let id ← (member e "id").bind getString
  let pid ← a id
  pure (.killed id (send pid))

/-- A complete element, unless it has a process. -/
def wanted (a : String → Option Nat) (e : Json) : Option Parameters :=
  (Element.ofJson e).parameters.filter (fun p => (a p.id).isNone)

def Entry.launch : Entry → Option Parameters
  | .launched p _ => some p
  | _ => none

/-- The two maps hold the belief `a`. -/
structure Host.Tracks (h : Host) (a : String → Option Nat) : Prop where
  status : ∀ id, h.handler.cpStatus id = some true ↔ (a id).isSome = true
  pid : ∀ id p, a id = some p → h.handler.cpPids id = some p

namespace Host.Tracks

variable {sys : System} {h h' : Host} {a : String → Option Nat}

theorem of_handler (ht : h.Tracks a) (he : h'.handler = h.handler) : h'.Tracks a := by
  refine ⟨?_, ?_⟩
  · rw [he]
    exact ht.status
  · rw [he]
    exact ht.pid

/-- The lookup `m_cp_status[id]` makes an entry that says what no entry says. -/
theorem readStatus (ht : h.Tracks a) (id : String) : (h.readStatus id).Tracks a := by
  refine ⟨fun k => ?_, ht.pid⟩
  have hu : (h.readStatus id).handler.cpStatus =
      Function.update h.handler.cpStatus id (some ((h.handler.cpStatus id).getD false)) := rfl
  rw [← ht.status k, hu]
  by_cases hk : k = id
  · subst hk
    rw [Function.update_self]
    cases h.handler.cpStatus k <;> simp
  · rw [Function.update_of_ne hk]

theorem statusReceived (ht : h.Tracks a) (c s : String) (pid : Nat) :
    (h.statusReceived c s pid).Tracks (hear a (.status c s pid)) := by
  have hu : (h.statusReceived c s pid).handler.cpStatus = Function.update h.handler.cpStatus c (some (decide (s ≠ "Dead"))) := rfl
  have hp : (h.statusReceived c s pid).handler.cpPids =
      if decide (s ≠ "Dead") = true then Function.update h.handler.cpPids c (some pid) else h.handler.cpPids := rfl
  unfold hear Message.tells
  refine ⟨fun k => ?_, fun k p ha => ?_⟩
  · rw [hu]
    by_cases hk : c = k
    · by_cases hs : s = "Dead" <;> simp [hk, hs]
    · simpa [hk, Ne.symm hk] using ht.status k
  · rw [hp]
    by_cases hk : c = k
    · by_cases hs : s = "Dead"
      · simp [hk, hs] at ha
      · simpa [hk, hs] using ha
    · have hp' := ht.pid k p (by simpa [hk] using ha)
      by_cases hs : s = "Dead"
      · simpa [hs] using hp'
      · simpa [hs, Ne.symm hk] using hp'

theorem removeChargePoint (ht : h.Tracks a) (c : String) : (h.removeChargePoint c).Tracks (hear a (.empty c)) := by
  unfold Host.removeChargePoint Host.clear hear Message.tells
  refine ⟨fun k => ?_, fun k p hp => ?_⟩
  · by_cases hk : c = k
    · simp [hk]
    · simpa [hk, Ne.symm hk] using ht.status k
  · by_cases hk : c = k
    · simp [hk] at hp
    · have hp' := ht.pid k p (by simpa [hk] using hp)
      simpa [Ne.symm hk] using hp'

/-! ### The loops of the commands -/

/-- **A loop of which each round keeps the belief**, and adds what comes of its element to a list. -/
theorem foldl {β : Type} (view : Host → List β) {out : Element → Option β} {act : Host → Element → Host}
    (one : ∀ (h : Host) (e : Element), h.Tracks a → (act h e).Tracks a ∧ view (act h e) = (out e).toList ++ view h)
    (ht : h.Tracks a) (l : List Element) :
    (l.foldl act h).Tracks a ∧ view (l.foldl act h) = (l.filterMap out).reverse ++ view h := by
  induction l generalizing h with
  | nil => exact ⟨ht, rfl⟩
  | cons e l ih =>
    obtain ⟨ht', hl⟩ := one h e ht
    obtain ⟨ih, ihl⟩ := ih ht'
    refine ⟨ih, ?_⟩
    rw [List.foldl_cons, ihl, hl]
    cases hw : out e with
    | none => simp [hw]
    | some w => simp [hw]

variable (sys) in
/-- **One element of a `kill`** keeps the belief, and is signalled where it is believed to have a process. -/
theorem killChargePoint (ht : h.Tracks a) (e : Element) : (h.killChargePoint sys e).1.Tracks a ∧
    (h.killChargePoint sys e).1.log = (e.id.bind (fun id => (a id).map (fun p => Entry.killed id (toPid p)))).toList ++ h.log := by
  unfold Host.killChargePoint
  cases e.id with
  | none => exact ⟨ht, rfl⟩
  | some id =>
    have hr := ht.readStatus id
    dsimp only
    cases hp : h.handler.cpPids id with
    | none =>
      have ha : a id = none := by
        cases ha : a id with
        | none => rfl
        | some p =>
          rw [ht.pid id p ha] at hp
          cases hp
      refine ⟨ht, ?_⟩
      rw [Option.bind_some, ha]
      rfl
    | some pid =>
      dsimp only
      by_cases hs : (h.readStatus id).handler.cpStatus id = some true
      · obtain ⟨p, ha⟩ := Option.isSome_iff_exists.1 ((hr.status id).1 hs)
        obtain rfl : p = pid := Option.some.inj ((ht.pid id p ha).symm.trans hp)
        rw [if_pos hs, Option.bind_some, ha]
        exact ⟨hr.of_handler rfl, rfl⟩
      · have ha : a id = none := by
          rw [← Option.not_isSome_iff_eq_none]
          exact fun ha => hs ((hr.status id).2 ha)
        rw [if_neg hs, Option.bind_some, ha]
        exact ⟨hr, rfl⟩

theorem killChargePoints (ht : h.Tracks a) (l : List Element) : (h.killChargePoints sys l).1.Tracks a ∧
    (h.killChargePoints sys l).1.log =
      (l.filterMap (fun e => e.id.bind (fun id => (a id).map (fun p => Entry.killed id (toPid p))))).reverse ++ h.log := by
  rw [killChargePoints_fst]
  exact ht.foldl Host.log (fun h e ht => ht.killChargePoint sys e) l

variable (sys) in
/-- **One element of a `start`** keeps the maps, and is launched where it is believed to have no process. -/
theorem startChargePoint (ht : h.Tracks a) (cleanEnv : Bool) (e : Element) :
    (h.startChargePoint sys cleanEnv e).1.Tracks a ∧ (h.startChargePoint sys cleanEnv e).1.log.filterMap Entry.launch =
      (e.parameters.filter (fun p => (a p.id).isNone)).toList ++ h.log.filterMap Entry.launch := by
  unfold Host.startChargePoint
  cases e.parameters with
  | none => exact ⟨ht, rfl⟩
  | some p =>
    dsimp only
    have hn : (a p.id).isNone = true ↔ h.handler.cpStatus p.id = none ∨ h.handler.cpStatus p.id = some false := by
      rw [← Option.not_isSome, Bool.not_eq_true', ← Bool.not_eq_true, ← ht.status p.id]
      cases h.handler.cpStatus p.id with
      | none => simp
      | some b => cases b <;> simp
    rw [Host.handler_note]
    by_cases hs : h.handler.cpStatus p.id = none ∨ h.handler.cpStatus p.id = some false
    · rw [if_pos hs, Option.filter_some, if_pos (hn.2 hs)]
      cases cleanEnv <;> exact ⟨ht.of_handler rfl, rfl⟩
    · rw [if_neg hs, Option.filter_some, if_neg (fun h' => hs (hn.1 h'))]
      exact ⟨ht.of_handler rfl, rfl⟩

theorem startChargePoints (ht : h.Tracks a) (cleanEnv : Bool) (l : List Element) :
    (h.startChargePoints sys cleanEnv l).1.Tracks a ∧ (h.startChargePoints sys cleanEnv l).1.log.filterMap Entry.launch =
      (l.filterMap (fun e => e.parameters.filter (fun p => (a p.id).isNone))).reverse ++ h.log.filterMap Entry.launch := by
  rw [startChargePoints_fst]
  exact ht.foldl (fun h => h.log.filterMap Entry.launch) (fun h e ht => ht.startChargePoint sys cleanEnv e) l

/-! ### Runs -/

variable (sys) in
/-- **One message** brings the belief up to date. -/
theorem mqttMessageReceived (ht : h.Tracks a) (m : Message) : (h.mqttMessageReceived sys m).Tracks (hear a m) := by
  have silent : (∀ id, m.tells id = none) → ∀ {h' : Host}, h'.Tracks a → h'.Tracks (hear a m) := by
    intro hm h' h
    rwa [hear_of_tells hm]
  cases m with
  | close => exact silent (fun _ => rfl) ⟨ht.status, ht.pid⟩
  | start l => exact silent (fun _ => rfl) (ht.startChargePoints true l).1
  | kill l => exact silent (fun _ => rfl) (ht.killChargePoints l).1
  | restart l => exact silent (fun _ => rfl) (ht.startChargePoints false l).1
  | status c s pid => exact ht.statusReceived c s pid
  | empty c => exact ht.removeChargePoint c
  | other => exact silent (fun _ => rfl) ht

/-- **What a `kill` does** with the belief. -/
theorem killJson (ht : h.Tracks a) {l : List Json} {b : Bool} (hk : h.killJson sys l = .ok (h', b)) :
    h'.log = (l.filterMap (signal toPid a)).reverse ++ h.log := by
  obtain ⟨-, rfl⟩ := killJson_eq_ok_iff.1 ⟨b, hk⟩
  rw [(ht.killChargePoints _).2, List.filterMap_filterMap]
  congr 3
  funext e
  unfold named signal
  cases (member e "id").bind getString with
  | none => rfl
  | some id => cases ha : a id <;> simp [ha]

theorem startJson (ht : h.Tracks a) {cleanEnv : Bool} {l : List Json} {b : Bool}
    (hs : h.startJson sys cleanEnv l = .ok (h', b)) :
    h'.log.filterMap Entry.launch = (l.filterMap (wanted a)).reverse ++ h.log.filterMap Entry.launch := by
  obtain ⟨-, rfl⟩ := startJson_eq_ok_iff.1 ⟨b, hs⟩
  rw [(ht.startChargePoints cleanEnv _).2, List.filterMap_filterMap]
  congr 3
  funext e
  unfold element wanted
  cases hp : (Element.ofJson e).parameters <;> simp [hp]

end Host.Tracks

open Registry in
/-- **A launcher holds what the messages so far have said.** -/
theorem Host.Tracks.launcherAfter (sys : System) {h : Host} (hh : h.handler = {}) {messages : List (String × Payload)}
    (hr : ∀ m ∈ messages, Readable m.1 m.2) :
    ∃ h', launcherAfter sys h messages = .ok h' ∧ h'.Tracks (alive messages) := by
  induction messages using List.reverseRecOn with
  | nil => exact ⟨h, rfl, fun id => by rw [hh]; simp [alive], fun id p ha => by cases ha⟩
  | append_singleton messages m ih =>
    obtain ⟨h', hl, ht⟩ := ih (fun x hx => hr x (List.mem_append_left _ hx))
    have hm := hr m (List.mem_append_right _ (List.mem_singleton.2 rfl))
    unfold Registry.launcherAfter at hl ⊢
    rw [List.foldlM_append, hl, alive_append]
    refine ⟨_, bind_eq_ok_iff.2 ⟨h', rfl, bind_eq_ok_iff.2 ⟨_, Host.receive_eq_ok_iff.2 ⟨hm, rfl⟩, rfl⟩⟩, ?_⟩
    exact ht.mqttMessageReceived sys _

end Launcher
