import OcppSimu.Launcher
import OcppSimu.MqttClient
import OcppSimu.Vouching
/-!
# Presence — the launcher's connection to the broker, and what the broker shows of it

`main` connects, subscribes, publishes that it is alive and waits; when the connection breaks it starts again, and when
it was told to end it publishes that it is dead.  The broker shows the last word that arrived, or the will once it lost
the connection.  What arrives is not what the library answers, the connection breaks at any moment, either side sees it
late, and the messages come between any two steps.  What the broker shows is vouched for all the same, except after one
ending (`presence_vouched`).
-/
namespace Launcher

open Paho Vouching

def CHARGE_POINTS_TOPIC : String := "cp_simu/cps/"

def LAUNCHER_CMD_TOPIC : String := "cp_simu/launcher/cmd"

def LAUNCHER_STATUS_TOPIC : String := "cp_simu/launcher/status"

/-- What becomes of a step: what the library answers, and whether what it sends arrives. -/
structure Answers where
  created : Bool
  success : Bool
  completed : Bool
  arrives : Bool

/-- What the broker saw of the launcher, newest first. -/
inductive Mark
  | opened
  | said (message : String) (arrived : Bool)
  | left (arrived : Bool)

/-- **The broker and the connection**: `link` is whether it is whole, `up` whether the library takes it to be. -/
structure Line where
  server : Server String String
  link : Bool := false
  up : Bool := false
  marks : List Mark := []

namespace Line

/-- What a will leaves on the broker. -/
def kept (will : Option Will) : Option (String × String) :=
  will.bind fun w => if w.retained then some (w.topic, w.message) else none

def react (arrives : Bool) (l : Line) : Call → Line
  | .connect _ _ _ _ will success =>
    if success || arrives then
      ⟨l.server.accept (kept will), success, success, if success then .opened :: l.marks else l.marks⟩
    else l
  | .publish _ topic message _ retained _ =>
    let arrived := arrives && l.link
    { l with
      server := if arrived && retained then l.server.publish topic message else l.server
      marks := .said message arrived :: l.marks }
  | .subscribe _ topic _ success =>
    if (success || arrives) && l.link then { l with server := l.server.subscribe topic } else l
  | .disconnect _ =>
    let arrived := arrives && l.link
    ⟨if arrived then l.server.takeLeave else l.server, false, false, .left arrived :: l.marks⟩
  | _ => l

theorem eq_of_down {l : Line} (h : l.link = false ∧ l.up = false) : l = ⟨l.server, false, false, l.marks⟩ := by
  cases l
  obtain ⟨rfl, rfl⟩ := h
  rfl

/-- The line after the calls made since, newest first. -/
def hear (arrives : Bool) (l : Line) (calls : List Call) : Line := calls.foldr (fun e l => l.react arrives e) l

end Line

/-- Where `main` is, from the will on. -/
inductive Pc
  | setWill | connect | subscribeStatus | subscribeCmd | alive | ready | report | retry | close | farewell | loopTest
  | release | released
  deriving DecidableEq

structure Main where
  pc : Pc := .setWill
  url : String
  mqtt : PahoMqttClient
  host : Host
  line : Line

namespace Main

def isEndOfApplication (s : Main) : Bool := s.host.handler.ended

/-- The client is now `c`, and the line reacts to what it called. -/
def becomes (s : Main) (arrives : Bool) (c : PahoMqttClient) : Main :=
  { s with mqtt := c, line := s.line.hear arrives (c.calls.take (c.calls.length - s.mqtt.calls.length)) }

/-- A request, and where it leads when it succeeds and when it does not. -/
def request (s : Main) (arrives : Bool) (r : Request) (yes no : Pc) : Main :=
  { s.becomes arrives (s.mqtt.step r).1 with pc := if (s.mqtt.step r).2 then yes else no }

/-- **One step of `main`.**  Over a connection that broke nothing succeeds that needs an answer; what only needs to be
sent does until the library sees it. -/
def step (s : Main) (a : Answers) : Main :=
  match s.pc with
  | .setWill => s.request a.arrives (.setWill ⟨LAUNCHER_STATUS_TOPIC, "Dead", .qos0, true⟩) .connect .connect
  | .connect => s.request a.arrives (.connect s.url true 1 10 a.created a.success) .subscribeStatus .retry
  | .subscribeStatus =>
    s.request a.arrives (.subscribe (CHARGE_POINTS_TOPIC ++ "+/status") .qos0 (a.success && s.line.link))
      .subscribeCmd .retry
  | .subscribeCmd => s.request a.arrives (.subscribe LAUNCHER_CMD_TOPIC .qos0 (a.success && s.line.link)) .alive .retry
  | .alive =>
    s.request a.arrives (.publish LAUNCHER_STATUS_TOPIC "Alive" .qos0 true (a.success && s.line.up) a.completed)
      .ready .ready
  | .ready =>
    if s.isEndOfApplication then { s with pc := .report } else s.request a.arrives (.isConnected s.line.up) .ready .report
  -- "Disconnected, next retry in 5s..." is printed or not
  | .report => s.request a.arrives (.isConnected s.line.up) .retry .retry
  -- a message may still come before what the test leads to
  | .retry => { s with pc := if s.isEndOfApplication then .farewell else .close }
  | .close => s.request a.arrives .close .loopTest .loopTest
  | .farewell =>
    s.request a.arrives (.publish LAUNCHER_STATUS_TOPIC "Dead" .qos0 true (a.success && s.line.up) a.completed)
      .loopTest .loopTest
  | .loopTest => { s with pc := if s.isEndOfApplication then .release else .connect }
  | .release => { s.becomes a.arrives s.mqtt.delete with pc := .released }
  | .released => s

end Main

/-- What happens: a step of `main`, a message, the connection breaks, the library or the broker sees that it did. -/
inductive Happening
  | step (a : Answers)
  | message (m : Message)
  | cut
  | noticed
  | lost

namespace Main

def happens (sys : System) (s : Main) : Happening → Main
  | .step a => s.step a
  | .message m => { s with host := s.host.mqttMessageReceived sys m }
  | .cut => { s with line := { s.line with link := false } }
  | .noticed => if s.line.link then s else { s with line := { s.line with up := false } }
  | .lost => if s.line.link then s else { s with line := { s.line with server := s.line.server.lose } }

def run (sys : System) (s : Main) (happenings : List Happening) : Main := happenings.foldl (happens sys) s

/-- `main` before it sets its will. -/
def start (url : String) (host : Host) (server : Server String String) : Main where
  url
  mqtt := { id := "OCPP charge point simulator launcher" }
  host
  line := { server }

end Main

/-! ## What the broker is left with -/

/-- The last word that arrived on this connection is that the launcher is alive. -/
def loud : List Mark → Bool
  | .said m true :: _ => decide (m = "Alive")
  | .said _ false :: l => loud l
  | _ => false

/-- **The launcher took its leave** after the news of its end did not arrive and the news of its start did. -/
def forgets : List Mark → Bool
  | .left true :: .said m false :: .said n true :: _ => decide (m = "Dead") && decide (n = "Alive")
  | _ => false

def Listens (l : Line) (t : String) : Prop := ∃ c, l.server.session = some c ∧ t ∈ c.topics

/-- **What the broker shows is vouched for**; over a whole connection it is what arrived last, and a launcher that is
shown alive gets the messages. -/
structure Fits (l : Line) : Prop where
  up : l.link = true → l.up = true
  vouched : Vouched LAUNCHER_STATUS_TOPIC "Dead" l.server
  session : l.link = true → ∃ c, l.server.session = some c ∧ c.will = some (LAUNCHER_STATUS_TOPIC, "Dead")
  loud : l.link = true → loud l.marks = true → l.server.kept LAUNCHER_STATUS_TOPIC = some "Alive" ∧
    Listens l (CHARGE_POINTS_TOPIC ++ "+/status") ∧ Listens l LAUNCHER_CMD_TOPIC
  quiet : l.link = true → Launcher.loud l.marks = false → Settled LAUNCHER_STATUS_TOPIC "Dead" l.server

namespace Fits

variable {l : Line}

/-- A line that is not whole need only be vouched for. -/
theorem down (hl : l.link = false) (hv : Vouched LAUNCHER_STATUS_TOPIC "Dead" l.server) : Fits l where
  up h := by rw [hl] at h; cases h
  vouched := hv
  session h := by rw [hl] at h; cases h
  loud h := by rw [hl] at h; cases h
  quiet h := by rw [hl] at h; cases h

/-- **A connection that is made** finds the topic settled. -/
theorem opened (h : Fits l) :
    Fits ⟨l.server.accept (some (LAUNCHER_STATUS_TOPIC, "Dead")), true, true, .opened :: l.marks⟩ where
  up _ := rfl
  vouched := h.vouched.accept fun y hy => (congrArg Prod.snd (Option.some.inj hy)).symm
  session _ := ⟨_, rfl, rfl⟩
  loud _ h := by cases h
  quiet _ _ := h.vouched.lose

theorem Listens.subscribe {l : Line} {u : String} (h : Listens l u) (t : String) :
    Listens { l with server := l.server.subscribe t } u := by
  obtain ⟨c, hc, hu⟩ := h
  exact ⟨_, congrArg (Option.map _) hc, List.mem_cons_of_mem t hu⟩

/-- **A subscription** that was accepted over a whole line is one. -/
theorem subscribes (h : Fits l) (arrives : Bool) (n : Nat) (t : String) (success : Bool) :
    ∃ server, l.react arrives (.subscribe n t .qos0 success) = { l with server } ∧ Fits { l with server } ∧
      (∀ u, Listens l u → Listens { l with server } u) ∧ (success = true → l.link = true → Listens { l with server } t) := by
  have he : l.react arrives (.subscribe n t .qos0 success) =
      if (success || arrives) && l.link then { l with server := l.server.subscribe t } else l := rfl
  rw [he]
  split
  next =>
    refine ⟨l.server.subscribe t, rfl, ⟨h.up, h.vouched.subscribe t, fun hl => ?_, fun hl hm => ?_, h.quiet⟩,
      fun u hu => Listens.subscribe hu t, fun _ hl => ?_⟩
    · obtain ⟨c, hc, hw⟩ := h.session hl
      exact ⟨_, congrArg (Option.map _) hc, hw⟩
    · obtain ⟨hk, ht, ht'⟩ := h.loud hl hm
      exact ⟨hk, Listens.subscribe ht t, Listens.subscribe ht' t⟩
    · obtain ⟨c, hc, -⟩ := h.session hl
      exact ⟨_, congrArg (Option.map _) hc, List.mem_cons_self⟩
  next hn => exact ⟨l.server, rfl, h, fun _ => id, fun hs hl => absurd (by simp [hs, hl]) hn⟩

/-- **The launcher says how it is.** -/
theorem said (h : Fits l) (arrives : Bool) {m : String} (hm : m = "Dead" ∨ m = "Alive" ∧
      (l.link = true → Listens l (CHARGE_POINTS_TOPIC ++ "+/status") ∧ Listens l LAUNCHER_CMD_TOPIC))
    (n : Nat) (success : Bool) : Fits (l.react arrives (.publish n LAUNCHER_STATUS_TOPIC m .qos0 true success)) := by
  cases hl : l.link with
  | false =>
    have he : l.react arrives (.publish n LAUNCHER_STATUS_TOPIC m .qos0 true success) =
        { l with marks := .said m false :: l.marks } := by simp [Line.react, hl]
    rw [he]
    exact down hl h.vouched
  | true =>
    obtain ⟨c, hc, hw⟩ := h.session hl
    cases arrives with
    | false =>
      have he : l.react false (.publish n LAUNCHER_STATUS_TOPIC m .qos0 true success) =
          { l with marks := .said m false :: l.marks } := by simp [Line.react]
      rw [he]
      exact ⟨h.up, h.vouched, h.session, h.loud, h.quiet⟩
    | true =>
      have he : l.react true (.publish n LAUNCHER_STATUS_TOPIC m .qos0 true success) =
          { l with server := l.server.publish LAUNCHER_STATUS_TOPIC m, marks := .said m true :: l.marks } := by
        simp [Line.react, hl]
      rw [he]
      refine ⟨h.up, h.vouched.publish hc hw m, fun _ => ⟨c, hc, hw⟩, fun _ hd => ?_, fun _ hd => ?_⟩
      · rcases hm with rfl | ⟨rfl, ht⟩
        · exact absurd hd (by simp [Launcher.loud])
        · exact ⟨Server.kept_publish_self .., ht hl⟩
      · rcases hm with rfl | ⟨rfl, -⟩
        · exact settled_publish _ _ _
        · exact absurd hd (by simp [Launcher.loud])

/-- A launcher that takes its leave in silence leaves the topic settled. -/
theorem left (h : Fits l) {arrives : Bool} (hm : (arrives && l.link) = true → Launcher.loud l.marks = false) (n : Nat) :
    Fits (l.react arrives (.disconnect n)) := by
  refine down rfl ?_
  show Vouched _ _ (if (arrives && l.link) = true then l.server.takeLeave else l.server)
  split
  next ha => exact (h.quiet (Bool.and_eq_true_iff.1 ha).2 (hm ha)).leave
  next => exact h.vouched

end Fits

def Opened (marks : List Mark) : Prop := ∃ l, marks = .opened :: l

def Announced (marks : List Mark) : Prop := ∃ b l, marks = .said "Alive" b :: .opened :: l

/-- **What a whole connection has seen** when `main` is at `pc`, and whether it was told to end. -/
def Stage (ended : Bool) (l : Line) : Pc → Prop
  | .subscribeStatus => Opened l.marks
  | .subscribeCmd => Opened l.marks ∧ Listens l (CHARGE_POINTS_TOPIC ++ "+/status")
  | .alive => Opened l.marks ∧ Listens l (CHARGE_POINTS_TOPIC ++ "+/status") ∧ Listens l LAUNCHER_CMD_TOPIC
  | .ready => Announced l.marks
  | .report => ended = true ∧ Announced l.marks
  | .retry => Opened l.marks ∨ ended = true ∧ Announced l.marks
  | .close => Opened l.marks
  | .farewell => ended = true ∧ (Opened l.marks ∨ Announced l.marks)
  | .loopTest | .release => ended = true ∧ ∃ b m, l.marks = .said "Dead" b :: m ∧ (Opened m ∨ Announced m)
  | .setWill | .connect | .released => False

/-- **A launcher forgets** when it leaves while its word is still that it is alive. -/
theorem forgets_left {b : Bool} {l : List Mark} (h : Opened l ∨ Announced l) :
    forgets (.left true :: .said "Dead" b :: l) = loud (.said "Dead" b :: l) := by
  cases b with
  | true => rcases h with ⟨_, rfl⟩ | ⟨_, _, rfl⟩ <;> simp [forgets, loud]
  | false =>
    rcases h with ⟨_, rfl⟩ | ⟨b, _, rfl⟩
    · rfl
    · cases b <;> simp [forgets, loud]

theorem Stage.mono {ended ended' : Bool} {l : Line} {pc : Pc} (he : ended = true → ended' = true) (h : Stage ended l pc) :
    Stage ended' l pc := by
  cases pc with
  | report | farewell | loopTest | release => exact ⟨he h.1, h.2⟩
  | retry => exact h.imp id fun h => ⟨he h.1, h.2⟩
  | _ => exact h

/-- Where `main` has no client. -/
def Pc.closed (ended : Bool) : Pc → Bool
  | .setWill | .connect | .released => true
  | .loopTest => !ended
  | _ => false

/-- Where `main` goes once it was told to end, and not before. -/
def Pc.final : Pc → Bool
  | .farewell | .release | .released => true
  | _ => false

/-- Where `main` may have a client, and stays in the loop. -/
def Pc.Amid (ended : Bool) (pc : Pc) : Prop := pc.closed ended = false ∧ pc.final = false

/-- The will is the one that was set. -/
def Willed (c : PahoMqttClient) : Prop :=
  ∃ w, c.will = some w ∧ w.will = ⟨LAUNCHER_STATUS_TOPIC, "Dead", .qos0, true⟩

/-- **`main` between two steps**, unless it took its leave without a word. -/
structure Working (s : Main) : Prop where
  fits : Fits s.line
  quiet : forgets s.line.marks = false
  idle : s.mqtt.client = none → s.line.link = false ∧ s.line.up = false
  closed : s.pc.closed s.isEndOfApplication = true → s.mqtt.client = none
  final : s.pc.final = true → s.isEndOfApplication = true
  will : s.pc ≠ .setWill → s.pc ≠ .released → Willed s.mqtt
  stage : s.line.link = true → Stage s.isEndOfApplication s.line s.pc

/-- It did, and nobody speaks for it. -/
structure Gone (s : Main) : Prop where
  pc : s.pc = .released
  ended : s.isEndOfApplication = true
  link : s.line.link = false
  up : s.line.up = false
  forgets : forgets s.line.marks = true
  session : s.line.server.session = none
  kept : s.line.server.kept LAUNCHER_STATUS_TOPIC = some "Alive"

theorem Gone.not_vouched {s : Main} (h : Gone s) : ¬ Vouched LAUNCHER_STATUS_TOPIC "Dead" s.line.server := fun hv => by
  rcases hv.kept _ h.kept with he | ⟨c, hc, -⟩
  · exact absurd he (by decide)
  · rw [h.session] at hc
    cases hc

/-! ## One step -/

@[simp] theorem cString_status : cString LAUNCHER_STATUS_TOPIC = LAUNCHER_STATUS_TOPIC := by decide
@[simp] theorem cString_dead : cString "Dead" = "Dead" := by decide
@[simp] theorem cString_cmd : cString LAUNCHER_CMD_TOPIC = LAUNCHER_CMD_TOPIC := by decide
@[simp] theorem cString_chargePoints :
    cString (CHARGE_POINTS_TOPIC ++ "+/status") = CHARGE_POINTS_TOPIC ++ "+/status" := by decide

namespace Main

variable {s : Main}

theorem becomes_calls (arrives : Bool) {c : PahoMqttClient} {calls : List Call} (h : c.calls = calls ++ s.mqtt.calls) :
    s.becomes arrives c = { s with mqtt := c, line := s.line.hear arrives calls } := by
  simp [becomes, h]

/-- A request that the library was asked nothing for. -/
theorem request_refused (arrives : Bool) {r : Request} (yes no : Pc) (h : s.mqtt.step r = (s.mqtt, false)) :
    s.request arrives r yes no = { s with pc := no } := by
  simp [request, becomes, h, Line.hear]

theorem request_calls (arrives : Bool) {r : Request} (yes no : Pc) (calls : List Call) {c : PahoMqttClient} {b : Bool}
    (h : s.mqtt.step r = (c, b)) (hc : c.calls = calls ++ s.mqtt.calls) :
    s.request arrives r yes no =
      { s with pc := if b then yes else no, mqtt := c, line := s.line.hear arrives calls } := by
  unfold request
  rw [h, becomes_calls arrives hc]

/-- **What is said over a client** is one call that the line hears. -/
theorem request_publish (arrives : Bool) (m : String) (success completed : Bool) (pc : Pc) {n : Nat}
    (hc : s.mqtt.client = some n) : ∃ c : PahoMqttClient, c.client = some n ∧ c.will = s.mqtt.will ∧
      s.request arrives (.publish LAUNCHER_STATUS_TOPIC m .qos0 true success completed) pc pc =
        { s with
          pc := pc, mqtt := c
          line := s.line.react arrives (.publish n LAUNCHER_STATUS_TOPIC m .qos0 true success) } := by
  let c := s.mqtt.note (.publish n LAUNCHER_STATUS_TOPIC m .qos0 true success)
  cases success with
  | true =>
    have hr : s.mqtt.step (.publish LAUNCHER_STATUS_TOPIC m .qos0 true true completed) =
        (c.note (.waitForCompletion n completed), completed) := by
      simp [c, PahoMqttClient.step, PahoMqttClient.publish, hc]
    refine ⟨c.note (.waitForCompletion n completed), hc, rfl, (request_calls arrives pc pc [_, _] hr rfl).trans ?_⟩
    simp only [ite_self]
    rfl
  | false =>
    have hr : s.mqtt.step (.publish LAUNCHER_STATUS_TOPIC m .qos0 true false completed) = (c, false) := by
      simp [c, PahoMqttClient.step, PahoMqttClient.publish, hc]
    exact ⟨c, hc, rfl, request_calls arrives pc pc [_] hr rfl⟩

theorem request_subscribe (arrives : Bool) {t : String} (ht : cString t = t) (success : Bool) (yes no : Pc) {n : Nat}
    (hc : s.mqtt.client = some n) : ∃ c : PahoMqttClient, c.client = some n ∧ c.will = s.mqtt.will ∧
      s.request arrives (.subscribe t .qos0 success) yes no =
        { s with
          pc := if success then yes else no, mqtt := c
          line := s.line.react arrives (.subscribe n t .qos0 success) } := by
  have hr : s.mqtt.step (.subscribe t .qos0 success) = (s.mqtt.note (.subscribe n t .qos0 success), success) := by
    simp [PahoMqttClient.step, PahoMqttClient.subscribe, hc, ht]
  exact ⟨s.mqtt.note (.subscribe n t .qos0 success), hc, rfl, request_calls arrives yes no [_] hr rfl⟩

theorem request_isConnected (arrives answer : Bool) (yes no : Pc) {n : Nat} (hc : s.mqtt.client = some n) :
    ∃ c : PahoMqttClient, c.client = some n ∧ c.will = s.mqtt.will ∧
      s.request arrives (.isConnected answer) yes no = { s with pc := if answer then yes else no, mqtt := c } := by
  have hr : s.mqtt.step (.isConnected answer) = (s.mqtt.note (.isConnected n answer), answer) := by
    simp [PahoMqttClient.step, PahoMqttClient.isConnected, hc]
  exact ⟨s.mqtt.note (.isConnected n answer), hc, rfl, request_calls arrives yes no [_] hr rfl⟩

theorem request_close (arrives : Bool) (pc : Pc) {n : Nat} (hc : s.mqtt.client = some n) :
    ∃ c : PahoMqttClient, c.client = none ∧ c.will = s.mqtt.will ∧
      s.request arrives .close pc pc = { s with pc := pc, mqtt := c, line := s.line.react arrives (.disconnect n) } := by
  let c : PahoMqttClient := { (s.mqtt.note (.disconnect n)).note (.destroy n) with client := none, url := "" }
  have hr : s.mqtt.step .close = (c, true) := by
    simp [c, PahoMqttClient.step, PahoMqttClient.close, hc]
  exact ⟨c, rfl, rfl, request_calls arrives pc pc [_, _] hr rfl⟩

/-- The will as the broker keeps it. -/
theorem kept_read {w : StoredWill} (hw : w.will = ⟨LAUNCHER_STATUS_TOPIC, "Dead", .qos0, true⟩) :
    Line.kept (some (PahoMqttClient.StoredWill.read w)) = some (LAUNCHER_STATUS_TOPIC, "Dead") := by
  simp [Line.kept, PahoMqttClient.StoredWill.read, hw]

/-- What the library is asked for a connection, up to its answer. -/
def tried (c : PahoMqttClient) (url : String) (w : StoredWill) (success : Bool) : List Call :=
  [.connect c.handles true 1 10 (some (PahoMqttClient.StoredWill.read w)) success, .reads w.message, .reads w.topicName,
    .setCallbacks c.handles, .create c.handles (cString url) (cString c.id)]

/-- **A connection is made**: a client, and a whole line. -/
theorem request_connect (arrives : Bool) (yes no : Pc) {w : StoredWill} (hc : s.mqtt.client = none)
    (hw : s.mqtt.will = some w) (hw' : w.will = ⟨LAUNCHER_STATUS_TOPIC, "Dead", .qos0, true⟩) :
    ∃ c : PahoMqttClient, c.client = some s.mqtt.handles ∧ c.will = s.mqtt.will ∧
      s.request arrives (.connect s.url true 1 10 true true) yes no = { s with
        pc := yes, mqtt := c
        line := ⟨s.line.server.accept (some (LAUNCHER_STATUS_TOPIC, "Dead")), true, true, .opened :: s.line.marks⟩ } := by
  let calls := tried s.mqtt s.url w true
  let c : PahoMqttClient := { s.mqtt with
    url := s.url, client := some s.mqtt.handles, handles := s.mqtt.handles + 1, calls := calls ++ s.mqtt.calls }
  have hr : s.mqtt.step (.connect s.url true 1 10 true true) = (c, true) := by
    simp [c, calls, tried, PahoMqttClient.step, PahoMqttClient.connect, hc, PahoMqttClient.connectHandle, hw,
      PahoMqttClient.note]
  refine ⟨c, rfl, rfl, (request_calls arrives yes no calls hr rfl).trans ?_⟩
  rw [← kept_read hw']
  rfl

/-- **No connection is made**, though the broker may have heard of the client. -/
theorem request_connect_failed (arrives : Bool) {created success : Bool} (ha : ¬ (created = true ∧ success = true))
    (yes no : Pc) {w : StoredWill} (hc : s.mqtt.client = none) (hw : s.mqtt.will = some w)
    (hw' : w.will = ⟨LAUNCHER_STATUS_TOPIC, "Dead", .qos0, true⟩)
    (hl : s.line.link = false ∧ s.line.up = false) :
    ∃ (c : PahoMqttClient) (server : Server String String) (marks : List Mark), c.client = none ∧ c.will = s.mqtt.will ∧
      (server = s.line.server ∨ server = s.line.server.accept (some (LAUNCHER_STATUS_TOPIC, "Dead"))) ∧
      (marks = s.line.marks ∨ marks = .left false :: s.line.marks) ∧
      s.request arrives (.connect s.url true 1 10 created success) yes no =
        { s with pc := no, mqtt := c, line := ⟨server, false, false, marks⟩ } := by
  cases created with
  | false =>
    have hr : s.mqtt.step (.connect s.url true 1 10 false success) = (s.mqtt.note .createFailed, false) := by
      simp [PahoMqttClient.step, PahoMqttClient.connect, hc]
    refine ⟨s.mqtt.note .createFailed, s.line.server, s.line.marks, hc, rfl, .inl rfl, .inl rfl,
      (request_calls arrives yes no [.createFailed] hr rfl).trans ?_⟩
    exact congrArg (fun l => { s with pc := no, mqtt := s.mqtt.note .createFailed, line := l }) (Line.eq_of_down hl)
  | true =>
    obtain rfl : success = false := Bool.eq_false_iff.2 fun hs => ha ⟨rfl, hs⟩
    let calls := .destroy s.mqtt.handles :: .disconnect s.mqtt.handles :: tried s.mqtt s.url w false
    let c : PahoMqttClient := { s.mqtt with handles := s.mqtt.handles + 1, url := "", calls := calls ++ s.mqtt.calls }
    have hr : s.mqtt.step (.connect s.url true 1 10 true false) = (c, false) := by
      simp [c, calls, tried, PahoMqttClient.step, PahoMqttClient.connect, hc, PahoMqttClient.connectHandle, hw,
        PahoMqttClient.note, PahoMqttClient.close]
    cases arrives with
    | true =>
      refine ⟨c, _, .left false :: s.line.marks, hc, rfl, .inr rfl, .inr rfl,
        (request_calls true yes no calls hr rfl).trans ?_⟩
      rw [← kept_read hw']
      rfl
    | false =>
      exact ⟨c, s.line.server, .left false :: s.line.marks, hc, rfl, .inl rfl, .inr rfl,
        request_calls false yes no calls hr rfl⟩

/-- Freeing the will is nothing to the line. -/
theorem releaseWill_calls (c : PahoMqttClient) : c.releaseWill.client = c.client ∧
    ∃ calls, c.releaseWill.calls = calls ++ c.calls ∧ ∀ arrives l, Line.hear arrives l calls = l := by
  unfold PahoMqttClient.releaseWill
  cases c.will with
  | none => exact ⟨rfl, [], rfl, fun _ _ => rfl⟩
  | some w => exact ⟨rfl, [.free w.message, .free w.topicName], rfl, fun _ _ => rfl⟩

theorem request_setWill (arrives : Bool) (pc : Pc) (hc : s.mqtt.client = none) :
    ∃ c : PahoMqttClient, c.client = none ∧ Willed c ∧
      s.request arrives (.setWill ⟨LAUNCHER_STATUS_TOPIC, "Dead", .qos0, true⟩) pc pc = { s with pc := pc, mqtt := c } := by
  obtain ⟨hr, calls, hcalls, hear⟩ := releaseWill_calls s.mqtt
  let c := s.mqtt.releaseWill
  let c' : PahoMqttClient := { (c.note (.alloc c.blocks LAUNCHER_STATUS_TOPIC)).note (.alloc (c.blocks + 1) "Dead") with
    will := some ⟨⟨LAUNCHER_STATUS_TOPIC, "Dead", .qos0, true⟩, c.blocks, c.blocks + 1⟩, blocks := c.blocks + 2 }
  have hs : s.mqtt.step (.setWill ⟨LAUNCHER_STATUS_TOPIC, "Dead", .qos0, true⟩) = (c', true) := by
    simp [c', c, PahoMqttClient.step, PahoMqttClient.setWill, hc]
  refine ⟨c', hr.trans hc, ⟨_, rfl, rfl⟩,
    (request_calls arrives pc pc (_ :: _ :: calls) hs (congrArg (_ :: _ :: ·) hcalls)).trans ?_⟩
  exact congrArg (fun l => { s with pc := pc, mqtt := c', line := l }) (hear arrives s.line)

/-- **The client is deleted**: the line hears that it left, where there was one. -/
theorem becomes_delete (arrives : Bool) :
    ∃ c : PahoMqttClient, c.client = none ∧ s.becomes arrives s.mqtt.delete = { s with
      mqtt := c
      line := match s.mqtt.client with
        | some n => s.line.react arrives (.disconnect n)
        | none => s.line } := by
  obtain ⟨hr, calls, hcalls, hear⟩ := releaseWill_calls s.mqtt.close.1
  refine ⟨s.mqtt.delete, hr.trans (PahoMqttClient.client_close s.mqtt), ?_⟩
  cases hc : s.mqtt.client with
  | none =>
    have he : s.mqtt.close.1 = s.mqtt := by simp [PahoMqttClient.close, hc]
    rw [he] at hcalls
    have hd : s.mqtt.delete.calls = calls ++ s.mqtt.calls := by rw [PahoMqttClient.delete, he, hcalls]
    rw [becomes_calls arrives hd, hear]
  | some n =>
    have he : s.mqtt.close.1.calls = .destroy n :: .disconnect n :: s.mqtt.calls := by
      simp [PahoMqttClient.close, hc, PahoMqttClient.note]
    rw [he] at hcalls
    have hd : s.mqtt.delete.calls = (calls ++ [.destroy n, .disconnect n]) ++ s.mqtt.calls := by
      rw [PahoMqttClient.delete, hcalls, List.append_assoc]
      rfl
    rw [becomes_calls arrives hd, Line.hear, List.foldr_append]
    exact congrArg (fun l => { s with mqtt := s.mqtt.delete, line := l }) (hear arrives _)

/-! Where `main` is says what it does. -/

section
variable (a : Answers)

theorem step_setWill (hp : s.pc = .setWill) :
    s.step a = s.request a.arrives (.setWill ⟨LAUNCHER_STATUS_TOPIC, "Dead", .qos0, true⟩) .connect .connect := by
  rw [step, hp]

theorem step_connect (hp : s.pc = .connect) :
    s.step a = s.request a.arrives (.connect s.url true 1 10 a.created a.success) .subscribeStatus .retry := by
  rw [step, hp]

theorem step_subscribeStatus (hp : s.pc = .subscribeStatus) : s.step a =
    s.request a.arrives (.subscribe (CHARGE_POINTS_TOPIC ++ "+/status") .qos0 (a.success && s.line.link))
      .subscribeCmd .retry := by
  rw [step, hp]

theorem step_subscribeCmd (hp : s.pc = .subscribeCmd) :
    s.step a = s.request a.arrives (.subscribe LAUNCHER_CMD_TOPIC .qos0 (a.success && s.line.link)) .alive .retry := by
  rw [step, hp]

theorem step_alive (hp : s.pc = .alive) : s.step a =
    s.request a.arrives (.publish LAUNCHER_STATUS_TOPIC "Alive" .qos0 true (a.success && s.line.up) a.completed)
      .ready .ready := by
  rw [step, hp]

theorem step_ready (hp : s.pc = .ready) : s.step a =
    if s.isEndOfApplication then { s with pc := .report }
    else s.request a.arrives (.isConnected s.line.up) .ready .report := by
  rw [step, hp]

theorem step_report (hp : s.pc = .report) : s.step a = s.request a.arrives (.isConnected s.line.up) .retry .retry := by
  rw [step, hp]

theorem step_retry (hp : s.pc = .retry) :
    s.step a = { s with pc := if s.isEndOfApplication then .farewell else .close } := by
  rw [step, hp]

theorem step_close (hp : s.pc = .close) : s.step a = s.request a.arrives .close .loopTest .loopTest := by
  rw [step, hp]

theorem step_farewell (hp : s.pc = .farewell) : s.step a =
    s.request a.arrives (.publish LAUNCHER_STATUS_TOPIC "Dead" .qos0 true (a.success && s.line.up) a.completed)
      .loopTest .loopTest := by
  rw [step, hp]

theorem step_loopTest (hp : s.pc = .loopTest) :
    s.step a = { s with pc := if s.isEndOfApplication then .release else .connect } := by
  rw [step, hp]

theorem step_release (hp : s.pc = .release) : s.step a = { s.becomes a.arrives s.mqtt.delete with pc := .released } := by
  rw [step, hp]

theorem step_released (hp : s.pc = .released) : s.step a = s := by
  rw [step, hp]

end

end Main

open Main

namespace Working

variable {s : Main}

/-- Without a client there is nothing to hear. -/
theorem down (h : Working s) (hc : s.mqtt.client = none) : s.line.link = false := (h.idle hc).1

/-- `main` moves on without a client. -/
theorem moves (h : Working s) (hc : s.mqtt.client = none) {pc : Pc} (hf : pc.final = true → s.isEndOfApplication = true)
    (hw : Willed s.mqtt) : Working { s with pc } :=
  { h with
    closed := fun _ => hc
    final := hf
    will := fun _ _ => hw
    stage := fun hl => by rw [show _ = false from h.down hc] at hl; cases hl }

theorem setWill (h : Working s) (hp : s.pc = .setWill) (a : Answers) : Working (s.step a) := by
  have hc := h.closed (by rw [hp]; rfl)
  obtain ⟨c, hn, hw, he⟩ := s.request_setWill a.arrives .connect hc
  rw [step_setWill a hp, he]
  exact { h with
    idle := fun _ => h.idle hc
    closed := fun _ => hn
    final := fun hf => by cases hf
    will := fun _ _ => hw
    stage := fun hl => absurd ((h.down hc).symm.trans hl) Bool.false_ne_true }

theorem connect (h : Working s) (hp : s.pc = .connect) (a : Answers) : Working (s.step a) := by
  have hc := h.closed (by rw [hp]; rfl)
  obtain ⟨w, hw, hw'⟩ := h.will (by rw [hp]; nofun) (by rw [hp]; nofun)
  have hs := step_connect a hp
  by_cases ha : a.created = true ∧ a.success = true
  · obtain ⟨c, hn, hcw, he⟩ := s.request_connect a.arrives .subscribeStatus .retry hc hw hw'
    rw [hs, ha.1, ha.2, he]
    exact
      { fits := h.fits.opened
        quiet := rfl
        idle := fun hn' => by rw [show _ = some _ from hn] at hn'; cases hn'
        closed := fun hf => by cases hf
        final := fun hf => by cases hf
        will := fun _ _ => ⟨w, hcw.trans hw, hw'⟩
        stage := fun _ => ⟨_, rfl⟩ }
  · obtain ⟨c, server, marks, hn, hcw, hserver, hmarks, he⟩ :=
      s.request_connect_failed a.arrives ha .subscribeStatus .retry hc hw hw' (h.idle hc)
    rw [hs, he]
    exact
      { fits := by
          refine .down rfl ?_
          rcases hserver with rfl | rfl
          · exact h.fits.vouched
          · exact h.fits.opened.vouched
        quiet := by
          rcases hmarks with rfl | rfl
          · exact h.quiet
          · rfl
        idle := fun _ => ⟨rfl, rfl⟩
        closed := fun _ => hn
        final := fun hf => by cases hf
        will := fun _ _ => ⟨w, hcw.trans hw, hw'⟩
        stage := fun hl => by cases hl }

/-- **A subscription**: `main` goes on to `pc` where it was accepted. -/
theorem subscribes (h : Working s) (a : Answers) {t : String} (ht : cString t = t) {pc : Pc}
    (hpc : pc.Amid s.isEndOfApplication) (hw : Willed s.mqtt) (ho : s.line.link = true → Opened s.line.marks)
    (hy : ∀ l : Line, l.marks = s.line.marks → (∀ u, Listens s.line u → Listens l u) → Listens l t → s.line.link = true →
      Stage s.isEndOfApplication l pc) :
    Working (s.request a.arrives (.subscribe t .qos0 (a.success && s.line.link)) pc .retry) := by
  cases hc : s.mqtt.client with
  | none =>
    rw [s.request_refused a.arrives pc .retry (by simp [PahoMqttClient.step, PahoMqttClient.subscribe, hc])]
    exact h.moves hc (fun hf => by cases hf) hw
  | some n =>
    obtain ⟨c, hn, hcw, he⟩ := s.request_subscribe a.arrives ht (a.success && s.line.link) pc .retry hc
    obtain ⟨w, hw, hw'⟩ := hw
    obtain ⟨server, hl, hf, hu, hs⟩ := h.fits.subscribes a.arrives n t (a.success && s.line.link)
    rw [he, hl]
    have hk : c.client ≠ none := by rw [hn]; nofun
    refine
      { fits := hf
        quiet := h.quiet
        idle := fun hn' => absurd hn' hk
        closed := fun hf => ?_
        final := fun hf => ?_
        will := fun _ _ => ⟨w, hcw.trans hw, hw'⟩
        stage := fun hl => ?_ }
    · split at hf
      · exact absurd (hpc.1.symm.trans hf) Bool.false_ne_true
      · cases hf
    · split at hf
      · exact absurd (hpc.2.symm.trans hf) Bool.false_ne_true
      · cases hf
    · show Stage _ _ (if (a.success && s.line.link) = true then pc else .retry)
      split
      next ha => exact hy _ rfl hu (hs ha hl) hl
      next => exact .inl (ho hl)

/-- **`main` says how it is.** -/
theorem tells (h : Working s) (a : Answers) {m : String} {pc : Pc} (hm : m = "Dead" ∨ m = "Alive" ∧
      (s.line.link = true → Listens s.line (CHARGE_POINTS_TOPIC ++ "+/status") ∧ Listens s.line LAUNCHER_CMD_TOPIC))
    (hpc : pc.Amid s.isEndOfApplication) (hw : Willed s.mqtt)
    (ht : ∀ l : Line, l.marks = .said m (a.arrives && s.line.link) :: s.line.marks → s.line.link = true →
      Stage s.isEndOfApplication l pc) :
    Working (s.request a.arrives (.publish LAUNCHER_STATUS_TOPIC m .qos0 true (a.success && s.line.up) a.completed)
      pc pc) := by
  cases hc : s.mqtt.client with
  | none =>
    rw [s.request_refused a.arrives pc pc (by simp [PahoMqttClient.step, PahoMqttClient.publish, hc])]
    exact h.moves hc (fun hf => absurd (hpc.2.symm.trans hf) Bool.false_ne_true) hw
  | some n =>
    obtain ⟨c, hn, hcw, he⟩ := s.request_publish a.arrives m (a.success && s.line.up) a.completed pc hc
    obtain ⟨w, hw, hw'⟩ := hw
    rw [he]
    exact
      { fits := h.fits.said a.arrives hm n (a.success && s.line.up)
        quiet := rfl
        idle := fun hn' => by rw [show _ = some n from hn] at hn'; cases hn'
        closed := fun hf => absurd (hpc.1.symm.trans hf) Bool.false_ne_true
        final := fun hf => absurd (hpc.2.symm.trans hf) Bool.false_ne_true
        will := fun _ _ => ⟨w, hcw.trans hw, hw'⟩
        stage := fun hl => ht _ rfl hl }

/-- `main` looks whether it is still connected. -/
theorem looks (h : Working s) (a : Answers) {yes no : Pc}
    (hpc : yes.Amid s.isEndOfApplication ∧ no.Amid s.isEndOfApplication) (hw : Willed s.mqtt)
    (ht : s.line.link = true → Stage s.isEndOfApplication s.line yes) :
    Working (s.request a.arrives (.isConnected s.line.up) yes no) := by
  cases hc : s.mqtt.client with
  | none =>
    rw [s.request_refused a.arrives yes no (by simp [PahoMqttClient.step, PahoMqttClient.isConnected, hc])]
    exact h.moves hc (fun hf => absurd (hpc.2.2.symm.trans hf) Bool.false_ne_true) hw
  | some n =>
    obtain ⟨c, hn, hcw, he⟩ := s.request_isConnected a.arrives s.line.up yes no hc
    obtain ⟨w, hw, hw'⟩ := hw
    rw [he]
    refine
      { h with
        idle := fun hn' => by rw [show _ = some n from hn] at hn'; cases hn'
        closed := fun hf => ?_
        final := fun hf => ?_
        will := fun _ _ => ⟨w, hcw.trans hw, hw'⟩
        stage := fun hl => ?_ }
    · split at hf
      · exact absurd (hpc.1.1.symm.trans hf) Bool.false_ne_true
      · exact absurd (hpc.2.1.symm.trans hf) Bool.false_ne_true
    · split at hf
      · exact absurd (hpc.1.2.symm.trans hf) Bool.false_ne_true
      · exact absurd (hpc.2.2.symm.trans hf) Bool.false_ne_true
    · rw [show (if s.line.up = true then yes else no) = yes from if_pos (h.fits.up hl)]
      exact ht hl

/-- **The client is closed** where nothing was said over it. -/
theorem closes (h : Working s) (a : Answers) (hw : Willed s.mqtt)
    (ho : s.line.link = true → Opened s.line.marks) : Working (s.request a.arrives .close .loopTest .loopTest) := by
  cases hc : s.mqtt.client with
  | none =>
    rw [s.request_refused a.arrives .loopTest .loopTest (by simp [PahoMqttClient.step, PahoMqttClient.close, hc])]
    exact h.moves hc (fun hf => by cases hf) hw
  | some n =>
    obtain ⟨c, hn, hcw, hr⟩ := s.request_close a.arrives .loopTest hc
    obtain ⟨w, hw, hw'⟩ := hw
    have hm : (a.arrives && s.line.link) = true → ∃ l, s.line.marks = .opened :: l := fun ha =>
      ho (Bool.and_eq_true_iff.1 ha).2
    rw [hr]
    refine
      { fits := h.fits.left (fun ha => ?_) n
        quiet := ?_
        idle := fun _ => ⟨rfl, rfl⟩
        closed := fun _ => hn
        final := fun hf => by cases hf
        will := fun _ _ => ⟨w, hcw.trans hw, hw'⟩
        stage := fun hl => by cases hl }
    · obtain ⟨l, hl⟩ := hm ha
      rw [hl]
      rfl
    · show forgets (.left (a.arrives && s.line.link) :: s.line.marks) = false
      cases ha : a.arrives && s.line.link with
      | false => rfl
      | true =>
        obtain ⟨l, hl⟩ := hm ha
        rw [hl]
        rfl

/-- **`main` deletes its client**: it is quiet, or it is gone without a word. -/
theorem deletes (h : Working s) (hp : s.pc = .release) (a : Answers) : Working (s.step a) ∨ Gone (s.step a) := by
  have he := h.final (by rw [hp]; rfl)
  obtain ⟨c, hn, hr⟩ := s.becomes_delete a.arrives
  rw [step_release a hp, hr]
  cases hc : s.mqtt.client with
  | none =>
    left
    exact { h with
      idle := fun _ => h.idle hc
      closed := fun _ => hn
      final := fun _ => he
      will := fun _ hf => absurd rfl hf
      stage := fun hl => absurd ((h.down hc).symm.trans hl) Bool.false_ne_true }
  | some n =>
    let l := s.line.react a.arrives (.disconnect n)
    have hm : l.marks = .left (a.arrives && s.line.link) :: s.line.marks := rfl
    by_cases hq : (a.arrives && s.line.link) = true ∧ loud s.line.marks = true
    · have hl := (Bool.and_eq_true_iff.1 hq.1).2
      have hst := h.stage hl
      rw [hp] at hst
      obtain ⟨-, b, m, hb, ho⟩ := hst
      have hserver : l.server = s.line.server.takeLeave := if_pos hq.1
      right
      exact
        { pc := rfl
          ended := he
          link := rfl
          up := rfl
          forgets := by
            show forgets l.marks = true
            rw [hm, hq.1, hb, forgets_left ho, ← hb]
            exact hq.2
          session := by
            show l.server.session = none
            rw [hserver]
            rfl
          kept := by
            show l.server.kept LAUNCHER_STATUS_TOPIC = _
            rw [hserver]
            exact (h.fits.loud hl hq.2).1 }
    · have hd : (a.arrives && s.line.link) = true → loud s.line.marks = false := fun ha =>
        Bool.eq_false_iff.2 fun hm => hq ⟨ha, hm⟩
      left
      refine
        { fits := h.fits.left hd n
          quiet := ?_
          idle := fun _ => ⟨rfl, rfl⟩
          closed := fun _ => hn
          final := fun _ => he
          will := fun _ hf => absurd rfl hf
          stage := fun hl => by cases hl }
      show forgets l.marks = false
      rw [hm]
      cases ha : a.arrives && s.line.link with
      | false => rfl
      | true =>
        have hst := h.stage (Bool.and_eq_true_iff.1 ha).2
        rw [hp] at hst
        obtain ⟨-, b, m, hb, ho⟩ := hst
        rw [hb, forgets_left ho, ← hb]
        exact hd ha

/-- **One step of `main`.** -/
theorem step (h : Working s) (a : Answers) : Working (s.step a) ∨ Gone (s.step a) := by
  have willed (hs : s.pc ≠ .setWill ∧ s.pc ≠ .released) : Willed s.mqtt := h.will hs.1 hs.2
  have staged {pc : Pc} (hp : s.pc = pc) (hl : s.line.link = true) : Stage s.isEndOfApplication s.line pc := hp ▸ h.stage hl
  cases hp : s.pc with
  | setWill => exact .inl (h.setWill hp a)
  | connect => exact .inl (h.connect hp a)
  | release => exact h.deletes hp a
  | released =>
    left
    rw [step_released a hp]
    exact h
  | loopTest =>
    left
    rw [step_loopTest a hp]
    cases he : s.isEndOfApplication with
    | true =>
      exact { h with
        closed := fun hf => by cases hf
        final := fun _ => he
        will := fun _ _ => willed (by rw [hp]; exact ⟨nofun, nofun⟩)
        stage := fun hl => by
          have hst := staged hp hl
          exact ⟨he, hst.2⟩ }
    | false =>
      have hc := h.closed (by rw [hp, he]; rfl)
      exact h.moves hc (fun hf => by cases hf) (willed (by rw [hp]; exact ⟨nofun, nofun⟩))
  | subscribeStatus =>
    left
    rw [step_subscribeStatus a hp]
    refine h.subscribes a cString_chargePoints ⟨rfl, rfl⟩ (willed (by rw [hp]; exact ⟨nofun, nofun⟩)) (staged hp)
      fun l hm _ ht hl => ⟨?_, ht⟩
    rw [hm]
    exact staged hp hl
  | subscribeCmd =>
    left
    rw [step_subscribeCmd a hp]
    refine h.subscribes a cString_cmd ⟨rfl, rfl⟩ (willed (by rw [hp]; exact ⟨nofun, nofun⟩)) (fun hl => (staged hp hl).1)
      fun l hm hu ht hl => ⟨?_, hu _ (staged hp hl).2, ht⟩
    rw [hm]
    exact (staged hp hl).1
  | alive =>
    left
    rw [step_alive a hp]
    refine h.tells a (.inr ⟨rfl, fun hl => (staged hp hl).2⟩) ⟨rfl, rfl⟩ (willed (by rw [hp]; exact ⟨nofun, nofun⟩))
      fun l hm hl => ?_
    obtain ⟨m, hm'⟩ := (staged hp hl).1
    exact ⟨_, m, by rw [hm, hm']⟩
  | ready =>
    left
    have hw := willed (by rw [hp]; exact ⟨nofun, nofun⟩)
    rw [step_ready a hp]
    cases he : s.isEndOfApplication with
    | true =>
      exact { h with
        closed := fun hf => by cases hf
        final := fun hf => by cases hf
        will := fun _ _ => hw
        stage := fun hl => ⟨he, staged hp hl⟩ }
    | false => exact h.looks a ⟨⟨rfl, rfl⟩, rfl, rfl⟩ hw (staged hp)
  | report =>
    left
    rw [step_report a hp]
    exact h.looks a ⟨⟨rfl, rfl⟩, rfl, rfl⟩ (willed (by rw [hp]; exact ⟨nofun, nofun⟩)) fun hl => .inr (staged hp hl)
  | retry =>
    left
    have hw := willed (by rw [hp]; exact ⟨nofun, nofun⟩)
    rw [step_retry a hp]
    cases he : s.isEndOfApplication with
    | true =>
      exact { h with
        closed := fun hf => by cases hf
        final := fun _ => he
        will := fun _ _ => hw
        stage := fun hl => ⟨he, (staged hp hl).imp id And.right⟩ }
    | false =>
      refine { h with
        closed := fun hf => by cases hf
        final := fun hf => by cases hf
        will := fun _ _ => hw
        stage := fun hl => (staged hp hl).resolve_right ?_ }
      rintro ⟨he', -⟩
      exact Bool.false_ne_true (he.symm.trans he')
  | close =>
    left
    rw [step_close a hp]
    exact h.closes a (willed (by rw [hp]; exact ⟨nofun, nofun⟩)) (staged hp)
  | farewell =>
    left
    have he : s.isEndOfApplication = true := h.final (by rw [hp]; rfl)
    rw [step_farewell a hp]
    exact h.tells a (.inl rfl) ⟨by rw [he]; rfl, rfl⟩ (willed (by rw [hp]; exact ⟨nofun, nofun⟩))
      fun l hm hl => ⟨he, _, _, hm, (staged hp hl).2⟩

end Working

/-! ## A whole run -/

theorem ended_startChargePoint (sys : System) (cleanEnv : Bool) (h : Host) (e : Element) :
    (h.startChargePoint sys cleanEnv e).1.handler.ended = h.handler.ended := by
  unfold Host.startChargePoint
  cases e.parameters with
  | none => rfl
  | some p =>
    simp only
    split
    · cases cleanEnv <;> rfl
    · rfl

theorem ended_killChargePoint (sys : System) (h : Host) (e : Element) :
    (h.killChargePoint sys e).1.handler.ended = h.handler.ended := by
  unfold Host.killChargePoint
  cases e.id with
  | none => rfl
  | some id =>
    cases hp : h.handler.cpPids id with
    | none => simp [hp]
    | some pid =>
      simp only [hp]
      split <;> rfl

theorem ended_foldl {β : Type} {act : Host → β → Host} (h : ∀ h e, (act h e).handler.ended = h.handler.ended) (l : List β)
    (s : Host) : (l.foldl act s).handler.ended = s.handler.ended := by
  induction l generalizing s with
  | nil => rfl
  | cons e l ih => exact (ih (act s e)).trans (h s e)

/-- **Once told to end, always.** -/
theorem ended_mqttMessageReceived (sys : System) (h : Host) (m : Message) (he : h.handler.ended = true) :
    (h.mqttMessageReceived sys m).handler.ended = true := by
  cases m with
  | close => rfl
  | start l =>
    show (h.startChargePoints sys true l).1.handler.ended = true
    rw [Host.startChargePoints_fst, ended_foldl (ended_startChargePoint sys true), he]
  | kill l =>
    show (h.killChargePoints sys l).1.handler.ended = true
    rw [Host.killChargePoints_fst, ended_foldl (ended_killChargePoint sys), he]
  | restart l =>
    show (h.startChargePoints sys false l).1.handler.ended = true
    rw [Host.startChargePoints_fst, ended_foldl (ended_startChargePoint sys false), he]
  | status | empty | other => exact he

namespace Working

variable {s : Main}

/-- **Whatever happens.** -/
theorem happens (sys : System) (h : Working s) (e : Happening) : Working (s.happens sys e) ∨ Gone (s.happens sys e) := by
  cases e with
  | step a => exact h.step a
  | message m =>
    left
    have hm : s.isEndOfApplication = true → (s.happens sys (.message m)).isEndOfApplication = true :=
      ended_mqttMessageReceived sys s.host m
    refine { h with
      closed := fun hf => h.closed ?_
      final := fun hf => hm (h.final hf)
      stage := fun hl => (h.stage hl).mono hm }
    cases hp : s.pc with
    | loopTest =>
      cases he : s.isEndOfApplication with
      | false => rfl
      | true =>
        have hf' : Pc.closed ((s.happens sys (.message m)).isEndOfApplication) s.pc = true := hf
        rw [hm he, hp] at hf'
        cases hf'
    | _ =>
      have hf' : Pc.closed ((s.happens sys (.message m)).isEndOfApplication) s.pc = true := hf
      rw [hp] at hf'
      exact hf'
  | cut =>
    left
    exact { h with
      fits := .down rfl h.fits.vouched
      idle := fun hc => ⟨rfl, (h.idle hc).2⟩
      stage := fun hl => by cases hl }
  | noticed =>
    left
    unfold Main.happens
    cases hl : s.line.link with
    | true => exact h
    | false => exact { h with
        fits := .down hl h.fits.vouched
        idle := fun hc => ⟨hl, rfl⟩
        stage := fun hl' => absurd (hl.symm.trans hl') Bool.false_ne_true }
  | lost =>
    left
    unfold Main.happens
    cases hl : s.line.link with
    | true => exact h
    | false => exact { h with
        fits := .down hl h.fits.vouched.lost
        idle := fun hc => ⟨hl, (h.idle hc).2⟩
        stage := fun hl' => absurd (hl.symm.trans hl') Bool.false_ne_true }

end Working

/-- Nothing brings back a launcher that is gone. -/
theorem Gone.happens {s : Main} (sys : System) (h : Gone s) (e : Happening) : Gone (s.happens sys e) := by
  cases e with
  | step a =>
    show Gone (s.step a)
    rw [step_released a h.pc]
    exact h
  | message m => exact { h with ended := ended_mqttMessageReceived sys s.host m h.ended }
  | cut => exact { h with link := rfl }
  | noticed =>
    unfold Main.happens
    rw [h.link]
    exact { h with link := h.link, up := rfl }
  | lost =>
    have hs : s.line.server.lose = s.line.server := by
      unfold Server.lose
      rw [h.session]
    unfold Main.happens
    rw [h.link, hs]
    exact { h with link := h.link }

theorem run_sound (sys : System) {s : Main} (happenings : List Happening) (h : Working s ∨ Gone s) :
    Working (s.run sys happenings) ∨ Gone (s.run sys happenings) := by
  induction happenings generalizing s with
  | nil => exact h
  | cons e happenings ih => exact ih (h.elim (fun h => h.happens sys e) fun h => .inr (h.happens sys e))

theorem start_working (url : String) (host : Host) {server : Server String String}
    (hv : Vouched LAUNCHER_STATUS_TOPIC "Dead" server) : Working (Main.start url host server) where
  fits := .down rfl hv
  quiet := rfl
  idle _ := ⟨rfl, rfl⟩
  closed _ := rfl
  final h := by cases h
  will h := absurd rfl h
  stage h := by cases h

/-- **What the broker shows of the launcher is vouched for** through every run, except where the launcher, told to end,
took its leave over a whole connection after the news of its end did not arrive; and who is shown alive over a whole
connection gets the messages. -/
theorem presence_vouched (sys : System) (url : String) (host : Host) (server : Server String String)
    (hv : Vouched LAUNCHER_STATUS_TOPIC "Dead" server) (happenings : List Happening) :
    let s := (Main.start url host server).run sys happenings
    (Vouched LAUNCHER_STATUS_TOPIC "Dead" s.line.server ↔ forgets s.line.marks = false) ∧
    (forgets s.line.marks = true → s.pc = .released ∧ s.isEndOfApplication = true) ∧
    (s.line.link = true → s.line.server.kept LAUNCHER_STATUS_TOPIC = some "Alive" →
      Listens s.line (CHARGE_POINTS_TOPIC ++ "+/status") ∧ Listens s.line LAUNCHER_CMD_TOPIC) := by
  intro s
  rcases run_sound sys happenings (.inl (start_working url host hv)) with h | h
  · refine ⟨iff_of_true h.fits.vouched h.quiet, fun hf => absurd (h.quiet.symm.trans hf) Bool.false_ne_true, fun hl hk => ?_⟩
    cases hm : loud s.line.marks with
    | true => exact (h.fits.loud hl hm).2
    | false => exact absurd (h.fits.quiet hl hm _ hk) (by decide)
  · exact ⟨iff_of_false h.not_vouched (by rw [h.forgets]; nofun), fun _ => ⟨h.pc, h.ended⟩,
      fun hl => absurd (h.link.symm.trans hl) Bool.false_ne_true⟩

/-- All goes well until the launcher was told to end and its farewell does not arrive. -/
def unheard : List Happening :=
  let all : Answers := ⟨true, true, true, true⟩
  List.replicate 5 (.step all) ++
    [.message .close, .step all, .step all, .step all, .step ⟨true, true, true, false⟩, .step all, .step all]

theorem presence_vouched_unheard : ¬ Vouched LAUNCHER_STATUS_TOPIC "Dead"
    ((Main.start "tcp://localhost:1883" Host.initial {}).run ⟨fun n => n, fun _ _ => true⟩ unheard).line.server := by
  intro h
  have hv : Vouched LAUNCHER_STATUS_TOPIC "Dead" ({} : Server String String) := ⟨nofun, nofun⟩
  have hf := (presence_vouched ⟨fun n => n, fun _ _ => true⟩ "tcp://localhost:1883" Host.initial {} hv unheard).1.1 h
  exact absurd hf (by decide +kernel)

end Launcher
