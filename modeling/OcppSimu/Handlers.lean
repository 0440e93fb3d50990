import OcppSimu.Access
import OcppSimu.CommandLine
import OcppSimu.Wire
/-!
# Handlers — what the two programs read of a message

`CommandHandler::mqttMessageReceived` and `MqttManager::mqttMessageReceived` take a text and a topic, and read members of
the JSON document in it.  An accessor applied to a value of another kind, or to a member that is missing, ends the
program.  Some reads are guarded by a test of presence and of kind, some by one of the two, and the tests of presence
are themselves for objects only; so the handlers are total on the messages described here (`Launcher.Readable`,
`Simu.Readable`), and on no others.
-/
namespace Wire

open Access

/-- How an accessor of a JSON value is misused. -/
inductive Misuse
  | notAnObject | noSuchMember | wrongKind
  deriving DecidableEq

/-- What a text is, `parse` being the parser.  The texts of a document are what `GetString` hands out of them. -/
def Payload.ofText (parse : List UInt8 → Option Json) (text : List UInt8) : Payload :=
  if text = [] then .empty
  else
    match parse text with
    | some j => .json j
    | none => .other

def Json.isObject : Json → Bool
  | .obj _ => true
  | _ => false

/-- `HasMember`. -/
def hasMember (j : Json) (name : String) : Except Misuse Bool :=
  if j.isObject then .ok (Launcher.member j name).isSome else .error .notAnObject

/-- `j[name]`. -/
def memberAt (j : Json) (name : String) : Except Misuse Json := demand .noSuchMember (Launcher.member j name)

/-- `j[name]` and an accessor on it. -/
def take {α : Type} (get : Json → Option α) (j : Json) (name : String) : Except Misuse α := do
  let v ← memberAt j name
  demand .wrongKind (get v)

def getUint64 : Json → Option Nat
  | .int i => if 0 ≤ i ∧ i < 2 ^ 64 then some i.toNat else none
  | _ => none

def getBool : Json → Option Bool
  | .bool b => some b
  | _ => none

def getArray : Json → Option (List Json)
  | .arr l => some l
  | _ => none

/-- The largest number `IsFloat` lets pass. -/
def maxFloat : ℚ := 34028234 * 10 ^ 31

/-- `IsFloat` and `GetFloat`: a number with a fraction, or an integer that no integer type has, within the range of a
`float`. -/
def getIfFloat : Json → Option ℚ
  | .int i => if (i < -2 ^ 63 ∨ 2 ^ 64 ≤ i) ∧ -maxFloat ≤ i ∧ i ≤ maxFloat then some i else none
  | .float q => if -maxFloat ≤ q ∧ q ≤ maxFloat then some q else none
  | _ => none

/-- The member, if there is one and the test of its kind, which `get` makes, succeeds. -/
def takeIf {α : Type} (get : Json → Option α) (j : Json) (name : String) : Except Misuse (Option α) := do
  if ← hasMember j name then
    let v ← memberAt j name
    pure (get v)
  else pure none

/-- The element of a topic before the last, and the last. -/
def levelBefore (topic : String) : String := Launcher.chargePointOf topic.toList

def filename (topic : String) : String := String.ofList ((Paths.elements topic.toList).getLast?.getD [])

/-! ## The accessors -/

section
variable {α : Type} {get : Json → Option α} {j : Json} {name : String}

theorem hasMember_eq_ok_iff {b : Bool} :
    hasMember j name = .ok b ↔ j.isObject = true ∧ (Launcher.member j name).isSome = b := by
  unfold hasMember
  cases j.isObject <;> simp

theorem take_eq_ok_iff {a : α} : take get j name = .ok a ↔ (Launcher.member j name).bind get = some a := by
  unfold take memberAt
  rw [bind_eq_ok_iff, Option.bind_eq_some_iff]
  simp only [demand_eq_ok_iff]

/-- **A member read with a test of presence and of kind** is read without fail off an object. -/
theorem takeIf_eq_ok_iff {o : Option α} :
    takeIf get j name = .ok o ↔ j.isObject = true ∧ (Launcher.member j name).bind get = o := by
  unfold takeIf
  rw [bind_eq_ok_iff]
  constructor
  · rintro ⟨b, hb, ho⟩
    obtain ⟨hj, rfl⟩ := hasMember_eq_ok_iff.1 hb
    refine ⟨hj, ?_⟩
    cases hm : Launcher.member j name with
    | none =>
      rw [hm] at ho
      exact Except.ok.inj ho
    | some v =>
      rw [hm, Option.isSome_some, if_pos rfl, bind_eq_ok_iff] at ho
      obtain ⟨v', hv', ho⟩ := ho
      rw [memberAt, demand_eq_ok_iff, hm] at hv'
      rw [Option.some.inj hv']
      exact Except.ok.inj ho
  · rintro ⟨hj, rfl⟩
    refine ⟨_, hasMember_eq_ok_iff.2 ⟨hj, rfl⟩, ?_⟩
    cases hm : Launcher.member j name with
    | none => rfl
    | some v =>
      rw [Option.isSome_some, if_pos rfl, bind_eq_ok_iff]
      exact ⟨v, by rw [memberAt, demand_eq_ok_iff, hm], rfl⟩

theorem returns_takeIf_iff : Returns (takeIf get j name) ↔ j.isObject = true := by
  constructor
  · rintro ⟨o, h⟩
    exact (takeIf_eq_ok_iff.1 h).1
  · exact fun h => ⟨_, takeIf_eq_ok_iff.2 ⟨h, rfl⟩⟩

end

end Wire

namespace Launcher

open Access Wire

/-! ## The launcher -/

/-- The members `startChargePoints` looks for. -/
def memberNames : List String :=
  ["id", "vendor", "type", "model", "serial", "max_setpoint", "nb_connectors", "max_setpoint_per_connector", "nb_phases",
   "central_system", "voltage"]

/-- "Extract charge point parameters". -/
def readParameters (e : Json) : Except Misuse Element := do
  let id ← take getString e "id"
  let type ← take getString e "type"
  let vendor ← take getString e "vendor"
  let model ← take getString e "model"
  let serial ← take getString e "serial"
  let centralSystem ← take getString e "central_system"
  let nbConnectors ← take getUint e "nb_connectors"
  let nbPhases ← take getUint e "nb_phases"
  let maxSetpoint ← take getUint e "max_setpoint"
  let maxSetpointPerConnector ← take getUint e "max_setpoint_per_connector"
  let voltage ← take getFloat e "voltage"
  pure ⟨id, type, vendor, model, serial, centralSystem, nbConnectors, nbPhases, maxSetpoint, maxSetpointPerConnector, voltage⟩

/-- What `startChargePoints` reads of an element: nothing where a member is missing. -/
def readElement (e : Json) : Except Misuse (Option Element) := do
  if ← memberNames.allM (hasMember e) then
    let p ← readParameters e
    pure (some p)
  else pure none

/-- What `killChargePoints` reads of an element. -/
def readId (e : Json) : Except Misuse (Option Element) := do
  if ← hasMember e "id" then
    let id ← take getString e "id"
    pure (some { id := some id })
  else pure none

namespace Host

/-- `startChargePoints`. -/
def startJson (sys : System) (cleanEnv : Bool) (h : Host) (chargePoints : List Json) : Except Misuse (Host × Bool) := do
  let r ← foldRead readElement (fun (acc : Host × Nat) e =>
    let s := startChargePoint sys cleanEnv acc.1 e
    (s.1, acc.2 + s.2.toNat)) (h, 0) chargePoints
  pure (r.1, decide (r.2 = chargePoints.length))

/-- `killChargePoints`. -/
def killJson (sys : System) (h : Host) (chargePoints : List Json) : Except Misuse (Host × Bool) := do
  let r ← foldRead readId (fun (acc : Host × Nat) e =>
    let s := killChargePoint sys acc.1 e
    (s.1, acc.2 + s.2.toNat)) (h, 0) chargePoints
  pure (r.1, decide (r.2 = chargePoints.length))

/-- The member `charge_points`, which is left alone unless it is an array. -/
def onChargePoints (h : Host) (j : Json) (f : Host → List Json → Except Misuse (Host × Bool)) : Except Misuse Host := do
  match ← takeIf getArray j "charge_points" with
  | some l =>
    let r ← f h l
    pure r.1
  | none => pure h

/-- What a command of that type does. -/
def obey (sys : System) (h : Host) (type : String) (j : Json) : Except Misuse Host :=
  if type = "close" then pure { h with handler := { h.handler with ended := true } }
  else if type = "start" then h.onChargePoints j (startJson sys true)
  else if type = "kill" then h.onChargePoints j (killJson sys)
  else if type = "restart" then h.onChargePoints j (startJson sys false)
  else pure h

/-- The branch of `mqttMessageReceived` for the topic of commands. -/
def command (sys : System) (h : Host) (j : Json) : Except Misuse Host := do
  if ← hasMember j "type" then
    let type ← take getString j "type"
    h.obey sys type j
  else pure h

/-- "Charge point's status"; the pid is for the log where the status is `Dead`. -/
def status (h : Host) (chargePoint : String) (j : Json) : Except Misuse Host := do
  if ← hasMember j "status" then
    let status ← take getString j "status"
    let pid ← (if status = "Dead" then pure (((member j "pid").bind getUint64).getD 0) else take getUint64 j "pid")
    pure (h.statusReceived chargePoint status pid)
  else pure h

/-- **`mqttMessageReceived`.** -/
def receive (sys : System) (h : Host) (topic : String) : Payload → Except Misuse Host
  | .other => pure h
  | .empty => if filename topic = "cmd" then pure h else pure (h.removeChargePoint (levelBefore topic))
  | .json j => if filename topic = "cmd" then h.command sys j else h.status (levelBefore topic) j

end Host

/-! ## What it should do -/

/-- An element with all its members, each of its kind. -/
def element (e : Json) : Option Element :=
  if (Element.ofJson e).parameters.isSome then some (Element.ofJson e) else none

/-- An element with an identifier. -/
def named (e : Json) : Option Element := ((member e "id").bind getString).map (fun id => { id := some id })

def listed (j : Json) : List Json := ((member j "charge_points").bind getArray).getD []

/-- The command, its list without the ill-formed elements. -/
def Message.ofType (type : String) (j : Json) : Message :=
  if type = "close" then .close
  else if type = "start" then .start ((listed j).filterMap element)
  else if type = "kill" then .kill ((listed j).filterMap named)
  else if type = "restart" then .restart ((listed j).filterMap element)
  else .other

def Message.ofCommand (j : Json) : Message :=
  match (member j "type").bind getString with
  | some type => .ofType type j
  | none => .other

def Message.ofStatus (chargePoint : String) (j : Json) : Message :=
  match (member j "status").bind getString with
  | some s => .status chargePoint s (((member j "pid").bind getUint64).getD 0)
  | none => .other

/-- **The message there is in a payload.** -/
def Message.ofPayload (topic : String) : Payload → Message
  | .other => .other
  | .empty => if filename topic = "cmd" then .other else .empty (levelBefore topic)
  | .json j => if filename topic = "cmd" then .ofCommand j else .ofStatus (levelBefore topic) j

/-! ## The messages it can read -/

/-- **An element that `startChargePoints` reads or passes over**: an object that lacks a member, or has them all of
their kinds. -/
def Startable (e : Json) : Prop :=
  e.isObject = true ∧ ((∀ name ∈ memberNames, (member e name).isSome = true) → (Element.ofJson e).parameters.isSome = true)

/-- An object whose member of that name, if there is one, is a text with `P`. -/
def Tells (j : Json) (name : String) (P : String → Prop) : Prop :=
  j.isObject = true ∧ ∀ v, member j name = some v → ∃ s, getString v = some s ∧ P s

def Killable (e : Json) : Prop := Tells e "id" (fun _ => True)

/-- The elements of the list are such as the command reads. -/
def ListReadable (j : Json) (type : String) : Prop :=
  (type = "start" ∨ type = "restart" → ∀ e ∈ listed j, Startable e) ∧ (type = "kill" → ∀ e ∈ listed j, Killable e)

def CommandReadable (j : Json) : Prop := Tells j "type" (ListReadable j)

def StatusReadable (j : Json) : Prop :=
  Tells j "status" (fun status => status ≠ "Dead" → ((member j "pid").bind getUint64).isSome = true)

/-- **The messages the launcher reads without fail.** -/
def Readable (topic : String) : Payload → Prop
  | .json j => if filename topic = "cmd" then CommandReadable j else StatusReadable j
  | _ => True

/-! ## The elements of a list -/

theorem readParameters_eq_ok_iff {e : Json} {x : Element} :
    readParameters e = .ok x ↔ (Element.ofJson e).parameters.isSome = true ∧ x = Element.ofJson e := by
  simp only [readParameters, bind_eq_ok_iff, take_eq_ok_iff]
  constructor
  · rintro ⟨id, h₁, type, h₂, vendor, h₃, model, h₄, serial, h₅, centralSystem, h₆, nbConnectors, h₇, nbPhases, h₈,
      maxSetpoint, h₉, perConnector, h₁₀, voltage, h₁₁, h⟩
    have he : Element.ofJson e = x := by
      rw [← Except.ok.inj h]
      unfold Element.ofJson
      rw [h₁, h₂, h₃, h₄, h₅, h₆, h₇, h₈, h₉, h₁₀, h₁₁]
    rw [he, ← Except.ok.inj h]
    exact ⟨rfl, rfl⟩
  · rintro ⟨hp, rfl⟩
    obtain ⟨p, hp⟩ := Option.isSome_iff_exists.1 hp
    have he := Element.eq_of_parameters hp
    refine ⟨p.id, congrArg Element.id he, p.type, congrArg Element.type he, p.vendor, congrArg Element.vendor he,
      p.model, congrArg Element.model he, p.serial, congrArg Element.serial he,
      p.centralSystem, congrArg Element.centralSystem he, p.nbConnectors, congrArg Element.nbConnectors he,
      p.nbPhases, congrArg Element.nbPhases he, p.maxSetpoint, congrArg Element.maxSetpoint he,
      p.maxSetpointPerConnector, congrArg Element.maxSetpointPerConnector he, p.voltage, congrArg Element.voltage he, ?_⟩
    rw [he]
    rfl

theorem parameters_isSome_members {e : Json} (h : (Element.ofJson e).parameters.isSome = true) :
    ∀ name ∈ memberNames, (member e name).isSome = true := by
  obtain ⟨p, hp⟩ := Option.isSome_iff_exists.1 h
  have he := Element.eq_of_parameters hp
  have present : ∀ {α : Type} {get : Json → Option α} {name : String} {a : α}, (member e name).bind get = some a →
      (member e name).isSome = true := by
    intro α get name a ha
    obtain ⟨v, hv, -⟩ := Option.bind_eq_some_iff.1 ha
    rw [hv]
    rfl
  intro name hn
  simp only [memberNames, List.mem_cons, List.not_mem_nil, or_false] at hn
  rcases hn with rfl | rfl | rfl | rfl | rfl | rfl | rfl | rfl | rfl | rfl | rfl
  · exact present (congrArg Element.id he)
  · exact present (congrArg Element.vendor he)
  · exact present (congrArg Element.type he)
  · exact present (congrArg Element.model he)
  · exact present (congrArg Element.serial he)
  · exact present (congrArg Element.maxSetpoint he)
  · exact present (congrArg Element.nbConnectors he)
  · exact present (congrArg Element.maxSetpointPerConnector he)
  · exact present (congrArg Element.nbPhases he)
  · exact present (congrArg Element.centralSystem he)
  · exact present (congrArg Element.voltage he)

/-- **An element is read or passed over** exactly where it is one that can be. -/
theorem readElement_eq_ok_iff {e : Json} {o : Option Element} : readElement e = .ok o ↔ Startable e ∧ o = element e := by
  have hall : ∀ b, memberNames.allM (hasMember e) = .ok b ↔
      e.isObject = true ∧ memberNames.all (fun name => (member e name).isSome) = b :=
    fun b => allM_eq_ok_iff (fun name b => hasMember_eq_ok_iff) (List.cons_ne_nil _ _)
  have hmem : memberNames.all (fun name => (member e name).isSome) = true ↔
      ∀ name ∈ memberNames, (member e name).isSome = true := List.all_eq_true
  unfold readElement Startable element
  rw [bind_eq_ok_iff]
  constructor
  · rintro ⟨b, hb, ho⟩
    obtain ⟨he, rfl⟩ := (hall b).1 hb
    by_cases hm : memberNames.all (fun name => (member e name).isSome) = true
    · rw [if_pos hm, bind_eq_ok_iff] at ho
      obtain ⟨x, hx, ho⟩ := ho
      obtain ⟨hp, rfl⟩ := readParameters_eq_ok_iff.1 hx
      exact ⟨⟨he, fun _ => hp⟩, by rw [if_pos hp]; exact (Except.ok.inj ho).symm⟩
    · have hp : ¬(Element.ofJson e).parameters.isSome = true := fun hp => hm (hmem.2 (parameters_isSome_members hp))
      rw [if_neg hm] at ho
      exact ⟨⟨he, fun h => absurd (hmem.2 h) hm⟩, by rw [if_neg hp]; exact (Except.ok.inj ho).symm⟩
  · rintro ⟨⟨he, hp⟩, rfl⟩
    refine ⟨_, (hall _).2 ⟨he, rfl⟩, ?_⟩
    by_cases hm : memberNames.all (fun name => (member e name).isSome) = true
    · have hp := hp (hmem.1 hm)
      rw [if_pos hm, if_pos hp, bind_eq_ok_iff]
      exact ⟨_, readParameters_eq_ok_iff.2 ⟨hp, rfl⟩, rfl⟩
    · have hn : ¬(Element.ofJson e).parameters.isSome = true := fun hp => hm (hmem.2 (parameters_isSome_members hp))
      rw [if_neg hm, if_neg hn]
      rfl

theorem given_iff {α : Type} {x a : α} : ((pure x : Except Misuse α) = .ok a) ↔ True ∧ a = x := by
  rw [true_and]
  exact ⟨fun h => (Except.ok.inj h).symm, fun h => congrArg Except.ok h.symm⟩

/-- **A text read with a test of presence alone**: the program does `k` with it, or `m` where it is missing. -/
theorem told_eq_ok_iff {α : Type} {j : Json} {n : String} {P : String → Prop} {k : String → Except Misuse α}
    {m : Except Misuse α} {g : Option String → α} {a : α}
    (hk : j.isObject = true → ∀ s, k s = .ok a ↔ P s ∧ a = g (some s)) (hm : m = .ok (g none)) :
    (do if ← hasMember j n then take getString j n >>= k else m) = .ok a ↔
      Tells j n P ∧ a = g ((member j n).bind getString) := by
  unfold Tells
  rw [bind_eq_ok_iff]
  constructor
  · rintro ⟨b, hb, ha⟩
    obtain ⟨hj, rfl⟩ := hasMember_eq_ok_iff.1 hb
    cases hv : member j n with
    | none =>
      rw [hv, Option.isSome_none, if_neg Bool.false_ne_true, hm] at ha
      exact ⟨⟨hj, fun v h => by cases h⟩, (Except.ok.inj ha).symm⟩
    | some v =>
      rw [hv, Option.isSome_some, if_pos rfl, bind_eq_ok_iff] at ha
      obtain ⟨s, hs, ha⟩ := ha
      rw [take_eq_ok_iff, hv, Option.bind_some] at hs
      obtain ⟨hP, rfl⟩ := (hk hj s).1 ha
      rw [Option.bind_some, hs]
      refine ⟨⟨hj, fun v' hv' => ⟨s, ?_, hP⟩⟩, rfl⟩
      rw [← Option.some.inj hv', hs]
  · rintro ⟨⟨hj, hP⟩, ha⟩
    refine ⟨_, hasMember_eq_ok_iff.2 ⟨hj, rfl⟩, ?_⟩
    cases hv : member j n with
    | none =>
      rw [hv] at ha
      rw [ha]
      exact hm
    | some v =>
      obtain ⟨s, hs, hP⟩ := hP v hv
      rw [hv, Option.bind_some, hs] at ha
      rw [Option.isSome_some, if_pos rfl, bind_eq_ok_iff]
      exact ⟨s, by rw [take_eq_ok_iff, hv]; exact hs, (hk hj s).2 ⟨hP, ha⟩⟩

theorem readId_eq_ok_iff {e : Json} {o : Option Element} : readId e = .ok o ↔ Killable e ∧ o = named e :=
  told_eq_ok_iff (g := Option.map (fun id => ({ id := some id } : Element))) (fun _ _ => given_iff) rfl

/-! ## The handler -/

namespace Host

variable {sys : System} {h h' : Host} {j : Json} {l : List Json}

/-- The loop over a list of elements, whose count of successes is of no consequence here. -/
theorem readList_eq_ok_iff {read : Json → Except Misuse (Option Element)} {work : Host × Nat → Element → Host × Nat}
    {ok : Json → Prop} {value : Json → Option Element} (hr : ∀ e o, read e = .ok o ↔ ok e ∧ o = value e) :
    (∃ b, (do let r ← foldRead read work (h, 0) l; pure (r.1, decide (r.2 = l.length))) = .ok (h', b)) ↔
      (∀ e ∈ l, ok e) ∧ h' = ((l.filterMap value).foldl work (h, 0)).1 := by
  simp only [bind_eq_ok_iff, foldRead_eq_ok_iff hr]
  constructor
  · rintro ⟨b, r, ⟨hl, rfl⟩, hb⟩
    exact ⟨hl, (congrArg Prod.fst (Except.ok.inj hb)).symm⟩
  · rintro ⟨hl, rfl⟩
    exact ⟨_, _, ⟨hl, rfl⟩, rfl⟩

theorem startJson_eq_ok_iff {cleanEnv : Bool} : (∃ b, startJson sys cleanEnv h l = .ok (h', b)) ↔
    (∀ e ∈ l, Startable e) ∧ h' = (h.startChargePoints sys cleanEnv (l.filterMap element)).1 :=
  readList_eq_ok_iff (fun _ _ => readElement_eq_ok_iff)

theorem killJson_eq_ok_iff : (∃ b, killJson sys h l = .ok (h', b)) ↔
    (∀ e ∈ l, Killable e) ∧ h' = (h.killChargePoints sys (l.filterMap named)).1 :=
  readList_eq_ok_iff (fun _ _ => readId_eq_ok_iff)

/-- A command with a list, `f` being the loop over it and `g` what the loop should do. -/
theorem onChargePoints_eq_ok_iff {f : Host → List Json → Except Misuse (Host × Bool)} {ok : Json → Prop}
    {g : List Json → Host} (hj : j.isObject = true) (hg : g [] = h)
    (hf : ∀ l h', (∃ b, f h l = .ok (h', b)) ↔ (∀ e ∈ l, ok e) ∧ h' = g l) :
    h.onChargePoints j f = .ok h' ↔ (∀ e ∈ listed j, ok e) ∧ h' = g (listed j) := by
  unfold onChargePoints listed
  rw [bind_eq_ok_iff]
  constructor
  · rintro ⟨o, ho, hh⟩
    obtain ⟨-, rfl⟩ := takeIf_eq_ok_iff.1 ho
    cases hl : (member j "charge_points").bind getArray with
    | none =>
      rw [hl] at hh
      exact ⟨fun e he => absurd he List.not_mem_nil, by rw [Option.getD_none, hg]; exact (Except.ok.inj hh).symm⟩
    | some l =>
      rw [hl] at hh
      obtain ⟨⟨x, b⟩, hb, hh⟩ := bind_eq_ok_iff.1 hh
      rw [← Except.ok.inj hh]
      exact (hf l x).1 ⟨b, hb⟩
  · rintro ⟨hok, rfl⟩
    refine ⟨_, takeIf_eq_ok_iff.2 ⟨hj, rfl⟩, ?_⟩
    cases hl : (member j "charge_points").bind getArray with
    | none => exact congrArg Except.ok hg.symm
    | some l =>
      rw [hl] at hok
      obtain ⟨b, hb⟩ := (hf l (g l)).2 ⟨hok, rfl⟩
      exact bind_eq_ok_iff.2 ⟨_, hb, rfl⟩

theorem onStart_eq_ok_iff {cleanEnv : Bool} (hj : j.isObject = true) : h.onChargePoints j (startJson sys cleanEnv) = .ok h' ↔
    (∀ e ∈ listed j, Startable e) ∧ h' = (h.startChargePoints sys cleanEnv ((listed j).filterMap element)).1 :=
  onChargePoints_eq_ok_iff (g := fun l => (h.startChargePoints sys cleanEnv (l.filterMap element)).1) hj rfl
    (fun _ _ => startJson_eq_ok_iff)

theorem onKill_eq_ok_iff (hj : j.isObject = true) : h.onChargePoints j (killJson sys) = .ok h' ↔
    (∀ e ∈ listed j, Killable e) ∧ h' = (h.killChargePoints sys ((listed j).filterMap named)).1 :=
  onChargePoints_eq_ok_iff (g := fun l => (h.killChargePoints sys (l.filterMap named)).1) hj rfl
    (fun _ _ => killJson_eq_ok_iff)

theorem obey_eq_ok_iff {type : String} (hj : j.isObject = true) :
    h.obey sys type j = .ok h' ↔ ListReadable j type ∧ h' = h.mqttMessageReceived sys (.ofType type j) := by
  unfold obey Message.ofType ListReadable
  by_cases hc : type = "close"
  · subst hc
    simpa [mqttMessageReceived] using given_iff
  by_cases hs : type = "start"
  · subst hs
    simpa [mqttMessageReceived] using onStart_eq_ok_iff hj
  by_cases hk : type = "kill"
  · subst hk
    simpa [mqttMessageReceived] using onKill_eq_ok_iff hj
  by_cases hr : type = "restart"
  · subst hr
    simpa [mqttMessageReceived] using onStart_eq_ok_iff hj
  · simpa [hc, hs, hk, hr, mqttMessageReceived] using given_iff

theorem command_eq_ok_iff :
    h.command sys j = .ok h' ↔ CommandReadable j ∧ h' = h.mqttMessageReceived sys (.ofCommand j) := by
  have ht := told_eq_ok_iff (j := j) (n := "type") (P := ListReadable j) (k := fun type => h.obey sys type j) (m := pure h)
    (g := fun o => h.mqttMessageReceived sys (o.elim .other (fun type => .ofType type j))) (a := h')
    (fun hj _ => obey_eq_ok_iff hj) rfl
  have ho : Message.ofCommand j = ((member j "type").bind getString).elim .other (fun type => .ofType type j) := by
    unfold Message.ofCommand
    cases (member j "type").bind getString <;> rfl
  rw [ho]
  exact ht

theorem status_eq_ok_iff {chargePoint : String} :
    h.status chargePoint j = .ok h' ↔ StatusReadable j ∧ h' = h.mqttMessageReceived sys (.ofStatus chargePoint j) := by
  have ht := told_eq_ok_iff (j := j) (n := "status") (m := pure h) (a := h')
    (P := fun status => status ≠ "Dead" → ((member j "pid").bind getUint64).isSome = true)
    (k := fun status => do
      let pid ← (if status = "Dead" then pure (((member j "pid").bind getUint64).getD 0) else take getUint64 j "pid")
      pure (h.statusReceived chargePoint status pid))
    (g := fun o => h.mqttMessageReceived sys (o.elim .other (fun s => .status chargePoint s (((member j "pid").bind getUint64).getD 0))))
    (fun _ status => ?_) rfl
  · have ho : Message.ofStatus chargePoint j = ((member j "status").bind getString).elim .other
        (fun s => .status chargePoint s (((member j "pid").bind getUint64).getD 0)) := by
      unfold Message.ofStatus
      cases (member j "status").bind getString <;> rfl
    rw [ho]
    exact ht
  · rw [bind_eq_ok_iff]
    by_cases hd : status = "Dead"
    · rw [if_pos hd]
      constructor
      · rintro ⟨pid, hp, hh⟩
        rw [← Except.ok.inj hp] at hh
        exact ⟨fun h => absurd hd h, (Except.ok.inj hh).symm⟩
      · rintro ⟨-, rfl⟩
        exact ⟨_, rfl, rfl⟩
    · rw [if_neg hd]
      constructor
      · rintro ⟨pid, hp, hh⟩
        rw [take_eq_ok_iff] at hp
        refine ⟨fun _ => by rw [hp]; rfl, ?_⟩
        rw [← Except.ok.inj hh, hp]
        rfl
      · rintro ⟨hp, rfl⟩
        obtain ⟨pid, hp⟩ := Option.isSome_iff_exists.1 (hp hd)
        exact ⟨pid, take_eq_ok_iff.2 hp, by rw [hp]; rfl⟩

/-- **The handler returns exactly on what can be read**, and has then dealt with the message there is in it. -/
theorem receive_eq_ok_iff {topic : String} {payload : Payload} : h.receive sys topic payload = .ok h' ↔
    Readable topic payload ∧ h' = h.mqttMessageReceived sys (.ofPayload topic payload) := by
  cases payload with
  | other => exact given_iff
  | empty =>
    unfold receive Message.ofPayload
    dsimp only
    split
    · exact given_iff
    · exact given_iff
  | json j =>
    unfold receive Message.ofPayload Readable
    dsimp only
    split
    · exact command_eq_ok_iff
    · exact status_eq_ok_iff

end Host

end Launcher

namespace Simu

open Access Wire
open Launcher (member getString)

/-! ## The charge point -/

/-- What a message comes to. -/
inductive Reaction
  | event (e : Event)
  | publishOcppConfig
  | nothing

def readCar (j : Json) : Except Misuse CarPayload := do
  let cable ← takeIf getIfFloat j "cable"
  let ready ← takeIf getBool j "ready"
  let consumptionL1 ← takeIf getIfFloat j "consumption_l1"
  let consumptionL2 ← takeIf getIfFloat j "consumption_l2"
  let consumptionL3 ← takeIf getIfFloat j "consumption_l3"
  pure { cable, ready, consumptionL1, consumptionL2, consumptionL3 }

/-- The branches of `mqttMessageReceived` for the topics of a connector that exists. -/
def connectorReceived (c : Nat) (name : String) (j : Json) : Except Misuse Reaction := do
  if name = "car" then
    let p ← readCar j
    pure (.event (.carMessage c p))
  else if name = "id_tag" then
    let id ← takeIf getString j "id"
    pure (id.elim .nothing (fun id => .event (.idTagMessage c id)))
  else if name = "faulted" then
    let faulted ← takeIf getBool j "faulted"
    pure (faulted.elim .nothing (fun b => .event (.faultedMessage c b)))
  else pure .nothing

/-- **`mqttMessageReceived`**, up to what the message comes to. -/
def mqttMessageReceived (cp : SimulatedChargePoint) (topic : String) : Payload → Except Misuse Reaction
  | .json j => do
    if filename topic = "cmd" then
      if ← hasMember j "type" then
        let type ← take getString j "type"
        pure (if type = "close" then .event .closeCommand
          else if type = "ocpp_config" then .publishOcppConfig
          else .nothing)
      else pure .nothing
    else
      let c := Launcher.atoi (levelBefore topic)
      if 0 < c ∧ c ≤ cp.numberOfConnectors then connectorReceived c (filename topic) j else pure .nothing
  | _ => pure .nothing

/-- **The messages a charge point reads without fail.** -/
def Readable (cp : SimulatedChargePoint) (topic : String) : Payload → Prop
  | .json j =>
    if filename topic = "cmd" then Launcher.Tells j "type" (fun _ => True)
    else 0 < Launcher.atoi (levelBefore topic) → Launcher.atoi (levelBefore topic) ≤ cp.numberOfConnectors →
      filename topic ∈ ["car", "id_tag", "faulted"] → j.isObject = true
  | _ => True

theorem returns_readCar_iff {j : Json} : Returns (readCar j) ↔ j.isObject = true := by
  unfold readCar
  simp only [returns_bind_iff, takeIf_eq_ok_iff]
  constructor
  · rintro ⟨_, ⟨hj, -⟩, -⟩
    exact hj
  · intro hj
    exact ⟨_, ⟨hj, rfl⟩, _, ⟨hj, rfl⟩, _, ⟨hj, rfl⟩, _, ⟨hj, rfl⟩, _, ⟨hj, rfl⟩, returns_ok _⟩

theorem returns_connectorReceived_iff {c : Nat} {name : String} {j : Json} :
    Returns (connectorReceived c name j) ↔ (name ∈ ["car", "id_tag", "faulted"] → j.isObject = true) := by
  have then_ : ∀ {α : Type} {m : Except Misuse α} {f : α → Reaction},
      Returns (do let a ← m; pure (f a)) ↔ Returns m := fun {α m f} => by
    rw [returns_bind_iff]
    exact ⟨fun ⟨a, ha, _⟩ => ⟨a, ha⟩, fun ⟨a, ha⟩ => ⟨a, ha, returns_ok _⟩⟩
  unfold connectorReceived
  by_cases hcar : name = "car"
  · rw [if_pos hcar, then_, returns_readCar_iff]
    simp [hcar]
  by_cases hid : name = "id_tag"
  · rw [if_neg hcar, if_pos hid, then_, returns_takeIf_iff]
    simp [hid]
  by_cases hfaulted : name = "faulted"
  · rw [if_neg hcar, if_neg hid, if_pos hfaulted, then_, returns_takeIf_iff]
    simp [hfaulted]
  · rw [if_neg hcar, if_neg hid, if_neg hfaulted]
    simp only [hcar, hid, hfaulted, List.mem_cons, List.not_mem_nil, or_self, false_implies, iff_true]
    exact returns_ok _

theorem returns_mqttMessageReceived_iff {cp : SimulatedChargePoint} {topic : String} {payload : Payload} :
    Returns (mqttMessageReceived cp topic payload) ↔ Readable cp topic payload := by
  cases payload with
  | empty => exact iff_of_true (returns_ok _) trivial
  | other => exact iff_of_true (returns_ok _) trivial
  | json j =>
    unfold mqttMessageReceived Readable
    dsimp only
    by_cases hcmd : filename topic = "cmd"
    · rw [if_pos hcmd, if_pos hcmd]
      have ht := fun a => Launcher.told_eq_ok_iff (j := j) (n := "type") (P := fun _ => True) (a := a)
        (k := fun type => pure (if type = "close" then .event .closeCommand
          else if type = "ocpp_config" then .publishOcppConfig else .nothing))
        (m := pure Reaction.nothing)
        (g := fun o => o.elim .nothing (fun type => if type = "close" then .event .closeCommand
          else if type = "ocpp_config" then .publishOcppConfig else .nothing))
        (fun _ _ => Launcher.given_iff) rfl
      exact ⟨fun ⟨a, ha⟩ => ((ht a).1 ha).1, fun h => ⟨_, (ht _).2 ⟨h, rfl⟩⟩⟩
    · rw [if_neg hcmd, if_neg hcmd]
      by_cases hc : 0 < Launcher.atoi (levelBefore topic) ∧ Launcher.atoi (levelBefore topic) ≤ cp.numberOfConnectors
      · rw [if_pos hc, returns_connectorReceived_iff]
        exact ⟨fun h _ _ => h, fun h => h hc.1 hc.2⟩
      · rw [if_neg hc]
        exact iff_of_true (returns_ok _) (fun h₁ h₂ => absurd ⟨h₁, h₂⟩ hc)

end Simu

namespace Launcher

open Access Wire

/-- **What is asked of the launcher's handler**: it returns, and has dealt with the message as if the ill-formed elements
of its list were not there. -/
def Host.Handles (sys : System) (h : Host) (topic : String) (payload : Payload) : Prop :=
  Returns (h.receive sys topic payload) ∧
    ∀ h', h.receive sys topic payload = .ok h' → h' = h.mqttMessageReceived sys (.ofPayload topic payload)

/-- **Both handlers fail on a document that is not an object**, and the launcher on a list with an element that is not
one: the charge points after it are not looked at. -/
theorem handlers_misuse :
    let parse (text : List UInt8) : Option Json := if text = [0x5b, 0x5d] then some (.arr []) else none
    let sys : System := ⟨id, fun _ _ => true⟩
    let kill := Json.obj [("type", .str "kill"), ("charge_points", .arr [.int 0, .obj [("id", .str "A")]])]
    Simu.mqttMessageReceived .sample "cp_simu/cps/A/cmd" (.ofText parse [0x5b, 0x5d]) = .error .notAnObject ∧
    ¬Host.initial.Handles sys "cp_simu/launcher/cmd" (.ofText parse [0x5b, 0x5d]) ∧
    ¬Host.initial.Handles sys "cp_simu/launcher/cmd" (.json kill) := by
  have hl : filename "cp_simu/launcher/cmd" = "cmd" := by decide +kernel
  have hc : filename "cp_simu/cps/A/cmd" = "cmd" := by decide +kernel
  have not_handled : ∀ {sys : System} {h : Host} {topic : String} {payload : Payload} {e : Misuse},
      h.receive sys topic payload = .error e → ¬h.Handles sys topic payload := by
    rintro sys h topic payload e he ⟨⟨h', hh⟩, -⟩
    rw [he] at hh
    cases hh
  intro parse sys kill
  have hp : Payload.ofText parse [0x5b, 0x5d] = .json (.arr []) := rfl
  refine ⟨?_, not_handled (e := .notAnObject) ?_, not_handled (e := .notAnObject) ?_⟩
  · rw [hp]
    unfold Simu.mqttMessageReceived
    dsimp only
    rw [if_pos hc]
    rfl
  · rw [hp]
    unfold Host.receive
    dsimp only
    rw [if_pos hl]
    rfl
  · unfold Host.receive
    dsimp only
    rw [if_pos hl]
    rfl

/-- **The handlers are total exactly on the messages they can read.** -/
theorem handlers_total_iff (parse : List UInt8 → Option Json) (topic : String) (text : List UInt8) :
    (∀ (sys : System) (h : Host), h.Handles sys topic (.ofText parse text) ↔ Readable topic (.ofText parse text)) ∧
    ∀ cp : Simu.SimulatedChargePoint,
      Returns (Simu.mqttMessageReceived cp topic (.ofText parse text)) ↔ Simu.Readable cp topic (.ofText parse text) := by
  refine ⟨fun sys h => ⟨?_, fun hr => ?_⟩, fun cp => Simu.returns_mqttMessageReceived_iff⟩
  · rintro ⟨⟨h', hh⟩, -⟩
    exact (Host.receive_eq_ok_iff.1 hh).1
  · exact ⟨⟨_, Host.receive_eq_ok_iff.2 ⟨hr, rfl⟩⟩, fun h' hh => (Host.receive_eq_ok_iff.1 hh).2⟩

end Launcher
