import Mathlib.Data.List.AList
import OcppSimu.Wire
/-!
# Supervisor — `ChargePointManager`, as far as it reads status messages

The supervisor keeps an object for each charge point it has heard of, and in it one for each connector.  A handler of
Python fills an object field by field and stops where it raises, with what it has filled in place: `Py` is a program
over the object that keeps the object when it raises.
-/
namespace Supervisor

open Wire

inductive PyError
  | keyError | indexError | typeError | valueError
  deriving DecidableEq

/-- **A method**: a program over an object, which is kept when the program raises. -/
abbrev Py (σ α : Type) := ExceptT PyError (StateM σ) α

/-- The object after a method, and what the method raised. -/
def Py.exec {σ α : Type} (m : Py σ α) (s : σ) : σ := (m s).2

structure Connector where
  id : ℤ
  status : Json := .str ""
  idTag : Json := .str ""
  maxSetpoint : Json := .int 0
  ocppSetpoint : Json := .int 0
  setpoint : Json := .int 0
  consumptionL1 : Json := .int 0
  consumptionL2 : Json := .int 0
  consumptionL3 : Json := .int 0
  carConsumptionL1 : Json := .int 0
  carConsumptionL2 : Json := .int 0
  carConsumptionL3 : Json := .int 0
  carCableCapacity : Json := .int 0
  carReady : Json := .bool false
  type : String := ""

structure ChargePoint where
  id : String
  type : Json := .str ""
  status : Json := .str ""
  vendor : Json := .str ""
  model : Json := .str ""
  serial : Json := .str ""
  nbPhases : Json := .int 0
  maxSetpoint : Json := .int 0
  connectors : AList (fun _ : ℤ => Connector) := ∅
  centralSystem : Json := .str ""
  voltage : Json := .int 0

/-- `__cps`. -/
structure ChargePointManager where
  cps : AList (fun _ : String => ChargePoint)

/-! ## Python -/

/-- `data[key]`; of two members with one name the later counts. -/
def item (data : Json) (key : String) : Except PyError Json :=
  match data with
  | .obj members =>
    match members.reverse.lookup key with
    | some v => .ok v
    | none => .error .keyError
  | _ => .error .typeError

/-- `value == n`. -/
def equals (v : Json) (n : Nat) : Bool :=
  match v with
  | .int i => decide (i = n)
  | .float q => decide (q = n)
  | .bool b => decide (b.toNat = n)
  | _ => false

/-- The digits of a number, which single underscores may part. -/
def digits : Bool → Nat → List Char → Option Nat
  | true, acc, [] => some acc
  | false, _, [] => none
  | afterDigit, acc, c :: cs =>
    if c.isDigit then digits true (10 * acc + (c.toNat - '0'.toNat)) cs
    else if c = '_' ∧ afterDigit = true then digits false acc cs
    else none

def strip (l : List Char) : List Char := ((l.dropWhile Char.isWhitespace).reverse.dropWhile Char.isWhitespace).reverse

/-- `int` of a text.  Only the digits of ASCII are taken here; Python takes every decimal digit of Unicode. -/
def parseInt (l : List Char) : Except PyError ℤ :=
  match (match strip l with
    | '-' :: rest => (digits false 0 rest).map (fun n => -(n : ℤ))
    | '+' :: rest => (digits false 0 rest).map Int.ofNat
    | rest => (digits false 0 rest).map Int.ofNat) with
  | some i => .ok i
  | none => .error .valueError

/-- `int` of a value. -/
def toInt : Json → Except PyError ℤ
  | .int i => .ok i
  | .float q => .ok (Simu.MeterSimulator.truncate q)
  | .bool b => .ok b.toNat
  | .str s => parseInt s.toList
  | _ => .error .typeError

/-- `display_value`: "Convert from W to Kw to display always in Kw". -/
def displayValue (connectorType value : Json) : Except PyError Json :=
  match connectorType with
  | .str "DC" =>
    match value with
    | .int i => .ok (.float (i / 1000))
    | .float q => .ok (.float (q / 1000))
    | .bool b => .ok (.float (b.toNat / 1000))
    | _ => .error .typeError
  | _ => .ok value

def assign {σ : Type} (value : Except PyError Json) (set : σ → Json → σ) : Py σ Unit := do
  let v ← ExceptT.mk (pure value)
  modify (fun s => set s v)

/-! ## The handler -/

/-- "Charge Point's status". -/
def ChargePoint.fill (data : Json) : Py ChargePoint Unit := do
  assign (item data "status") (fun cp v => { cp with status := v })
  assign (item data "type") (fun cp v => { cp with type := v })
  assign (item data "vendor") (fun cp v => { cp with vendor := v })
  assign (item data "model") (fun cp v => { cp with model := v })
  assign (item data "serial") (fun cp v => { cp with serial := v })
  assign (item data "nb_phases") (fun cp v => { cp with nbPhases := v })
  assign (item data "max_setpoint") (fun cp v => { cp with maxSetpoint := v })
  assign (item data "central_system") (fun cp v => { cp with centralSystem := v })
  assign (item data "voltage") (fun cp v => { cp with voltage := v })

/-! "Connector's status", for a charge point of that type and with that many phases, in three parts. -/

def Connector.fillSetpoints (data : Json) : Py Connector Unit := do
  assign (item data "status") (fun con v => { con with status := v })
  assign (item data "id_tag") (fun con v => { con with idTag := v })
  assign (item data "max_setpoint") (fun con v => { con with maxSetpoint := v })
  assign (item data "ocpp_setpoint") (fun con v => { con with ocppSetpoint := v })
  assign (item data "setpoint") (fun con v => { con with setpoint := v })

def Connector.fillConsumptions (type nbPhases data : Json) : Py Connector Unit := do
  (if equals nbPhases 1 then
    assign (item data "consumption_l1" >>= displayValue type) (fun con v => { con with consumptionL1 := v })
  else pure ())
  (if equals nbPhases 2 then do
    assign (item data "consumption_l1") (fun con v => { con with consumptionL1 := v })
    assign (item data "consumption_l2") (fun con v => { con with consumptionL2 := v })
  else pure ())
  (if equals nbPhases 3 then do
    assign (item data "consumption_l1") (fun con v => { con with consumptionL1 := v })
    assign (item data "consumption_l2") (fun con v => { con with consumptionL2 := v })
    assign (item data "consumption_l3") (fun con v => { con with consumptionL3 := v })
  else pure ())

def Connector.fillCar (type data : Json) : Py Connector Unit := do
  assign (item data "car_consumption_l1" >>= displayValue type) (fun con v => { con with carConsumptionL1 := v })
  assign (item data "car_consumption_l2") (fun con v => { con with carConsumptionL2 := v })
  assign (item data "car_consumption_l3") (fun con v => { con with carConsumptionL3 := v })
  assign (item data "car_cable_capacity" >>= displayValue type) (fun con v => { con with carCableCapacity := v })
  assign (item data "car_ready") (fun con v => { con with carReady := v })

def Connector.fill (type nbPhases data : Json) : Py Connector Unit := do
  fillSetpoints data
  fillConsumptions type nbPhases data
  fillCar type data

/-- `json.loads`. -/
def loads : Payload → Except PyError Json
  | .json j => .ok j
  | _ => .error .valueError

/-- `topic.find("connectors") >= 0`. -/
def hasConnectors (topic : String) : Bool := decide ("connectors".toList <:+: topic.toList)

/-- "Get connector", which makes it where there is none. -/
def ChargePoint.withConnector (cp : ChargePoint) (conId : ℤ) : ChargePoint :=
  if conId ∈ cp.connectors then cp else { cp with connectors := cp.connectors.insert conId { id := conId } }

/-- The connectors branch. -/
def ChargePoint.receiveConnector (parts : List (List Char)) (payload : Payload) : Py ChargePoint Unit := do
  match parts[4]? with
  | none => throw .indexError
  | some part => do
    let conId ← ExceptT.mk (pure (parseInt part))
    modify (fun cp => cp.withConnector conId)
    let data ← ExceptT.mk (pure (loads payload))
    let cp ← get
    match cp.connectors.lookup conId with
    | none => throw .keyError
    | some con => do
      let r := Connector.fill cp.type cp.nbPhases data con
      modify (fun cp => { cp with connectors := cp.connectors.insert conId r.2 })
      ExceptT.mk (pure r.1)

def ChargePoint.receive (topic : String) (payload : Payload) : Py ChargePoint Unit := do
  if hasConnectors topic then receiveConnector (levels topic) payload
  else
    let data ← ExceptT.mk (pure (loads payload))
    fill data

namespace ChargePointManager

def empty : ChargePointManager := ⟨∅⟩

/-- `__on_message_received`, but for the callbacks. -/
def onMessageReceived (m : ChargePointManager) (topic : String) (payload : Payload) : ChargePointManager :=
  if topic = "cp_simu/launcher/status" then m
  else
    match (levels topic)[2]? with
    | none => m
    | some part =>
      match payload with
      | .empty => m
      | payload =>
        let cpId := String.ofList part
        let cp := (m.cps.lookup cpId).getD { id := cpId }
        ⟨m.cps.insert cpId ((ChargePoint.receive topic payload).exec cp)⟩

def receiveAll (m : ChargePointManager) (messages : List (String × Payload)) : ChargePointManager :=
  messages.foldl (fun m x => m.onMessageReceived x.1 x.2) m

end ChargePointManager

/-- The filters `__on_connection_change` subscribes to. -/
def subscriptions : List String :=
  ["cp_simu/cps/+/status", "cp_simu/cps/+/connectors/+/status", "cp_simu/launcher/status"]

def subscribed (topic : String) : Bool := subscriptions.any (fun f => passes (levels f) (levels topic))

/-- The members of `cp_dict`, in the order they are set. -/
def dictOf (cp : ChargePoint) (maxSetpoint maxSetpointPerConnector : ℤ) : Json := .obj
  [("id", .str cp.id), ("type", cp.type), ("vendor", cp.vendor), ("model", cp.model), ("serial", cp.serial),
   ("nb_phases", cp.nbPhases), ("nb_connectors", .int cp.connectors.keys.length), ("max_setpoint", .int maxSetpoint),
   ("voltage", cp.voltage), ("max_setpoint_per_connector", .int maxSetpointPerConnector),
   ("central_system", cp.centralSystem)]

def setpointPerConnector (cp : ChargePoint) : Except PyError ℤ :=
  if cp.connectors.keys.length > 0 then
    match cp.connectors.lookup 1 with
    | none => .error .keyError
    | some con => toInt con.maxSetpoint
  else .ok 0

/-- `__cp_to_dict`. -/
def cpToDict (cp : ChargePoint) : Except PyError Json := do
  let maxSetpoint ← toInt cp.maxSetpoint
  let maxSetpointPerConnector ← setpointPerConnector cp
  pure (dictOf cp maxSetpoint maxSetpointPerConnector)

/-! ## Numbers in topics -/

theorem digits_eq : ∀ (l : List Char) (b : Bool) (acc : Nat), (∀ x ∈ l, x.isDigit = true) → (l ≠ [] ∨ b = true) →
    digits b acc l = some (Nat.ofDigitChars 10 l acc)
  | [], true, acc, _, _ => rfl
  | [], false, acc, _, h => by simp at h
  | x :: l, b, acc, hd, _ => by
    have hx : digits b acc (x :: l) = digits true (10 * acc + (x.toNat - '0'.toNat)) l := by
      simp only [digits]
      rw [if_pos (hd x List.mem_cons_self)]
    rw [hx, digits_eq l true _ (fun y hy => hd y (List.mem_cons_of_mem x hy)) (.inr rfl), Nat.ofDigitChars_cons]

theorem not_isWhitespace_of_isDigit {x : Char} (h : x.isDigit = true) : x.isWhitespace = false := by
  rw [Bool.eq_false_iff]
  intro hw
  simp only [Char.isWhitespace, Bool.or_eq_true, decide_eq_true_eq] at hw
  rcases hw with ((rfl | rfl) | rfl) | rfl <;> exact absurd h (by decide)

theorem strip_of_isDigit {l : List Char} (h : ∀ x ∈ l, x.isDigit = true) : strip l = l := by
  have drop : ∀ l : List Char, (∀ x ∈ l, x.isDigit = true) → l.dropWhile Char.isWhitespace = l := by
    intro l hl
    cases l with
    | nil => rfl
    | cons x l => rw [List.dropWhile_cons_of_neg (by rw [not_isWhitespace_of_isDigit (hl x List.mem_cons_self)]; decide)]
  unfold strip
  rw [drop l h, drop l.reverse (fun x hx => h x (List.mem_reverse.1 hx)), List.reverse_reverse]

theorem parseInt_of_isDigit {x : Char} {l : List Char} {n : Nat} (h : ∀ y ∈ x :: l, y.isDigit = true)
    (hn : digits false 0 (x :: l) = some n) : parseInt (x :: l) = .ok n := by
  have hx := h x List.mem_cons_self
  have hminus : x ≠ '-' := by
    rintro rfl
    exact absurd hx (by decide)
  have hplus : x ≠ '+' := by
    rintro rfl
    exact absurd hx (by decide)
  unfold parseInt
  rw [strip_of_isDigit h]
  simp [hminus, hplus, hn]

/-- **`int` reads back a number of a topic.** -/
theorem parseInt_toString (c : Nat) : parseInt (toString c).toList = .ok c := by
  rw [Nat.toString_eq_ofList_toDigits, String.toList_ofList]
  have hd : ∀ x ∈ Nat.toDigits 10 c, x.isDigit = true := fun x hx =>
    Nat.isDigit_of_mem_toDigits (by decide) (by decide) hx
  have hval := digits_eq (Nat.toDigits 10 c) false 0 hd (.inl Nat.toDigits_ne_nil)
  rw [Nat.ofDigitChars_ten_toDigits] at hval
  cases hl : Nat.toDigits 10 c with
  | nil => exact absurd hl Nat.toDigits_ne_nil
  | cons x l =>
    rw [hl] at hd hval
    exact parseInt_of_isDigit hd hval

/-! ## Methods -/

/-- **A method that leaves a part of its object alone.** -/
def Py.Keeps {σ ν α : Type} (view : σ → ν) (m : Py σ α) : Prop := ∀ s, view (m s).2 = view s

section
variable {σ ν α β : Type} {view : σ → ν}

theorem Py.Keeps.pure (a : α) : Py.Keeps view (Pure.pure a : Py σ α) := fun _ => rfl

theorem Py.bind_ok {m : Py σ α} {k : α → Py σ β} {s s' : σ} {a : α} (h : m s = (.ok a, s')) :
    (m >>= k) s = k a s' := by
  show (ExceptT.bind m k) s = _
  simp only [ExceptT.bind, ExceptT.mk, bind, StateT.bind]
  rw [h]
  rfl

theorem Py.bind_error {m : Py σ α} {k : α → Py σ β} {s s' : σ} {e : PyError} (h : m s = (.error e, s')) :
    (m >>= k) s = (.error e, s') := by
  show (ExceptT.bind m k) s = _
  simp only [ExceptT.bind, ExceptT.mk, bind, StateT.bind]
  rw [h]
  rfl

theorem Py.Keeps.bind {m : Py σ α} {k : α → Py σ β} (hm : Py.Keeps view m) (hk : ∀ a, Py.Keeps view (k a)) :
    Py.Keeps view (m >>= k) := by
  intro s
  have h := hm s
  rcases hs : m s with ⟨r, s'⟩
  rw [hs] at h
  cases r with
  | ok a => rw [Py.bind_ok hs, hk a s', h]
  | error e => rw [Py.bind_error hs, h]

theorem Py.Keeps.raise (value : Except PyError α) : Py.Keeps view (ExceptT.mk (Pure.pure value) : Py σ α) := fun _ => rfl

theorem Py.Keeps.modify {f : σ → σ} (h : ∀ s, view (f s) = view s) : Py.Keeps view (modifyGet (fun s => (⟨⟩, f s)) : Py σ PUnit) := h

theorem Py.Keeps.get : Py.Keeps view (MonadState.get : Py σ σ) := fun _ => rfl

theorem Py.Keeps.assign {value : Except PyError Json} {set : σ → Json → σ} (h : ∀ s v, view (set s v) = view s) :
    Py.Keeps view (assign value set) := by
  intro s
  cases value with
  | ok v => exact h s v
  | error e => rfl

theorem Py.Keeps.ite {c : Prop} [Decidable c] {m n : Py σ α} (hm : Py.Keeps view m) (hn : Py.Keeps view n) :
    Py.Keeps view (if c then m else n) := by
  split
  · exact hm
  · exact hn

end

end Supervisor
