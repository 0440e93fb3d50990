import Mathlib.Algebra.Ring.Nat
import Mathlib.Data.Int.Notation
import Mathlib.Data.Rat.Defs
import Mathlib.Logic.Function.Basic
import OcppSimu.Hist
/-!
# Launcher — `CommandHandler`, and the launcher that runs it

The launcher starts processes and knows of them what their status messages say.  A `Host` is one machine: the launcher
that runs on it, if one does, and the log of what it was told and did, newest entry first.  The system answers what the
pid of the `n`-th process is and whether a `kill` works.
-/
namespace Launcher

/-- An element of `charge_points`, a field absent where the element has no such member. -/
structure Element where
  id : Option String := none
  type : Option String := none
  vendor : Option String := none
  model : Option String := none
  serial : Option String := none
  centralSystem : Option String := none
  nbConnectors : Option Nat := none
  nbPhases : Option Nat := none
  maxSetpoint : Option Nat := none
  maxSetpointPerConnector : Option Nat := none
  voltage : Option ℚ := none
  deriving DecidableEq

/-- What a charge point is started with, on its command line and in its configuration file. -/
structure Parameters where
  id : String
  type : String
  vendor : String
  model : String
  serial : String
  centralSystem : String
  nbConnectors : Nat
  nbPhases : Nat
  maxSetpoint : Nat
  maxSetpointPerConnector : Nat
  voltage : ℚ
  deriving DecidableEq

/-- The parameters of an element that has all eleven members. -/
def Element.parameters (e : Element) : Option Parameters := do
  let id ← e.id
  let vendor ← e.vendor
  let type ← e.type
  let model ← e.model
  let serial ← e.serial
  let maxSetpoint ← e.maxSetpoint
  let nbConnectors ← e.nbConnectors
  let maxSetpointPerConnector ← e.maxSetpointPerConnector
  let nbPhases ← e.nbPhases
  let centralSystem ← e.centralSystem
  let voltage ← e.voltage
  pure { id, type, vendor, model, serial, centralSystem, nbConnectors, nbPhases, maxSetpoint,
         maxSetpointPerConnector, voltage }

/-- **An element that has all its members is its parameters.** -/
theorem Element.eq_of_parameters {e : Element} {p : Parameters} (h : e.parameters = some p) :
    e = ⟨some p.id, some p.type, some p.vendor, some p.model, some p.serial, some p.centralSystem, some p.nbConnectors,
      some p.nbPhases, some p.maxSetpoint, some p.maxSetpointPerConnector, some p.voltage⟩ := by
  simp only [parameters, Option.bind_eq_bind, Option.bind_eq_some_iff, Option.pure_def, Option.some.injEq] at h
  obtain ⟨id, h₁, vendor, h₂, type, h₃, model, h₄, serial, h₅, maxSetpoint, h₆, nbConnectors, h₇, perConnector, h₈,
    nbPhases, h₉, centralSystem, h₁₀, voltage, h₁₁, rfl⟩ := h
  obtain ⟨⟩ := e
  simp only at h₁ h₂ h₃ h₄ h₅ h₆ h₇ h₈ h₉ h₁₀ h₁₁
  rw [h₁, h₂, h₃, h₄, h₅, h₆, h₇, h₈, h₉, h₁₀, h₁₁]

/-- A message as `mqttMessageReceived` tells them apart; `other` is one it only prints. -/
inductive Message
  | close
  | start (chargePoints : List Element)
  | kill (chargePoints : List Element)
  | restart (chargePoints : List Element)
  | status (chargePoint : String) (status : String) (pid : Nat)
  | empty (chargePoint : String)
  | other

inductive Entry
  | started
  | stopped
  | status (chargePoint : String) (status : String) (pid : Nat)
  | removed (chargePoint : String)
  | asked (id : String) (cleanEnv : Bool)
  | cleared (id : String)
  | launched (p : Parameters) (pid : Nat)
  | killed (id : String) (pid : ℤ)
  deriving DecidableEq

/-- `CommandHandler`, with its two maps. -/
structure CommandHandler where
  ended : Bool := false
  cpStatus : String → Option Bool := fun _ => none
  cpPids : String → Option Nat := fun _ => none

structure Host where
  running : Bool
  handler : CommandHandler
  processes : Nat
  log : List Entry

/-- What the operating system answers. -/
structure System where
  pid : Nat → Nat
  kill : List Entry → ℤ → Bool

/-- What is left of a `uint64_t` in the argument of `kill`, a `pid_t` of 32 bits. -/
def toPid (pid : Nat) : ℤ := Int.bmod pid (2 ^ 32)

namespace Host

def note (h : Host) (e : Entry) : Host := { h with log := e :: h.log }

@[simp] theorem log_note (h : Host) (e : Entry) : (h.note e).log = e :: h.log := rfl
@[simp] theorem handler_note (h : Host) (e : Entry) : (h.note e).handler = h.handler := rfl

/-- A machine on which nothing was launched. -/
def initial : Host := ⟨false, {}, 0, []⟩

/-- `remove_all` of `m_chargepoints_dir / id`.  The name is taken as it comes, so other directories may go with it or in
its place (`Wipes`). -/
def clear (h : Host) (id : String) : Host := h.note (.cleared id)

def launch (sys : System) (h : Host) (p : Parameters) : Host :=
  { h with processes := h.processes + 1 }.note (.launched p (sys.pid h.processes))

/-- An element of `startChargePoints`, and whether a process was started for it. -/
def startChargePoint (sys : System) (cleanEnv : Bool) (h : Host) (e : Element) : Host × Bool :=
  match e.parameters with
  | none => (h, false)
  | some p =>
    let h := h.note (.asked p.id cleanEnv)
    -- "Check if charge point is already running"
    if h.handler.cpStatus p.id = none ∨ h.handler.cpStatus p.id = some false then
      (launch sys (if cleanEnv then h.clear p.id else h) p, true)
    else (h, false)

def startChargePoints (sys : System) (cleanEnv : Bool) (h : Host) (chargePoints : List Element) : Host × Bool :=
  let r := chargePoints.foldl (fun (acc : Host × Nat) e =>
    let s := startChargePoint sys cleanEnv acc.1 e
    (s.1, acc.2 + s.2.toNat)) (h, 0)
  (r.1, decide (r.2 = chargePoints.length))

/-- `m_cp_status[id]`, which makes the entry where there is none. -/
def readStatus (h : Host) (id : String) : Host :=
  { h with handler := { h.handler with
      cpStatus := Function.update h.handler.cpStatus id (some ((h.handler.cpStatus id).getD false)) } }

/-- An element of `killChargePoints`, and whether its process was killed. -/
def killChargePoint (sys : System) (h : Host) (e : Element) : Host × Bool :=
  match e.id with
  | none => (h, false)
  | some id =>
    match h.handler.cpPids id with
    | none => (h, false)
    | some pid =>
      let h := h.readStatus id
      if h.handler.cpStatus id = some true then (h.note (.killed id (toPid pid)), sys.kill h.log (toPid pid)) else (h, false)

def killChargePoints (sys : System) (h : Host) (chargePoints : List Element) : Host × Bool :=
  let r := chargePoints.foldl (fun (acc : Host × Nat) e =>
    let s := killChargePoint sys acc.1 e
    (s.1, acc.2 + s.2.toNat)) (h, 0)
  (r.1, decide (r.2 = chargePoints.length))

/-- The count of a loop is without effect on what it does. -/
theorem fst_foldl_counted {α β : Type} (act : α → β → α × Bool) (l : List β) (s : α) (n : Nat) :
    (l.foldl (fun (acc : α × Nat) e => ((act acc.1 e).1, acc.2 + (act acc.1 e).2.toNat)) (s, n)).1 =
      l.foldl (fun s e => (act s e).1) s := by
  induction l generalizing s n with
  | nil => rfl
  | cons e l ih => exact ih _ _

theorem startChargePoints_fst (sys : System) (cleanEnv : Bool) (h : Host) (l : List Element) :
    (h.startChargePoints sys cleanEnv l).1 = l.foldl (fun h e => (h.startChargePoint sys cleanEnv e).1) h :=
  fst_foldl_counted (startChargePoint sys cleanEnv) l h 0

theorem killChargePoints_fst (sys : System) (h : Host) (l : List Element) :
    (h.killChargePoints sys l).1 = l.foldl (fun h e => (h.killChargePoint sys e).1) h :=
  fst_foldl_counted (killChargePoint sys) l h 0

/-- A status message: it is kept whether it says `Dead`, and the pid where it does not. -/
def statusReceived (h : Host) (chargePoint status : String) (pid : Nat) : Host :=
  let alive := decide (status ≠ "Dead")
  { h with handler := { h.handler with
      cpStatus := Function.update h.handler.cpStatus chargePoint (some alive)
      cpPids := if alive then Function.update h.handler.cpPids chargePoint (some pid) else h.handler.cpPids } }.note
    (.status chargePoint status pid)

/-- An empty status message removes the charge point. -/
def removeChargePoint (h : Host) (chargePoint : String) : Host :=
  { h with handler := { h.handler with
      cpStatus := Function.update h.handler.cpStatus chargePoint none
      cpPids := Function.update h.handler.cpPids chargePoint none } }.note (.removed chargePoint) |>.clear chargePoint

def mqttMessageReceived (sys : System) (h : Host) : Message → Host
  | .close => { h with handler := { h.handler with ended := true } }
  | .start chargePoints => (h.startChargePoints sys true chargePoints).1
  | .kill chargePoints => (h.killChargePoints sys chargePoints).1
  | .restart chargePoints => (h.startChargePoints sys false chargePoints).1
  | .status chargePoint status pid => h.statusReceived chargePoint status pid
  | .empty chargePoint => h.removeChargePoint chargePoint
  | .other => h

end Host

inductive Config
  | none
  | invalid
  | chargePoints (l : List Element)

inductive Event
  | start (config : Config)
  | stop
  | message (m : Message)

/-- **One step of a host.**  `main` makes a new `CommandHandler`, starts what its configuration file lists, and is gone
where the file is invalid; messages reach a launcher that runs. -/
def Host.step (sys : System) (h : Host) : Event → Host
  | .start .none => { h with running := true, handler := {} }.note .started
  | .start .invalid => { h with running := false, handler := {} }.note .started
  | .start (.chargePoints l) => (({ h with running := true, handler := {} }.note .started).startChargePoints sys true l).1
  | .stop => { h with running := false }.note .stopped
  | .message m => if h.running then h.mqttMessageReceived sys m else h

def Host.run (sys : System) (h : Host) (events : List Event) : Host := events.foldl (Host.step sys) h

end Launcher
