import OcppSimu.Hist
import OcppSimu.Script
import OcppSimu.Meter
/-!
# World — what the threads of a simulated charge point share

The control loop, the MQTT threads, the timers of the meters and the threads of the OCPP stack share one `World`.  An
`Event` is one step of the other threads: a message handed to `MqttManager::mqttMessageReceived`, a call of the stack
to `ChargePointEventsHandler`, a move of the stack itself, a step of `MqttManager::start`, the broker, the clock.  Every
event and every call of the loop leaves an `Entry` in the log, newest first.
-/
namespace Simu

/-- The payload of a message on a `car` topic, a field absent where the payload has no such member of the right
type. -/
structure CarPayload where
  cable : Option ℚ := none
  ready : Option Bool := none
  consumptionL1 : Option ℚ := none
  consumptionL2 : Option ℚ := none
  consumptionL3 : Option ℚ := none
  deriving DecidableEq

structure StatusMessage where
  pid : Nat
  status : String
  vendor : String
  model : String
  serial : String
  nbPhases : Nat
  maxSetpoint : ℚ
  centralSystem : String
  type : String
  voltage : ℚ
  deriving DecidableEq

structure ConnectorMessage where
  status : ChargePointStatus
  idTag : String
  maxSetpoint : ℚ
  ocppSetpoint : ℚ
  setpoint : ℚ
  carConsumptionL1 : ℚ
  carConsumptionL2 : ℚ
  carConsumptionL3 : ℚ
  carCableCapacity : ℚ
  carReady : Bool
  consumptionL1 : ℚ
  consumptionL2 : ℚ
  consumptionL3 : ℚ
  deriving DecidableEq

/-- A retained message: on `m_status_topic`, or on the status topic of a connector. -/
inductive Publication
  | status (m : StatusMessage)
  | connector (c : Nat) (m : ConnectorMessage)
  deriving DecidableEq

inductive TagSource
  | badge | remoteStart
  deriving DecidableEq

inductive Event
  | carMessage (c : Nat) (p : CarPayload)
  | idTagMessage (c : Nat) (id : String)
  | faultedMessage (c : Nat) (faulted : Bool)
  | closeCommand
  | remoteStartTransactionRequested (c : Nat) (idTag : String)
  | remoteStopTransactionRequested (c : Nat)
  | changeAvailabilityRequested (c : Nat) (a : AvailabilityType)
  | resetRequested
  | connectionStateChanged (isConnected : Bool)
  | registrationChanged (s : RegistrationStatus)
  | statusMoved (c : Nat) (s : ChargePointStatus)
  | brokerLost
  | mqttStartStep (success : Bool)
  | meterUpdate (c : Nat)
  | elapse (ms : Nat)
  | setAuthorizeRemoteTxRequests (b : Bool)
  | setConnectionTimeOut (ms : Nat)
  deriving DecidableEq

/-- One entry of the log.  The first group is what the other threads did, the second the calls of the loop with their
answers, the third what the loop noted for itself. -/
inductive Entry
  | event (e : Event)
  | remoteStartTransactionRequested (asked : Nat) (idTag : String) (stored : Option Nat)
  | changeAvailabilityRequested (c : Nat) (a : AvailabilityType) (answer : AvailabilityStatus)
  | statusMoved (c : Nat) (old new : ChargePointStatus)
  | willPublished
  | mqttOpened
  | mqttEndTested (ended : Bool)
  | mqttClosed
  | published (m : Publication) (success : Bool)
  | publishStatus (connected : Bool)
  | publishData (connected : Bool)
  | isEndOfApplication (b : Bool)
  | isResetPending (b : Bool)
  | isConnected (b : Bool)
  | getRegistrationStatus (s : RegistrationStatus)
  | getConnectorStatus (c : Nat) (s : ChargePointStatus)
  | statusNotification (c : Nat) (s : ChargePointStatus)
  | authorize (c : Nat) (idTag : String) (answer : AuthorizationStatus)
  | startTransaction (c : Nat) (idTag : String) (answer : AuthorizationStatus)
  | stopTransaction (c : Nat) (idTag : String) (reason : Reason)
  | getSetpoint (c : Nat) (unit : ChargingRateUnitType) (answer : Option (Option ℚ × Option ℚ))
  | authorizeRemoteTxRequests (c : Nat) (b : Bool)
  | isIdTagPending (c : Nat) (b : Bool)
  | pendingIdTag (c : Nat) (idTag : String)
  | resetIdTagPending (c : Nat)
  | isRemoteStartPending (c : Nat) (b : Bool)
  | remoteStartIdTag (c : Nat) (idTag : String)
  | resetRemoteStartPending (c : Nat)
  | isRemoteStopPending (c : Nat) (b : Bool)
  | resetRemoteStopPending (c : Nat)
  | unavailablePending (c : Nat) (b : Bool)
  | setConsumptions (c : Nat) (consumptions : List ℚ)
  | entered (c : Nat) (s : ChargePointStatus)
  | updateData (c : Nat) (old : ConnectorData) (new : CarData)
  | isValidIdTagPresent (c : Nat) (idTag : Option (TagSource × String)) (answer : Bool)
  | division (num den : ℚ)
  deriving DecidableEq

def Event.about : Event → Option Nat
  | .carMessage c _ | .idTagMessage c _ | .faultedMessage c _ | .remoteStopTransactionRequested c
  | .meterUpdate c => some c
  | _ => none

/-- **The connector an entry is about**; for a remote start request it is the one whose mailbox took the tag. -/
def Entry.about : Entry → Option Nat
  | .event e => e.about
  | .remoteStartTransactionRequested _ _ stored => stored
  | .changeAvailabilityRequested c _ _ | .statusMoved c _ _ | .getConnectorStatus c _ | .statusNotification c _
  | .authorize c _ _ | .startTransaction c _ _ | .stopTransaction c _ _ | .getSetpoint c _ _
  | .authorizeRemoteTxRequests c _ | .isIdTagPending c _ | .pendingIdTag c _ | .resetIdTagPending c
  | .isRemoteStartPending c _ | .remoteStartIdTag c _ | .resetRemoteStartPending c | .isRemoteStopPending c _
  | .resetRemoteStopPending c | .unavailablePending c _ | .setConsumptions c _ | .entered c _ | .updateData c _ _
  | .isValidIdTagPresent c _ _ => some c
  | _ => none

/-- The entries another thread leaves. -/
def Entry.outside : Entry → Bool
  | .event _ | .remoteStartTransactionRequested _ _ _ | .changeAvailabilityRequested _ _ _ | .statusMoved _ _ _
  | .willPublished | .mqttOpened | .mqttEndTested _ | .mqttClosed => true
  | _ => false

/-- The entries another thread leaves, with the will `MqttManager::start` publishes at the end. -/
def Entry.spontaneous : Entry → Bool
  | .published _ _ => true
  | e => e.outside

def Entry.asksSetpoint : Entry → Bool
  | .getSetpoint _ _ _ => true
  | _ => false

/-- The entries of the calls that look after the status of the charge point, and of those that publish. -/
def Entry.ofStatus : Entry → Bool
  | .isConnected _ | .getRegistrationStatus _ | .published _ _ | .publishStatus _ | .publishData _ => true
  | _ => false

inductive StartPc
  | connect | subscribe (i : Fin 4) | ready | retry | close | farewell | loopTest | release | released
  deriving DecidableEq

/-- `MqttManager`, with its `PahoMqttClient`: `client` is `m_client != nullptr`, `connected` what the library answers
for it. -/
structure MqttManager where
  connectors : Nat → ConnectorData
  ended : Bool
  pc : StartPc
  client : Bool
  connected : Bool
  farewell : pc = .farewell → ended = true

structure ChargePointEventsHandler where
  remoteStartPending : Nat → Bool
  remoteStopPending : Nat → Bool
  remoteStartIdTag : Nat → String
  isConnected : Bool
  resetPending : Bool

/-- What the loop reads of the OCPP stack. -/
structure Stack where
  status : Nat → ChargePointStatus
  registration : RegistrationStatus
  authorizeRemoteTxRequests : Bool
  connectionTimeOut : Nat

structure Broker where
  status : Option StatusMessage
  connectors : Nat → Option ConnectorMessage

structure LoopVars where
  statusPublished : Bool := false
  ocppConnected : Bool := false
  ocppStatus : RegistrationStatus := .rejected
  statusStr : String := "Disconnected"
  deriving DecidableEq

structure World where
  connectors : Nat → ConnectorData
  meters : Nat → MeterSimulator
  mqtt : MqttManager
  handler : ChargePointEventsHandler
  stack : Stack
  broker : Broker
  vars : LoopVars
  clock : Nat
  log : List Entry

namespace World

def note (w : World) (e : Entry) : World := { w with log := e :: w.log }

def setConnector (w : World) (c : Nat) (f : ConnectorData → ConnectorData) : World :=
  { w with connectors := Function.update w.connectors c (f (w.connectors c)) }

def setMqttConnector (w : World) (c : Nat) (f : ConnectorData → ConnectorData) : World :=
  { w with mqtt := { w.mqtt with connectors := Function.update w.mqtt.connectors c (f (w.mqtt.connectors c)) } }

def setMeter (w : World) (c : Nat) (f : MeterSimulator → MeterSimulator) : World :=
  { w with meters := Function.update w.meters c (f (w.meters c)) }

def setStatus (w : World) (c : Nat) (s : ChargePointStatus) : World :=
  { w with stack := { w.stack with status := Function.update w.stack.status c s } }

def setRemoteStart (w : World) (c : Nat) (b : Bool) : World :=
  { w with handler := { w.handler with remoteStartPending := Function.update w.handler.remoteStartPending c b } }

def setRemoteStop (w : World) (c : Nat) (b : Bool) : World :=
  { w with handler := { w.handler with remoteStopPending := Function.update w.handler.remoteStopPending c b } }

end World

/-- **What `start` hands to the loop**, `stack` being the OCPP stack it has created. -/
def World.start (cp : SimulatedChargePoint) (stack : Stack) : World where
  connectors _ := { maxSetpoint := cp.maxConnectorSetpoint }
  meters _ := (MeterSimulator.create cp.arith cp.nbPhases cp.chargePointType cp.powerFactor).setVoltages
    (List.replicate cp.nbPhases cp.operatingVoltage)
  mqtt := { connectors := fun _ => {}, ended := false, pc := .connect, client := false, connected := false,
            farewell := fun h => by cases h }
  handler := { remoteStartPending := fun _ => false, remoteStopPending := fun _ => false, remoteStartIdTag := fun _ => "",
               isConnected := false, resetPending := false }
  stack := stack
  broker := { status := none, connectors := fun _ => none }
  vars := {}
  clock := 0
  log := []

def SimulatedChargePoint.sample : SimulatedChargePoint where
  arith := .single
  numberOfConnectors := 2
  maxChargePointSetpoint := 64
  maxConnectorSetpoint := 32
  floats := by decide +kernel
  nbPhases := 3
  chargePointType := .ac
  pid := 1
  chargePointVendor := "vendor"
  chargePointModel := "model"
  chargePointSerialNumber := "serial"
  connexionUrl := "url"
  operatingVoltage := 230
  powerFactor := 1

/-- The same with exact numbers. -/
def SimulatedChargePoint.exactSample : SimulatedChargePoint :=
  { SimulatedChargePoint.sample with arith := .exact ℚ, floats := ⟨rfl, rfl⟩ }

def Stack.idle : Stack where
  status _ := .available
  registration := .accepted
  authorizeRemoteTxRequests := true
  connectionTimeOut := 60000

/-! ## The handlers of the other threads -/

/-- The `car` branch of `mqttMessageReceived`. -/
def ConnectorData.receiveCar (d : ConnectorData) (p : CarPayload) : ConnectorData :=
  { d with carCableCapacity := p.cable.getD d.carCableCapacity
           carReady := p.ready.getD d.carReady
           carConsumptionL1 := p.consumptionL1.getD d.carConsumptionL1
           carConsumptionL2 := p.consumptionL2.getD d.carConsumptionL2
           carConsumptionL3 := p.consumptionL3.getD d.carConsumptionL3 }

section

variable (cp : SimulatedChargePoint)

def buildStatusMessage (status : String) : StatusMessage where
  pid := cp.pid
  status := status
  vendor := cp.chargePointVendor
  model := cp.chargePointModel
  serial := cp.chargePointSerialNumber
  nbPhases := cp.nbPhases
  maxSetpoint := cp.maxChargePointSetpoint
  centralSystem := cp.connexionUrl
  type := cp.chargePointType.toText
  voltage := cp.operatingVoltage

/-- The connector whose mailbox takes a remote start: the one asked for, for 0 the first below `Charging`. -/
def remoteStartConnector (w : World) (c : Nat) : Option Nat :=
  if c ≠ 0 then some c
  else cp.ids.find? (fun i => decide ((w.stack.status i).rank < ChargePointStatus.rank .charging))

/-- `remoteStartTransactionRequested`: it answers `true` exactly when a mailbox takes the tag.  The source writes the flag
and then the tag, without a lock; here the two are one step. -/
def remoteStartTransactionRequested (w : World) (c : Nat) (idTag : String) : World :=
  match remoteStartConnector cp w c with
  | some i =>
    { w with handler := { w.handler with
        remoteStartPending := Function.update w.handler.remoteStartPending i true
        remoteStartIdTag := Function.update w.handler.remoteStartIdTag i idTag } }.note
      (.remoteStartTransactionRequested c idTag (some i))
  | none => w.note (.remoteStartTransactionRequested c idTag none)

def remoteStopTransactionRequested (w : World) (c : Nat) : World :=
  (w.setRemoteStop c true).note (.event (.remoteStopTransactionRequested c))

/-- `changeAvailabilityRequested`: the answer, and the flag it leaves. -/
def changeAvailability (c : Nat) (d : ConnectorData) (a : AvailabilityType) : AvailabilityStatus × Bool :=
  if c > 0 then
    match a with
    | .inoperative =>
      if d.status ≠ .available ∧ d.status ≠ .reserved ∧ d.status ≠ .faulted then (.scheduled, true)
      else (.accepted, d.unavailablePending)
    | .operative => (.accepted, false)
  else (.accepted, d.unavailablePending)

/-- `changeAvailabilityRequested`, on the loop's own copy of the connector. -/
def changeAvailabilityRequested (w : World) (c : Nat) (a : AvailabilityType) : World :=
  let r := changeAvailability c (w.connectors c) a
  (w.setConnector c (fun d => { d with unavailablePending := r.2 })).note (.changeAvailabilityRequested c a r.1)

/-- The will the client registered: the status message of a charge point that is gone. -/
def will : StatusMessage := buildStatusMessage cp "Dead"

/-- `MqttManager::start` goes on at `pc`. -/
def MqttManager.goOn (m : MqttManager) (pc : StartPc) (h : pc = .farewell → m.ended = true) : MqttManager :=
  { m with pc := pc, farewell := h }

/-- The client is closed or deleted. -/
def MqttManager.dropClient (m : MqttManager) : MqttManager := { m with client := false, connected := false }

/-- What the test of `m_end` before a retry leads to. -/
def MqttManager.testEnd (m : MqttManager) : MqttManager :=
  m.goOn (if m.ended then .farewell else .close) (fun h => by
    by_contra he
    rw [if_neg he] at h
    cases h)

/-- **One step of `MqttManager::start`**, `success` being what the client's `connect`, `subscribe` or `publish`
answers. -/
def mqttStartStep (w : World) (success : Bool) : World :=
  match w.mqtt.pc with
  | .connect =>
    if success ∧ w.mqtt.client = false then
      { w with mqtt := { w.mqtt with client := true, connected := true }.goOn (.subscribe 0) (fun h => by cases h) }.note
        .mqttOpened
    else { w with mqtt := w.mqtt.goOn .retry (fun h => by cases h) }
  | .subscribe i =>
    if success ∧ w.mqtt.client = true then
      { w with mqtt := w.mqtt.goOn (if i = 3 then .ready else .subscribe (i + 1)) (fun h => by split at h <;> cases h) }
    else { w with mqtt := w.mqtt.goOn .retry (fun h => by cases h) }
  | .ready =>
    -- the wait for a disconnection or for the end
    if w.mqtt.ended = false ∧ w.mqtt.connected = true then w else { w with mqtt := w.mqtt.goOn .retry (fun h => by cases h) }
  | .retry =>
    -- a close command may still come before the client is closed
    { w with mqtt := w.mqtt.testEnd }.note (.mqttEndTested w.mqtt.ended)
  | .close =>
    -- `close` disconnects as the protocol asks, so the broker publishes no will
    { w with mqtt := w.mqtt.dropClient.goOn .loopTest (fun h => by cases h) }.note .mqttClosed
  | .farewell =>
    if success ∧ w.mqtt.connected = true then
      { w with broker := { w.broker with status := some (will cp) }
               mqtt := w.mqtt.goOn .loopTest (fun h => by cases h) }.note (.published (.status (will cp)) true)
    else { w with mqtt := w.mqtt.goOn .loopTest (fun h => by cases h) }.note (.published (.status (will cp)) false)
  | .loopTest =>
    { w with mqtt := w.mqtt.goOn (if w.mqtt.ended = false then .connect else .release) (fun h => by split at h <;> cases h) }
  | .release => { w with mqtt := w.mqtt.dropClient.goOn .released (fun h => by cases h) }.note .mqttClosed
  | .released => w

/-- **One step of the other threads.**  A message for a connector that does not exist is ignored; the stack moves a
connector to whatever status it likes, and a property that assumes more of it says so of the log. -/
def World.step (w : World) : Event → World
  | .carMessage c p =>
    if c ∈ cp.ids then (w.setMqttConnector c (·.receiveCar p)).note (.event (.carMessage c p)) else w
  | .idTagMessage c id =>
    if c ∈ cp.ids then (w.setMqttConnector c ({ · with idTag := id })).note (.event (.idTagMessage c id)) else w
  | .faultedMessage c b =>
    if c ∈ cp.ids then (w.setMqttConnector c ({ · with faultPending := b })).note (.event (.faultedMessage c b))
    else w
  | .closeCommand => { w with mqtt := { w.mqtt with ended := true, farewell := fun _ => rfl } }.note (.event .closeCommand)
  | .remoteStartTransactionRequested c idTag => remoteStartTransactionRequested cp w c idTag
  | .remoteStopTransactionRequested c => remoteStopTransactionRequested w c
  | .changeAvailabilityRequested c a => changeAvailabilityRequested w c a
  | .resetRequested => { w with handler := { w.handler with resetPending := true } }.note (.event .resetRequested)
  | .connectionStateChanged b =>
    { w with handler := { w.handler with isConnected := b } }.note (.event (.connectionStateChanged b))
  | .registrationChanged s =>
    { w with stack := { w.stack with registration := s } }.note (.event (.registrationChanged s))
  | .statusMoved c s => (w.setStatus c s).note (.statusMoved c (w.stack.status c) s)
  | .brokerLost =>
    if w.mqtt.connected = true then
      { w with mqtt := { w.mqtt with connected := false }
               broker := { w.broker with status := some (will cp) } }.note .willPublished
    else w
  | .mqttStartStep b => mqttStartStep cp w b
  | .meterUpdate c => (w.setMeter c (·.update)).note (.event (.meterUpdate c))
  | .elapse ms => { w with clock := w.clock + ms }.note (.event (.elapse ms))
  | .setAuthorizeRemoteTxRequests b =>
    { w with stack := { w.stack with authorizeRemoteTxRequests := b } }.note
      (.event (.setAuthorizeRemoteTxRequests b))
  | .setConnectionTimeOut ms =>
    { w with stack := { w.stack with connectionTimeOut := ms } }.note (.event (.setConnectionTimeOut ms))

end

/-- **A step of the other threads leaves at most one entry.** -/
theorem step_log (cp : SimulatedChargePoint) (w : World) (e : Event) :
    (w.step cp e).log = w.log ∨ ∃ x : Entry, x.spontaneous = true ∧ (w.step cp e).log = x :: w.log := by
  cases e with
  | carMessage c p =>
    simp only [World.step]
    split
    · exact .inr ⟨_, rfl, rfl⟩
    · exact .inl rfl
  | idTagMessage c id =>
    simp only [World.step]
    split
    · exact .inr ⟨_, rfl, rfl⟩
    · exact .inl rfl
  | faultedMessage c b =>
    simp only [World.step]
    split
    · exact .inr ⟨_, rfl, rfl⟩
    · exact .inl rfl
  | remoteStartTransactionRequested c idTag =>
    simp only [World.step, remoteStartTransactionRequested]
    split <;> exact .inr ⟨_, rfl, rfl⟩
  | brokerLost =>
    simp only [World.step]
    split
    · exact .inr ⟨_, rfl, rfl⟩
    · exact .inl rfl
  | mqttStartStep b =>
    simp only [World.step, mqttStartStep]
    split
    all_goals first | exact .inl rfl | exact .inr ⟨_, rfl, rfl⟩ | (split <;> first | exact .inl rfl | exact .inr ⟨_, rfl, rfl⟩)
  | _ => exact .inr ⟨_, rfl, rfl⟩

/-- **One tick**: what the other threads do before a call of the loop, and what the stack and the broker answer to
it. -/
structure Tick where
  events : List Event := []
  authorize : AuthorizationStatus := .accepted
  parentIdTag : String := ""
  startTransaction : AuthorizationStatus := .accepted
  getSetpoint : Option (Option ℚ × Option ℚ) := none
  published : Bool := true

instance : Inhabited Tick := ⟨{}⟩

def World.tick (cp : SimulatedChargePoint) (t : Tick) (w : World) : World :=
  t.events.foldl (World.step cp) w

/-- **What every step keeps, the other threads keep.** -/
theorem tick_keeps {cp : SimulatedChargePoint} {I : World → Prop} (h : ∀ w e, I w → I (w.step cp e)) (t : Tick) {w : World}
    (hw : I w) : I (w.tick cp t) := by
  unfold World.tick
  induction t.events generalizing w with
  | nil => exact hw
  | cons e es ih => exact ih (h w e hw)

/-- What a step of the other threads adds to the log may be left out of a function that does not see it. -/
theorem log_tick {cp : SimulatedChargePoint} {β : Type} {f : List Entry → β}
    (h : ∀ e l, e.spontaneous = true → f (e :: l) = f l) (t : Tick) (w : World) : f (w.tick cp t).log = f w.log := by
  refine tick_keeps (I := fun w' => f w'.log = f w.log) (fun w' e hw => ?_) t rfl
  obtain hl | ⟨x, hx, hl⟩ := step_log cp w' e
  · rw [hl, hw]
  · rw [hl, h x _ hx, hw]

/-- A script for a run on fixed inputs: `n` calls, and before which of them each event takes place. -/
def script (n : Nat) (events : List (Nat × Event)) : List Tick :=
  (List.range n).map (fun i => { events := (events.filter (fun p => p.1 = i)).map (·.2) })

/-- A session from plug and badge to the badge that stops it, for the runs on fixed inputs. -/
def sampleSession : List Tick := script 120
  [(0, .carMessage 1 { cable := some 10 }), (0, .idTagMessage 1 "A"), (62, .idTagMessage 1 "A")]

end Simu
