import OcppSimu.World
/-!
# Loop — `SimulatedChargePoint::loop`

The control loop as a program over the shared world.  Every call to the MQTT manager, the events handler, the OCPP
stack and a meter is a `call`: the other threads may act before it.  The loop's own data needs none, except
`unavailable_pending`, which the events handler writes.  A round is one pass of the inner wait or one iteration of the
outer loop: `do { while (c) a; b } while (d)` is `c ? a : (b; d)`, again and again.
-/
namespace Simu

open Script

abbrev M (α : Type) := Prog World Tick α

section

variable (cp : SimulatedChargePoint)

/-- A call of the loop that reads the world, and leaves an entry. -/
def ask {α : Type} (f : Tick → World → α) (entry : α → Entry) : M α :=
  call (World.tick cp) (fun t w => (f t w, w.note (entry (f t w))))

/-- A call of the loop that changes the world, and leaves an entry. -/
def act (f : World → World) (entry : Entry) : M Unit :=
  call (World.tick cp) (fun _ w => ((), (f w).note entry))

/-! ## The calls -/

def isEndOfApplication : M Bool := ask cp (fun _ w => w.mqtt.ended) .isEndOfApplication

def isResetPending : M Bool := ask cp (fun _ w => w.handler.resetPending) .isResetPending

def isConnected : M Bool := ask cp (fun _ w => w.handler.isConnected) .isConnected

def getRegistrationStatus : M RegistrationStatus :=
  ask cp (fun _ w => w.stack.registration) .getRegistrationStatus

def getConnectorStatus (c : Nat) : M ChargePointStatus :=
  ask cp (fun _ w => w.stack.status c) (.getConnectorStatus c)

def statusNotification (c : Nat) (s : ChargePointStatus) : M Unit :=
  act cp (·.setStatus c s) (.statusNotification c s)

def startTransaction (c : Nat) (idTag : String) : M AuthorizationStatus :=
  ask cp (fun t _ => t.startTransaction) (.startTransaction c idTag)

def stopTransaction (c : Nat) (idTag : String) (reason : Reason) : M Unit :=
  act cp id (.stopTransaction c idTag reason)

def getSetpoint (c : Nat) (unit : ChargingRateUnitType) : M (Option (Option ℚ × Option ℚ)) :=
  ask cp (fun t _ => t.getSetpoint) (.getSetpoint c unit)

/-- `authorize`, with the parent id tag it hands back. -/
def authorize (c : Nat) (idTag : String) : M (AuthorizationStatus × String) :=
  ask cp (fun t _ => (t.authorize, t.parentIdTag)) (fun r => .authorize c idTag r.1)

def authorizeRemoteTxRequests (c : Nat) : M Bool :=
  ask cp (fun _ w => w.stack.authorizeRemoteTxRequests) (.authorizeRemoteTxRequests c)

def isIdTagPending (c : Nat) : M Bool :=
  ask cp (fun _ w => decide ((w.mqtt.connectors c).idTag ≠ "")) (.isIdTagPending c)

def pendingIdTag (c : Nat) : M String := ask cp (fun _ w => (w.mqtt.connectors c).idTag) (.pendingIdTag c)

def resetIdTagPending (c : Nat) : M Unit :=
  act cp (·.setMqttConnector c ({ · with idTag := "" })) (.resetIdTagPending c)

def isRemoteStartPending (c : Nat) : M Bool :=
  ask cp (fun _ w => w.handler.remoteStartPending c) (.isRemoteStartPending c)

def remoteStartIdTag (c : Nat) : M String :=
  ask cp (fun _ w => w.handler.remoteStartIdTag c) (.remoteStartIdTag c)

def resetRemoteStartPending (c : Nat) : M Unit :=
  act cp (·.setRemoteStart c false) (.resetRemoteStartPending c)

def isRemoteStopPending (c : Nat) : M Bool :=
  ask cp (fun _ w => w.handler.remoteStopPending c) (.isRemoteStopPending c)

def resetRemoteStopPending (c : Nat) : M Unit :=
  act cp (·.setRemoteStop c false) (.resetRemoteStopPending c)

/-- The loop's read of the field the events handler writes. -/
def unavailablePending (c : Nat) : M Bool :=
  ask cp (fun _ w => (w.connectors c).unavailablePending) (.unavailablePending c)

/-- `now - preparing_start >= connectionTimeOut()`. -/
def preparingTimedOut (c : Nat) : M Bool :=
  call (World.tick cp) (fun _ w =>
    (decide (w.stack.connectionTimeOut ≤ w.clock - (w.connectors c).preparingStart), w))

def startPreparing (c : Nat) : M Unit :=
  call (World.tick cp) (fun _ w => ((), w.setConnector c ({ · with preparingStart := w.clock })))

/-- `m_mqtt->isConnected()`, which opens `publishStatus` and `publishData`. -/
def mqttConnected (entry : Bool → Entry) : M Bool := ask cp (fun _ w => w.mqtt.connected) entry

/-- `m_mqtt->publish` of a retained message; the broker has it when the client is connected and the publish works. -/
def publish (m : Publication) : M Bool :=
  call (World.tick cp) (fun t w =>
    let success := w.mqtt.connected && t.published
    (success, (if success then
      match m with
      | .status s => { w with broker := { w.broker with status := some s } }
      | .connector c s =>
        { w with broker := { w.broker with connectors := Function.update w.broker.connectors c (some s) } }
      else w).note (.published m success)))

def setOwn (c : Nat) (f : ConnectorData → ConnectorData) : M Unit := update (·.setConnector c f)

def ownData (c : Nat) : M ConnectorData := read (fun w => w.connectors c)

def clearIdTags (c : Nat) : M Unit := setOwn c ({ · with idTag := "", parentIdTag := "" })

def record (e : Entry) : M Unit := update (·.note e)

/-! ## The status of the charge point -/

def publishStatus (status : String) : M Bool := do
  if ← mqttConnected cp .publishStatus then publish cp (.status (buildStatusMessage cp status)) else pure false

def statusText (connected : Bool) (s : RegistrationStatus) : String := if connected then s.toText else "Disconnected"

/-- The local variables after a comparison with the state just read. -/
def LoopVars.refresh (v : LoopVars) (connected : Bool) (s : RegistrationStatus) : LoopVars :=
  if connected ≠ v.ocppConnected ∨ s ≠ v.ocppStatus then ⟨false, connected, s, statusText connected s⟩ else v

/-- "New chargepoint status" in the inner loop, and "Publish charge point status" in the outer one. -/
def updateStatus : M Unit := do
  let connected ← isConnected cp
  let status ← getRegistrationStatus cp
  update (fun w => { w with vars := w.vars.refresh connected status })
  let v ← read World.vars
  if v.statusPublished = false then
    let published ← publishStatus cp v.statusStr
    update (fun w => { w with vars := { w.vars with statusPublished := published } })
  else pure ()

/-- The message of one connector; a phase the meter has not got is 0. -/
def connectorMessage (d : ConnectorData) (m : MeterSimulator) : ConnectorMessage where
  status := d.status
  idTag := d.idTag
  maxSetpoint := d.maxSetpoint
  ocppSetpoint := d.ocppSetpoint
  setpoint := d.setpoint
  carConsumptionL1 := d.carConsumptionL1
  carConsumptionL2 := d.carConsumptionL2
  carConsumptionL3 := d.carConsumptionL3
  carCableCapacity := d.carCableCapacity
  carReady := d.carReady
  consumptionL1 := m.consumptions.getD 0 0
  consumptionL2 := m.consumptions.getD 1 0
  consumptionL3 := m.consumptions.getD 2 0

def publishConnector (c : Nat) : M Unit := do
  let m ← read (fun w => connectorMessage (w.connectors c) (w.meters c))
  let _ ← publish cp (.connector c m)
  pure ()

def publishData : M Unit := do
  if ← mqttConnected cp .publishData then cp.ids.forM (publishConnector cp) else pure ()

/-! ## Polling -/

/-- "Update connector statuses", for one connector. -/
def updateConnectorStatus (c : Nat) : M Unit := do
  let newStatus ← getConnectorStatus cp c
  let d ← ownData c
  if newStatus ≠ d.status then
    record (.entered c newStatus)
    (if newStatus = .available then do
      clearIdTags c
      resetIdTagPending cp c
    else if newStatus = .preparing then startPreparing cp c
    else pure ())
    setOwn c ({ · with status := newStatus })
  else pure ()

/-! ## Setpoints -/

/-- The loop over `getSetpoint`, for one connector; `whole` is the setpoint of the charge point so far. -/
def connectorSetpoint (whole : ℚ) (c : Nat) : M ℚ := do
  setOwn c (fun d => { d with ocppSetpoint := d.maxSetpoint })
  let unit ← read (fun w => match (w.meters c).currentOutType with
    | .ac => ChargingRateUnitType.a
    | .dc => ChargingRateUnitType.w)
  match ← getSetpoint cp c unit with
  | none => pure whole
  | some (chargePoint, connector) =>
    setOwn c (fun d => match connector with
      | some v => if v < d.maxSetpoint then { d with ocppSetpoint := v } else d
      | none => d)
    pure (match chargePoint with
      | some v => if v < whole then v else whole
      | none => whole)

/-- "If cable plugged, check its limit". -/
def ConnectorData.limitToCable (d : ConnectorData) : ConnectorData :=
  { d with setpoint := if d.ocppSetpoint > d.carCableCapacity then d.carCableCapacity else d.ocppSetpoint }

/-- What a connector adds to the total. -/
def ConnectorData.drawn (d : ConnectorData) : ℚ := if d.status = .charging ∧ d.setpoint > 0 then d.setpoint else 0

/-- The sum of the setpoints of the connectors in `Charging`. -/
def totalConnectors (connectors : Nat → ConnectorData) : ℚ :=
  cp.ids.foldl (fun total c =>
    if (connectors c).status = .charging ∧ (connectors c).setpoint > 0 then cp.arith.round (total + (connectors c).setpoint)
    else total) 0

theorem totalConnectors_eq_sum (connectors : Nat → ConnectorData) :
    totalConnectors cp connectors = cp.arith.sum (cp.ids.map (fun c => (connectors c).drawn)) :=
  cp.arith.foldl_ite_eq_sum (fun c => (connectors c).status = .charging ∧ (connectors c).setpoint > 0)
    (fun c => (connectors c).setpoint) cp.ids

/-- "Remove the same percentage of current on each charging connector". -/
def ConnectorData.reduce (arith : Rounding ℚ) (ratio : ℚ) (d : ConnectorData) : ConnectorData :=
  { d with setpoint := if d.setpoint > 0 then arith.round (d.setpoint * ratio) else d.setpoint }

/-- "Floor the setpoints to get integral values". -/
def ConnectorData.floorSetpoint (d : ConnectorData) : ConnectorData := { d with setpoint := ⌊d.setpoint⌋ }

def World.mapConnectors (f : ConnectorData → ConnectorData) (w : World) : World :=
  { w with connectors := fun c => f (w.connectors c) }

def computeSetpoints : M Unit := do
  let whole ← cp.ids.foldlM (connectorSetpoint cp) (cp.maxChargePointSetpoint : ℚ)
  update (·.mapConnectors ConnectorData.limitToCable)
  let total ← read (fun w => totalConnectors cp w.connectors)
  (if total > whole then do
    record (.division whole total)
    update (·.mapConnectors (ConnectorData.reduce cp.arith (cp.arith.round (whole / total))))
  else pure ())
  update (·.mapConnectors ConnectorData.floorSetpoint)

/-! ## Car data -/

def World.copyData (w : World) (c : Nat) : World :=
  (w.setConnector c (·.setCar (w.mqtt.connectors c).car)).note
    (.updateData c (w.connectors c) (w.mqtt.connectors c).car)

/-- `updateData`: one critical section, so the other threads act before it and not within. -/
def updateData : M Unit := do
  call (World.tick cp) (fun _ w => ((), w))
  cp.ids.forM (fun c => update (·.copyData c))

/-! ## Authorization -/

def authorizeOwn (c : Nat) (idTag : String) : M AuthorizationStatus := do
  let r ← authorize cp c idTag
  setOwn c ({ · with parentIdTag := r.2 })
  pure r.1

def isValidIdTagPresent (c : Nat) (localOnly : Bool) : M Bool := do
  let r ← (do
    if ← isIdTagPending cp c then
      let tag ← pendingIdTag cp c
      setOwn c ({ · with idTag := tag })
      let status ← authorizeOwn cp c tag
      resetIdTagPending cp c
      pure (some (TagSource.badge, tag), status.ok)
    else if ← (if localOnly then pure false else isRemoteStartPending cp c) then
      let tag ← remoteStartIdTag cp c
      setOwn c ({ · with idTag := tag })
      let status ← (do if ← authorizeRemoteTxRequests cp c then authorizeOwn cp c tag else pure .accepted)
      resetRemoteStartPending cp c
      pure (some (TagSource.remoteStart, tag), status.ok)
    else pure (none, false))
  (if r.2 = false then clearIdTags c else pure ())
  record (.isValidIdTagPresent c r.1 r.2)
  pure r.2

def isTransactionStopCondition (c : Nat) : M Bool := do
  if ← isIdTagPending cp c then
    -- the parent id tag goes to a local variable, and nothing else is looked at
    let tag ← pendingIdTag cp c
    let r ← authorize cp c tag
    resetIdTagPending cp c
    if r.1 = .accepted then
      stopTransaction cp c tag .local_
      pure true
    else pure false
  else if ← isRemoteStopPending cp c then
    resetRemoteStopPending cp c
    stopTransaction cp c "" .remote
    pure true
  else
    let d ← ownData c
    if d.carCableCapacity = 0 then
      stopTransaction cp c "" .evDisconnected
      pure true
    else if d.faultPending then
      stopTransaction cp c "" .other
      pure true
    else pure false

/-! ## The nine statuses -/

/-- The end of the `Available` and `Reserved` branches. -/
def faultOrUnavailable (c : Nat) (d : ConnectorData) : M Unit := do
  if d.faultPending then statusNotification cp c .faulted
  else if ← unavailablePending cp c then statusNotification cp c .unavailable
  else pure ()

def whenAvailable (c : Nat) (d : ConnectorData) : M Unit := do
  if d.carCableCapacity ≠ 0 then statusNotification cp c .preparing
  else if ← isValidIdTagPresent cp c false then statusNotification cp c .preparing
  else faultOrUnavailable cp c d

def sessionStatus (d : ConnectorData) : ChargePointStatus :=
  if d.setpoint = 0 then .suspendedEVSE else if d.carReady = false then .suspendedEV else .charging

/-- The end of the `Preparing` branch, with the id tag as the first part left it. -/
def tryStart (c : Nat) (d : ConnectorData) : M Unit := do
  if d.carCableCapacity ≠ 0 ∧ d.idTag ≠ "" then
    let status ← startTransaction cp c d.idTag
    if status.ok then statusNotification cp c (sessionStatus d) else clearIdTags c
  else if d.carCableCapacity = 0 ∧ d.idTag = "" then statusNotification cp c .available
  -- under "If fault pending => Faulted" the source notifies `Preparing`
  else if d.faultPending then statusNotification cp c .preparing
  else if ← preparingTimedOut cp c then statusNotification cp c .available
  else pure ()

def whenPreparing (c : Nat) (d : ConnectorData) : M Unit := do
  (if d.idTag = "" then do
    if ← isValidIdTagPresent cp c false then startPreparing cp c else pure ()
  else pure ())
  let d ← ownData c
  tryStart cp c d

def whenSuspendedEVSE (c : Nat) (d : ConnectorData) : M Unit := do
  if ← isTransactionStopCondition cp c then statusNotification cp c .finishing
  else if d.setpoint ≠ 0 then
    if d.carReady = false then statusNotification cp c .suspendedEV else statusNotification cp c .charging
  else pure ()

def whenSuspendedEV (c : Nat) (d : ConnectorData) : M Unit := do
  if ← isTransactionStopCondition cp c then statusNotification cp c .finishing
  else if d.setpoint = 0 then statusNotification cp c .suspendedEVSE
  else if d.carReady then statusNotification cp c .charging
  else pure ()

def whenCharging (c : Nat) (d : ConnectorData) : M Unit := do
  if ← isTransactionStopCondition cp c then statusNotification cp c .finishing
  else if d.setpoint = 0 then statusNotification cp c .suspendedEVSE
  else if d.carReady = false then statusNotification cp c .suspendedEV
  else pure ()

def whenFinishing (c : Nat) (d : ConnectorData) : M Unit := do
  if d.faultPending then statusNotification cp c .faulted
  else if d.carCableCapacity = 0 then statusNotification cp c .available
  else pure ()

def whenReserved (c : Nat) (d : ConnectorData) : M Unit := do
  if ← isValidIdTagPresent cp c false then statusNotification cp c .preparing
  else faultOrUnavailable cp c d

def whenFaulted (c : Nat) (d : ConnectorData) : M Unit := do
  if d.faultPending = false then statusNotification cp c .available
  else if ← unavailablePending cp c then statusNotification cp c .unavailable
  else pure ()

/-- "Compute next connector statuses", for one connector. -/
def nextStatus (c : Nat) : M Unit := do
  let d ← ownData c
  match d.status with
  | .available => whenAvailable cp c d
  | .preparing => whenPreparing cp c d
  | .suspendedEVSE => whenSuspendedEVSE cp c d
  | .suspendedEV => whenSuspendedEV cp c d
  | .charging => whenCharging cp c d
  | .finishing => whenFinishing cp c d
  | .reserved => whenReserved cp c d
  | .unavailable => pure ()
  | .faulted => whenFaulted cp c d

/-! ## Consumption -/

def consumptions (d : ConnectorData) (nbPhases : Nat) : List ℚ :=
  if d.status = .charging then
    match nbPhases with
    | 1 => [min d.carConsumptionL1 d.setpoint, 0, 0]
    | 2 => [min d.carConsumptionL1 d.setpoint, min d.carConsumptionL2 d.setpoint, 0]
    | 3 => [min d.carConsumptionL1 d.setpoint, min d.carConsumptionL2 d.setpoint, min d.carConsumptionL3 d.setpoint]
    | _ => [0, 0, 0]
  else [0, 0, 0]

theorem length_consumptions (d : ConnectorData) (n : Nat) : (consumptions d n).length = 3 := by
  unfold consumptions
  split
  · split <;> rfl
  · rfl

def computeConsumption (c : Nat) : M Unit := do
  let x ← read (fun w => consumptions (w.connectors c) (w.meters c).phasesCount)
  act cp (·.setMeter c (·.setConsumptions x)) (.setConsumptions c x)

/-! ## The loop -/

/-- The condition of the inner loop. -/
def waiting : M Bool := do
  if ← isEndOfApplication cp then pure false
  else if ← isResetPending cp then pure false
  else
    let status ← getRegistrationStatus cp
    pure (decide (status ≠ .accepted))

/-- The condition of the outer loop. -/
def goingOn : M Bool := do
  if ← isEndOfApplication cp then pure false
  else
    let reset ← isResetPending cp
    pure (!reset)

/-- An iteration up to the polling of the connectors, which ends with their statuses known. -/
def pollConnectors : M Unit := do
  updateStatus cp
  cp.ids.forM (updateConnectorStatus cp)

def actOnConnectors : M Unit := do
  computeSetpoints cp
  updateData cp
  cp.ids.forM (fun c => do nextStatus cp c; computeConsumption cp c)
  publishData cp

/-- The body of the inner loop. -/
def waitRegistration : M Unit := do
  updateStatus cp
  publishData cp

def loopRound : M Bool := do
  if ← waiting cp then
    waitRegistration cp
    pure true
  else
    pollConnectors cp
    actOnConnectors cp
    goingOn cp

/-- **The control loop**, for up to `k` rounds. -/
def loop (k : Nat) : M Unit := rounds (loopRound cp) k

/-- The first `k` rounds and then `m`, some part of the next iteration, unless the loop waits; it answers whether `m` was
run. -/
def loopThen (k : Nat) (m : M Unit) : M Bool := do
  loop cp k
  let wait ← waiting cp
  (if wait then pure () else m)
  pure (!wait)

def loopPolled (k : Nat) : M Bool := loopThen cp k (pollConnectors cp)

/-- The first `k` rounds and the next iteration, up to the test that ends it. -/
def loopIterated (k : Nat) : M Bool := loopThen cp k (do pollConnectors cp; actOnConnectors cp)

def afterLoop (k : Nat) (w : World) (script : List Tick) : World := (loop cp k (w, script)).2.1

def afterPoll (k : Nat) (w : World) (script : List Tick) : World := (loopPolled cp k (w, script)).2.1

def afterIteration (k : Nat) (w : World) (script : List Tick) : World := (loopIterated cp k (w, script)).2.1

end

end Simu
