import Mathlib.Data.Rat.Floor
import OcppSimu.Rounding
/-!
# Types — the OCPP enumerations and the data of a connector

The enumerations are those of the OCPP stack, in its order (`ChargePointStatus` is compared with `<`).  `float` values
are rationals; where the program calculates with them the result is rounded as the charge point says.
-/
namespace Simu

inductive ChargePointStatus
  | available | preparing | charging | suspendedEVSE | suspendedEV | finishing | reserved | unavailable | faulted
  deriving DecidableEq

/-- The place of a status in the enumeration. -/
def ChargePointStatus.rank : ChargePointStatus → Nat
  | .available => 0 | .preparing => 1 | .charging => 2 | .suspendedEVSE => 3 | .suspendedEV => 4
  | .finishing => 5 | .reserved => 6 | .unavailable => 7 | .faulted => 8

/-- **The three statuses of a session**: `Charging`, `SuspendedEVSE` and `SuspendedEV`. -/
def ChargePointStatus.inSession (s : ChargePointStatus) : Bool :=
  decide (ChargePointStatus.rank .charging ≤ s.rank ∧ s.rank < ChargePointStatus.rank .finishing)

/-- The three statuses the stack moves a connector between on its own. -/
def ChargePointStatus.stackOwned : ChargePointStatus → Bool
  | .available | .reserved | .unavailable => true
  | _ => false

inductive AuthorizationStatus
  | accepted | blocked | expired | invalid | concurrentTx
  deriving DecidableEq

/-- **The two answers that let a session start.** -/
def AuthorizationStatus.ok : AuthorizationStatus → Bool
  | .accepted | .concurrentTx => true
  | _ => false

inductive RegistrationStatus
  | accepted | pending | rejected
  deriving DecidableEq

/-- `RegistrationStatusHelper.toString`. -/
def RegistrationStatus.toText : RegistrationStatus → String
  | .accepted => "Accepted"
  | .pending => "Pending"
  | .rejected => "Rejected"

inductive Reason
  | local_ | remote | evDisconnected | other
  deriving DecidableEq

inductive AvailabilityType
  | inoperative | operative
  deriving DecidableEq

inductive AvailabilityStatus
  | accepted | rejected | scheduled
  deriving DecidableEq

inductive ChargingRateUnitType
  | a | w
  deriving DecidableEq

inductive ConnectorType
  | ac | dc
  deriving DecidableEq

/-- `ConnectorTypeHelper.toString`. -/
def ConnectorType.toText : ConnectorType → String
  | .ac => "AC"
  | .dc => "DC"

/-- **The data of a connector**, with the defaults of its constructor.  The loop has one for each connector, and so
has the MQTT manager, which uses the car's fields, the fault and the id tag.  The id is the index under which the
record is held, the meter is in `World.meters` under the same index. -/
structure ConnectorData where
  status : ChargePointStatus := .available
  idTag : String := ""
  parentIdTag : String := ""
  maxSetpoint : ℚ := 0
  ocppSetpoint : ℚ := 0
  setpoint : ℚ := 0
  carConsumptionL1 : ℚ := 0
  carConsumptionL2 : ℚ := 0
  carConsumptionL3 : ℚ := 0
  carCableCapacity : ℚ := 0
  carReady : Bool := true
  preparingStart : Nat := 0
  faultPending : Bool := false
  unavailablePending : Bool := false
  deriving DecidableEq

/-- The six fields `updateData` copies. -/
structure CarData where
  cable : ℚ
  ready : Bool
  l1 : ℚ
  l2 : ℚ
  l3 : ℚ
  fault : Bool
  deriving DecidableEq

def ConnectorData.car (d : ConnectorData) : CarData :=
  ⟨d.carCableCapacity, d.carReady, d.carConsumptionL1, d.carConsumptionL2, d.carConsumptionL3, d.faultPending⟩

def ConnectorData.setCar (d : ConnectorData) (x : CarData) : ConnectorData :=
  { d with carCableCapacity := x.cable, carReady := x.ready, carConsumptionL1 := x.l1, carConsumptionL2 := x.l2,
           carConsumptionL3 := x.l3, faultPending := x.fault }

/-- What the parameters of the program fix for a run: `m_config`, the ratings and the type of the charge point; and how
the results of its `float`s are rounded, the ratings being such. -/
structure SimulatedChargePoint where
  arith : Rounding ℚ
  numberOfConnectors : Nat
  maxChargePointSetpoint : Nat
  maxConnectorSetpoint : Nat
  floats : arith.Holds maxChargePointSetpoint ∧ arith.Holds maxConnectorSetpoint
  nbPhases : Nat
  chargePointType : ConnectorType
  pid : Nat
  chargePointVendor : String
  chargePointModel : String
  chargePointSerialNumber : String
  connexionUrl : String
  operatingVoltage : ℚ
  powerFactor : ℚ

/-- The constructor: a DC charge point has one phase. -/
def SimulatedChargePoint.construct (cp : SimulatedChargePoint) : SimulatedChargePoint :=
  match cp.chargePointType with
  | .dc => { cp with nbPhases := 1 }
  | .ac => cp

def SimulatedChargePoint.ids (cp : SimulatedChargePoint) : List Nat := List.range' 1 cp.numberOfConnectors

theorem SimulatedChargePoint.nodup_ids (cp : SimulatedChargePoint) : cp.ids.Nodup := List.nodup_range'

theorem SimulatedChargePoint.ne_zero_of_mem_ids (cp : SimulatedChargePoint) {c : Nat} (hc : c ∈ cp.ids) : c ≠ 0 := by
  have h := (List.mem_range'_1.1 hc).1
  omega

end Simu
