import OcppSimu.Independence
/-!
# CarMessage — the car of a connector, from the supervisor to the loop

`send_connector_values` writes the car's numbers as Python spells them, an `int` without a fraction, and the MQTT manager
takes those that `IsFloat` accepts.  So the message brings over `ready` and every number spelled as a `float` in range
(`car_round_trip_iff`); any other number leaves the field of the manager's connector as it was, and that is what the loop
copies.
-/
namespace Supervisor

open Wire

/-- A number of Python. -/
inductive Number
  | int (i : ℤ)
  | float (q : ℚ)

namespace Number

def toJson : Number → Json
  | int i => .int i
  | float q => .float q

def value : Number → ℚ
  | int i => i
  | float q => q

/-- What `IsFloat` accepts: a `float` in range, or an `int` too long for the integers of 64 bits and in that range. -/
def Spelled : Number → Prop
  | int i => (i < -2 ^ 63 ∨ 2 ^ 64 ≤ i) ∧ -maxFloat ≤ i ∧ i ≤ maxFloat
  | float q => -maxFloat ≤ q ∧ q ≤ maxFloat

instance (x : Number) : Decidable x.Spelled := by
  cases x <;> exact inferInstanceAs (Decidable (_ ∧ _))

end Number

/-- The car's values that the supervisor sends. -/
structure CarValues where
  carConsumptionL1 : Number
  carConsumptionL2 : Number
  carConsumptionL3 : Number
  carCable : Number
  carReady : Bool

def CarValues.toJson (v : CarValues) : Json := .obj
  [("cable", v.carCable.toJson), ("ready", .bool v.carReady), ("consumption_l1", v.carConsumptionL1.toJson),
   ("consumption_l2", v.carConsumptionL2.toJson), ("consumption_l3", v.carConsumptionL3.toJson)]

/-- **`send_connector_values`**: what it publishes, and where. -/
def sendConnectorValues (isConnected : Bool) (cpId : String) (conId : Nat) (v : CarValues) : Option (String × Json) :=
  if isConnected then some ("cp_simu/cps/" ++ cpId ++ "/connectors/" ++ toString conId ++ "/car", v.toJson)
  else none

end Supervisor

namespace Simu

open Access Wire
open Supervisor (Number CarValues sendConnectorValues)

/-- **Reading a number back.** -/
theorem getIfFloat_toJson (x : Number) : getIfFloat x.toJson = if x.Spelled then some x.value else none := by
  cases x <;> rfl

/-- The five values, the numbers of them rounded, are those of a connector. -/
structure ArrivedIn (single : ℚ → ℚ) (v : CarValues) (d : ConnectorData) : Prop where
  cable : d.carCableCapacity = single v.carCable.value
  ready : d.carReady = v.carReady
  consumptionL1 : d.carConsumptionL1 = single v.carConsumptionL1.value
  consumptionL2 : d.carConsumptionL2 = single v.carConsumptionL2.value
  consumptionL3 : d.carConsumptionL3 = single v.carConsumptionL3.value

/-- A number the manager accepts, or has already. -/
def Carried (single : ℚ → ℚ) (x : Number) (held : ℚ) : Prop := x.Spelled ∨ held = single x.value

/-- The car's four numbers are each carried over what the manager holds. -/
structure AllCarried (single : ℚ → ℚ) (v : CarValues) (held : ConnectorData) : Prop where
  cable : Carried single v.carCable held.carCableCapacity
  consumptionL1 : Carried single v.carConsumptionL1 held.carConsumptionL1
  consumptionL2 : Carried single v.carConsumptionL2 held.carConsumptionL2
  consumptionL3 : Carried single v.carConsumptionL3 held.carConsumptionL3

/-- The loop's connectors after `updateData`, with nothing else going on. -/
def World.updated (cp : SimulatedChargePoint) (w : World) : Nat → ConnectorData :=
  ((updateData cp) (w, [])).2.1.connectors

/-- **The round trip**: of the message for a connector, the loop has the five values in that connector, and everything of
every other connector as it would have it without the message. -/
def RoundTrip (single : ℚ → ℚ) (cp : SimulatedChargePoint) (w : World) (cpId : String) (n : Nat)
    (v : CarValues) : Prop :=
  ∃ topic message w', sendConnectorValues true cpId n v = some (topic, message) ∧
    w.receive single cp topic (.json message) = .ok w' ∧ Touches cp n .car w w' ∧
    ArrivedIn single v (w'.updated cp n) ∧ ∀ k, k ≠ n → w'.updated cp k = w.updated cp k

variable {single : ℚ → ℚ} {cp : SimulatedChargePoint} {w : World} {v : CarValues}

theorem updated_eq (cp : SimulatedChargePoint) (w : World) : w.updated cp = w.copied cp :=
  congrArg World.connectors (@updateData_eq cp w [])

/-- A field that takes what `IsFloat` accepts. -/
theorem getD_rounded (x : Number) (held : ℚ) :
    ((getIfFloat x.toJson).map single).getD held = single x.value ↔ Carried single x held := by
  rw [getIfFloat_toJson]
  unfold Carried
  by_cases hx : x.Spelled
  · simp [hx]
  · simp [hx]

/-- **What the message makes of a connector's car.** -/
theorem arrivedIn_write (d : ConnectorData) :
    ArrivedIn single v (Subject.car.write single v.toJson d) ↔ AllCarried single v d := by
  constructor
  · rintro ⟨h₁, -, h₂, h₃, h₄⟩
    exact ⟨(getD_rounded _ _).1 h₁, (getD_rounded _ _).1 h₂, (getD_rounded _ _).1 h₃, (getD_rounded _ _).1 h₄⟩
  · rintro ⟨h₁, h₂, h₃, h₄⟩
    exact ⟨(getD_rounded _ _).2 h₁, rfl, (getD_rounded _ _).2 h₂, (getD_rounded _ _).2 h₃, (getD_rounded _ _).2 h₄⟩

/-- `updateData` copies the car of a connector, all of it. -/
theorem arrivedIn_copied {n : Nat} (hn : n ∈ cp.ids) :
    ArrivedIn single v (w.copied cp n) ↔ ArrivedIn single v (w.mqtt.connectors n) := by
  unfold World.copied
  rw [if_pos hn]
  constructor
  · rintro ⟨h₁, h₂, h₃, h₄, h₅⟩
    exact ⟨h₁, h₂, h₃, h₄, h₅⟩
  · rintro ⟨h₁, h₂, h₃, h₄, h₅⟩
    exact ⟨h₁, h₂, h₃, h₄, h₅⟩

/-- What a message for a connector leaves of the copies of the others. -/
theorem copied_of_write {n k : Nat} {x : Subject} {j : Json} {w' : World}
    (h : w'.unlogged = w.unlogged.write single cp n x j) (hk : k ≠ n) : w'.copied cp k = w.copied cp k := by
  have hm := (touches_of_write h).others k hk
  have hc : w'.connectors = w.connectors := by
    rw [show w'.connectors = w'.unlogged.connectors from rfl, h]
    unfold World.write
    split <;> rfl
  unfold World.copied
  rw [hm, hc]

section
variable {cpId : String} {n : Nat}

variable (single w v cpId) in
/-- **What the message for a connector does.** -/
theorem sendConnectorValues_received (hn : n ∈ cp.ids) (hc : cp.numberOfConnectors < 2 ^ 32) :
    ∃ topic w', sendConnectorValues true cpId n v = some (topic, v.toJson) ∧
      w.receive single cp topic (.json v.toJson) = .ok w' ∧
      w'.unlogged = w.unlogged.write single cp n .car v.toJson := by
  obtain ⟨hi, hnum⟩ := isNumber_toString (n := n) (by have := mem_ids.1 hn; omega)
  have htopic : "cp_simu/cps/" ++ cpId ++ "/connectors/" ++ toString n ++ "/car" =
      subjectTopic ("cp_simu/cps/" ++ cpId) (toString n) .car := by
    have hcar : "/car" = "/" ++ Subject.car.filename := by decide
    unfold subjectTopic
    simp only [hcar, String.append_assoc]
  have hj : v.toJson.isObject = true := rfl
  obtain ⟨w', hw', hu⟩ := receive_subject single cp w ("cp_simu/cps/" ++ cpId) .car hi hj
  rw [hnum] at hu
  exact ⟨_, w', rfl, by rw [htopic]; exact hw', hu⟩

/-- The car of the connector, once the loop has it. -/
theorem arrivedIn_updated {w' : World} (hn : n ∈ cp.ids) (h : w'.unlogged = w.unlogged.write single cp n .car v.toJson) :
    ArrivedIn single v (w'.updated cp n) ↔ AllCarried single v (w.mqtt.connectors n) := by
  have hm : w'.mqtt.connectors n = Subject.car.write single v.toJson (w.mqtt.connectors n) := by
    rw [show w'.mqtt = w'.unlogged.mqtt from rfl, h]
    unfold World.write
    rw [if_pos hn]
    exact Function.update_self n _ _
  rw [updated_eq, arrivedIn_copied hn, hm, arrivedIn_write]

theorem RoundTrip.allCarried (hn : n ∈ cp.ids) (hc : cp.numberOfConnectors < 2 ^ 32) (h : RoundTrip single cp w cpId n v) :
    AllCarried single v (w.mqtt.connectors n) := by
  obtain ⟨topic, message, w', hs, hr, -, ha, -⟩ := h
  obtain ⟨topic', w'', hs', hr', hu⟩ := sendConnectorValues_received single w v cpId hn hc
  -- there is one message, so the two states are the same
  obtain ⟨rfl, rfl⟩ := Prod.mk.inj (Option.some.inj (hs.symm.trans hs'))
  obtain rfl := Except.ok.inj (hr.symm.trans hr')
  exact (arrivedIn_updated hn hu).1 ha

theorem roundTrip_of_allCarried (hn : n ∈ cp.ids) (hc : cp.numberOfConnectors < 2 ^ 32)
    (h : AllCarried single v (w.mqtt.connectors n)) : RoundTrip single cp w cpId n v := by
  obtain ⟨topic, w', hs, hr, hu⟩ := sendConnectorValues_received single w v cpId hn hc
  refine ⟨topic, _, w', hs, hr, touches_of_write hu, (arrivedIn_updated hn hu).2 h, fun k hk => ?_⟩
  rw [updated_eq, updated_eq]
  exact copied_of_write hu hk

end

/-- **The round trip, exactly**: each number is a `float` in range, or too long for an integer, or there already. -/
theorem car_round_trip_iff (single : ℚ → ℚ) (cp : SimulatedChargePoint) (w : World) (cpId : String) {n : Nat}
    (hn : n ∈ cp.ids) (hc : cp.numberOfConnectors < 2 ^ 32) (v : CarValues) :
    RoundTrip single cp w cpId n v ↔ AllCarried single v (w.mqtt.connectors n) :=
  ⟨RoundTrip.allCarried hn hc, roundTrip_of_allCarried hn hc⟩

/-- A car that draws on one phase, its cable of sixteen amperes written with a fraction. -/
def sampleValues : CarValues where
  carConsumptionL1 := .float (27 / 2)
  carConsumptionL2 := .float 0
  carConsumptionL3 := .float 0
  carCable := .float 16
  carReady := true

theorem car_round_trip_sample : RoundTrip id .sample (World.start .sample .idle) "A" 1 sampleValues :=
  (car_round_trip_iff id .sample (World.start .sample .idle) "A" (by decide) (by decide) sampleValues).2
    ⟨.inl (by decide +kernel), .inl (by decide +kernel), .inl (by decide +kernel), .inl (by decide +kernel)⟩

/-- **A cable of the `int` 16 does not arrive**: the connector keeps its 0. -/
theorem int_cable_lost :
    ¬RoundTrip id .sample (World.start .sample .idle) "A" 1 { sampleValues with carCable := .int 16 } := by
  intro h
  have hc := (h.allCarried (by decide) (by decide)).cable
  revert hc
  unfold Carried
  decide +kernel

end Simu
