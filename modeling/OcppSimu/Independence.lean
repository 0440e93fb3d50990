import OcppSimu.Handlers
import OcppSimu.Loop
/-!
# Independence — messages for the connectors of a charge point

The MQTT manager reads the number of the connector and the subject of a message off the two last levels of its topic, and
writes the fields of that subject that the payload has well typed.  So two messages that differ in one of the two write
different fields, and commute (`connector_messages_independent`); what the loop gets of them is what `updateData` copies.
-/
namespace Simu

open Access Wire
open Launcher (member getString atoi)

/-- What a message on a topic of a connector is about: the last level. -/
inductive Subject
  | car | idTag | faulted
  deriving DecidableEq

/-- A payload with its numbers as `GetFloat` hands them out, `single` being the rounding to single precision. -/
def CarPayload.rounded (single : ℚ → ℚ) (p : CarPayload) : CarPayload where
  cable := p.cable.map single
  ready := p.ready
  consumptionL1 := p.consumptionL1.map single
  consumptionL2 := p.consumptionL2.map single
  consumptionL3 := p.consumptionL3.map single

namespace Subject

def filename : Subject → String
  | car => "car"
  | idTag => "id_tag"
  | faulted => "faulted"

/-- The car's members that a payload has, each of its kind. -/
def carOf (j : Json) : CarPayload where
  cable := (member j "cable").bind getIfFloat
  ready := (member j "ready").bind getBool
  consumptionL1 := (member j "consumption_l1").bind getIfFloat
  consumptionL2 := (member j "consumption_l2").bind getIfFloat
  consumptionL3 := (member j "consumption_l3").bind getIfFloat

/-- What a payload writes: the members it has, each of its kind. -/
def write (single : ℚ → ℚ) (x : Subject) (j : Json) (d : ConnectorData) : ConnectorData :=
  match x with
  | car => d.receiveCar (carOf j |>.rounded single)
  | idTag => { d with idTag := ((member j "id").bind getString).getD d.idTag }
  | faulted => { d with faultPending := ((member j "faulted").bind getBool).getD d.faultPending }

/-- **At most the fields of the subject** are not the same. -/
def OnlyIn (x : Subject) (d d' : ConnectorData) : Prop :=
  match x with
  | car => d' = { d with carCableCapacity := d'.carCableCapacity, carReady := d'.carReady,
                         carConsumptionL1 := d'.carConsumptionL1, carConsumptionL2 := d'.carConsumptionL2,
                         carConsumptionL3 := d'.carConsumptionL3 }
  | idTag => d' = { d with idTag := d'.idTag }
  | faulted => d' = { d with faultPending := d'.faultPending }

theorem onlyIn_write (single : ℚ → ℚ) (x : Subject) (j : Json) (d : ConnectorData) :
    x.OnlyIn d (x.write single j d) := by
  cases x <;> rfl

/-- **Two subjects have no field in common.** -/
theorem write_comm (single : ℚ → ℚ) {x y : Subject} (h : x ≠ y) (p q : Json) (d : ConnectorData) :
    y.write single q (x.write single p d) = x.write single p (y.write single q d) := by
  cases x <;> cases y <;> first | exact absurd rfl h | rfl

end Subject

/-! ## Topics -/

/-- A decimal number, leading zeros among its digits or not, that an `unsigned int` holds. -/
structure IsNumber (i : String) : Prop where
  ne : i.toList ≠ []
  digits : ∀ c ∈ i.toList, c.isDigit = true
  lt : Nat.ofDigitChars 10 i.toList 0 < 2 ^ 32

def number (i : String) : Nat := Nat.ofDigitChars 10 i.toList 0

theorem IsNumber.atoi {i : String} (h : IsNumber i) : atoi i = number i := by
  have hl := h.lt
  unfold Launcher.atoi number
  rw [Launcher.strtol_digits h.ne h.digits (by omega)]
  omega

theorem isNumber_toString {n : Nat} (h : n < 2 ^ 32) : IsNumber (toString n) ∧ number (toString n) = n := by
  have hn : number (toString n) = n := by
    unfold number
    rw [Launcher.toList_toString, Nat.ofDigitChars_ten_toDigits]
  refine ⟨⟨?_, ?_, ?_⟩, hn⟩
  · rw [Launcher.toList_toString]
    exact Nat.toDigits_ne_nil
  · rw [Launcher.toList_toString]
    exact fun c hc => Launcher.isDigit_of_mem hc
  · exact hn.trans_lt h

/-- `.../connectors/i/x`. -/
def subjectTopic (above i : String) (x : Subject) : String := above ++ "/connectors/" ++ i ++ "/" ++ x.filename

/-- The two last elements of a path are the two last names of it. -/
theorem elements_of_names (above : Paths.Path) {n m : Paths.Name} (hn : n ≠ []) (hns : '/' ∉ n) (hm : m ≠ [])
    (hms : '/' ∉ m) : ∃ before, Paths.elements (above ++ '/' :: (n ++ '/' :: m)) = before ++ [n, m] := by
  have hc : Paths.components (above ++ '/' :: (n ++ '/' :: m)) = Paths.components above ++ [n, m] := by
    rw [Paths.components_append_slash, Paths.components_append_slash, Paths.components_singleton hn hns,
      Paths.components_singleton hm hms]
    rfl
  have hl : (above ++ '/' :: (n ++ '/' :: m)).getLast? ≠ some '/' := by
    have hg : (above ++ '/' :: (n ++ '/' :: m)).getLast? = m.getLast? := by
      rw [List.append_cons, ← List.append_assoc, List.append_cons, List.getLast?_append_of_ne_nil _ hm]
    rw [hg]
    exact fun h => hms (List.mem_of_getLast? h)
  unfold Paths.elements
  rw [hc]
  simp only [hl, and_false, ↓reduceIte, List.append_nil]
  exact ⟨_, (List.append_assoc _ _ _).symm⟩

theorem Subject.filename_ne (x : Subject) : x.filename.toList ≠ [] ∧ '/' ∉ x.filename.toList ∧ x.filename ≠ "cmd" := by
  cases x <;> decide

/-- **What the manager reads off the topic.** -/
theorem read_subjectTopic (above : String) {i : String} (h : IsNumber i) (x : Subject) :
    levelBefore (subjectTopic above i x) = i ∧ Wire.filename (subjectTopic above i x) = x.filename := by
  obtain ⟨hx, hxs, -⟩ := x.filename_ne
  have hi : '/' ∉ i.toList := fun hm => by
    have hd := h.digits '/' hm
    cases hd
  have ht : (subjectTopic above i x).toList =
      (above ++ "/connectors").toList ++ '/' :: (i.toList ++ '/' :: x.filename.toList) := by
    have h₁ : "/connectors/".toList = "/connectors".toList ++ ['/'] := by decide
    have h₂ : "/".toList = ['/'] := by decide
    unfold subjectTopic
    rw [String.toList_append, String.toList_append, String.toList_append, String.toList_append, String.toList_append, h₁, h₂]
    simp
  obtain ⟨before, he⟩ := elements_of_names (above ++ "/connectors").toList h.ne hi hx hxs
  unfold levelBefore Wire.filename Launcher.chargePointOf
  rw [ht, he]
  constructor
  · rw [List.dropLast_append_of_ne_nil (by simp)]
    simp
  · rw [List.getLast?_append_of_ne_nil _ (by simp)]
    simp

/-! ## The manager -/

/-- **`mqttMessageReceived`**, with what it does. -/
def World.receive (single : ℚ → ℚ) (cp : SimulatedChargePoint) (w : World) (topic : String) (payload : Payload) :
    Except Misuse World := do
  match ← mqttMessageReceived cp topic payload with
  | .event (.carMessage c p) => pure (w.step cp (.carMessage c (p.rounded single)))
  | .event e => pure (w.step cp e)
  | .publishOcppConfig | .nothing => pure w

/-- The state, without its history. -/
def World.unlogged (w : World) : World := { w with log := [] }

def World.write (single : ℚ → ℚ) (cp : SimulatedChargePoint) (w : World) (c : Nat) (x : Subject) (j : Json) : World :=
  if c ∈ cp.ids then w.setMqttConnector c (x.write single j) else w

theorem mem_ids {cp : SimulatedChargePoint} {c : Nat} : c ∈ cp.ids ↔ 0 < c ∧ c ≤ cp.numberOfConnectors := by
  unfold SimulatedChargePoint.ids
  rw [List.mem_range'_1]
  omega

theorem setMqttConnector_id (w : World) (c : Nat) : w.setMqttConnector c id = w := by
  unfold World.setMqttConnector
  rw [id_eq, Function.update_eq_self]

variable {single : ℚ → ℚ} {cp : SimulatedChargePoint} {w : World} {above i : String} {x : Subject} {j : Json}

/-- The reaction to a payload of a subject. -/
def Subject.reaction (x : Subject) (c : Nat) (j : Json) : Reaction :=
  match x with
  | car => .event (.carMessage c (carOf j))
  | idTag => ((member j "id").bind getString).elim .nothing (fun id => .event (.idTagMessage c id))
  | faulted => ((member j "faulted").bind getBool).elim .nothing (fun b => .event (.faultedMessage c b))

theorem connectorReceived_subject (hj : j.isObject = true) (c : Nat) :
    connectorReceived c x.filename j = .ok (x.reaction c j) := by
  have take : ∀ {α : Type} (get : Json → Option α) (name : String),
      takeIf get j name = .ok ((member j name).bind get) := fun get name => takeIf_eq_ok_iff.2 ⟨hj, rfl⟩
  unfold connectorReceived
  cases x with
  | car =>
    unfold readCar
    simp only [Subject.filename, take]
    rfl
  | idTag =>
    rw [if_neg (by decide), if_pos (by decide), take]
    rfl
  | faulted =>
    rw [if_neg (by decide), if_neg (by decide), if_pos (by decide), take]
    rfl

variable (single cp w above x) in
/-- **A message writes the fields of its subject** in the connector of its number, if there is one. -/
theorem receive_subject (hi : IsNumber i) (hj : j.isObject = true) :
    ∃ w', w.receive single cp (subjectTopic above i x) (.json j) = .ok w' ∧
      w'.unlogged = w.unlogged.write single cp (number i) x j := by
  obtain ⟨hl, hf⟩ := read_subjectTopic above hi x
  unfold World.receive mqttMessageReceived World.write
  dsimp only
  rw [hl, hf, hi.atoi, if_neg x.filename_ne.2.2]
  by_cases hc : 0 < number i ∧ number i ≤ cp.numberOfConnectors
  · have hmem : number i ∈ cp.ids := mem_ids.2 hc
    have same : ∀ {f : ConnectorData → ConnectorData}, f = id → w.unlogged = w.unlogged.setMqttConnector (number i) f := by
      rintro f rfl
      exact (setMqttConnector_id _ _).symm
    rw [if_pos hc, if_pos hmem, connectorReceived_subject hj]
    cases x with
    | car => exact ⟨_, rfl, by simp only [World.step, if_pos hmem]; rfl⟩
    | idTag =>
      unfold Subject.reaction Subject.write
      dsimp only
      cases (member j "id").bind getString with
      | none => exact ⟨w, rfl, same rfl⟩
      | some id => exact ⟨_, rfl, by simp only [World.step, if_pos hmem]; rfl⟩
    | faulted =>
      unfold Subject.reaction Subject.write
      dsimp only
      cases (member j "faulted").bind getBool with
      | none => exact ⟨w, rfl, same rfl⟩
      | some b => exact ⟨_, rfl, by simp only [World.step, if_pos hmem]; rfl⟩
  · have hmem : ¬number i ∈ cp.ids := fun h => hc (mem_ids.1 h)
    rw [if_neg hc, if_neg hmem]
    exact ⟨w, rfl, rfl⟩

/-- **Writes of different subjects, or in different connectors, commute.** -/
theorem write_comm {c c' : Nat} {y : Subject} (h : c ≠ c' ∨ x ≠ y) (p q : Json) :
    (w.write single cp c x p).write single cp c' y q = (w.write single cp c' y q).write single cp c x p := by
  unfold World.write
  by_cases hc : c ∈ cp.ids
  · by_cases hc' : c' ∈ cp.ids
    · rw [if_pos hc, if_pos hc', if_pos hc, if_pos hc']
      unfold World.setMqttConnector
      by_cases he : c = c'
      · subst he
        have hxy := h.resolve_left (fun hne => hne rfl)
        simp only [Function.update_self, Function.update_idem, Subject.write_comm single hxy]
      · simp only [Function.update_of_ne he, Function.update_of_ne (Ne.symm he), Function.update_comm he]
    · rw [if_neg hc', if_neg hc']
  · rw [if_neg hc, if_neg hc]

/-- **A message of a subject touches that subject of that connector alone**: everything else of the state is the same,
and all of it where there is no such connector. -/
structure Touches (cp : SimulatedChargePoint) (c : Nat) (x : Subject) (w w' : World) : Prop where
  others : ∀ k, k ≠ c → w'.mqtt.connectors k = w.mqtt.connectors k
  own : x.OnlyIn (w.mqtt.connectors c) (w'.mqtt.connectors c)
  rest : w'.unlogged = { w.unlogged with mqtt := { w.mqtt with connectors := w'.mqtt.connectors } }
  absent : c = 0 ∨ cp.numberOfConnectors < c → w'.unlogged = w.unlogged

theorem touches_of_write {c : Nat} {w' : World} (h : w'.unlogged = w.unlogged.write single cp c x j) :
    Touches cp c x w w' := by
  unfold World.write at h
  by_cases hc : c ∈ cp.ids
  · rw [if_pos hc] at h
    have hm : w'.mqtt.connectors = Function.update w.mqtt.connectors c (x.write single j (w.mqtt.connectors c)) :=
      congrArg (fun v : World => v.mqtt.connectors) h
    refine ⟨fun k hk => ?_, ?_, ?_, fun ha => ?_⟩
    · rw [hm, Function.update_of_ne hk]
    · rw [hm, Function.update_self]
      exact x.onlyIn_write single j _
    · rw [h, hm]
      rfl
    · have hr := mem_ids.1 hc
      omega
  · rw [if_neg hc] at h
    have hm := congrArg (fun v : World => v.mqtt.connectors) h
    dsimp only [World.unlogged] at hm
    refine ⟨fun k _ => by rw [hm], ?_, ?_, fun _ => h⟩
    · rw [hm]
      cases x <;> rfl
    · rw [h, hm]
      rfl

/-! ## `updateData` -/

/-- The loop's connectors, once they have the six fields of the manager's. -/
def World.copied (cp : SimulatedChargePoint) (w : World) (c : Nat) : ConnectorData :=
  if c ∈ cp.ids then
    { w.connectors c with
      carCableCapacity := (w.mqtt.connectors c).carCableCapacity
      carReady := (w.mqtt.connectors c).carReady
      carConsumptionL1 := (w.mqtt.connectors c).carConsumptionL1
      carConsumptionL2 := (w.mqtt.connectors c).carConsumptionL2
      carConsumptionL3 := (w.mqtt.connectors c).carConsumptionL3
      faultPending := (w.mqtt.connectors c).faultPending }
  else w.connectors c

/-- The copies, one connector after the other. -/
theorem foldl_copyData (l : List Nat) (w : World) :
    (l.foldl World.copyData w).unlogged =
      { w.unlogged with
        connectors := fun c => if c ∈ l then (w.connectors c).setCar (w.mqtt.connectors c).car else w.connectors c } := by
  induction l generalizing w with
  | nil => simp [World.unlogged]
  | cons k l ih =>
    rw [List.foldl_cons, ih (w.copyData k)]
    have hu : (w.copyData k).unlogged = { w.unlogged with connectors := (w.copyData k).connectors } := rfl
    have hm : (w.copyData k).mqtt = w.mqtt := rfl
    have hk : (w.copyData k).connectors =
        Function.update w.connectors k ((w.connectors k).setCar (w.mqtt.connectors k).car) := rfl
    rw [hu, hm, hk]
    dsimp only
    congr 1
    funext c
    by_cases hc : c = k
    · subst hc
      rw [Function.update_self, if_pos List.mem_cons_self]
      split <;> rfl
    · simp [hc]

theorem forM_copyData (l : List Nat) (w : World) (ts : List Tick) :
    (l.forM (fun c => (Script.update (·.copyData c) : M Unit))) (w, ts) = ((), l.foldl World.copyData w, ts) := by
  induction l generalizing w with
  | nil => rfl
  | cons c l ih => exact ih (w.copyData c)

/-- **`updateData` copies the six fields of each connector**, and nothing else. -/
theorem updateData_eq (w : World) (ts : List Tick) : ((updateData cp) (w, ts)).2.1.unlogged =
    { (w.tick cp (ts.headD default)).unlogged with connectors := (w.tick cp (ts.headD default)).copied cp } := by
  have hr : (updateData cp) (w, ts) = (cp.ids.forM (fun c => (Script.update (·.copyData c) : M Unit)))
      (w.tick cp (ts.headD default), ts.tail) := rfl
  rw [hr, forM_copyData, foldl_copyData]
  rfl

/-- **Messages of two subjects, or for two connectors, are independent.** -/
theorem connector_messages_independent (single : ℚ → ℚ) (cp : SimulatedChargePoint) (w : World) (above above' : String)
    {i i' : String} (hi : IsNumber i) (hi' : IsNumber i') {x y : Subject} {p q : Json} (hp : p.isObject = true)
    (hq : q.isObject = true) (hne : number i ≠ number i' ∨ x ≠ y) :
    (∃ w₁ w₂,
      (w.receive single cp (subjectTopic above i x) (.json p) >>=
        fun w => w.receive single cp (subjectTopic above' i' y) (.json q)) =
        .ok w₁ ∧
      (w.receive single cp (subjectTopic above' i' y) (.json q) >>=
        fun w => w.receive single cp (subjectTopic above i x) (.json p)) =
        .ok w₂ ∧
      w₁.unlogged = w₂.unlogged) ∧
    (∃ w', w.receive single cp (subjectTopic above i x) (.json p) = .ok w' ∧ Touches cp (number i) x w w') ∧
    ∀ (w : World) (ts : List Tick), ((updateData cp) (w, ts)).2.1.unlogged =
      { (w.tick cp (ts.headD default)).unlogged with connectors := (w.tick cp (ts.headD default)).copied cp } := by
  obtain ⟨w₁, h₁, hw₁⟩ := receive_subject single cp w above x hi hp
  obtain ⟨w₁', h₁', hw₁'⟩ := receive_subject single cp w₁ above' y hi' hq
  obtain ⟨w₂, h₂, hw₂⟩ := receive_subject single cp w above' y hi' hq
  obtain ⟨w₂', h₂', hw₂'⟩ := receive_subject single cp w₂ above x hi hp
  refine ⟨⟨w₁', w₂', bind_eq_ok_iff.2 ⟨w₁, h₁, h₁'⟩, bind_eq_ok_iff.2 ⟨w₂, h₂, h₂'⟩, ?_⟩, ⟨w₁, h₁, touches_of_write hw₁⟩,
    updateData_eq⟩
  rw [hw₁', hw₁, hw₂', hw₂, write_comm hne]

/-- A car on the first connector, of which one field is ill typed, and a badge on the second. -/
def sampleCar : Json := .obj [("cable", .float 16), ("ready", .str "yes"), ("consumption_l1", .float (3 / 2))]

theorem connector_messages_independent_sample :
    let w := World.start .sample .idle
    let car := subjectTopic "cp_simu/cps/A" (toString 1) .car
    let badge := subjectTopic "cp_simu/cps/A" (toString 2) .idTag
    let tag := Payload.json (.obj [("id", .str "B")])
    (∃ w₁ w₂,
      (w.receive id .sample car (.json sampleCar) >>= fun w => w.receive id .sample badge tag) = .ok w₁ ∧
      (w.receive id .sample badge tag >>= fun w => w.receive id .sample car (.json sampleCar)) = .ok w₂ ∧
      w₁.unlogged = w₂.unlogged) ∧
    (∃ w', w.receive id .sample car (.json sampleCar) = .ok w' ∧ Touches .sample (number (toString 1)) .car w w') ∧
    ∀ (w : World) (ts : List Tick), ((updateData .sample) (w, ts)).2.1.unlogged =
      { (w.tick .sample (ts.headD default)).unlogged with
        connectors := (w.tick .sample (ts.headD default)).copied .sample } := by
  obtain ⟨h₁, n₁⟩ := isNumber_toString (n := 1) (by decide)
  obtain ⟨h₂, n₂⟩ := isNumber_toString (n := 2) (by decide)
  exact connector_messages_independent id .sample _ _ _ h₁ h₂ rfl rfl (.inl (by rw [n₁, n₂]; decide))

end Simu
