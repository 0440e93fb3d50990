import OcppSimu.Publications
import OcppSimu.Supervisor
/-!
# Restart — what the supervisor sends back to the launcher

A charge point is started with parameters; it says them in its status messages, the supervisor keeps them, and
`__cp_to_dict` makes of them the element of the next start command.  The supervisor tells the two kinds of status topic
apart by the word `connectors`, wherever it stands in the topic (`restart_keeps_iff`).
-/
namespace Supervisor

open Wire Simu Launcher

/-! ## The start -/

/-- **How the process of a charge point calculates**: the ratings are numbers of its machine. -/
structure Machine (p : Parameters) where
  arith : Rounding ℚ
  floats : arith.Holds p.maxSetpoint ∧ arith.Holds p.maxSetpointPerConnector

/-- The charge point that `main` and the constructor make of its parameters. -/
def launched {p : Parameters} (machine : Machine p) (t : ConnectorType) (pid : Nat) (powerFactor : ℚ) : SimulatedChargePoint :=
  SimulatedChargePoint.construct
    { arith := machine.arith
      numberOfConnectors := p.nbConnectors
      maxChargePointSetpoint := p.maxSetpoint
      maxConnectorSetpoint := p.maxSetpointPerConnector
      floats := machine.floats
      nbPhases := p.nbPhases
      chargePointType := t
      pid := pid
      chargePointVendor := p.vendor
      chargePointModel := p.model
      chargePointSerialNumber := p.serial
      connexionUrl := p.centralSystem
      operatingVoltage := p.voltage
      powerFactor := powerFactor }

/-- The parameters a restart is to carry: those of the start, with one phase for DC. -/
def restarted (p : Parameters) (t : ConnectorType) : Parameters :=
  match t with
  | .ac => p
  | .dc => { p with nbPhases := 1 }

/-- **The supervisor would restart the charge point with the parameters `p`.** -/
def Restarts (p : Parameters) (m : ChargePointManager) : Prop :=
  ∃ cp dict, m.cps.lookup p.id = some cp ∧ cpToDict cp = .ok dict ∧ (Element.ofJson dict).parameters = some p

theorem launched_fields {p : Parameters} (machine : Machine p) (t : ConnectorType) (pid : Nat) (powerFactor : ℚ) :
    (launched machine t pid powerFactor).ids = List.range' 1 p.nbConnectors ∧
      (launched machine t pid powerFactor).maxConnectorSetpoint = p.maxSetpointPerConnector ∧
      (launched machine t pid powerFactor).nbPhases = (restarted p t).nbPhases := by
  cases t <;> exact ⟨rfl, rfl, rfl⟩

/-! ## One message -/

/-- The fields of an object of the supervisor that a status message sets, but for the status. -/
structure Told (p : Parameters) (cp : ChargePoint) : Prop where
  id : cp.id = p.id
  type : cp.type = .str p.type
  vendor : cp.vendor = .str p.vendor
  model : cp.model = .str p.model
  serial : cp.serial = .str p.serial
  nbPhases : cp.nbPhases = .int p.nbPhases
  maxSetpoint : cp.maxSetpoint = .float p.maxSetpoint
  centralSystem : cp.centralSystem = .str p.centralSystem
  voltage : cp.voltage = .float p.voltage

theorem ChargePoint.fill_toJson (m : StatusMessage) (cp : ChargePoint) :
    (ChargePoint.fill m.toJson).exec cp =
      { cp with status := .str m.status, type := .str m.type, vendor := .str m.vendor, model := .str m.model,
                serial := .str m.serial, nbPhases := .int m.nbPhases, maxSetpoint := .float m.maxSetpoint,
                centralSystem := .str m.centralSystem, voltage := .float m.voltage } := rfl

/-- **The rating of a connector is kept whatever else its message says.** -/
theorem Connector.fill_maxSetpoint (type nbPhases : Json) (n : Nat) (m : ConnectorMessage) (con : Connector) :
    ((Connector.fill type nbPhases (m.toJson n)).exec con).maxSetpoint = .float m.maxSetpoint := by
  have keep : ∀ {value : Except PyError Json} {set : Connector → Json → Connector},
      (∀ s v, (set s v).maxSetpoint = s.maxSetpoint) → Py.Keeps Connector.maxSetpoint (assign value set) :=
    fun h => Py.Keeps.assign h
  have consumptions : Py.Keeps Connector.maxSetpoint (fillConsumptions type nbPhases (m.toJson n)) := by
    refine .bind (.ite (keep (fun _ _ => rfl)) (.pure _)) (fun _ => ?_)
    refine .bind (.ite (.bind (keep (fun _ _ => rfl)) (fun _ => keep (fun _ _ => rfl))) (.pure _)) (fun _ => ?_)
    exact .ite (.bind (keep (fun _ _ => rfl)) (fun _ => .bind (keep (fun _ _ => rfl)) (fun _ => keep (fun _ _ => rfl)))) (.pure _)
  have car : Py.Keeps Connector.maxSetpoint (fillCar type (m.toJson n)) := by
    refine .bind (keep (fun _ _ => rfl)) (fun _ => .bind (keep (fun _ _ => rfl)) (fun _ => ?_))
    exact .bind (keep (fun _ _ => rfl)) (fun _ => .bind (keep (fun _ _ => rfl)) (fun _ => keep (fun _ _ => rfl)))
  -- the third assignment sets it, and none after that
  exact Py.Keeps.bind consumptions (fun _ => car) ((Connector.fillSetpoints (m.toJson n)).exec con)

theorem ChargePoint.withConnector_spec (cp : ChargePoint) (i : ℤ) :
    ∃ l, cp.withConnector i = { cp with connectors := l } ∧
      l.lookup i = some ((cp.connectors.lookup i).getD { id := i }) ∧
      (∀ x, x ∈ l ↔ x = i ∨ x ∈ cp.connectors) ∧ ∀ x, x ≠ i → l.lookup x = cp.connectors.lookup x := by
  unfold withConnector
  by_cases hm : i ∈ cp.connectors
  · obtain ⟨con, hcon⟩ := Option.isSome_iff_exists.1 (AList.lookup_isSome.2 hm)
    rw [if_pos hm]
    refine ⟨cp.connectors, rfl, by rw [hcon]; rfl, fun x => ?_, fun _ _ => rfl⟩
    constructor
    · exact .inr
    · rintro (rfl | hx)
      · exact hm
      · exact hx
  · have hnone : cp.connectors.lookup i = none := AList.lookup_eq_none.2 hm
    rw [if_neg hm, hnone]
    exact ⟨_, rfl, AList.lookup_insert _, fun x => AList.mem_insert _, fun x hx => AList.lookup_insert_ne hx⟩

/-- **What a message of a connector does**: the one of its number is filled, made where there is none, and nothing else
changes. -/
theorem ChargePoint.exec_receiveConnector {parts : List (List Char)} {part : List Char} {i : ℤ} (hp : parts[4]? = some part)
    (hi : parseInt part = .ok i) (n : Nat) (m : ConnectorMessage) (cp : ChargePoint) :
    ∃ l, (receiveConnector parts (.json (m.toJson n))).exec cp = { cp with connectors := l } ∧
      l.lookup i =
        some ((Connector.fill cp.type cp.nbPhases (m.toJson n)).exec ((cp.connectors.lookup i).getD { id := i })) ∧
      (∀ x, x ∈ l ↔ x = i ∨ x ∈ cp.connectors) ∧ ∀ x, x ≠ i → l.lookup x = cp.connectors.lookup x := by
  obtain ⟨l, hw, hl, hmem, hne⟩ := cp.withConnector_spec i
  have h₁ : (ExceptT.mk (pure (parseInt part)) : Py ChargePoint ℤ) cp = (.ok i, cp) := by rw [hi]; rfl
  have h₂ : (modify (fun cp => cp.withConnector i) : Py ChargePoint PUnit) cp = (.ok ⟨⟩, cp.withConnector i) := rfl
  have h₃ : (ExceptT.mk (pure (loads (.json (m.toJson n)))) : Py ChargePoint Json) (cp.withConnector i) =
    (.ok (m.toJson n), cp.withConnector i) := rfl
  have h₄ : (get : Py ChargePoint ChargePoint) (cp.withConnector i) = (.ok (cp.withConnector i), cp.withConnector i) := rfl
  have he : (receiveConnector parts (.json (m.toJson n))).exec cp =
      { cp with
        connectors := l.insert i
          ((Connector.fill cp.type cp.nbPhases (m.toJson n)).exec ((cp.connectors.lookup i).getD { id := i })) } := by
    unfold receiveConnector Py.exec
    rw [hp]
    dsimp only
    rw [Py.bind_ok h₁]
    rw [Py.bind_ok h₂, Py.bind_ok h₃, Py.bind_ok h₄, hw]
    dsimp only
    rw [hl]
    rfl
  refine ⟨_, he, AList.lookup_insert _, fun x => ?_, fun x hx => ?_⟩
  · rw [AList.mem_insert, hmem]
    tauto
  · rw [AList.lookup_insert_ne hx, hne x hx]

theorem ChargePoint.receiveConnector_keeps (parts : List (List Char)) (payload : Payload) :
    Py.Keeps (fun cp : ChargePoint => (cp.id, cp.type)) (receiveConnector parts payload) := by
  unfold receiveConnector
  cases parts[4]? with
  | none => exact .raise _
  | some part =>
    refine .bind (.raise _) (fun i => .bind (.modify (fun cp => ?_)) (fun _ => .bind (.raise _) (fun data => ?_)))
    · obtain ⟨l, hw, -⟩ := cp.withConnector_spec i
      rw [hw]
    · refine .bind .get (fun cp => ?_)
      dsimp only
      split
      · exact .raise _
      · exact .bind (.modify (fun _ => rfl)) (fun _ => .raise _)

theorem ChargePoint.fill_keeps (data : Json) : Py.Keeps ChargePoint.id (fill data) := by
  have keep : ∀ {value : Except PyError Json} {set : ChargePoint → Json → ChargePoint},
      (∀ s v, (set s v).id = s.id) → Py.Keeps ChargePoint.id (assign value set) := fun h => Py.Keeps.assign h
  refine .bind (keep (fun _ _ => rfl)) (fun _ => .bind (keep (fun _ _ => rfl)) (fun _ => ?_))
  refine .bind (keep (fun _ _ => rfl)) (fun _ => .bind (keep (fun _ _ => rfl)) (fun _ => ?_))
  refine .bind (keep (fun _ _ => rfl)) (fun _ => .bind (keep (fun _ _ => rfl)) (fun _ => ?_))
  exact .bind (keep (fun _ _ => rfl)) (fun _ => .bind (keep (fun _ _ => rfl)) (fun _ => keep (fun _ _ => rfl)))

/-! ## Topics -/

theorem hasConnectors_iff {topic : String} : hasConnectors topic = true ↔ "connectors".toList <:+: topic.toList :=
  decide_eq_true_iff

/-- **A status topic has the word exactly where the identifier has it.** -/
theorem hasConnectors_statusTopic (id : String) :
    hasConnectors (Wire.statusTopic id) = true ↔ "connectors".toList <:+: id.toList := by
  have hs : '/' ∉ "connectors".toList := by decide
  have ht : (Wire.statusTopic id).toList = "cp_simu".toList ++ '/' :: ("cps".toList ++ '/' :: (id.toList ++ '/' :: "status".toList)) := by
    unfold Wire.statusTopic
    simp
  have h₁ : ¬"connectors".toList <:+: "cp_simu".toList := by decide
  have h₂ : ¬"connectors".toList <:+: "cps".toList := by decide
  have h₃ : ¬"connectors".toList <:+: "status".toList := by decide
  rw [hasConnectors_iff, ht, infix_append_cons hs, infix_append_cons hs, infix_append_cons hs]
  simp only [h₁, h₂, h₃, false_or, or_false]

theorem hasConnectors_connectorTopic (id : String) (c : Nat) : hasConnectors (connectorTopic id c) = true := by
  rw [hasConnectors_iff]
  refine ⟨("cp_simu/cps/" ++ id ++ "/").toList, ("/" ++ toString c ++ "/status").toList, ?_⟩
  unfold connectorTopic
  simp

theorem hasConnectors_of_level {topic : String} {i : Nat} {part : List Char} (hp : (levels topic)[i]? = some part)
    (h : "connectors".toList <:+: part) : hasConnectors topic = true :=
  hasConnectors_iff.2 (h.trans (infix_of_mem_splitOn (List.mem_of_getElem? hp)))

/-- A topic of a charge point, with the identifier in its third level. -/
structure IsTopic (topic id : String) : Prop where
  launcher : topic ≠ "cp_simu/launcher/status"
  level : (levels topic)[2]? = some id.toList

theorem IsTopic.not_of_ne {topic id k : String} (h : IsTopic topic id) (hk : k ≠ id) : ¬IsTopic topic k := fun h' =>
  hk (String.toList_inj.1 (Option.some.inj (h'.level.symm.trans h.level)))

theorem isTopic_of_levels {topic id : String} {rest : List (List Char)}
    (h : levels topic = "cp_simu".toList :: "cps".toList :: id.toList :: rest) : IsTopic topic id := by
  constructor
  · rintro rfl
    have hl : (levels "cp_simu/launcher/status")[1]? = some "cps".toList := by rw [h]; rfl
    have hr : (levels "cp_simu/launcher/status")[1]? = some "launcher".toList := by decide +kernel
    rw [hr] at hl
    exact absurd hl (by decide)
  · rw [h]
    rfl

theorem isTopic_topic {id : String} (h : '/' ∉ id.toList) (x : Publication) : IsTopic (x.topic id) id := by
  cases x with
  | status m => exact isTopic_of_levels (by rw [Publication.topic, levels_statusTopic, levels_of_not_mem h]; rfl)
  | connector c m => exact isTopic_of_levels (by rw [Publication.topic, levels_connectorTopic, levels_of_not_mem h]; rfl)

/-- **The supervisor hears of a connector only where the identifier is one level.** -/
theorem not_mem_of_subscribed {id : String} {c : Nat} (h : subscribed (connectorTopic id c) = true) : '/' ∉ id.toList := by
  unfold subscribed at h
  obtain ⟨f, hf, hp⟩ := List.any_eq_true.1 h
  have hl := passes_length hp
  rw [levels_connectorTopic] at hl
  have hid := List.length_pos_iff.2 (levels_ne_nil id)
  have h₁ : (levels "cp_simu/cps/+/status").length = 4 := by decide +kernel
  have h₂ : (levels "cp_simu/cps/+/connectors/+/status").length = 6 := by decide +kernel
  have h₃ : (levels "cp_simu/launcher/status").length = 3 := by decide +kernel
  rw [← length_levels]
  simp only [List.length_append, List.length_cons, List.length_nil] at hl
  unfold subscriptions at hf
  simp only [List.mem_cons, List.not_mem_nil, or_false] at hf
  rcases hf with rfl | rfl | rfl
  · omega
  · omega
  · omega

/-! ## The registry -/

theorem onMessageReceived_of_isTopic {m : ChargePointManager} {topic id : String} (ht : IsTopic topic id) (j : Json) :
    m.onMessageReceived topic (.json j) = ⟨m.cps.insert id
      ((ChargePoint.receive topic (.json j)).exec ((m.cps.lookup id).getD { id := id }))⟩ := by
  unfold ChargePointManager.onMessageReceived
  rw [if_neg ht.launcher, ht.level]
  dsimp only
  rw [String.ofList_toList]

/-- **A message that is not of a charge point** leaves it alone. -/
theorem lookup_onMessageReceived_of_not {m : ChargePointManager} {topic id : String} {payload : Payload}
    (h : ¬IsTopic topic id) : (m.onMessageReceived topic payload).cps.lookup id = m.cps.lookup id := by
  unfold ChargePointManager.onMessageReceived
  by_cases hl : topic = "cp_simu/launcher/status"
  · rw [if_pos hl]
  rw [if_neg hl]
  cases hp : (levels topic)[2]? with
  | none => rfl
  | some part =>
    have hid : id ≠ String.ofList part := by
      rintro rfl
      exact h ⟨hl, by rw [hp, String.toList_ofList]⟩
    cases payload with
    | empty => rfl
    | json j => exact AList.lookup_insert_ne hid
    | other => exact AList.lookup_insert_ne hid

/-- **What a message makes of an object depends on that object alone.** -/
theorem lookup_onMessageReceived_congr {m m' : ChargePointManager} {id : String} (topic : String) (payload : Payload)
    (h : m.cps.lookup id = m'.cps.lookup id) :
    (m.onMessageReceived topic payload).cps.lookup id = (m'.onMessageReceived topic payload).cps.lookup id := by
  by_cases ht : IsTopic topic id
  · unfold ChargePointManager.onMessageReceived
    rw [if_neg ht.launcher, if_neg ht.launcher, ht.level]
    cases payload with
    | empty => exact h
    | json j =>
      dsimp only
      rw [String.ofList_toList, h, AList.lookup_insert, AList.lookup_insert]
    | other =>
      dsimp only
      rw [String.ofList_toList, h, AList.lookup_insert, AList.lookup_insert]
  · rw [lookup_onMessageReceived_of_not ht, lookup_onMessageReceived_of_not ht, h]

theorem lookup_receiveAll_of_not {m : ChargePointManager} {id : String} {l : List (String × Payload)}
    (h : ∀ x ∈ l, ¬IsTopic x.1 id) : (m.receiveAll l).cps.lookup id = m.cps.lookup id := by
  induction l generalizing m with
  | nil => rfl
  | cons x l ih =>
    have hx : (m.onMessageReceived x.1 x.2).cps.lookup id = m.cps.lookup id :=
      lookup_onMessageReceived_of_not (h x List.mem_cons_self)
    exact (ih (fun y hy => h y (List.mem_cons_of_mem x hy))).trans hx

theorem lookup_receiveAll_congr {m m' : ChargePointManager} {id : String} (l : List (String × Payload))
    (h : m.cps.lookup id = m'.cps.lookup id) : (m.receiveAll l).cps.lookup id = (m'.receiveAll l).cps.lookup id := by
  induction l generalizing m m' with
  | nil => exact h
  | cons x l ih => exact ih (lookup_onMessageReceived_congr x.1 x.2 h)

/-- **No message takes an object out.** -/
theorem mem_receiveAll {m : ChargePointManager} {id : String} (l : List (String × Payload)) (h : id ∈ m.cps) :
    id ∈ (m.receiveAll l).cps := by
  induction l generalizing m with
  | nil => exact h
  | cons x l ih =>
    have hx : id ∈ (m.onMessageReceived x.1 x.2).cps := by
      unfold ChargePointManager.onMessageReceived
      split
      · exact h
      split
      · exact h
      split
      · exact h
      · exact (AList.mem_insert _).2 (.inr h)
    exact ih hx

/-- **The objects of the registry have the names they are filed under, and no type where the name has the word.** -/
def Filed (m : ChargePointManager) : Prop :=
  ∀ id cp, m.cps.lookup id = some cp → cp.id = id ∧ ("connectors".toList <:+: id.toList → cp.type = .str "")

theorem Filed.onMessageReceived {m : ChargePointManager} (h : Filed m) (topic : String) (payload : Payload) :
    Filed (m.onMessageReceived topic payload) := by
  unfold ChargePointManager.onMessageReceived
  by_cases hl : topic = "cp_simu/launcher/status"
  · rw [if_pos hl]
    exact h
  rw [if_neg hl]
  cases hp : (levels topic)[2]? with
  | none => exact h
  | some part =>
    have filled : Filed ⟨m.cps.insert (String.ofList part) ((ChargePoint.receive topic payload).exec
        ((m.cps.lookup (String.ofList part)).getD { id := String.ofList part }))⟩ := by
      intro id cp hcp
      by_cases hid : id = String.ofList part
      · subst hid
        have hcp := (AList.lookup_insert m.cps).symm.trans hcp
        rw [← Option.some.inj hcp]
        have hold : ((m.cps.lookup (String.ofList part)).getD { id := String.ofList part }).id = String.ofList part ∧
            ("connectors".toList <:+: (String.ofList part).toList →
              ((m.cps.lookup (String.ofList part)).getD { id := String.ofList part }).type = .str "") := by
          cases hc : m.cps.lookup (String.ofList part) with
          | none => exact ⟨rfl, fun _ => rfl⟩
          | some cp => exact h _ cp hc
        obtain ⟨hid, htype⟩ := hold
        unfold ChargePoint.receive
        by_cases hw : hasConnectors topic = true
        · rw [if_pos hw]
          have hk := ChargePoint.receiveConnector_keeps (levels topic) payload
            ((m.cps.lookup (String.ofList part)).getD { id := String.ofList part })
          exact ⟨(congrArg Prod.fst hk).trans hid, fun hc => (congrArg Prod.snd hk).trans (htype hc)⟩
        · rw [if_neg hw]
          refine ⟨(Py.Keeps.bind (.raise _) (fun data => ChargePoint.fill_keeps data) _).trans hid, fun hc => ?_⟩
          have hpart : (String.ofList part).toList = part := String.toList_ofList
          rw [hpart] at hc
          exact absurd (hasConnectors_of_level hp hc) hw
      · exact h id cp ((AList.lookup_insert_ne hid).symm.trans hcp)
    cases payload with
    | empty => exact h
    | json j => exact filled
    | other => exact filled

theorem Filed.receiveAll {m : ChargePointManager} (h : Filed m) (messages : List (String × Payload)) :
    Filed (m.receiveAll messages) := by
  induction messages generalizing m with
  | nil => exact h
  | cons x messages ih => exact ih (h.onMessageReceived x.1 x.2)

theorem filed_empty : Filed .empty := fun _ _ h => by cases h

/-! ## The messages of one charge point -/

section

variable {id : String} {n : Nat}

/-- What one message makes of the object. -/
def heard (id : String) (n : Nat) (cp : ChargePoint) (x : Publication) : ChargePoint :=
  (ChargePoint.receive (x.topic id) (.json (x.toJson n))).exec cp

/-- The messages of a charge point, as the supervisor receives them. -/
def sent (id : String) (n : Nat) (l : List Publication) : List (String × Payload) :=
  l.map (fun x => (x.topic id, .json (x.toJson n)))

/-- **The messages of one charge point go to its object, one after the other.** -/
theorem lookup_receiveAll_messages (l : List (String × Json)) (hl : ∀ x ∈ l, IsTopic x.1 id) (m : ChargePointManager)
    (cp : ChargePoint) (hm : m.cps.lookup id = some cp) :
    (m.receiveAll (l.map (fun x => (x.1, .json x.2)))).cps.lookup id =
      some (l.foldl (fun cp x => (ChargePoint.receive x.1 (.json x.2)).exec cp) cp) := by
  induction l generalizing m cp with
  | nil => exact hm
  | cons x l ih =>
    have hx : (m.onMessageReceived x.1 (.json x.2)).cps.lookup id = some ((ChargePoint.receive x.1 (.json x.2)).exec cp) := by
      rw [onMessageReceived_of_isTopic (hl x List.mem_cons_self), hm]
      exact AList.lookup_insert _
    exact ih (fun y hy => hl y (List.mem_cons_of_mem x hy)) _ _ hx

/-- The first of them makes the object, where there is none. -/
theorem lookup_receiveAll_of_isTopic {l : List (String × Json)} (hl : ∀ x ∈ l, IsTopic x.1 id) (hne : l ≠ [])
    (m : ChargePointManager) : (m.receiveAll (l.map (fun x => (x.1, .json x.2)))).cps.lookup id =
      some (l.foldl (fun cp x => (ChargePoint.receive x.1 (.json x.2)).exec cp) ((m.cps.lookup id).getD { id := id })) := by
  cases l with
  | nil => exact absurd rfl hne
  | cons x l =>
    have hx : (m.onMessageReceived x.1 (.json x.2)).cps.lookup id =
        some ((ChargePoint.receive x.1 (.json x.2)).exec ((m.cps.lookup id).getD { id := id })) := by
      rw [onMessageReceived_of_isTopic (hl x List.mem_cons_self)]
      exact AList.lookup_insert _
    exact lookup_receiveAll_messages l (fun y hy => hl y (List.mem_cons_of_mem x hy)) _ _ hx

theorem heard_status (hw : ¬"connectors".toList <:+: id.toList) (m : StatusMessage) (cp : ChargePoint) :
    heard id n cp (.status m) = (ChargePoint.fill m.toJson).exec cp := by
  have hc : ¬hasConnectors ((Publication.status m).topic id) = true := fun h => hw ((hasConnectors_statusTopic id).1 h)
  unfold heard ChargePoint.receive
  rw [if_neg hc]
  exact congrArg Prod.snd (Py.bind_ok rfl)

/-- **A message of a connector fills that connector.** -/
theorem heard_connector_fill (h : '/' ∉ id.toList) (c : Nat) (m : ConnectorMessage) (cp : ChargePoint) :
    ∃ l, heard id n cp (.connector c m) = { cp with connectors := l } ∧
      l.lookup (c : ℤ) =
        some ((Connector.fill cp.type cp.nbPhases (m.toJson n)).exec ((cp.connectors.lookup (c : ℤ)).getD { id := c })) ∧
      (∀ x, x ∈ l ↔ x = (c : ℤ) ∨ x ∈ cp.connectors) ∧ ∀ x, x ≠ (c : ℤ) → l.lookup x = cp.connectors.lookup x := by
  have hc : hasConnectors ((Publication.connector c m).topic id) = true := hasConnectors_connectorTopic id c
  unfold heard ChargePoint.receive
  rw [if_pos hc]
  have hp : (levels (connectorTopic id c))[4]? = some (toString c).toList := by
    rw [levels_connectorTopic, levels_of_not_mem h]
    rfl
  exact ChargePoint.exec_receiveConnector hp (parseInt_toString c) n m cp

theorem heard_connector (h : '/' ∉ id.toList) (c : Nat) (m : ConnectorMessage) (cp : ChargePoint) :
    ∃ l con, heard id n cp (.connector c m) = { cp with connectors := l } ∧ l.lookup (c : ℤ) = some con ∧
      con.maxSetpoint = .float m.maxSetpoint ∧ (∀ x, x ∈ l ↔ x = (c : ℤ) ∨ x ∈ cp.connectors) ∧
      ∀ x, x ≠ (c : ℤ) → l.lookup x = cp.connectors.lookup x := by
  obtain ⟨l, he, hl, hmem, hne⟩ := heard_connector_fill h c m cp
  exact ⟨l, _, he, hl, Connector.fill_maxSetpoint _ _ n m _, hmem, hne⟩

variable {p : Parameters} {machine : Machine p} {t : ConnectorType} {pid : Nat} {powerFactor : ℚ}

theorem Told.heard_status (hw : ¬"connectors".toList <:+: p.id.toList) (ht : ConnectorType.ofText p.type = some t)
    {cp : ChargePoint} (hid : cp.id = p.id) (text : String) :
    Told (restarted p t) (heard p.id n cp (.status (buildStatusMessage (launched machine t pid powerFactor) text))) := by
  have htype : t.toText = p.type := by
    unfold ConnectorType.ofText at ht
    split at ht
    · rename_i h
      rw [h, ← Option.some.inj ht]
      rfl
    · rename_i h
      rw [h, ← Option.some.inj ht]
      rfl
    · cases ht
  rw [Supervisor.heard_status hw, ChargePoint.fill_toJson]
  cases t with
  | ac => exact ⟨hid, congrArg Json.str htype, rfl, rfl, rfl, rfl, rfl, rfl, rfl⟩
  | dc => exact ⟨hid, congrArg Json.str htype, rfl, rfl, rfl, rfl, rfl, rfl, rfl⟩

/-- A message of a run of the charge point. -/
abbrev OfLaunched {p : Parameters} (machine : Machine p) (t : ConnectorType) (pid : Nat) (powerFactor : ℚ)
    (x : Publication) : Prop :=
  x.Own (launched machine t pid powerFactor)

theorem Told.heard (hs : '/' ∉ p.id.toList) (hw : ¬"connectors".toList <:+: p.id.toList)
    (ht : ConnectorType.ofText p.type = some t) {cp : ChargePoint} (h : Told (restarted p t) cp) {x : Publication}
    (hx : OfLaunched machine t pid powerFactor x) : Told (restarted p t) (Supervisor.heard p.id n cp x) := by
  cases x with
  | status m =>
    obtain ⟨text, rfl⟩ := hx
    have hid : cp.id = p.id := by cases t <;> exact h.id
    exact Told.heard_status hw ht hid text
  | connector c m =>
    obtain ⟨l, con, he, -⟩ := heard_connector (n := n) hs c m cp
    rw [he]
    exact ⟨h.id, h.type, h.vendor, h.model, h.serial, h.nbPhases, h.maxSetpoint, h.centralSystem, h.voltage⟩

theorem Told.foldl (hs : '/' ∉ p.id.toList) (hw : ¬"connectors".toList <:+: p.id.toList)
    (ht : ConnectorType.ofText p.type = some t) (l : List Publication) {cp : ChargePoint} (h : Told (restarted p t) cp)
    (hl : ∀ x ∈ l, OfLaunched machine t pid powerFactor x) : Told (restarted p t) (l.foldl (Supervisor.heard p.id n) cp) := by
  induction l generalizing cp with
  | nil => exact h
  | cons x l ih =>
    exact ih (h.heard hs hw ht (hl x List.mem_cons_self)) (fun y hy => hl y (List.mem_cons_of_mem x hy))

theorem connectors_heard_status (hw : ¬"connectors".toList <:+: id.toList) (m : StatusMessage) (cp : ChargePoint) :
    (heard id n cp (.status m)).connectors = cp.connectors := by
  rw [heard_status hw, ChargePoint.fill_toJson]

/-- **The connectors of the object are those it had and those the messages are about.** -/
theorem mem_connectors_foldl (hs : '/' ∉ id.toList) (hw : ¬"connectors".toList <:+: id.toList) (l : List Publication)
    (cp : ChargePoint) (i : ℤ) :
    i ∈ (l.foldl (heard id n) cp).connectors ↔ i ∈ cp.connectors ∨ ∃ c m, Publication.connector c m ∈ l ∧ i = c := by
  induction l generalizing cp with
  | nil => simp
  | cons x l ih =>
    rw [List.foldl_cons, ih]
    cases x with
    | status m =>
      rw [connectors_heard_status hw]
      simp
    | connector c m =>
      obtain ⟨k, con, he, -, -, hmem, -⟩ := heard_connector (n := n) hs c m cp
      rw [he]
      dsimp only
      rw [hmem]
      constructor
      · rintro ((rfl | hi) | ⟨c', m', hm, rfl⟩)
        · exact .inr ⟨c, m, List.mem_cons_self, rfl⟩
        · exact .inl hi
        · exact .inr ⟨c', m', List.mem_cons_of_mem _ hm, rfl⟩
      · rintro (hi | ⟨c', m', hm, rfl⟩)
        · exact .inl (.inr hi)
        · rcases List.mem_cons.1 hm with he | hm
          · cases he
            exact .inl (.inl rfl)
          · exact .inr ⟨c', m', hm, rfl⟩

/-- The first connector of the object has the rating. -/
def RatedFirst (q : ℚ) (cp : ChargePoint) : Prop :=
  ∃ con, cp.connectors.lookup 1 = some con ∧ con.maxSetpoint = .float q

theorem ratedFirst_foldl (hs : '/' ∉ id.toList) (hw : ¬"connectors".toList <:+: id.toList) {cp₀ : SimulatedChargePoint}
    (l : List Publication) (hl : ∀ x ∈ l, x.Own cp₀) (cp : ChargePoint)
    (h : RatedFirst cp₀.maxConnectorSetpoint cp ∨ ∃ m, Publication.connector 1 m ∈ l) :
    RatedFirst cp₀.maxConnectorSetpoint (l.foldl (heard id n) cp) := by
  induction l generalizing cp with
  | nil => simpa using h
  | cons x l ih =>
    rw [List.foldl_cons]
    refine ih (fun y hy => hl y (List.mem_cons_of_mem x hy)) _ ?_
    have hx := hl x List.mem_cons_self
    cases x with
    | status m =>
      rcases h with h | ⟨m', hm⟩
      · left
        unfold RatedFirst
        rw [connectors_heard_status hw]
        exact h
      · rcases List.mem_cons.1 hm with he | hm
        · cases he
        · exact .inr ⟨m', hm⟩
    | connector c m =>
      obtain ⟨k, con, he, hcon, hrate, -, hne⟩ := heard_connector (n := n) hs c m cp
      by_cases hc : c = 1
      · -- this message sets the rating
        subst hc
        refine .inl ⟨con, ?_, ?_⟩
        · rw [he]
          exact hcon
        · rw [hrate, hx.2]
      · rcases h with ⟨con', hcon', hrate'⟩ | ⟨m', hm⟩
        · refine .inl ⟨con', ?_, hrate'⟩
          rw [he]
          dsimp only
          rw [hne 1 (by omega), hcon']
        · rcases List.mem_cons.1 hm with he | hm
          · cases he
            exact absurd rfl hc
          · exact .inr ⟨m', hm⟩

end

/-! ## The dictionary -/

theorem truncate_natCast (n : Nat) : MeterSimulator.truncate (n : ℚ) = n := by
  simp [MeterSimulator.truncate]

/-- The four numbers of a start command are `unsigned int`s. -/
structure Bounded (p : Parameters) : Prop where
  nbConnectors : p.nbConnectors < 2 ^ 32
  nbPhases : p.nbPhases < 2 ^ 32
  maxSetpoint : p.maxSetpoint < 2 ^ 32
  maxSetpointPerConnector : p.maxSetpointPerConnector < 2 ^ 32

theorem bounded_of_ofJson {e : Json} {p : Parameters} (h : (Element.ofJson e).parameters = some p) : Bounded p := by
  have he := Element.eq_of_parameters h
  have number : ∀ {j : Option Json} {n : Nat}, j.bind getUint = some n → n < 2 ^ 32 := by
    intro j n hj
    obtain ⟨v, -, hv⟩ := Option.bind_eq_some_iff.1 hj
    exact getUint_lt hv
  exact ⟨number (congrArg Element.nbConnectors he), number (congrArg Element.nbPhases he),
    number (congrArg Element.maxSetpoint he), number (congrArg Element.maxSetpointPerConnector he)⟩

theorem bind_member {α : Type} {j v : Json} {name : String} (h : member j name = some v) (f : Json → Option α) :
    (member j name).bind f = f v := by rw [h, Option.bind_some]

/-- The members `startChargePoints` reads are those `__cp_to_dict` sets. -/
theorem ofJson_dictOf (cp : ChargePoint) (a b : ℤ) : Element.ofJson (dictOf cp a b) =
    { id := some cp.id, type := getString cp.type, vendor := getString cp.vendor, model := getString cp.model,
      serial := getString cp.serial, centralSystem := getString cp.centralSystem,
      nbConnectors := getUint (.int cp.connectors.keys.length), nbPhases := getUint cp.nbPhases,
      maxSetpoint := getUint (.int a), maxSetpointPerConnector := getUint (.int b), voltage := getFloat cp.voltage } := by
  have h₁ : (member (dictOf cp a b) "id").bind getString = some cp.id := bind_member (v := .str cp.id) rfl getString
  have h₂ : (member (dictOf cp a b) "type").bind getString = getString cp.type := bind_member rfl _
  have h₃ : (member (dictOf cp a b) "vendor").bind getString = getString cp.vendor := bind_member rfl _
  have h₄ : (member (dictOf cp a b) "model").bind getString = getString cp.model := bind_member rfl _
  have h₅ : (member (dictOf cp a b) "serial").bind getString = getString cp.serial := bind_member rfl _
  have h₆ : (member (dictOf cp a b) "nb_phases").bind getUint = getUint cp.nbPhases := bind_member rfl _
  have h₇ : (member (dictOf cp a b) "nb_connectors").bind getUint = getUint (.int cp.connectors.keys.length) :=
    bind_member rfl _
  have h₈ : (member (dictOf cp a b) "max_setpoint").bind getUint = getUint (.int a) := bind_member rfl _
  have h₉ : (member (dictOf cp a b) "voltage").bind getFloat = getFloat cp.voltage := bind_member rfl _
  have h₁₀ : (member (dictOf cp a b) "max_setpoint_per_connector").bind getUint = getUint (.int b) := bind_member rfl _
  have h₁₁ : (member (dictOf cp a b) "central_system").bind getString = getString cp.centralSystem := bind_member rfl _
  unfold Element.ofJson
  rw [h₁, h₂, h₃, h₄, h₅, h₆, h₇, h₈, h₉, h₁₀, h₁₁]

/-- **The dictionary of an object that was told `p`** is a start command for `p`, with as many connectors as the object
has. -/
theorem cpToDict_of_told {p : Parameters} (hb : Bounded p) {cp : ChargePoint} (ht : Told p cp)
    (hr : RatedFirst p.maxSetpointPerConnector cp) :
    ∃ dict, cpToDict cp = .ok dict ∧ (Element.ofJson dict).parameters =
      (getUint (.int cp.connectors.keys.length)).map (fun n => { p with nbConnectors := n }) := by
  obtain ⟨con, hcon, hrate⟩ := hr
  have hlen : cp.connectors.keys.length > 0 := by
    have hm : (1 : ℤ) ∈ cp.connectors.keys := AList.mem_keys.1 (AList.lookup_isSome.1 (by rw [hcon]; rfl))
    exact List.length_pos_of_mem hm
  have h₁ : toInt cp.maxSetpoint = .ok (p.maxSetpoint : ℤ) := by
    rw [ht.maxSetpoint, toInt, truncate_natCast]
  have h₂ : setpointPerConnector cp = .ok (p.maxSetpointPerConnector : ℤ) := by
    unfold setpointPerConnector
    rw [if_pos hlen, hcon]
    dsimp only
    rw [hrate, toInt, truncate_natCast]
  refine ⟨dictOf cp p.maxSetpoint p.maxSetpointPerConnector, ?_, ?_⟩
  · unfold cpToDict
    rw [h₁, h₂]
    rfl
  · rw [ofJson_dictOf, ht.id, ht.type, ht.vendor, ht.model, ht.serial, ht.nbPhases, ht.voltage, ht.centralSystem,
      getUint_int hb.nbPhases, getUint_int hb.maxSetpoint, getUint_int hb.maxSetpointPerConnector]
    cases getUint (.int cp.connectors.keys.length) <;> rfl

/-- **The type of an object shows in its dictionary.** -/
theorem type_of_parameters {cp : ChargePoint} {dict : Json} {p : Parameters} (hd : cpToDict cp = .ok dict)
    (hp : (Element.ofJson dict).parameters = some p) : cp.type = .str p.type := by
  have ht : (Element.ofJson dict).type = some p.type := congrArg Element.type (Element.eq_of_parameters hp)
  have hdict : ∃ a b, dict = dictOf cp a b := by
    unfold cpToDict at hd
    cases h₁ : toInt cp.maxSetpoint with
    | error e =>
      rw [h₁] at hd
      cases hd
    | ok a =>
      cases h₂ : setpointPerConnector cp with
      | error e =>
        rw [h₁, h₂] at hd
        cases hd
      | ok b =>
        rw [h₁, h₂] at hd
        exact ⟨a, b, (Except.ok.inj hd).symm⟩
  obtain ⟨a, b, rfl⟩ := hdict
  rw [ofJson_dictOf] at ht
  dsimp only at ht
  cases hc : cp.type with
  | str s =>
    rw [hc] at ht
    exact congrArg Json.str (Option.some.inj ht)
  | _ =>
    rw [hc] at ht
    cases ht

/-! ## The restart -/

/-- **A list without duplicates that has every number from 1 to `n` has `n` elements exactly where it has no other.** -/
theorem length_eq_iff {keys : List ℤ} (hk : keys.Nodup) {n : Nat} (h : ∀ c ∈ List.range' 1 n, (c : ℤ) ∈ keys) :
    keys.length = n ↔ ∀ i ∈ keys, ∃ c ∈ List.range' 1 n, i = (c : ℤ) := by
  have hids : ((List.range' 1 n).map (fun c : Nat => (c : ℤ))).Nodup :=
    List.Nodup.map (fun _ _ h => Int.ofNat.inj h) List.nodup_range'
  have hlen : ((List.range' 1 n).map (fun c : Nat => (c : ℤ))).length = n := by simp
  have hsub : (List.range' 1 n).map (fun c : Nat => (c : ℤ)) ⊆ keys := by
    intro i hi
    obtain ⟨c, hc, rfl⟩ := List.mem_map.1 hi
    exact h c hc
  have hperm := List.subperm_of_subset hids hsub
  constructor
  · intro hl i hi
    have hp := hperm.perm_of_length_le (by omega)
    obtain ⟨c, hc, rfl⟩ := List.mem_map.1 (hp.mem_iff.2 hi)
    exact ⟨c, hc, rfl⟩
  · intro hi
    have hsub' : keys ⊆ (List.range' 1 n).map (fun c : Nat => (c : ℤ)) := by
      intro i hik
      obtain ⟨c, hc, rfl⟩ := hi i hik
      exact List.mem_map.2 ⟨c, hc, rfl⟩
    have hle := (List.subperm_of_subset hk hsub').length_le
    have hge := hperm.length_le
    omega

theorem lookup_receiveAll_cons {id : String} {n : Nat} (hs : '/' ∉ id.toList) (m : ChargePointManager) (x : Publication)
    (l : List Publication) : (m.receiveAll (sent id n (x :: l))).cps.lookup id =
      some ((x :: l).foldl (heard id n) ((m.cps.lookup id).getD { id := id })) := by
  have hl : ∀ y ∈ (x :: l).map (fun x => (x.topic id, x.toJson n)), IsTopic y.1 id := by
    intro y hy
    obtain ⟨z, -, rfl⟩ := List.mem_map.1 hy
    exact isTopic_topic hs z
  have hr := lookup_receiveAll_of_isTopic hl (List.cons_ne_nil _ _) m
  rw [List.map_map, List.foldl_map] at hr
  exact hr

theorem id_restarted (p : Parameters) (t : ConnectorType) : (restarted p t).id = p.id := by cases t <;> rfl

theorem type_restarted (p : Parameters) (t : ConnectorType) : (restarted p t).type = p.type := by cases t <;> rfl

theorem nbConnectors_restarted (p : Parameters) (t : ConnectorType) : (restarted p t).nbConnectors = p.nbConnectors := by
  cases t <;> rfl

theorem Bounded.restarted {p : Parameters} (h : Bounded p) (t : ConnectorType) : Bounded (restarted p t) := by
  cases t with
  | ac => exact h
  | dc => exact ⟨h.nbConnectors, Nat.one_lt_two_pow (by decide), h.maxSetpoint, h.maxSetpointPerConnector⟩

/-- Of the parameters told it is only the number of connectors that the supervisor counts itself. -/
theorem restarts_iff_length {m : ChargePointManager} {p : Parameters} (hb : Bounded p) {cp : ChargePoint}
    (hl : m.cps.lookup p.id = some cp) (ht : Told p cp) (hr : RatedFirst p.maxSetpointPerConnector cp) :
    Restarts p m ↔ cp.connectors.keys.length = p.nbConnectors := by
  obtain ⟨dict, hd, hparam⟩ := cpToDict_of_told hb ht hr
  constructor
  · rintro ⟨cp', dict', hl', hd', hp'⟩
    obtain rfl := Option.some.inj (hl.symm.trans hl')
    obtain rfl := Except.ok.inj (hd.symm.trans hd')
    rw [hparam] at hp'
    obtain ⟨n, hn, he⟩ := Option.map_eq_some_iff.1 hp'
    have hnb : n = p.nbConnectors := congrArg Parameters.nbConnectors he
    unfold getUint at hn
    dsimp only at hn
    split at hn
    · have h := Option.some.inj hn
      omega
    · cases hn
  · intro hlen
    refine ⟨cp, dict, hl, hd, ?_⟩
    rw [hparam, hlen, getUint_int hb.nbConnectors]
    rfl

/-- The connectors the supervisor knew before are among those of the parameters. -/
def NoOther (p : Parameters) (m : ChargePointManager) : Prop :=
  ∀ cp, m.cps.lookup p.id = some cp → ∀ i ∈ cp.connectors, 1 ≤ i ∧ i ≤ (p.nbConnectors : ℤ)

theorem noOther_iff {p : Parameters} {m : ChargePointManager} : NoOther p m ↔
    ∀ i ∈ ((m.cps.lookup p.id).getD { id := p.id }).connectors, ∃ c ∈ List.range' 1 p.nbConnectors, i = (c : ℤ) := by
  unfold NoOther
  cases m.cps.lookup p.id with
  | none => exact ⟨fun _ i hi => absurd hi (AList.notMem_empty i), fun _ _ hc => by cases hc⟩
  | some cp =>
    constructor
    · intro h i hi
      have hr := h cp rfl i hi
      exact ⟨i.toNat, List.mem_range'_1.2 (by omega), by omega⟩
    · rintro h cp' hcp i hi
      obtain rfl := Option.some.inj hcp
      obtain ⟨c, hc, rfl⟩ := h i hi
      have hr := List.mem_range'_1.1 hc
      omega

section

variable {p : Parameters} {machine : Machine p} {t : ConnectorType} {pid : Nat} {powerFactor : ℚ} {n : Nat}

/-- The messages of a charge point that publishes all its connectors bring the supervisor those and no others. -/
theorem mem_connectors_of_messages (hs : '/' ∉ p.id.toList) (hw : ¬"connectors".toList <:+: p.id.toList)
    {l : List Publication} (hown : ∀ x ∈ l, OfLaunched machine t pid powerFactor x)
    (hall : ∀ c ∈ List.range' 1 p.nbConnectors, ∃ m, Publication.connector c m ∈ l) (cp : ChargePoint) (i : ℤ) :
    i ∈ (l.foldl (heard p.id n) cp).connectors ↔
      i ∈ cp.connectors ∨ ∃ c ∈ List.range' 1 p.nbConnectors, i = (c : ℤ) := by
  rw [mem_connectors_foldl hs hw l cp i]
  refine or_congr Iff.rfl ⟨?_, ?_⟩
  · rintro ⟨c, m, hm, rfl⟩
    have hc := (hown _ hm).1
    rw [(launched_fields machine t pid powerFactor).1] at hc
    exact ⟨c, hc, rfl⟩
  · rintro ⟨c, hc, rfl⟩
    obtain ⟨m, hm⟩ := hall c hc
    exact ⟨c, m, hm, rfl⟩

/-- **What the supervisor makes of the messages of a charge point**, its status first: the start command for its
parameters, with as many connectors as it knows. -/
theorem restart_of_messages (hb : Bounded p) (ht : ConnectorType.ofText p.type = some t) (hn : 1 ≤ p.nbConnectors)
    (hs : '/' ∉ p.id.toList) (hw : ¬"connectors".toList <:+: p.id.toList) {m : ChargePointManager} (hm : Filed m)
    {s : StatusMessage} {rest : List Publication}
    (hown : ∀ x ∈ Publication.status s :: rest, OfLaunched machine t pid powerFactor x)
    (hall : ∀ c ∈ (launched machine t pid powerFactor).ids, ∃ m, Publication.connector c m ∈ rest) :
    Restarts (restarted p t) (m.receiveAll (sent p.id n (.status s :: rest))) ↔ NoOther p m := by
  obtain ⟨hids, hmax, -⟩ := launched_fields machine t pid powerFactor
  rw [hids] at hall
  let cp₀ : ChargePoint := (m.cps.lookup p.id).getD { id := p.id }
  let cp : ChargePoint := (Publication.status s :: rest).foldl (heard p.id n) cp₀
  have hlookup : (m.receiveAll (sent p.id n (.status s :: rest))).cps.lookup (restarted p t).id = some cp := by
    rw [id_restarted]
    exact lookup_receiveAll_cons hs m _ _
  have hid : cp₀.id = p.id := by
    show ((m.cps.lookup p.id).getD { id := p.id }).id = p.id
    cases hc : m.cps.lookup p.id with
    | none => rfl
    | some c => exact (hm p.id c hc).1
  have htold : Told (restarted p t) cp := by
    obtain ⟨text, rfl⟩ := hown _ List.mem_cons_self
    exact Told.foldl hs hw ht rest (Told.heard_status hw ht hid text) (fun x hx => hown x (List.mem_cons_of_mem _ hx))
  have hrated : RatedFirst (restarted p t).maxSetpointPerConnector cp := by
    have hper : ((restarted p t).maxSetpointPerConnector : ℚ) = (launched machine t pid powerFactor).maxConnectorSetpoint := by
      rw [hmax]
      cases t <;> rfl
    rw [hper]
    refine ratedFirst_foldl hs hw _ hown cp₀ (.inr ?_)
    obtain ⟨m', hm'⟩ := hall 1 (List.mem_range'_1.2 (by omega))
    exact ⟨m', List.mem_cons_of_mem _ hm'⟩
  have hmem : ∀ i : ℤ, i ∈ cp.connectors.keys ↔ i ∈ cp₀.connectors ∨ ∃ c ∈ List.range' 1 p.nbConnectors, i = (c : ℤ) := by
    intro i
    rw [← AList.mem_keys]
    refine mem_connectors_of_messages hs hw hown (fun c hc => ?_) cp₀ i
    obtain ⟨m', hm'⟩ := hall c hc
    exact ⟨m', List.mem_cons_of_mem _ hm'⟩
  rw [restarts_iff_length (hb.restarted t) hlookup htold hrated, nbConnectors_restarted, noOther_iff,
    length_eq_iff cp.connectors.keys_nodup (fun c hc => (hmem c).2 (.inr ⟨c, hc, rfl⟩))]
  exact ⟨fun h i hi => h i ((hmem i).2 (.inl hi)), fun h i hi => ((hmem i).1 hi).elim (h i) id⟩

end

/-- **A restart carries the parameters exactly where the word `connectors` is not in the identifier**, and the supervisor
knew of no other connector before; whatever it had heard, once it has heard the status first and then every connector. -/
theorem restart_keeps_iff {e : Json} {p : Parameters} {t : ConnectorType} (hp : (Element.ofJson e).parameters = some p)
    (ht : ConnectorType.ofText p.type = some t) (hn : 1 ≤ p.nbConnectors) (machine : Machine p) (pid : Nat)
    (powerFactor : ℚ) (stack : Stack) (k : Nat) (script : List Tick) (earlier : List (String × Payload))
    (s : StatusMessage) (rest : List Publication)
    (hpub : ∀ x ∈ Publication.status s :: rest, .published x true ∈
      (afterLoop (launched machine t pid powerFactor) k (World.start (launched machine t pid powerFactor) stack) script).log)
    (hall : ∀ c ∈ (launched machine t pid powerFactor).ids, ∃ m, Publication.connector c m ∈ rest)
    (hsub : ∀ x ∈ Publication.status s :: rest, subscribed (x.topic p.id) = true) :
    Restarts (restarted p t) ((ChargePointManager.empty.receiveAll earlier).receiveAll
      (sent p.id (launched machine t pid powerFactor).nbPhases (.status s :: rest))) ↔
    ¬"connectors".toList <:+: p.id.toList ∧ NoOther p (ChargePointManager.empty.receiveAll earlier) := by
  have hown : ∀ x ∈ Publication.status s :: rest, OfLaunched machine t pid powerFactor x := fun x hx =>
    published_own _ stack k script x true (hpub x hx)
  have hfiled : Filed (ChargePointManager.empty.receiveAll earlier) := filed_empty.receiveAll earlier
  have hs : '/' ∉ p.id.toList := by
    have h1 : 1 ∈ (launched machine t pid powerFactor).ids := by
      rw [(launched_fields machine t pid powerFactor).1]
      exact List.mem_range'_1.2 (by omega)
    obtain ⟨m, hm⟩ := hall 1 h1
    have hc : (Publication.connector 1 m).topic p.id = connectorTopic p.id 1 := rfl
    have h := hsub _ (List.mem_cons_of_mem _ hm)
    rw [hc] at h
    exact not_mem_of_subscribed h
  by_cases hw : "connectors".toList <:+: p.id.toList
  · -- the status message is taken for one of a connector, so the type stays empty
    refine ⟨fun h => ?_, fun h => absurd hw h.1⟩
    obtain ⟨cp, dict, hl, hd, hparam⟩ := h
    rw [id_restarted] at hl
    have hempty := ((hfiled.receiveAll (sent p.id _ (.status s :: rest))) p.id cp hl).2 hw
    have htype := (type_of_parameters hd hparam).symm.trans hempty
    rw [← type_restarted p t, Json.str.inj htype] at ht
    cases ht
  · rw [restart_of_messages (bounded_of_ofJson hp) ht hn hs hw hfiled hown hall]
    exact ⟨fun h => ⟨hw, h⟩, fun h => h.2⟩

/-! A start command for one connector, and a run in which the charge point connects to the broker and publishes. -/

def sampleElement (id : String) : Json := .obj
  [("id", .str id), ("type", .str "AC"), ("vendor", .str "vendor"), ("model", .str "model"), ("serial", .str "serial"),
   ("nb_phases", .int 3), ("nb_connectors", .int 1), ("max_setpoint", .int 64), ("voltage", .float 230),
   ("max_setpoint_per_connector", .int 32), ("central_system", .str "url")]

def sampleParameters (id : String) : Parameters :=
  ⟨id, "AC", "vendor", "model", "serial", "url", 1, 3, 64, 32, 230⟩

def sampleMachine (id : String) : Machine (sampleParameters id) where
  arith := .single
  floats := SimulatedChargePoint.sample.floats

def sampleLaunched (id : String) : SimulatedChargePoint := launched (sampleMachine id) .ac 1 1

def sampleRun (id : String) : World :=
  afterLoop (sampleLaunched id) 1 (World.start (sampleLaunched id) .idle)
    (Simu.script 20 (List.replicate 6 (0, .mqttStartStep true)))

def sampleStatus (id : String) : StatusMessage := buildStatusMessage (sampleLaunched id) "Disconnected"

def sampleConnector (id : String) : ConnectorMessage :=
  connectorMessage ((sampleRun id).connectors 1) ((sampleRun id).meters 1)

/-- The charge point `A` is restarted as it was. -/
theorem restart_keeps_iff_run : Restarts (restarted (sampleParameters "A") .ac)
    ((ChargePointManager.empty.receiveAll []).receiveAll
      (sent "A" (sampleLaunched "A").nbPhases [.status (sampleStatus "A"), .connector 1 (sampleConnector "A")])) := by
  refine (restart_keeps_iff (e := sampleElement "A") (p := sampleParameters "A") (t := .ac) (by decide +kernel) rfl
    (by decide) (sampleMachine "A") 1 1 .idle 1 (Simu.script 20 (List.replicate 6 (0, .mqttStartStep true))) [] (sampleStatus "A")
    [.connector 1 (sampleConnector "A")] ?_ ?_ ?_).2 ⟨by decide +kernel, fun _ h => by cases h⟩
  · decide +kernel
  · intro c hc
    have hr : c ∈ List.range' 1 1 := hc
    obtain rfl : c = 1 := by
      have h := List.mem_range'_1.1 hr
      omega
    exact ⟨_, List.mem_cons_self⟩
  · decide +kernel

/-- **A charge point called `connectors` is not restarted as it was**: the supervisor hears of it all that there is, and
does not know its type. -/
theorem restart_loses_type :
    let messages := [Publication.status (sampleStatus "connectors"), .connector 1 (sampleConnector "connectors")]
    publications (sampleRun "connectors") = messages.reverse ∧
      (∀ x ∈ messages, subscribed (x.topic "connectors") = true) ∧
      ¬Restarts (restarted (sampleParameters "connectors") .ac)
        (ChargePointManager.empty.receiveAll (sent "connectors" (sampleLaunched "connectors").nbPhases messages)) := by
  intro messages
  refine ⟨by decide +kernel, by decide +kernel, ?_⟩
  rintro ⟨cp, dict, hl, hd, hp⟩
  have hempty := ((filed_empty.receiveAll (sent "connectors" _ messages)) "connectors" cp hl).2 (List.infix_refl _)
  have htype := (type_of_parameters hd hp).symm.trans hempty
  exact absurd (Json.str.inj htype) (by decide)

end Supervisor
