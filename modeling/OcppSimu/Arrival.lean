import OcppSimu.Restart
/-!
# Arrival — retained statuses, in any order

The broker hands a new subscriber the retained messages in the order it likes.  A connector's message is decoded with
the type and the number of phases its charge point has by then, and is not decoded again when the charge point's own
comes; so the order is without effect where both ways to decode it agree (`arrival_order_iff`).
-/
namespace Supervisor

open Wire Simu

/-! ## What is compared -/

/-- A value as `==` compares it, which knows one number however it is typed. -/
def plain : Json → Json
  | .bool b => .float b.toNat
  | .int i => .float i
  | j => j

/-- The data of a connector. -/
def Connector.data (con : Connector) : Connector where
  id := con.id
  status := plain con.status
  idTag := plain con.idTag
  maxSetpoint := plain con.maxSetpoint
  ocppSetpoint := plain con.ocppSetpoint
  setpoint := plain con.setpoint
  consumptionL1 := plain con.consumptionL1
  consumptionL2 := plain con.consumptionL2
  consumptionL3 := plain con.consumptionL3
  carConsumptionL1 := plain con.carConsumptionL1
  carConsumptionL2 := plain con.carConsumptionL2
  carConsumptionL3 := plain con.carConsumptionL3
  carCableCapacity := plain con.carCableCapacity
  carReady := plain con.carReady
  type := con.type

/-- The data of a charge point, its own and those of its connectors. -/
def ChargePoint.data (cp : ChargePoint) : ChargePoint × (ℤ → Option Connector) :=
  ({ id := cp.id
     type := plain cp.type
     status := plain cp.status
     vendor := plain cp.vendor
     model := plain cp.model
     serial := plain cp.serial
     nbPhases := plain cp.nbPhases
     maxSetpoint := plain cp.maxSetpoint
     centralSystem := plain cp.centralSystem
     voltage := plain cp.voltage },
   fun i => (cp.connectors.lookup i).map Connector.data)

def ChargePointManager.data (m : ChargePointManager) (id : String) : Option (ChargePoint × (ℤ → Option Connector)) :=
  (m.cps.lookup id).map ChargePoint.data

/-! ## What arrives -/

/-- The status message of a connector whose meter has so many phases. -/
structure ConnectorStatus where
  number : Nat
  nbPhases : Nat
  message : ConnectorMessage

/-- **The retained statuses of a charge point**: one for each of the topics, which are those of an identifier that the
subscriptions let through. -/
structure Retained where
  id : String
  status : StatusMessage
  connectors : List ConnectorStatus
  level : '/' ∉ id.toList
  distinct : (connectors.map ConnectorStatus.number).Nodup

/-- A publication, and the number of phases it is written with. -/
def ConnectorStatus.publication (c : ConnectorStatus) : Publication × Nat := (.connector c.number c.message, c.nbPhases)

def Retained.publications (r : Retained) : List (Publication × Nat) :=
  (.status r.status, 0) :: r.connectors.map ConnectorStatus.publication

def Retained.message (r : Retained) (x : Publication × Nat) : String × Payload := (x.1.topic r.id, .json (x.1.toJson x.2))

def Retained.messages (r : Retained) : List (String × Payload) := r.publications.map r.message

/-- **Every order of delivery to an empty registry gives the same data.** -/
def Retained.OrderFree (r : Retained) : Prop :=
  ∀ l l' : List (String × Payload), l.Perm r.messages → l'.Perm r.messages →
    (ChargePointManager.empty.receiveAll l).data = (ChargePointManager.empty.receiveAll l').data

namespace ConnectorStatus

/-- The consumption of a phase that the message says, from 0. -/
def consumption (c : ConnectorStatus) (phase : Nat) : ℚ :=
  if phase < c.nbPhases then [c.message.consumptionL1, c.message.consumptionL2, c.message.consumptionL3].getD phase 0 else 0

/-- **Nothing in the message depends on the type and the number of phases.** -/
structure Indifferent (type : String) (nbPhases : Nat) (c : ConnectorStatus) : Prop where
  car : type = "DC" → c.message.carConsumptionL1 = 0 ∧ c.message.carCableCapacity = 0
  phases : ∀ k < nbPhases, nbPhases ≤ 3 → c.consumption k = 0

/-- The connector made of the message alone, for a charge point of that type and with that many phases. -/
def decoded (c : ConnectorStatus) (type nbPhases : Json) : Connector :=
  (Connector.fill type nbPhases (c.message.toJson c.nbPhases)).exec { id := c.number }

end ConnectorStatus

/-! ## One connector -/

theorem displayValue_of_ne {t : String} (h : t ≠ "DC") (v : Json) : displayValue (.str t) v = .ok v := by
  unfold displayValue
  split
  · rename_i he
    exact absurd (Json.str.inj he) h
  · rfl

/-- A value that is shown in kW where the type is DC. -/
def shown (t : String) (q : ℚ) : ℚ := if t = "DC" then q / 1000 else q

theorem shown_eq_self {t : String} {q : ℚ} : shown t q = q ↔ (t = "DC" → q = 0) := by
  unfold shown
  split
  · rename_i h
    constructor
    · intro hq _
      linarith
    · intro hq
      rw [hq h]
      norm_num
  · rename_i h
    exact iff_of_true rfl (fun h' => absurd h' h)

theorem shown_eq_zero {t : String} {q : ℚ} : shown t q = 0 ↔ q = 0 := by
  unfold shown
  split
  · constructor <;> intro h <;> linarith
  · exact Iff.rfl

theorem displayValue_number (t : String) {v : Json} {q : ℚ} (hv : v = .float q ∨ v = .int 0 ∧ q = 0) :
    ∃ v', displayValue (.str t) v = .ok v' ∧ plain v' = .float (shown t q) := by
  by_cases ht : t = "DC"
  · subst ht
    rcases hv with rfl | ⟨rfl, rfl⟩
    · exact ⟨_, rfl, rfl⟩
    · exact ⟨_, rfl, rfl⟩
  · rw [displayValue_of_ne ht]
    unfold shown
    rw [if_neg ht]
    rcases hv with rfl | ⟨rfl, rfl⟩
    · exact ⟨_, rfl, rfl⟩
    · exact ⟨_, rfl, rfl⟩

namespace ConnectorStatus

variable {t : String} {p : Nat}

/-- The consumption a connector has after its message, from 0: for one phase it is the one shown. -/
def reading (c : ConnectorStatus) (t : String) (p k : Nat) : ℚ :=
  if k < p ∧ p ≤ 3 then (if p = 1 then shown t (c.consumption k) else c.consumption k) else 0

def written (c : ConnectorStatus) (k : Nat) : Json :=
  if k < c.nbPhases then
    .float ([c.message.consumptionL1, c.message.consumptionL2, c.message.consumptionL3].getD k 0)
  else .int 0

theorem written_number (c : ConnectorStatus) (k : Nat) :
    c.written k = .float (c.consumption k) ∨ c.written k = .int 0 ∧ c.consumption k = 0 := by
  unfold written consumption
  by_cases hk : k < c.nbPhases
  · left
    rw [if_pos hk, if_pos hk]
  · right
    rw [if_neg hk, if_neg hk]
    exact ⟨rfl, rfl⟩

theorem plain_written (c : ConnectorStatus) (k : Nat) : plain (c.written k) = .float (c.consumption k) := by
  rcases c.written_number k with h | ⟨h, h₀⟩
  · rw [h]
    rfl
  · rw [h, h₀]
    rfl

theorem equals_int (p k : Nat) : equals (.int p) k = decide (p = k) := by
  simp [equals]

/-- **The consumptions**: as many as there are phases, and the only one as it is shown. -/
theorem fillConsumptions_message (c : ConnectorStatus) (t : String) (p : Nat) (con : Connector)
    (h : plain con.consumptionL1 = .float 0 ∧ plain con.consumptionL2 = .float 0 ∧ plain con.consumptionL3 = .float 0) :
    ∃ v₁ v₂ v₃, Connector.fillConsumptions (.str t) (.int p) (c.message.toJson c.nbPhases) con =
        (.ok (), { con with consumptionL1 := v₁, consumptionL2 := v₂, consumptionL3 := v₃ }) ∧
      plain v₁ = .float (c.reading t p 0) ∧ plain v₂ = .float (c.reading t p 1) ∧ plain v₃ = .float (c.reading t p 2) := by
  obtain ⟨h₁, h₂, h₃⟩ := h
  unfold Connector.fillConsumptions
  rw [equals_int, equals_int, equals_int]
  unfold reading
  by_cases p₁ : p = 1
  · subst p₁
    obtain ⟨v, hs, hp⟩ := displayValue_number t (c.written_number 0)
    refine ⟨v, con.consumptionL2, con.consumptionL3, ?_, by simpa using hp, by simpa using h₂, by simpa using h₃⟩
    have hi : item (c.message.toJson c.nbPhases) "consumption_l1" >>= displayValue (.str t) = .ok v := hs
    rw [hi]
    rfl
  by_cases p₂ : p = 2
  · subst p₂
    refine ⟨c.written 0, c.written 1, con.consumptionL3, rfl, ?_, ?_, by simpa using h₃⟩
    · simpa using c.plain_written 0
    · simpa using c.plain_written 1
  by_cases p₃ : p = 3
  · subst p₃
    refine ⟨c.written 0, c.written 1, c.written 2, rfl, ?_, ?_, ?_⟩
    · simpa using c.plain_written 0
    · simpa using c.plain_written 1
    · simpa using c.plain_written 2
  · -- no branch is taken: there are no phases, or too many
    simp only [p₁, p₂, p₃]
    refine ⟨con.consumptionL1, con.consumptionL2, con.consumptionL3, rfl, ?_, ?_, ?_⟩
    · rw [h₁, if_neg (by omega)]
    · rw [h₂, if_neg (by omega)]
    · rw [h₃, if_neg (by omega)]

/-- **The car**: two of its values are shown. -/
theorem fillCar_message (c : ConnectorStatus) (t : String) (con : Connector) :
    ∃ v₁ v₂, Connector.fillCar (.str t) (c.message.toJson c.nbPhases) con =
        (.ok (), { con with carConsumptionL1 := v₁
                            carConsumptionL2 := .float c.message.carConsumptionL2
                            carConsumptionL3 := .float c.message.carConsumptionL3
                            carCableCapacity := v₂
                            carReady := .bool c.message.carReady }) ∧
      plain v₁ = .float (shown t c.message.carConsumptionL1) ∧ plain v₂ = .float (shown t c.message.carCableCapacity) := by
  obtain ⟨v₁, h₁, hp₁⟩ := displayValue_number t (.inl rfl : Json.float c.message.carConsumptionL1 = _ ∨ _)
  obtain ⟨v₂, h₂, hp₂⟩ := displayValue_number t (.inl rfl : Json.float c.message.carCableCapacity = _ ∨ _)
  refine ⟨v₁, v₂, ?_, hp₁, hp₂⟩
  have i₁ : item (c.message.toJson c.nbPhases) "car_consumption_l1" >>= displayValue (.str t) = .ok v₁ := h₁
  have i₂ : item (c.message.toJson c.nbPhases) "car_cable_capacity" >>= displayValue (.str t) = .ok v₂ := h₂
  unfold Connector.fillCar
  rw [i₁, i₂]
  rfl

/-- The connector with its limits, before the consumptions are read. -/
def limited (c : ConnectorStatus) : Connector where
  id := c.number
  status := .str c.message.status.toText
  idTag := .str c.message.idTag
  maxSetpoint := .float c.message.maxSetpoint
  ocppSetpoint := .float c.message.ocppSetpoint
  setpoint := .float c.message.setpoint

/-- **The data a message alone makes of a connector.** -/
theorem data_decoded (c : ConnectorStatus) (t : String) (p : Nat) : (c.decoded (.str t) (.int p)).data =
    { id := c.number
      status := .str c.message.status.toText
      idTag := .str c.message.idTag
      maxSetpoint := .float c.message.maxSetpoint
      ocppSetpoint := .float c.message.ocppSetpoint
      setpoint := .float c.message.setpoint
      consumptionL1 := .float (c.reading t p 0)
      consumptionL2 := .float (c.reading t p 1)
      consumptionL3 := .float (c.reading t p 2)
      carConsumptionL1 := .float (shown t c.message.carConsumptionL1)
      carConsumptionL2 := .float c.message.carConsumptionL2
      carConsumptionL3 := .float c.message.carConsumptionL3
      carCableCapacity := .float (shown t c.message.carCableCapacity)
      carReady := .float c.message.carReady.toNat } := by
  have hs : Connector.fillSetpoints (c.message.toJson c.nbPhases) { id := c.number } = (.ok (), c.limited) := rfl
  obtain ⟨v₁, v₂, v₃, hc, h₁, h₂, h₃⟩ := c.fillConsumptions_message t p c.limited ⟨rfl, rfl, rfl⟩
  obtain ⟨v₄, v₅, hv, h₄, h₅⟩ := c.fillCar_message t
    { c.limited with consumptionL1 := v₁, consumptionL2 := v₂, consumptionL3 := v₃ }
  unfold decoded Connector.fill Py.exec
  rw [Py.bind_ok hs, Py.bind_ok hc, hv]
  unfold Connector.data
  dsimp only
  rw [h₁, h₂, h₃, h₄, h₅]
  rfl

theorem reading_eq_zero {c : ConnectorStatus} {k : Nat} : c.reading t p k = 0 ↔ (k < p → p ≤ 3 → c.consumption k = 0) := by
  unfold reading
  by_cases hk : k < p ∧ p ≤ 3
  · rw [if_pos hk]
    split
    · rw [shown_eq_zero]
      exact ⟨fun h _ _ => h, fun h => h hk.1 hk.2⟩
    · exact ⟨fun h _ _ => h, fun h => h hk.1 hk.2⟩
  · rw [if_neg hk]
    exact iff_of_true rfl (fun h h' => absurd ⟨h, h'⟩ hk)

/-- **A message is decoded the same with and without the type and the phases exactly where it is indifferent.** -/
theorem decoded_eq_iff (c : ConnectorStatus) (t : String) (p : Nat) :
    (c.decoded (.str t) (.int p)).data = (c.decoded (.str "") (.int 0)).data ↔ c.Indifferent t p := by
  have h₀ := c.data_decoded "" 0
  have hzero : ∀ k, c.reading "" 0 k = 0 := fun k => reading_eq_zero.2 (fun h => absurd h (by omega))
  have hself : ∀ q, shown "" q = q := fun q => shown_eq_self.2 (fun h => absurd h (by decide))
  rw [hzero, hzero, hzero, hself, hself] at h₀
  rw [c.data_decoded t p, show (.int 0 : Json) = .int (0 : Nat) from rfl, h₀]
  simp only [Connector.mk.injEq, Json.float.injEq, true_and, and_true, reading_eq_zero, shown_eq_self]
  constructor
  · rintro ⟨h₁, h₂, h₃, h₄, h₅⟩
    refine ⟨fun ht => ⟨h₄ ht, h₅ ht⟩, fun k hk hp => ?_⟩
    have hcases : k = 0 ∨ k = 1 ∨ k = 2 := by omega
    rcases hcases with rfl | rfl | rfl
    · exact h₁ hk hp
    · exact h₂ hk hp
    · exact h₃ hk hp
  · rintro ⟨hc, hp⟩
    exact ⟨hp 0, hp 1, hp 2, fun ht => (hc ht).1, fun ht => (hc ht).2⟩

end ConnectorStatus

/-! ## One order -/

namespace Retained

variable {r : Retained}

def hear (id : String) (cp : ChargePoint) (x : Publication × Nat) : ChargePoint := heard id x.2 cp x.1

/-- **The messages of connectors** fill theirs, and nothing else. -/
theorem foldl_connectors {id : String} (hs : '/' ∉ id.toList) (l : List ConnectorStatus)
    (hd : (l.map ConnectorStatus.number).Nodup) (cp : ChargePoint) :
    ∃ cons, (l.map ConnectorStatus.publication).foldl (hear id) cp = { cp with connectors := cons } ∧
      (∀ c ∈ l, cp.connectors.lookup (c.number : ℤ) = none →
        cons.lookup (c.number : ℤ) = some (c.decoded cp.type cp.nbPhases)) ∧
      ∀ i, (∀ c ∈ l, (c.number : ℤ) ≠ i) → cons.lookup i = cp.connectors.lookup i := by
  induction l generalizing cp with
  | nil => exact ⟨cp.connectors, rfl, fun c hc => (by cases hc), fun _ _ => rfl⟩
  | cons c l ih =>
    rw [List.map_cons, List.nodup_cons] at hd
    obtain ⟨cons₁, he₁, hl₁, -, hne₁⟩ := heard_connector_fill (n := c.nbPhases) hs c.number c.message cp
    obtain ⟨cons, he, hl, hne⟩ := ih hd.2 { cp with connectors := cons₁ }
    have hc : hear id cp c.publication = { cp with connectors := cons₁ } := he₁
    -- the later messages are of other connectors
    have hother : ∀ x ∈ l, (x.number : ℤ) ≠ (c.number : ℤ) := fun x hx hn =>
      hd.1 (List.mem_map.2 ⟨x, hx, Int.natCast_inj.1 hn⟩)
    refine ⟨cons, by rw [List.map_cons, List.foldl_cons, hc, he], fun x hx hnone => ?_, fun i hi => ?_⟩
    · rcases List.mem_cons.1 hx with rfl | hx
      · rw [hne _ hother, hl₁, hnone]
        rfl
      · exact hl x hx ((hne₁ _ (hother x hx)).trans hnone)
    · rw [hne i (fun x hx => hi x (List.mem_cons_of_mem c hx))]
      exact hne₁ i (Ne.symm (hi c List.mem_cons_self))

/-- The object once the charge point's own message is in, but for the connectors. -/
def object (r : Retained) : ChargePoint := heard r.id 0 { id := r.id } (.status r.status)

/-- **The charge point's own message** says the same whatever connectors there are, or nothing where the identifier has
the word. -/
theorem heard_own (r : Retained) (cons : AList (fun _ : ℤ => Connector)) :
    heard r.id 0 { id := r.id, connectors := cons } (.status r.status) = { r.object with connectors := cons } ∧
      r.object.connectors = ∅ ∧
      (r.object.type, r.object.nbPhases) =
        if "connectors".toList <:+: r.id.toList then (.str "", .int 0)
        else (.str r.status.type, .int r.status.nbPhases) := by
  by_cases hw : "connectors".toList <:+: r.id.toList
  · have hc : hasConnectors ((Publication.status r.status).topic r.id) = true := (hasConnectors_statusTopic r.id).2 hw
    have hp : (levels ((Publication.status r.status).topic r.id))[4]? = none := by
      rw [Publication.topic, levels_statusTopic, levels_of_not_mem r.level]
      rfl
    have hkeep : ∀ cp : ChargePoint, heard r.id 0 cp (.status r.status) = cp := by
      intro cp
      unfold heard ChargePoint.receive ChargePoint.receiveConnector
      rw [if_pos hc, hp]
      rfl
    unfold object
    rw [hkeep, hkeep, if_pos hw]
    exact ⟨rfl, rfl, rfl⟩
  · unfold object
    rw [heard_status hw, heard_status hw, ChargePoint.fill_toJson, ChargePoint.fill_toJson, if_neg hw]
    exact ⟨rfl, rfl, rfl⟩

/-- The charge point's own message after those of some connectors and before those of the others. -/
def inOrder (r : Retained) (before after : List ConnectorStatus) : List (Publication × Nat) :=
  before.map ConnectorStatus.publication ++ (.status r.status, 0) :: after.map ConnectorStatus.publication

/-- **Every order** is one of these. -/
theorem exists_inOrder {l : List (String × Payload)} (h : l.Perm r.messages) :
    ∃ before after, (before ++ after).Perm r.connectors ∧ l = (r.inOrder before after).map r.message := by
  have hmap : ∀ {α β : Type} {f : α → β} {l : List β} {k : List α}, l.Perm (k.map f) →
      ∃ l' : List α, l = l'.map f ∧ l'.Perm k := by
    intro α β f l k hp
    have he := congrFun (congrFun (List.eq_map_comp_perm f) l) k
    exact he.mpr hp
  obtain ⟨x, rfl, hx⟩ := hmap h
  obtain ⟨a, b, rfl⟩ := List.append_of_mem (hx.mem_iff.2 List.mem_cons_self)
  obtain ⟨cs, hcs, hperm⟩ := hmap (List.perm_middle.symm.trans hx).cons_inv
  obtain ⟨before, after, rfl, rfl, rfl⟩ := List.append_eq_map_iff.1 hcs
  exact ⟨before, after, hperm, rfl⟩

theorem perm_inOrder {before after : List ConnectorStatus} (h : (before ++ after).Perm r.connectors) :
    ((r.inOrder before after).map r.message).Perm r.messages := by
  unfold messages publications inOrder
  refine List.Perm.map _ (List.perm_middle.trans (List.Perm.cons _ ?_))
  rw [← List.map_append]
  exact h.map _

/-- **The registry after the messages** has one object, which heard them in that order. -/
theorem lookup_inOrder (r : Retained) (before after : List ConnectorStatus) (k : String) :
    (ChargePointManager.empty.receiveAll ((r.inOrder before after).map r.message)).cps.lookup k =
      if k = r.id then some ((r.inOrder before after).foldl (hear r.id) { id := r.id }) else none := by
  by_cases hk : k = r.id
  · have htopic : ∀ x ∈ (r.inOrder before after).map (fun x => (x.1.topic r.id, x.1.toJson x.2)), IsTopic x.1 r.id := by
      intro x hx
      obtain ⟨y, -, rfl⟩ := List.mem_map.1 hx
      exact isTopic_topic r.level y.1
    have hnil : (r.inOrder before after).map (fun x => (x.1.topic r.id, x.1.toJson x.2)) ≠ [] := by simp [inOrder]
    have hlook := lookup_receiveAll_of_isTopic htopic hnil ChargePointManager.empty
    rw [List.map_map, List.foldl_map] at hlook
    rw [if_pos hk, hk]
    exact hlook
  · have hother : ∀ x ∈ (r.inOrder before after).map r.message, ¬IsTopic x.1 k := by
      intro x hx
      obtain ⟨y, -, rfl⟩ := List.mem_map.1 hx
      exact (isTopic_topic r.level y.1).not_of_ne hk
    rw [if_neg hk, lookup_receiveAll_of_not hother]
    rfl

/-- **What an order makes**: a connector whose message comes before the charge point's own is decoded without type and
phases. -/
theorem data_inOrder {before after : List ConnectorStatus} (h : (before ++ after).Perm r.connectors) :
    ∃ cons, (ChargePointManager.empty.receiveAll ((r.inOrder before after).map r.message)).data =
        (fun k => if k = r.id then some (r.object.data.1, cons) else none) ∧
      (∀ c ∈ before, cons c.number = some (c.decoded (.str "") (.int 0)).data) ∧
      (∀ c ∈ after, cons c.number = some (c.decoded r.object.type r.object.nbPhases).data) ∧
      ∀ i, (∀ c ∈ r.connectors, (c.number : ℤ) ≠ i) → cons i = none := by
  have hd : ((before ++ after).map ConnectorStatus.number).Nodup := (h.map _).nodup_iff.2 r.distinct
  rw [List.map_append, List.nodup_append'] at hd
  obtain ⟨hdb, hda, hdisj⟩ := hd
  have hs := r.level
  obtain ⟨cons₁, he₁, hl₁, hne₁⟩ := foldl_connectors hs before hdb { id := r.id }
  obtain ⟨hown, -⟩ := r.heard_own cons₁
  obtain ⟨cons, he, hl, hne⟩ := foldl_connectors hs after hda { r.object with connectors := cons₁ }
  have hfold : (r.inOrder before after).foldl (hear r.id) { id := r.id } = { r.object with connectors := cons } := by
    unfold inOrder
    rw [List.foldl_append, he₁, List.foldl_cons]
    exact (congrArg (fun cp => (after.map ConnectorStatus.publication).foldl (hear r.id) cp) hown).trans he
  -- a number is that of one message
  have hba : ∀ b ∈ before, ∀ a ∈ after, (a.number : ℤ) ≠ (b.number : ℤ) := fun b hb a ha hn =>
    hdisj (List.mem_map.2 ⟨b, hb, rfl⟩) (List.mem_map.2 ⟨a, ha, Int.natCast_inj.1 hn⟩)
  refine ⟨fun i => (cons.lookup i).map Connector.data, ?_, fun c hc => ?_, fun c hc => ?_, fun i hi => ?_⟩
  · funext k
    unfold ChargePointManager.data
    rw [r.lookup_inOrder, hfold]
    split <;> rfl
  · dsimp only
    rw [hne _ (hba c hc), hl₁ c hc rfl]
    rfl
  · dsimp only
    have hnone : cons₁.lookup (c.number : ℤ) = none := hne₁ _ (fun b hb hn => hba b hb c hc hn.symm)
    rw [hl c hc hnone]
    rfl
  · have hi₁ : ∀ c ∈ before ++ after, (c.number : ℤ) ≠ i := fun c hc => hi c (h.mem_iff.1 hc)
    dsimp only
    rw [hne i (fun c hc => hi₁ c (List.mem_append_right _ hc)), hne₁ i (fun c hc => hi₁ c (List.mem_append_left _ hc))]
    rfl

/-- **Decoded after the charge point's own message, or before**: the same where the identifier has the word, and where
nothing depends on the type and the phases. -/
theorem decoded_object_eq_iff (r : Retained) (c : ConnectorStatus) :
    (c.decoded r.object.type r.object.nbPhases).data = (c.decoded (.str "") (.int 0)).data ↔
      "connectors".toList <:+: r.id.toList ∨ c.Indifferent r.status.type r.status.nbPhases := by
  obtain ⟨-, -, ho⟩ := r.heard_own ∅
  by_cases hw : "connectors".toList <:+: r.id.toList
  · rw [if_pos hw] at ho
    obtain ⟨ht, hn⟩ := Prod.mk.inj ho
    rw [ht, hn]
    exact iff_of_true rfl (.inl hw)
  · rw [if_neg hw] at ho
    obtain ⟨ht, hn⟩ := Prod.mk.inj ho
    rw [ht, hn, c.decoded_eq_iff]
    exact ⟨.inr, fun h => h.resolve_left hw⟩

theorem OrderFree.indifferent (h : r.OrderFree) :
    "connectors".toList <:+: r.id.toList ∨ ∀ c ∈ r.connectors, c.Indifferent r.status.type r.status.nbPhases := by
  -- the connectors all after, and all before
  have ha : ([] ++ r.connectors).Perm r.connectors := List.Perm.refl _
  have hb : (r.connectors ++ []).Perm r.connectors := by rw [List.append_nil]
  obtain ⟨after, hda, -, hla, -⟩ := data_inOrder ha
  obtain ⟨before, hdb, hlb, -, -⟩ := data_inOrder hb
  have hdata := h _ _ (perm_inOrder ha) (perm_inOrder hb)
  rw [hda, hdb] at hdata
  have hr := congrFun hdata r.id
  rw [if_pos rfl, if_pos rfl] at hr
  obtain ⟨-, rfl⟩ := Prod.mk.inj (Option.some.inj hr)
  by_cases hw : "connectors".toList <:+: r.id.toList
  · exact .inl hw
  · refine .inr fun c hc => ?_
    have hs := Option.some.inj ((hla c hc).symm.trans (hlb c hc))
    exact ((r.decoded_object_eq_iff c).1 hs).resolve_left hw

theorem orderFree_of_indifferent (h : "connectors".toList <:+: r.id.toList ∨
    ∀ c ∈ r.connectors, c.Indifferent r.status.type r.status.nbPhases) : r.OrderFree := by
  have hsame : ∀ c ∈ r.connectors,
      (c.decoded r.object.type r.object.nbPhases).data = (c.decoded (.str "") (.int 0)).data := fun c hc =>
    (r.decoded_object_eq_iff c).2 (h.imp_right fun h => h c hc)
  -- so every order makes the connectors that the messages alone make
  have one : ∀ {l : List (String × Payload)}, l.Perm r.messages →
      ∃ cons, (ChargePointManager.empty.receiveAll l).data =
          (fun k => if k = r.id then some (r.object.data.1, cons) else none) ∧
        (∀ c ∈ r.connectors, cons c.number = some (c.decoded (.str "") (.int 0)).data) ∧
        ∀ i, (∀ c ∈ r.connectors, (c.number : ℤ) ≠ i) → cons i = none := by
    intro l hl
    obtain ⟨before, after, hp, rfl⟩ := exists_inOrder hl
    obtain ⟨cons, hd, hb, ha, hn⟩ := data_inOrder hp
    refine ⟨cons, hd, fun c hc => ?_, hn⟩
    rcases List.mem_append.1 (hp.mem_iff.2 hc) with hm | hm
    · exact hb c hm
    · rw [ha c hm, hsame c hc]
  intro l l' hl hl'
  obtain ⟨cons, hd, hc, hn⟩ := one hl
  obtain ⟨cons', hd', hc', hn'⟩ := one hl'
  have hcons : cons = cons' := by
    funext i
    by_cases hi : ∃ c ∈ r.connectors, (c.number : ℤ) = i
    · obtain ⟨c, hm, rfl⟩ := hi
      rw [hc c hm, hc' c hm]
    · have hi' : ∀ c ∈ r.connectors, (c.number : ℤ) ≠ i := fun c hm he => hi ⟨c, hm, he⟩
      rw [hn i hi', hn' i hi']
  rw [hd, hd', hcons]

end Retained

/-- **The order is without effect exactly where** no message of a connector depends on the type and the phases of the
charge point, or its identifier has the word `connectors`, for then it never gets any. -/
theorem arrival_order_iff (r : Retained) :
    r.OrderFree ↔
      "connectors".toList <:+: r.id.toList ∨ ∀ c ∈ r.connectors, c.Indifferent r.status.type r.status.nbPhases :=
  ⟨Retained.OrderFree.indifferent, Retained.orderFree_of_indifferent⟩

/-- A charge point of three phases and its connector, of which a car draws on the first. -/
def sampleRetained : Retained where
  id := "A"
  status := sampleStatus "A"
  connectors := [⟨1, 3, { sampleConnector "A" with consumptionL1 := 10 }⟩]
  level := by decide
  distinct := by decide

/-- **The consumption is lost where the connector's message comes first.** -/
theorem consumption_lost_in_order : ¬sampleRetained.OrderFree := by
  intro h
  have hi := h.indifferent.resolve_left (by decide)
  have hc := (hi _ List.mem_cons_self).phases 0 (by decide) (by decide)
  revert hc
  decide +kernel

end Supervisor
