import OcppSimu.Arrival
import OcppSimu.Fleet
import OcppSimu.Latest
/-!
# Joining — a supervisor that joins when a fleet has been running

The broker keeps the last message of each topic and hands these to whoever subscribes, in the order it likes.  A message
overwrites what the one before on its topic has left in the object of the supervisor.  So a supervisor that joins shows
what one that has been there all along does, but for the connectors that only one of the two has heard of since their
charge point's own message came, where this one matters (`joins_up_to_date_iff`).
-/
namespace Supervisor

open Wire Simu Launcher Access Latest

/-! ## One message over another -/

namespace ConnectorStatus

/-- The connector once its message is in: the consumptions of the phases there are, and the rest. -/
def write (c : ConnectorStatus) (p : Nat) (consumption car cable : Json) (con : Connector) : Connector where
  id := con.id
  status := .str c.message.status.toText
  idTag := .str c.message.idTag
  maxSetpoint := .float c.message.maxSetpoint
  ocppSetpoint := .float c.message.ocppSetpoint
  setpoint := .float c.message.setpoint
  consumptionL1 := if p = 1 then consumption else if p = 2 ∨ p = 3 then c.written 0 else con.consumptionL1
  consumptionL2 := if p = 2 ∨ p = 3 then c.written 1 else con.consumptionL2
  consumptionL3 := if p = 3 then c.written 2 else con.consumptionL3
  carConsumptionL1 := car
  carConsumptionL2 := .float c.message.carConsumptionL2
  carConsumptionL3 := .float c.message.carConsumptionL3
  carCableCapacity := cable
  carReady := .bool c.message.carReady
  type := con.type

/-- **What a message makes of a connector**: the three values that are shown are those of the message. -/
theorem exec_fill (c : ConnectorStatus) (t : String) (p : Nat) : ∃ consumption car cable, ∀ con,
    (Connector.fill (.str t) (.int p) (c.message.toJson c.nbPhases)).exec con = c.write p consumption car cable con := by
  obtain ⟨v, hv, -⟩ := displayValue_number t (c.written_number 0)
  obtain ⟨v₁, h₁, -⟩ := displayValue_number t (.inl rfl : Json.float c.message.carConsumptionL1 = _ ∨ _)
  obtain ⟨v₂, h₂, -⟩ := displayValue_number t (.inl rfl : Json.float c.message.carCableCapacity = _ ∨ _)
  refine ⟨v, v₁, v₂, fun con => ?_⟩
  have i : item (c.message.toJson c.nbPhases) "consumption_l1" >>= displayValue (.str t) = .ok v := hv
  have i₁ : item (c.message.toJson c.nbPhases) "car_consumption_l1" >>= displayValue (.str t) = .ok v₁ := h₁
  have i₂ : item (c.message.toJson c.nbPhases) "car_cable_capacity" >>= displayValue (.str t) = .ok v₂ := h₂
  unfold Connector.fill Connector.fillConsumptions Connector.fillCar
  rw [i, i₁, i₂, equals_int, equals_int, equals_int]
  unfold write
  by_cases p₁ : p = 1
  · subst p₁
    rfl
  by_cases p₂ : p = 2
  · subst p₂
    rfl
  by_cases p₃ : p = 3
  · subst p₃
    rfl
  · simp only [p₁, p₂, p₃]
    rfl

/-- **A message overwrites the one before**, which was decoded the same way, or without the phases. -/
theorem fill_fill (c c' : ConnectorStatus) (t t' : String) {p p' : Nat} (h : p = 0 ∨ p = p') (con : Connector) :
    (Connector.fill (.str t') (.int p') (c'.message.toJson c'.nbPhases)).exec
        ((Connector.fill (.str t) (.int p) (c.message.toJson c.nbPhases)).exec con) =
      (Connector.fill (.str t') (.int p') (c'.message.toJson c'.nbPhases)).exec con := by
  obtain ⟨a, b, d, he⟩ := c.exec_fill t p
  obtain ⟨a', b', d', he'⟩ := c'.exec_fill t' p'
  rw [he', he', he]
  unfold write
  congr 1
  · dsimp only
    split_ifs <;> first | rfl | omega
  · dsimp only
    split_ifs <;> first | rfl | omega
  · dsimp only
    split_ifs <;> first | rfl | omega

end ConnectorStatus

/-! ## One charge point -/

/-- The connector a message is about, if it is about one. -/
def number : Publication → Option ℤ
  | .status _ => none
  | .connector c _ => some c

/-- What an object shows of itself, and of a connector. -/
def view (cp : ChargePoint) : Option ℤ → ChargePoint ⊕ Option Connector
  | none => .inl { cp with connectors := ∅ }
  | some i => .inr (cp.connectors.lookup i)

theorem data_eq_iff_view {cp cp' : ChargePoint} (hown : view cp none = view cp' none) :
    cp.data = cp'.data ↔
      ∀ i, (cp.connectors.lookup i).map Connector.data = (cp'.connectors.lookup i).map Connector.data := by
  have h : cp.data.1 = cp'.data.1 := by
    show (ChargePoint.data { cp with connectors := ∅ }).1 = (ChargePoint.data { cp' with connectors := ∅ }).1
    rw [Sum.inl.inj hown]
  constructor
  · exact fun hd i => congrFun (congrArg Prod.snd hd) i
  · exact fun hi => Prod.ext h (funext hi)

namespace Member

variable {x : Member} {t : String} {p : Nat}

/-- It publishes that in its run, or its will says it. -/
def Tells (x : Member) (m : Publication) : Prop := x.Says m ∨ m = .status (will x.chargePoint)

def typeText (x : Member) : String := x.chargePoint.chargePointType.toText

/-- The status of a connector of the charge point. -/
def connector (x : Member) (c : Nat) (m : ConnectorMessage) : ConnectorStatus := ⟨c, x.chargePoint.nbPhases, m⟩

/-- The object a status makes, without connectors. -/
def own (x : Member) (m : StatusMessage) : ChargePoint := (ChargePoint.fill m.toJson).exec { id := x.id }

/-- What a message says of its topic where it is decoded with that type and so many phases. -/
def value (x : Member) (t : String) (p : Nat) : Publication → ChargePoint ⊕ Option Connector
  | .status m => .inl (x.own m)
  | .connector c m => .inr (some ((x.connector c m).decoded (.str t) (.int p)))

def hear (x : Member) (cp : ChargePoint) (m : Publication) : ChargePoint := heard x.id x.chargePoint.nbPhases cp m

/-- A status says that type and so many phases. -/
def Fits (t : String) (p : Nat) : Publication → Prop
  | .status m => m.type = t ∧ m.nbPhases = p
  | .connector _ _ => True

/-- **The object has that type and so many phases**, and so had it when its connectors were decoded, or it had none. -/
structure Shows (x : Member) (t : String) (p : Nat) (cp : ChargePoint) : Prop where
  id : cp.id = x.id
  type : cp.type = .str t
  nbPhases : cp.nbPhases = .int p
  connectors : ∀ (c : Nat) con, cp.connectors.lookup (c : ℤ) = some con →
    ∃ m t' p', (p' = 0 ∨ p' = p) ∧ con = (x.connector c m).decoded (.str t') (.int (p' : Nat))

theorem Tells.fits {m : Publication} (h : x.Tells m) : Fits x.typeText x.chargePoint.nbPhases m := by
  have hown : m.Own x.chargePoint := by
    rcases h with h | rfl
    · exact published_own _ x.stack x.rounds x.script m true h
    · exact own_will
  cases m with
  | status s =>
    obtain ⟨text, rfl⟩ := hown
    exact ⟨rfl, rfl⟩
  | connector c s => trivial

/-- **A status says all there is but the connectors.** -/
theorem hear_status {cp : ChargePoint} (hid : cp.id = x.id) (m : StatusMessage) :
    x.hear cp (.status m) = { x.own m with connectors := cp.connectors } := by
  unfold hear own
  refine (heard_status (show ¬"connectors".toList <:+: x.id.toList from x.word) m cp).trans ?_
  rw [ChargePoint.fill_toJson, ChargePoint.fill_toJson, ← hid]

/-- **A message of a connector makes it**, whatever it was. -/
theorem hear_connector {cp : ChargePoint} (h : x.Shows t p cp) (c : Nat) (m : ConnectorMessage) :
    ∃ l, x.hear cp (.connector c m) = { cp with connectors := l } ∧
      l.lookup (c : ℤ) = some ((x.connector c m).decoded (.str t) (.int p)) ∧
      ∀ i, i ≠ (c : ℤ) → l.lookup i = cp.connectors.lookup i := by
  obtain ⟨l, he, hl, -, hne⟩ := heard_connector_fill (n := x.chargePoint.nbPhases) x.level c m cp
  refine ⟨l, he, ?_, hne⟩
  rw [hl, h.type, h.nbPhases]
  cases hc : cp.connectors.lookup (c : ℤ) with
  | none => rfl
  | some con =>
    obtain ⟨m', t', p', hp, rfl⟩ := h.connectors c con hc
    exact congrArg some ((x.connector c m').fill_fill (x.connector c m) t' t hp _)

/-- **Each message overwrites** what its topic has shown. -/
theorem overwrites (x : Member) (t : String) (p : Nat) :
    Overwrites x.hear number (x.value t p) view (Fits t p) (x.Shows t p) where
  good cp m h hm := by
    cases m with
    | status s =>
      obtain ⟨rfl, rfl⟩ := hm
      rw [hear_status h.id]
      exact ⟨rfl, rfl, rfl, h.connectors⟩
    | connector c s =>
      obtain ⟨l, he, hl, hne⟩ := hear_connector h c s
      rw [he]
      refine ⟨h.id, h.type, h.nbPhases, fun c' con hc => ?_⟩
      by_cases hcc : c' = c
      · subst hcc
        exact ⟨s, t, p, .inr rfl, Option.some.inj (hc.symm.trans hl)⟩
      · exact h.connectors c' con ((hne _ (fun hi => hcc (Int.natCast_inj.1 hi))).symm.trans hc)
  self cp m h hm := by
    cases m with
    | status s =>
      rw [hear_status h.id]
      rfl
    | connector c s =>
      obtain ⟨l, he, hl, -⟩ := hear_connector h c s
      rw [he]
      exact congrArg Sum.inr hl
  other cp m k h hm hk := by
    cases m with
    | status s =>
      rw [hear_status h.id]
      cases k with
      | none => exact absurd rfl hk
      | some i => rfl
    | connector c s =>
      obtain ⟨l, he, -, hne⟩ := hear_connector h c s
      rw [he]
      cases k with
      | none => rfl
      | some i => exact congrArg Sum.inr (hne i (fun hi => hk (congrArg some hi)))

theorem fits_before {before : List Publication} (hb : ∀ m ∈ before, number m ≠ none) : ∀ m ∈ before, Fits "" 0 m := by
  intro m hm
  cases m with
  | status s => exact absurd rfl (hb _ hm)
  | connector c s => trivial

theorem shows_new (x : Member) : x.Shows "" 0 { id := x.id } := ⟨rfl, rfl, rfl, fun c con hc => by cases hc⟩

/-- **What an object without a status shows.** -/
theorem view_before {before : List Publication} (hb : ∀ m ∈ before, number m ≠ none) (k : Option ℤ) :
    view (before.foldl x.hear { id := x.id }) k =
      ((latest number before k).map (x.value "" 0)).getD (view { id := x.id } k) :=
  (x.overwrites "" 0).view_foldl (fits_before hb) x.shows_new k

/-- **What an object shows**: the last of the messages since its first status says it, or else the last of those before,
decoded without type and phases. -/
theorem view_heard {before rest : List Publication} {s : StatusMessage} (hb : ∀ m ∈ before, number m ≠ none)
    (hf : ∀ m ∈ Publication.status s :: rest, Fits t p m) (k : Option ℤ) :
    view ((before ++ .status s :: rest).foldl x.hear { id := x.id }) k =
      ((latest number (.status s :: rest) k).map (x.value t p)).getD
        (((latest number before k).map (x.value "" 0)).getD (view { id := x.id } k)) := by
  have hcp := (x.overwrites "" 0).good_foldl (fits_before hb) x.shows_new
  have hview := view_before (x := x) hb k
  obtain ⟨ht, hp⟩ := hf _ List.mem_cons_self
  have hs : x.Shows t p (x.hear (before.foldl x.hear { id := x.id }) (.status s)) := by
    rw [hear_status hcp.id]
    refine ⟨rfl, congrArg Json.str ht, congrArg (fun n : Nat => Json.int n) hp, fun c con hc => ?_⟩
    obtain ⟨m, t', p', hp', rfl⟩ := hcp.connectors c con hc
    exact ⟨m, t', p', .inl (or_self_iff.1 hp'), rfl⟩
  rw [List.foldl_append, List.foldl_cons,
    (x.overwrites t p).view_foldl (fun m hm => hf m (List.mem_cons_of_mem _ hm)) hs, ← hview, latest_cons, hear_status hcp.id]
  cases latest number rest k with
  | some m => rfl
  | none =>
    cases k with
    | none => rfl
    | some i => rfl

end Member

/-! ## What a charge point says -/

/-- The topic of a message. -/
def topicOf (y : Member × Publication) : String := (spoken y).1

theorem levels_topicOf (y : Member × Publication) : levels (topicOf y) =
    "cp_simu".toList :: "cps".toList :: y.1.id.toList :: match y.2 with
      | .status _ => ["status".toList]
      | .connector c _ => ["connectors".toList, (toString c).toList, "status".toList] := by
  obtain ⟨x, m⟩ := y
  have hl : levels x.id = [x.id.toList] := levels_of_not_mem x.level
  cases m with
  | status s =>
    show levels (statusTopic x.id) = _
    rw [levels_statusTopic, hl]
    rfl
  | connector c s =>
    show levels (connectorTopic x.id c) = _
    rw [levels_connectorTopic, hl]
    rfl

/-- **A topic is that of one charge point, or of one connector.** -/
theorem topicOf_eq_iff {y z : Member × Publication} :
    topicOf y = topicOf z ↔ y.1.id = z.1.id ∧ number y.2 = number z.2 := by
  constructor
  · intro h
    have hl := congrArg levels h
    rw [levels_topicOf, levels_topicOf] at hl
    simp only [List.cons.injEq, true_and] at hl
    obtain ⟨hid, hrest⟩ := hl
    refine ⟨String.toList_inj.1 hid, ?_⟩
    obtain ⟨x, m⟩ := y
    obtain ⟨x', m'⟩ := z
    cases m with
    | status s =>
      cases m' with
      | status s' => rfl
      | connector c' s' => cases congrArg List.length hrest
    | connector c s =>
      cases m' with
      | status s' => cases congrArg List.length hrest
      | connector c' s' =>
        obtain ⟨-, hc⟩ := List.cons.inj hrest
        have hp := congrArg parseInt (List.cons.inj hc).1
        rw [parseInt_toString, parseInt_toString] at hp
        exact congrArg some (Except.ok.inj hp)
  · rintro ⟨hid, hn⟩
    obtain ⟨x, m⟩ := y
    obtain ⟨x', m'⟩ := z
    show m.topic x.id = m'.topic x'.id
    rw [show x.id = x'.id from hid]
    cases m with
    | status s =>
      cases m' with
      | status s' => rfl
      | connector c' s' => cases hn
    | connector c s =>
      cases m' with
      | status s' => cases hn
      | connector c' s' =>
        obtain rfl := Int.natCast_inj.1 (Option.some.inj hn)
        rfl

/-- What a charge point says, among what the fleet does. -/
def saidBy (x : Member) (l : List (Member × Publication)) : List Publication :=
  (l.filter (fun y => decide (y.1.id = x.id))).map Prod.snd

variable {x : Member} {l l' : List (Member × Publication)}

theorem mem_saidBy {m : Publication} : m ∈ saidBy x l ↔ ∃ y ∈ l, y.1.id = x.id ∧ y.2 = m := by
  unfold saidBy
  rw [List.mem_map]
  constructor
  · rintro ⟨y, hy, rfl⟩
    obtain ⟨hy, hid⟩ := List.mem_filter.1 hy
    exact ⟨y, hy, of_decide_eq_true hid, rfl⟩
  · rintro ⟨y, hy, hid, rfl⟩
    exact ⟨y, List.mem_filter.2 ⟨hy, decide_eq_true hid⟩, rfl⟩

/-- The last message a charge point says of something is the last on its topic. -/
theorem latest_saidBy (y : Member × Publication) :
    latest number (saidBy y.1 l) (number y.2) = (latest topicOf l (topicOf y)).map Prod.snd := by
  unfold saidBy
  rw [latest_map]
  refine congrArg _ (latest_filter fun z _ => ?_)
  rw [topicOf_eq_iff, decide_eq_true_iff]
  exact Iff.rfl

/-- **The same last messages on the topics** are the same of each charge point. -/
theorem latest_saidBy_congr (h : ∀ t, latest topicOf l t = latest topicOf l' t) (x : Member) (k : Option ℤ) :
    latest number (saidBy x l) k = latest number (saidBy x l') k := by
  have hsome : ∀ {l l' : List (Member × Publication)}, (∀ t, latest topicOf l t = latest topicOf l' t) → ∀ {m : Publication},
      latest number (saidBy x l) k = some m → latest number (saidBy x l') k = some m := by
    intro l l' h m hm
    obtain ⟨-, rfl⟩ := mem_of_latest hm
    have hl := latest_saidBy (l := l) (x, m)
    rw [← hm, hl, h, ← latest_saidBy (x, m)]
  cases hl : latest number (saidBy x l) k with
  | some m => exact (hsome h hl).symm
  | none =>
    cases hl' : latest number (saidBy x l') k with
    | none => rfl
    | some m =>
      rw [hsome (fun t => (h t).symm) hl'] at hl
      cases hl


theorem saidBy_append (x : Member) (l l' : List (Member × Publication)) : saidBy x (l ++ l') = saidBy x l ++ saidBy x l' := by
  unfold saidBy
  rw [List.filter_append, List.map_append]

/-- What is heard before the first status of a charge point, and what since. -/
def before (x : Member) (l : List (Member × Publication)) : List (Member × Publication) :=
  l.takeWhile (fun y => decide (topicOf y ≠ statusTopic x.id))

def since (x : Member) (l : List (Member × Publication)) : List (Member × Publication) :=
  l.dropWhile (fun y => decide (topicOf y ≠ statusTopic x.id))

theorem saidBy_before_since (x : Member) (l : List (Member × Publication)) :
    saidBy x l = saidBy x (before x l) ++ saidBy x (since x l) := by
  rw [← saidBy_append]
  exact congrArg _ List.takeWhile_append_dropWhile.symm

theorem topicOf_eq_status {y : Member × Publication} : topicOf y = statusTopic x.id ↔ y.1.id = x.id ∧ number y.2 = none :=
  topicOf_eq_iff (z := (x, .status (will x.chargePoint)))

theorem number_before {m : Publication} (hm : m ∈ saidBy x (before x l)) : number m ≠ none := by
  obtain ⟨y, hy, hid, rfl⟩ := mem_saidBy.1 hm
  have hne := List.mem_takeWhile_imp (show y ∈ l.takeWhile (fun y => decide (topicOf y ≠ statusTopic x.id)) from hy)
  exact fun hn => of_decide_eq_true hne (topicOf_eq_status.2 ⟨hid, hn⟩)

/-- **Since the first status**: there is none, or it comes first. -/
theorem since_cases (x : Member) (l : List (Member × Publication)) :
    since x l = [] ∨ ∃ s rest, saidBy x (since x l) = .status s :: rest := by
  cases hl : since x l with
  | nil => exact .inl rfl
  | cons y ys =>
    have hy := List.head?_dropWhile_not (fun y => decide (topicOf y ≠ statusTopic x.id)) l
    rw [show l.dropWhile _ = y :: ys from hl] at hy
    obtain ⟨hid, hn⟩ := topicOf_eq_status.1 (Decidable.not_not.1 (of_decide_eq_false hy))
    refine .inr ?_
    unfold saidBy
    rw [List.filter_cons, if_pos (decide_eq_true hid), List.map_cons]
    cases hs : y.2 with
    | status s => exact ⟨s, _, rfl⟩
    | connector c s =>
      rw [hs] at hn
      cases hn

/-- **The last message of a connector came before the first status** of its charge point. -/
def Stale (x : Member) (l : List (Member × Publication)) (c : Nat) (m : ConnectorMessage) : Prop :=
  (latest topicOf (before x l) (connectorTopic x.id c)).map Prod.snd = some (.connector c m) ∧
    latest topicOf (since x l) (connectorTopic x.id c) = none

theorem stale_iff {c : Nat} {m : ConnectorMessage} : Stale x l c m ↔
    latest number (saidBy x (before x l)) (some (c : ℤ)) = some (.connector c m) ∧
      latest number (saidBy x (since x l)) (some (c : ℤ)) = none := by
  have hb := latest_saidBy (l := before x l) (x, .connector c m)
  have hs := latest_saidBy (l := since x l) (x, .connector c m)
  refine and_congr ?_ ?_
  · rw [show (some (c : ℤ)) = number (.connector c m) from rfl, hb]
    exact Iff.rfl
  · rw [show (some (c : ℤ)) = number (.connector c m) from rfl, hs, Option.map_eq_none_iff]
    exact Iff.rfl

theorem saidBy_of_since (hs : since x l = []) : saidBy x (before x l) = saidBy x l := by
  rw [saidBy_before_since x l, hs]
  exact (List.append_nil _).symm

/-- Without a status everything is stale. -/
theorem stale_iff_of_since (hs : since x l = []) {c : Nat} {m : ConnectorMessage} :
    Stale x l c m ↔ latest number (saidBy x l) (some (c : ℤ)) = some (.connector c m) := by
  rw [stale_iff, saidBy_of_since hs, hs]
  exact and_iff_left rfl

theorem latest_saidBy_eq (x : Member) (l : List (Member × Publication)) (k : Option ℤ) :
    latest number (saidBy x l) k =
      (latest number (saidBy x (since x l)) k).or (latest number (saidBy x (before x l)) k) := by
  rw [saidBy_before_since, latest_append]

/-- What is stale is the last there is. -/
theorem Stale.latest {c : Nat} {m : ConnectorMessage} (h : Stale x l c m) :
    latest number (saidBy x l) (some (c : ℤ)) = some (.connector c m) := by
  obtain ⟨hb, hn⟩ := stale_iff.1 h
  rw [latest_saidBy_eq, hn, hb]
  rfl

/-- A message on the topic of a connector is one of that connector. -/
theorem exists_connector_of_latest {P : List Publication} {i : ℤ} {y : Publication} (h : latest number P (some i) = some y) :
    ∃ (c : Nat) (m : ConnectorMessage), i = c ∧ y = .connector c m := by
  obtain ⟨-, hy⟩ := mem_of_latest h
  cases y with
  | status s => cases hy
  | connector c m => exact ⟨c, m, (Option.some.inj hy).symm, rfl⟩

/-- The object of a charge point. -/
def object (x : Member) (l : List (Member × Publication)) : ChargePoint := (saidBy x l).foldl x.hear { id := x.id }

/-! ## The object, once there is a status -/

section

variable (hf : ∀ m ∈ saidBy x l, Member.Fits x.typeText x.chargePoint.nbPhases m) (hs : since x l ≠ [])
include hf hs

theorem view_object (k : Option ℤ) : view (object x l) k =
    ((latest number (saidBy x (since x l)) k).map (x.value x.typeText x.chargePoint.nbPhases)).getD
      (((latest number (saidBy x (before x l)) k).map (x.value "" 0)).getD (view { id := x.id } k)) := by
  obtain ⟨s, rest, h⟩ := (since_cases x l).resolve_left hs
  unfold object
  rw [saidBy_before_since] at hf ⊢
  rw [h] at hf ⊢
  exact Member.view_heard (fun m hm => number_before hm) (fun m hm => hf m (List.mem_append_right _ hm)) k

theorem lookup_stale {c : Nat} {m : ConnectorMessage} (h : Stale x l c m) :
    (object x l).connectors.lookup (c : ℤ) = some ((x.connector c m).decoded (.str "") (.int 0)) := by
  obtain ⟨hb, hn⟩ := stale_iff.1 h
  have hv := view_object hf hs (some (c : ℤ))
  rw [hn, hb] at hv
  exact Sum.inr.inj hv

theorem lookup_not_stale {c : Nat} {m : ConnectorMessage}
    (h : latest number (saidBy x l) (some (c : ℤ)) = some (.connector c m)) (hn : ¬Stale x l c m) :
    (object x l).connectors.lookup (c : ℤ) =
      some ((x.connector c m).decoded (.str x.typeText) (.int x.chargePoint.nbPhases)) := by
  rw [latest_saidBy_eq, Option.or_eq_some_iff] at h
  have hsince := h.resolve_right fun h => hn (stale_iff.2 h.symm)
  have hv := view_object hf hs (some (c : ℤ))
  rw [hsince] at hv
  exact Sum.inr.inj hv

theorem lookup_unheard {i : ℤ} (h : latest number (saidBy x l) (some i) = none) :
    (object x l).connectors.lookup i = none := by
  rw [latest_saidBy_eq, Option.or_eq_none_iff] at h
  have hv := view_object hf hs (some i)
  rw [h.1, h.2] at hv
  exact Sum.inr.inj hv

/-- **Of itself the object shows the last status.** -/
theorem view_object_none : view (object x l) none =
    ((latest number (saidBy x l) none).map (x.value x.typeText x.chargePoint.nbPhases)).getD (.inr none) := by
  obtain ⟨s, rest, h⟩ := (since_cases x l).resolve_left hs
  obtain ⟨y, hy⟩ : ∃ y, latest number (saidBy x (since x l)) none = some y := by
    rw [h]
    exact exists_latest (m := Publication.status s) List.mem_cons_self
  rw [view_object hf hs, latest_saidBy_eq x l, hy]
  rfl

end

/-- **Two supervisors that have heard the same last** show the same exactly where nothing in what is stale for one of them
depends on the type and the phases. -/
theorem data_object_iff (hf : ∀ m ∈ saidBy x l, Member.Fits x.typeText x.chargePoint.nbPhases m)
    (hf' : ∀ m ∈ saidBy x l', Member.Fits x.typeText x.chargePoint.nbPhases m) (hs : since x l ≠ []) (hs' : since x l' ≠ [])
    (h : ∀ k, latest number (saidBy x l') k = latest number (saidBy x l) k) :
    (object x l').data = (object x l).data ↔
      ∀ c m, (Stale x l' c m ↔ Stale x l c m) ∨ (x.connector c m).Indifferent x.typeText x.chargePoint.nbPhases := by
  have hown : view (object x l') none = view (object x l) none := by
    rw [view_object_none hf hs, view_object_none hf' hs', h]
  rw [data_eq_iff_view hown]
  constructor
  · intro hi c m
    have hc := hi c
    by_cases hl' : Stale x l' c m
    · by_cases hl : Stale x l c m
      · exact .inl (iff_of_true hl' hl)
      · rw [lookup_stale hf' hs' hl', lookup_not_stale hf hs ((h _).symm.trans hl'.latest) hl] at hc
        exact .inr (((x.connector c m).decoded_eq_iff _ _).1 (Option.some.inj hc).symm)
    · by_cases hl : Stale x l c m
      · rw [lookup_stale hf hs hl, lookup_not_stale hf' hs' ((h _).trans hl.latest) hl'] at hc
        exact .inr (((x.connector c m).decoded_eq_iff _ _).1 (Option.some.inj hc))
      · exact .inl (iff_of_false hl' hl)
  · intro hind i
    cases hk : latest number (saidBy x l') (some i) with
    | none => rw [lookup_unheard hf' hs' hk, lookup_unheard hf hs ((h _).symm.trans hk)]
    | some y =>
      obtain ⟨c, m, rfl, rfl⟩ := exists_connector_of_latest hk
      have hk' := (h (some (c : ℤ))).symm.trans hk
      have heq (hn : ¬(Stale x l' c m ↔ Stale x l c m)) := ((x.connector c m).decoded_eq_iff _ _).2 ((hind c m).resolve_left hn)
      by_cases hl' : Stale x l' c m
      · rw [lookup_stale hf' hs' hl']
        by_cases hl : Stale x l c m
        · rw [lookup_stale hf hs hl]
        · rw [lookup_not_stale hf hs hk' hl]
          exact congrArg some (heq fun hiff => hl (hiff.1 hl')).symm
      · rw [lookup_not_stale hf' hs' hk hl']
        by_cases hl : Stale x l c m
        · rw [lookup_stale hf hs hl]
          exact congrArg some (heq fun hiff => hl' (hiff.2 hl))
        · rw [lookup_not_stale hf hs hk' hl]

/-- **Without a status** the last that was heard of a charge point is all there is to see of it. -/
theorem data_object_of_since (hs : since x l = []) (hs' : since x l' = [])
    (h : ∀ k, latest number (saidBy x l') k = latest number (saidBy x l) k) : (object x l').data = (object x l).data := by
  have hview : ∀ {l : List (Member × Publication)}, since x l = [] → ∀ k, view (object x l) k =
      ((latest number (saidBy x l) k).map (x.value "" 0)).getD (view { id := x.id } k) := by
    intro l hl k
    refine Member.view_before (fun m hm => ?_) k
    rw [← saidBy_of_since hl] at hm
    exact number_before hm
  have hall : ∀ k, view (object x l') k = view (object x l) k := fun k => by rw [hview hs', hview hs, h]
  exact (data_eq_iff_view (hall none)).2 fun i => congrArg _ (Sum.inr.inj (hall (some i)))

/-! ## A fleet -/

/-- **The object of a charge point**, where it has said something. -/
theorem lookup_heard {ms : List Member} (hd : (ms.map Member.id).Nodup) (hl : ∀ y ∈ l, y.1 ∈ ms) (hx : x ∈ ms) :
    (ChargePointManager.empty.receiveAll (l.map spoken)).cps.lookup x.id =
      if saidBy x l = [] then none else some (object x l) := by
  rw [Fleet.lookup_spoken, Fleet.filter_eq_sent hd hx hl]
  show (ChargePointManager.empty.receiveAll (sent x.id x.chargePoint.nbPhases (saidBy x l))).cps.lookup x.id = _
  unfold object
  cases saidBy x l with
  | nil => rfl
  | cons m rest =>
    rw [if_neg (List.cons_ne_nil m rest)]
    exact lookup_receiveAll_cons x.level _ m rest

theorem saidBy_eq_nil_iff : saidBy x l = [] ↔ ∀ k, latest number (saidBy x l) k = none := by
  constructor
  · intro h k
    rw [h]
    rfl
  · intro h
    by_contra hne
    obtain ⟨m, hm⟩ := List.exists_mem_of_ne_nil _ hne
    obtain ⟨y, hy⟩ : ∃ y, latest number (saidBy x l) (number m) = some y := exists_latest hm
    rw [h] at hy
    cases hy

theorem since_ne_nil (hs : since x l ≠ []) (h : ∀ k, latest number (saidBy x l') k = latest number (saidBy x l) k) :
    since x l' ≠ [] := by
  intro hs'
  obtain ⟨s, rest, hrest⟩ := (since_cases x l).resolve_left hs
  obtain ⟨y, hy⟩ : ∃ y, latest number (saidBy x l) none = some y := by
    refine exists_latest (m := Publication.status s) ?_
    rw [saidBy_before_since, hrest]
    exact List.mem_append_right _ List.mem_cons_self
  rw [← h] at hy
  obtain ⟨hmem, hn⟩ := mem_of_latest hy
  rw [saidBy_before_since, hs'] at hmem
  exact number_before ((List.mem_append.1 hmem).resolve_right List.not_mem_nil) hn

/-- **A supervisor joins**: a fleet has said things, of which the broker has kept the last of each topic; the supervisor
is handed these, and from then on hears what is said. -/
structure Joining where
  members : List Member
  distinct : (members.map Member.id).Nodup
  said : List (Member × Publication)
  after : List (Member × Publication)
  own : ∀ y ∈ said ++ after, y.1 ∈ members ∧ y.1.Tells y.2
  kept : List (Member × Publication)
  handed : Handed topicOf (latest topicOf said) kept

namespace Joining

variable {j : Joining}

theorem own_kept (j : Joining) : ∀ y ∈ j.kept ++ j.after, y.1 ∈ j.members ∧ y.1.Tells y.2 := by
  intro y hy
  refine j.own y (List.mem_append.2 ?_)
  exact (List.mem_append.1 hy).imp (fun hk => (mem_of_latest ((j.handed.mem y).1 hk)).1) (fun h => h)

theorem latest_kept (j : Joining) (t : String) :
    latest topicOf (j.kept ++ j.after) t = latest topicOf (j.said ++ j.after) t := by
  rw [latest_append, latest_append, j.handed.latest_eq fun k m hk => (mem_of_latest hk).2]

theorem fits {l : List (Member × Publication)} (hl : ∀ y ∈ l, y.1 ∈ j.members ∧ y.1.Tells y.2) (hx : x ∈ j.members) :
    ∀ m ∈ saidBy x l, Member.Fits x.typeText x.chargePoint.nbPhases m := by
  intro m hm
  obtain ⟨y, hy, hid, rfl⟩ := mem_saidBy.1 hm
  obtain ⟨hmem, ht⟩ := hl y hy
  obtain rfl := Fleet.eq_of_id j.distinct hx hmem hid
  exact ht.fits

/-- **One charge point.** -/
theorem lookup_data_iff (j : Joining) (hx : x ∈ j.members) :
    (ChargePointManager.empty.receiveAll ((j.kept ++ j.after).map spoken)).data x.id =
        (ChargePointManager.empty.receiveAll ((j.said ++ j.after).map spoken)).data x.id ↔
      ∀ c m, (Stale x (j.kept ++ j.after) c m ↔ Stale x (j.said ++ j.after) c m) ∨
        (x.connector c m).Indifferent x.typeText x.chargePoint.nbPhases := by
  have h := latest_saidBy_congr j.latest_kept x
  have hnil : saidBy x (j.kept ++ j.after) = [] ↔ saidBy x (j.said ++ j.after) = [] := by
    simp only [saidBy_eq_nil_iff, h]
  unfold ChargePointManager.data
  rw [lookup_heard j.distinct (fun y hy => (j.own_kept y hy).1) hx, lookup_heard j.distinct (fun y hy => (j.own y hy).1) hx]
  by_cases hs : since x (j.said ++ j.after) = []
  · -- neither has heard a status of the charge point
    have hs' : since x (j.kept ++ j.after) = [] := by
      by_contra hne
      exact since_ne_nil hne (fun k => (h k).symm) hs
    refine iff_of_true ?_ fun c m => .inl ?_
    · by_cases hn : saidBy x (j.said ++ j.after) = []
      · rw [if_pos hn, if_pos (hnil.2 hn)]
      · rw [if_neg hn, if_neg fun hn' => hn (hnil.1 hn')]
        exact congrArg some (data_object_of_since hs hs' h)
    · rw [stale_iff_of_since hs, stale_iff_of_since hs', h]
  · have hs' := since_ne_nil hs h
    have hne : saidBy x (j.said ++ j.after) ≠ [] := by
      intro hn
      obtain ⟨s, rest, hrest⟩ := (since_cases x _).resolve_left hs
      rw [saidBy_before_since, hrest] at hn
      cases (List.append_eq_nil_iff.1 hn).2
    rw [if_neg hne, if_neg fun hn' => hne (hnil.1 hn')]
    rw [← data_object_iff (fits j.own hx) (fits j.own_kept hx) hs hs' h]
    exact Option.some_inj

end Joining

/-- **A supervisor that joins is up to date** exactly where no connector that is stale for it, or for one that heard it
all, and not for both, shows something of the type and the phases of its charge point: so it is as soon as each such
connector has been heard of again, whatever the order in which the retained messages were handed over. -/
theorem joins_up_to_date_iff (j : Joining) :
    (ChargePointManager.empty.receiveAll ((j.kept ++ j.after).map spoken)).data =
        (ChargePointManager.empty.receiveAll ((j.said ++ j.after).map spoken)).data ↔
      ∀ x ∈ j.members, ∀ c m, (Stale x (j.kept ++ j.after) c m ↔ Stale x (j.said ++ j.after) c m) ∨
        (x.connector c m).Indifferent x.typeText x.chargePoint.nbPhases := by
  constructor
  · exact fun h x hx => (j.lookup_data_iff hx).1 (congrFun h x.id)
  · intro h
    funext id
    by_cases hid : id ∈ j.members.map Member.id
    · obtain ⟨x, hx, rfl⟩ := List.mem_map.1 hid
      exact (j.lookup_data_iff hx).2 (h x hx)
    · have hnone : ∀ {l : List (Member × Publication)}, (∀ y ∈ l, y.1 ∈ j.members ∧ y.1.Tells y.2) →
          (ChargePointManager.empty.receiveAll (l.map spoken)).cps.lookup id = none := by
        intro l hl
        refine (lookup_receiveAll_of_not fun z hz => ?_).trans rfl
        obtain ⟨y, hy, rfl⟩ := List.mem_map.1 hz
        exact (Fleet.isTopic_spoken y).not_of_ne fun he => hid (he ▸ List.mem_map_of_mem (hl y hy).1)
      unfold ChargePointManager.data
      rw [hnone j.own, hnone j.own_kept]

def sampleSaid : List (Member × Publication) :=
  [(sampleMember, .status (sampleStatus "A")), (sampleMember, .connector 1 (sampleConnector "A"))]

theorem nodup_sampleSaid : (sampleSaid.map topicOf).Nodup := by decide +kernel

/-- The connector is handed over first, and heard of again. -/
def sampleJoining : Joining where
  members := sampleFleet.members
  distinct := sampleFleet.distinct
  said := sampleSaid
  after := [(sampleMember, .connector 1 (sampleConnector "A"))]
  own y hy := by
    have hmem : y ∈ sampleSaid := by
      rcases List.mem_append.1 hy with hy | hy
      · exact hy
      · exact List.mem_cons_of_mem _ hy
    exact (sampleFleet.own y (.inl hmem)).imp (fun h => h) .inl
  kept := sampleSaid.reverse
  handed := handed_of_perm nodup_sampleSaid (List.reverse_perm _)

/-- The supervisor is up to date once it has heard of the connector again. -/
theorem joins_up_to_date_iff_sample :
    (ChargePointManager.empty.receiveAll ((sampleJoining.kept ++ sampleJoining.after).map spoken)).data =
      (ChargePointManager.empty.receiveAll ((sampleJoining.said ++ sampleJoining.after).map spoken)).data := by
  refine (joins_up_to_date_iff sampleJoining).2 fun x hx c m => .inl (iff_of_false ?_ ?_)
  · rintro ⟨hb, hs⟩
    obtain rfl := List.mem_singleton.1 hx
    have hbefore : before sampleMember (sampleJoining.kept ++ sampleJoining.after) =
        [(sampleMember, .connector 1 (sampleConnector "A"))] := rfl
    have hsince : since sampleMember (sampleJoining.kept ++ sampleJoining.after) = sampleSaid := rfl
    rw [hbefore, latest_singleton] at hb
    rw [hsince] at hs
    by_cases ht : topicOf (sampleMember, .connector 1 (sampleConnector "A")) = connectorTopic sampleMember.id c
    · obtain ⟨y, hy⟩ : ∃ y, latest topicOf sampleSaid (topicOf (sampleMember, .connector 1 (sampleConnector "A"))) = some y :=
        exists_latest (List.mem_cons_of_mem _ List.mem_cons_self)
      rw [← ht, hy] at hs
      cases hs
    · rw [if_neg ht] at hb
      cases hb
  · -- one that has been there from the start has heard the status first
    obtain rfl := List.mem_singleton.1 hx
    have hb : before sampleMember (sampleJoining.said ++ sampleJoining.after) = [] := rfl
    rintro ⟨h, -⟩
    rw [hb] at h
    cases h

end Supervisor
