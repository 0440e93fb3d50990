import Mathlib.Data.List.Infix
import OcppSimu.Launcher
import OcppSimu.World
/-!
# Wire — topics and messages, as they are on the broker

What the programs say to each other are JSON objects on topics.  A number is an `int` or a `float`, as it is written
without or with a fraction.  This module has the topics, what a subscription lets through, the two status messages the
charge point builds, and the element of `charge_points` the launcher reads.
-/
namespace Wire

inductive Json
  | null
  | bool (b : Bool)
  | int (i : ℤ)
  | float (q : ℚ)
  | str (s : String)
  | arr (l : List Json)
  | obj (members : List (String × Json))

/-- The text of a message: empty, a JSON document, or neither. -/
inductive Payload
  | empty
  | json (j : Json)
  | other

/-! ## Topics -/

def levels (topic : String) : List (List Char) := topic.toList.splitOn '/'

/-- A filter without `#`, level by level. -/
def passes : List (List Char) → List (List Char) → Bool
  | [], [] => true
  | f :: fs, l :: ls => (f == ['+'] || f == l) && passes fs ls
  | _, _ => false

def statusTopic (id : String) : String := "cp_simu/cps/" ++ id ++ "/status"

def connectorTopic (id : String) (c : Nat) : String :=
  "cp_simu/cps/" ++ id ++ "/connectors/" ++ toString c ++ "/status"

theorem levels_of_not_mem {topic : String} (h : '/' ∉ topic.toList) : levels topic = [topic.toList] :=
  List.splitOn_eq_singleton h

theorem levels_append (a b : String) : levels (a ++ "/" ++ b) = levels a ++ levels b := by
  unfold levels
  have h : (a ++ "/" ++ b).toList = a.toList ++ '/' :: b.toList := by simp
  rw [h, List.splitOn_append_cons_self]

theorem levels_ne_nil (topic : String) : levels topic ≠ [] := List.splitOn_ne_nil _ _

/-- **A text is one level exactly where it has no slash.** -/
theorem length_levels {topic : String} : (levels topic).length = 1 ↔ '/' ∉ topic.toList := by
  constructor
  · intro hl hm
    obtain ⟨a, b, hab⟩ := List.append_of_mem hm
    unfold levels at hl
    rw [hab, List.splitOn_append_cons_self, List.length_append] at hl
    have ha := List.length_pos_iff.2 (List.splitOn_ne_nil '/' a)
    have hb := List.length_pos_iff.2 (List.splitOn_ne_nil '/' b)
    omega
  · intro h
    rw [levels_of_not_mem h]
    rfl

/-- A level is part of its topic. -/
theorem infix_of_mem_splitOn {a : Char} {x : List Char} {l : List Char} (h : x ∈ l.splitOn a) : x <:+: l := by
  have hmem : ∀ (ls : List (List Char)), x ∈ ls → x <:+: [a].intercalate ls := by
    intro ls
    induction ls with
    | nil => intro h; cases h
    | cons y ls ih =>
      intro h
      cases ls with
      | nil =>
        rw [List.mem_singleton] at h
        subst h
        simp [List.intercalate]
      | cons z ls =>
        have hi : [a].intercalate (y :: z :: ls) = y ++ a :: [a].intercalate (z :: ls) := by
          simp [List.intercalate]
        rw [hi]
        rcases List.mem_cons.1 h with rfl | h
        · exact ⟨[], a :: [a].intercalate (z :: ls), by simp⟩
        · exact (ih h).trans ⟨y ++ [a], [], by simp⟩
  have h' := hmem _ h
  rwa [List.intercalate_splitOn] at h'

/-- **What has no separator in it is on one side of it.** -/
theorem infix_append_cons {α : Type} {x l m : List α} {a : α} (h : a ∉ x) : x <:+: l ++ a :: m ↔ x <:+: l ∨ x <:+: m := by
  constructor
  · rintro ⟨s, t, hst⟩
    rcases List.append_eq_append_iff.1 hst with ⟨as, rfl, -⟩ | ⟨bs, hsx, hm⟩
    · exact .inl ⟨s, as, rfl⟩
    cases bs with
    | nil => exact .inl ⟨s, [], by simpa using hsx⟩
    | cons b bs =>
      obtain ⟨rfl, rfl⟩ := List.cons.inj hm
      -- the separator is not in `x`, so `x` begins after it
      rcases List.append_eq_append_iff.1 hsx with ⟨as, -, rfl⟩ | ⟨cs, -, hx⟩
      · exact absurd (List.mem_append_right as List.mem_cons_self) h
      cases cs with
      | nil =>
        rw [← show a :: bs = x from hx] at h
        exact absurd List.mem_cons_self h
      | cons c cs =>
        obtain ⟨-, rfl⟩ := List.cons.inj hx
        exact .inr ⟨cs, t, rfl⟩
  · rintro (h | h)
    · exact h.trans ⟨[], a :: m, by simp⟩
    · exact h.trans ⟨l ++ [a], [], by simp⟩
theorem passes_length : ∀ {f l : List (List Char)}, passes f l = true → f.length = l.length
  | [], [], _ => rfl
  | _ :: _, _ :: _, h => by
    unfold passes at h
    rw [Bool.and_eq_true] at h
    rw [List.length_cons, List.length_cons, passes_length h.2]

theorem levels_statusTopic (id : String) :
    levels (statusTopic id) = ["cp_simu".toList, "cps".toList] ++ levels id ++ ["status".toList] := by
  have h : statusTopic id = "cp_simu" ++ "/" ++ ("cps" ++ "/" ++ (id ++ "/" ++ "status")) := by
    unfold statusTopic
    apply String.toList_inj.1
    simp
  have h₁ : levels "cp_simu" = ["cp_simu".toList] := levels_of_not_mem (by decide)
  have h₂ : levels "cps" = ["cps".toList] := levels_of_not_mem (by decide)
  have h₃ : levels "status" = ["status".toList] := levels_of_not_mem (by decide)
  rw [h, levels_append, levels_append, levels_append, h₁, h₂, h₃]
  rfl

theorem levels_connectorTopic (id : String) (c : Nat) : levels (connectorTopic id c) =
    ["cp_simu".toList, "cps".toList] ++ levels id ++ ["connectors".toList, (toString c).toList, "status".toList] := by
  have h : connectorTopic id c =
      "cp_simu" ++ "/" ++ ("cps" ++ "/" ++ (id ++ "/" ++ ("connectors" ++ "/" ++ (toString c ++ "/" ++ "status")))) := by
    unfold connectorTopic
    apply String.toList_inj.1
    simp
  have hc : '/' ∉ (toString c).toList := by
    rw [Nat.toString_eq_ofList_toDigits, String.toList_ofList]
    intro hm
    have hd := Nat.isDigit_of_mem_toDigits (b := 10) (by decide) (by decide) hm
    exact absurd hd (by decide)
  have h₁ : levels "cp_simu" = ["cp_simu".toList] := levels_of_not_mem (by decide)
  have h₂ : levels "cps" = ["cps".toList] := levels_of_not_mem (by decide)
  have h₃ : levels "status" = ["status".toList] := levels_of_not_mem (by decide)
  have h₄ : levels "connectors" = ["connectors".toList] := levels_of_not_mem (by decide)
  rw [h, levels_append, levels_append, levels_append, levels_append, levels_append, h₁, h₂, h₃, h₄,
    levels_of_not_mem hc]
  rfl

end Wire

namespace Simu

open Wire

/-! ## The messages of a charge point -/

/-- `ChargePointStatusHelper.toString`. -/
def ChargePointStatus.toText : ChargePointStatus → String
  | .available => "Available"
  | .preparing => "Preparing"
  | .charging => "Charging"
  | .suspendedEVSE => "SuspendedEVSE"
  | .suspendedEV => "SuspendedEV"
  | .finishing => "Finishing"
  | .reserved => "Reserved"
  | .unavailable => "Unavailable"
  | .faulted => "Faulted"

/-- The message `buildStatusMessage` builds. -/
def StatusMessage.toJson (m : StatusMessage) : Json := .obj
  [("pid", .int m.pid), ("status", .str m.status), ("vendor", .str m.vendor), ("model", .str m.model),
   ("serial", .str m.serial), ("nb_phases", .int m.nbPhases), ("max_setpoint", .float m.maxSetpoint),
   ("central_system", .str m.centralSystem), ("type", .str m.type), ("voltage", .float m.voltage)]

/-- The message `publishData` builds for a connector; a phase its meter has not got is the integer 0. -/
def ConnectorMessage.toJson (nbPhases : Nat) (m : ConnectorMessage) : Json := .obj
  [("status", .str m.status.toText), ("id_tag", .str m.idTag), ("max_setpoint", .float m.maxSetpoint),
   ("ocpp_setpoint", .float m.ocppSetpoint), ("setpoint", .float m.setpoint),
   ("car_consumption_l1", .float m.carConsumptionL1), ("car_consumption_l2", .float m.carConsumptionL2),
   ("car_consumption_l3", .float m.carConsumptionL3), ("car_cable_capacity", .float m.carCableCapacity),
   ("car_ready", .bool m.carReady),
   ("consumption_l1", if 0 < nbPhases then .float m.consumptionL1 else .int 0),
   ("consumption_l2", if 1 < nbPhases then .float m.consumptionL2 else .int 0),
   ("consumption_l3", if 2 < nbPhases then .float m.consumptionL3 else .int 0)]

/-- The topic of a message of the charge point `id`. -/
def Publication.topic (id : String) : Publication → String
  | .status _ => statusTopic id
  | .connector c _ => connectorTopic id c

def Publication.toJson (nbPhases : Nat) : Publication → Json
  | .status m => m.toJson
  | .connector _ m => m.toJson nbPhases

/-- `ConnectorTypeHelper.fromString`, for the texts it knows. -/
def ConnectorType.ofText : String → Option ConnectorType
  | "AC" => some .ac
  | "DC" => some .dc
  | _ => none

end Simu

namespace Launcher

open Wire

/-! ## The element of a start command -/

/-- `HasMember`, and the value: the first member of that name. -/
def member (j : Json) (name : String) : Option Json :=
  match j with
  | .obj members => members.lookup name
  | _ => none

def getString : Json → Option String
  | .str s => some s
  | _ => none

def getUint : Json → Option Nat
  | .int i => if 0 ≤ i ∧ i < 2 ^ 32 then some i.toNat else none
  | _ => none

def getFloat : Json → Option ℚ
  | .int i => some i
  | .float q => some q
  | _ => none

/-- The members `startChargePoints` reads, each by its accessor. -/
def Element.ofJson (j : Json) : Element where
  id := (member j "id").bind getString
  type := (member j "type").bind getString
  vendor := (member j "vendor").bind getString
  model := (member j "model").bind getString
  serial := (member j "serial").bind getString
  centralSystem := (member j "central_system").bind getString
  nbConnectors := (member j "nb_connectors").bind getUint
  nbPhases := (member j "nb_phases").bind getUint
  maxSetpoint := (member j "max_setpoint").bind getUint
  maxSetpointPerConnector := (member j "max_setpoint_per_connector").bind getUint
  voltage := (member j "voltage").bind getFloat

theorem getUint_lt {j : Json} {n : Nat} (h : getUint j = some n) : n < 2 ^ 32 := by
  unfold getUint at h
  split at h
  · split at h
    · rename_i i hi
      have hn := Option.some.inj h
      omega
    · cases h
  · cases h

theorem getUint_int {n : Nat} (h : n < 2 ^ 32) : getUint (.int n) = some n := by
  have hi : (0 : ℤ) ≤ n ∧ (n : ℤ) < 2 ^ 32 := by omega
  simp only [getUint]
  rw [if_pos hi, Int.toNat_natCast]

end Launcher
