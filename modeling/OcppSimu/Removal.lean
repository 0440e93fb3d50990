import OcppSimu.Launcher
import OcppSimu.Paths
/-!
# Removal — what the launcher deletes

The launcher deletes the directory of a charge point, `m_chargepoints_dir / id`, when it starts it anew and when its
status is emptied.  The name is taken as it comes: from the start command, or from the topic.  The path designates a
direct child of the directory exactly where the name leads to one name there (`inside_iff`).
-/
namespace Launcher

open Paths

/-- The path of a charge point's directory, `m_chargepoints_dir` being `dir`. -/
def chargepointDir (dir : Path) (id : String) : Path := join dir id.toList

/-- **The working directory of `a` goes with `m_chargepoints_dir / id`**, `dir` being the absolute path of
`m_chargepoints_dir` and no name on the way a link. -/
def Wipes (dir : Path) (id a : String) : Prop := (normal (chargepointDir dir a)).Within (normal (chargepointDir dir id))

instance (dir : Path) (id a : String) : Decidable (Wipes dir id a) := inferInstanceAs (Decidable (Normal.Within _ _))

/-- Every directory goes with that of the empty identifier, and one by each of its names. -/
example : let dir := "/wd/chargepoints".toList
    (Wipes dir "" "A" ∧ Wipes dir "./A" "A" ∧ Wipes dir "A/" "A" ∧ Wipes dir "../.." "A") ∧ ¬Wipes dir "B" "A" := by
  decide +kernel

/-- **The path designates a direct child of the directory.** -/
def Inside (dir : Path) (id : String) : Prop := ∃ n, IsName n ∧ normal (chargepointDir dir id) = (normal dir).child n

/-- **The name leads to one name in the directory**: a relative one may first leave the directory upwards, and then has
to come back by the directory's own names; an absolute one has to go there from the root. -/
def Enters (dir : Path) (id : String) : Prop :=
  let d := normal dir
  let r := normal id.toList
  if isAbsolute id.toList then d.absolute = true ∧ ∃ n, r.names = n :: d.names
  else (∃ n, r.names = n :: d.names.take r.ups) ∧ (d.absolute = true ∨ r.ups ≤ d.names.length)

/-- A start command for a charge point with that identifier. -/
def Element.named (id : String) : Element where
  id := some id
  type := some "AC"
  vendor := some "vendor"
  model := some "model"
  serial := some "serial"
  centralSystem := some "ws://localhost"
  nbConnectors := some 1
  nbPhases := some 3
  maxSetpoint := some 32
  maxSetpointPerConnector := some 32
  voltage := some 230

/-- **A start command with an empty identifier deletes the directories of all charge points**, and a status topic whose
level is `..` the directory above them. -/
theorem removal_of_empty_id :
    let dir := "wd/chargepoints".toList
    Entry.cleared "" ∈ (Host.run ⟨id, fun _ _ => true⟩ .initial [.start .none, .message (.start [.named ""])]).log ∧
    normal (chargepointDir dir "") = normal dir ∧ ¬Inside dir "" ∧
    normal (chargepointDir dir "..") = normal "wd".toList ∧ ¬Inside dir ".." := by
  have outside : ∀ id : String, (normal (chargepointDir "wd/chargepoints".toList id)).names.length ≤ 2 →
      ¬Inside "wd/chargepoints".toList id := by
    rintro id hl ⟨n, -, hn⟩
    rw [hn] at hl
    have hd : ((normal "wd/chargepoints".toList).child n).names.length = 3 := by
      show (normal "wd/chargepoints".toList).names.length + 1 = 3
      decide +kernel
    omega
  refine ⟨by decide +kernel, by decide +kernel, outside "" (by decide +kernel), by decide +kernel, outside ".." (by decide +kernel)⟩

/-! ## The path -/

theorem inside_iff (dir : Path) (id : String) : Inside dir id ↔ Enters dir id := by
  have hproper : Inside dir id ↔ ∃ n, normal (chargepointDir dir id) = (normal dir).child n := by
    constructor
    · rintro ⟨n, -, hn⟩
      exact ⟨n, hn⟩
    · rintro ⟨n, hn⟩
      refine ⟨n, normal_proper (chargepointDir dir id) n ?_, hn⟩
      rw [hn]
      exact List.mem_cons_self
  rw [hproper]
  unfold Enters chargepointDir
  cases ha : isAbsolute id.toList with
  | true =>
    rw [join_of_absolute dir ha, if_pos rfl]
    constructor
    · rintro ⟨n, hn⟩
      have hd : (normal id.toList).absolute = (normal dir).absolute := by rw [hn]; rfl
      rw [absolute_normal, ha] at hd
      exact ⟨hd.symm, n, by rw [hn]; rfl⟩
    · rintro ⟨hd, n, hn⟩
      have hu : (normal id.toList).ups = (normal dir).ups := by
        rw [ups_normal_of_absolute ha, ups_normal_of_absolute (by rw [← absolute_normal]; exact hd)]
      have hb : (normal id.toList).absolute = (normal dir).absolute := by rw [absolute_normal, ha, hd]
      exact ⟨n, Normal.ext hb hu hn⟩
  | false =>
    rw [normal_join dir ha, if_neg Bool.false_ne_true]
    constructor
    · rintro ⟨n, hn⟩
      obtain ⟨hr, hd⟩ := Normal.follow_eq_child_iff.1 hn
      exact ⟨⟨n, hr⟩, hd⟩
    · rintro ⟨⟨n, hr⟩, hd⟩
      exact ⟨n, Normal.follow_eq_child_iff.2 ⟨hr, hd⟩⟩

/-- A name without a slash leads to one name unless it is empty, `.` or `..`. -/
theorem inside_iff_of_slash_notMem (dir : Path) {id : String} (hs : '/' ∉ id.toList) :
    Inside dir id ↔ IsName id.toList := by
  rw [inside_iff]
  unfold Enters IsName
  rw [isAbsolute_of_slash_notMem hs, if_neg Bool.false_ne_true]
  by_cases h₀ : id.toList = []
  · rw [h₀]
    simp [normal]
  rw [normal_name h₀ hs]
  by_cases h₁ : id.toList = dot
  · rw [h₁, Normal.push_dot]
    simp
  by_cases h₂ : id.toList = dotDot
  · rw [h₂, Normal.push_dotDot_here]
    simp
  · rw [Normal.push_name h₁ h₂]
    simp [Normal.child, h₀, h₁, h₂]

/-! ## The topic -/

/-- A topic that matches `cp_simu/cps/+/status`. -/
def statusTopic (level : List Char) : Path := "cp_simu/cps/".toList ++ level ++ "/status".toList

/-- The element before the last of the topic taken as a path. -/
def chargePointOf (topic : Path) : String := String.ofList (((elements topic).dropLast.getLast?).getD [])

theorem elements_statusTopic (level : List Char) : elements (statusTopic level) =
    "cp_simu".toList :: "cps".toList :: (components level ++ ["status".toList]) := by
  have ht : statusTopic level = "cp_simu/cps".toList ++ '/' :: (level ++ '/' :: "status".toList) := by
    have h₁ : "cp_simu/cps/".toList = "cp_simu/cps".toList ++ ['/'] := by decide +kernel
    have h₂ : "/status".toList = '/' :: "status".toList := by decide +kernel
    unfold statusTopic
    rw [h₁, h₂, List.append_assoc, List.append_assoc, List.singleton_append]
  have hc : components (statusTopic level) = "cp_simu".toList :: "cps".toList :: (components level ++ ["status".toList]) := by
    rw [ht, components_append_slash, components_append_slash]
    have h₁ : components "cp_simu/cps".toList = ["cp_simu".toList, "cps".toList] := by decide +kernel
    have h₂ : components "status".toList = ["status".toList] := by decide +kernel
    rw [h₁, h₂]
    rfl
  have ha : isAbsolute (statusTopic level) = false := by rw [ht]; rfl
  have hl : (statusTopic level).getLast? = some 's' := by
    unfold statusTopic
    rw [List.getLast?_append_of_ne_nil _ (by decide)]
    decide +kernel
  unfold elements
  rw [ha, hl, hc]
  simp

/-- **The name the launcher reads off a status topic**: slashes in a row are one for it, so an empty level gives the
level before. -/
theorem chargePointOf_statusTopic {level : List Char} (hs : '/' ∉ level) :
    chargePointOf (statusTopic level) = if level = [] then "cps" else String.ofList level := by
  unfold chargePointOf
  rw [elements_statusTopic]
  by_cases h₀ : level = []
  · subst h₀
    rw [if_pos rfl]
    decide +kernel
  · rw [if_neg h₀, components_singleton h₀ hs]
    rfl

theorem inside_statusTopic_iff (dir : Path) {level : List Char} (hs : '/' ∉ level) :
    Inside dir (chargePointOf (statusTopic level)) ↔ level ≠ dot ∧ level ≠ dotDot := by
  rw [chargePointOf_statusTopic hs]
  by_cases h₀ : level = []
  · subst h₀
    rw [if_pos rfl, inside_iff_of_slash_notMem dir (by decide +kernel)]
    decide +kernel
  · rw [if_neg h₀, inside_iff_of_slash_notMem dir (by simpa using hs)]
    simp [IsName, h₀]

/-! ## A run -/

/-- The identifiers a step may clear. -/
def Event.names : Event → List String
  | .start (.chargePoints l) | .message (.start l) => l.filterMap Element.id
  | .message (.empty chargePoint) => [chargePoint]
  | _ => []

namespace Host

theorem cleared_startChargePoint {sys : System} {cleanEnv : Bool} {h : Host} {e : Element} {id : String}
    (hc : Entry.cleared id ∈ (h.startChargePoint sys cleanEnv e).1.log) :
    Entry.cleared id ∈ h.log ∨ (cleanEnv = true ∧ e.id = some id) := by
  unfold startChargePoint at hc
  cases hp : e.parameters with
  | none =>
    rw [hp] at hc
    exact .inl hc
  | some p =>
    have hid : e.id = some p.id := by rw [Element.eq_of_parameters hp]
    rw [hp] at hc
    dsimp only at hc
    split at hc
    · cases cleanEnv with
      | false =>
        have hm : Entry.cleared id ∈ h.log := by simpa [launch] using hc
        exact .inl hm
      | true =>
        have hm : id = p.id ∨ Entry.cleared id ∈ h.log := by simpa [launch, clear] using hc
        rcases hm with rfl | hm
        · exact .inr ⟨rfl, hid⟩
        · exact .inl hm
    · have hm : Entry.cleared id ∈ h.log := by simpa using hc
      exact .inl hm

theorem cleared_startChargePoints {sys : System} {cleanEnv : Bool} {h : Host} {l : List Element} {id : String}
    (hc : Entry.cleared id ∈ (h.startChargePoints sys cleanEnv l).1.log) :
    Entry.cleared id ∈ h.log ∨ (cleanEnv = true ∧ id ∈ l.filterMap Element.id) := by
  rw [startChargePoints_fst] at hc
  induction l generalizing h with
  | nil => exact .inl hc
  | cons e l ih =>
    rw [List.foldl_cons] at hc
    rcases ih hc with hl | ⟨hb, hm⟩
    · rcases cleared_startChargePoint hl with hl | ⟨hb, he⟩
      · exact .inl hl
      · exact .inr ⟨hb, List.mem_filterMap.2 ⟨e, List.mem_cons_self, he⟩⟩
    · obtain ⟨x, hx, hid⟩ := List.mem_filterMap.1 hm
      exact .inr ⟨hb, List.mem_filterMap.2 ⟨x, List.mem_cons_of_mem e hx, hid⟩⟩

theorem cleared_killChargePoints {sys : System} {h : Host} {l : List Element} {id : String}
    (hc : Entry.cleared id ∈ (h.killChargePoints sys l).1.log) : Entry.cleared id ∈ h.log := by
  have one : ∀ (h : Host) (e : Element), Entry.cleared id ∈ (h.killChargePoint sys e).1.log → Entry.cleared id ∈ h.log := by
    intro h e hc
    unfold killChargePoint at hc
    split at hc
    · exact hc
    · split at hc
      · exact hc
      · dsimp only at hc
        split at hc
        · simpa [readStatus] using hc
        · exact hc
  rw [killChargePoints_fst] at hc
  induction l generalizing h with
  | nil => exact hc
  | cons e l ih =>
    rw [List.foldl_cons] at hc
    exact one h e (ih hc)

/-- **A step clears only what it names.** -/
theorem cleared_step {sys : System} {h : Host} {e : Event} {id : String} (hc : Entry.cleared id ∈ (h.step sys e).log) :
    Entry.cleared id ∈ h.log ∨ id ∈ e.names := by
  cases e with
  | start config =>
    cases config with
    | none => exact .inl (by simpa [step] using hc)
    | invalid => exact .inl (by simpa [step] using hc)
    | chargePoints l =>
      rcases cleared_startChargePoints hc with hl | ⟨-, hm⟩
      · exact .inl (by simpa using hl)
      · exact .inr hm
  | stop => exact .inl (by simpa [step] using hc)
  | message m =>
    unfold step at hc
    dsimp only at hc
    split at hc
    · cases m with
      | close => exact .inl hc
      | start l =>
        rcases cleared_startChargePoints hc with hl | ⟨-, hm⟩
        · exact .inl hl
        · exact .inr hm
      | kill l => exact .inl (cleared_killChargePoints hc)
      | restart l =>
        rcases cleared_startChargePoints hc with hl | ⟨hb, -⟩
        · exact .inl hl
        · cases hb
      | status chargePoint status pid => exact .inl (by simpa [mqttMessageReceived, statusReceived] using hc)
      | empty chargePoint =>
        have hm : id = chargePoint ∨ Entry.cleared id ∈ h.log := by
          simpa [mqttMessageReceived, removeChargePoint, clear] using hc
        rcases hm with rfl | hm
        · exact .inr List.mem_cons_self
        · exact .inl hm
      | other => exact .inl hc
    · exact .inl hc

theorem cleared_run {sys : System} {id : String} (events : List Event) (h : Host)
    (hc : Entry.cleared id ∈ (h.run sys events).log) : Entry.cleared id ∈ h.log ∨ ∃ e ∈ events, id ∈ e.names := by
  induction events generalizing h with
  | nil => exact .inl hc
  | cons e events ih =>
    rcases ih _ hc with hl | ⟨x, hx, hid⟩
    · rcases cleared_step hl with hl | hid
      · exact .inl hl
      · exact .inr ⟨e, List.mem_cons_self, hid⟩
    · exact .inr ⟨x, List.mem_cons_of_mem e hx, hid⟩

end Host

/-- **The launcher deletes a direct child of its directory exactly where the name leads to one.**  For a status topic
that is every level but `.` and `..`; and in a run whose start commands and emptied statuses all name such charge
points, every deletion is of a direct child. -/
theorem removals_inside_iff (dir : Path) :
    (∀ id, Inside dir id ↔ Enters dir id) ∧
    (∀ level : List Char, '/' ∉ level → (Inside dir (chargePointOf (statusTopic level)) ↔ level ≠ dot ∧ level ≠ dotDot)) ∧
    ∀ (sys : System) (events : List Event), (∀ e ∈ events, ∀ id ∈ e.names, Enters dir id) →
      ∀ id, Entry.cleared id ∈ (Host.run sys .initial events).log → Inside dir id := by
  refine ⟨inside_iff dir, fun level hs => inside_statusTopic_iff dir hs, fun sys events he id hc => ?_⟩
  rcases Host.cleared_run events .initial hc with hl | ⟨e, hm, hid⟩
  · cases hl
  · exact (inside_iff dir id).2 (he e hm id hid)

end Launcher
