import OcppSimu.Handlers
import OcppSimu.Hist
import OcppSimu.Restart
/-!
# Registry — which charge points the launcher and the supervisor know of

Both programs hear the status messages of the charge points, and keep a table of them.  The launcher takes a charge
point out of its table when its status is emptied.  The supervisor notifies its listener of that and keeps its object,
so a charge point it has heard of once stays in its registry; and the launcher reads the name off the topic taken as a
path, where an empty level is none.  The two tables have the charge points whose last status is not empty exactly in the
histories described by `Undisturbed`.
-/
namespace Registry

open Access Hist Launcher Supervisor Wire

/-- A message on the status topic of a charge point or of one of its connectors. -/
inductive Notice
  | status (id : String) (payload : Payload)
  | connector (id : String) (con : Nat) (payload : Payload)

namespace Notice

def id : Notice → String
  | status id _ | connector id _ _ => id

def payload : Notice → Payload
  | status _ payload | connector _ _ payload => payload

def topic : Notice → String
  | status id _ => statusTopic id
  | connector id con _ => connectorTopic id con

end Notice

def isEmpty : Payload → Bool
  | .empty => true
  | _ => false

/-- A status that is not empty, of a charge point whose name has `p`. -/
def sets (p : String → Bool) : Notice → Bool
  | .status id payload => p id && !isEmpty payload
  | .connector _ _ _ => false

def clears (p : String → Bool) : Notice → Bool
  | .status id payload => p id && isEmpty payload
  | .connector _ _ _ => false

def is (id id' : String) : Bool := decide (id' = id)

/-- **The last status of the charge point is not empty.** -/
def present (id : String) (notices : List Notice) : Bool := since (sets (is id)) (clears (is id)) notices.reverse

/-! ## Delivery -/

/-- The topics `main` subscribes to in the launcher. -/
def launcherSubscriptions : List String := ["cp_simu/cps/+/status", "cp_simu/launcher/cmd"]

/-- What the broker delivers to a program with these subscriptions. -/
def delivered (filters : List String) (notices : List Notice) : List (String × Payload) :=
  (notices.filter (fun x => filters.any (fun f => passes (levels f) (levels x.topic)))).map (fun x => (x.topic, x.payload))

def launcherAfter (sys : System) (h : Host) (messages : List (String × Payload)) : Except Misuse Host :=
  messages.foldlM (fun h x => h.receive sys x.1 x.2) h

/-- A launcher that has just been started. -/
def started (sys : System) : Host := Host.initial.step sys (.start .none)

/-- **The two tables have the charge points whose last status is not empty.** -/
def Agree (sys : System) (notices : List Notice) : Prop :=
  ∃ h, launcherAfter sys (started sys) (delivered launcherSubscriptions notices) = .ok h ∧
    ∀ id, (id ∈ (ChargePointManager.empty.receiveAll (delivered subscriptions notices)).cps ↔ present id notices = true) ∧
      ((h.handler.cpStatus id).isSome = true ↔ present id notices = true)

/-! ## The messages -/

/-- A status message that is empty, or one that tells of the process. -/
def StatusValid : Payload → Prop
  | .empty => True
  | .json j => (member j "status").isSome = true ∧ StatusReadable j
  | .other => False

def ConnectorValid : Payload → Prop
  | .empty => True
  | .json j => j.isObject = true
  | .other => False

/-- **Valid messages**, each of them of one charge point, and those of a connector after a status of its charge point. -/
structure Valid (notices : List Notice) : Prop where
  level : ∀ x ∈ notices, '/' ∉ x.id.toList
  status : ∀ id payload, .status id payload ∈ notices → StatusValid payload
  connector : ∀ id con payload, .connector id con payload ∈ notices → ConnectorValid payload
  follows : ∀ before id con payload after, notices = before ++ .connector id con payload :: after →
    before.any (sets (is id)) = true

/-- **Nothing that the two tables do not hear alike**: no charge point is taken out for good, the topic with an empty
level carries no status, and it is not emptied while a charge point has the name of the level before. -/
structure Undisturbed (notices : List Notice) : Prop where
  kept : ∀ id, notices.any (sets (is id)) = true → present id notices = true
  named : notices.any (sets (is "")) = false
  apart : present "cps" notices = true → since (sets (is "cps")) (clears (is "")) notices.reverse = true

/-! ## What reaches whom -/

theorem levels_status {id : String} (h : '/' ∉ id.toList) :
    levels (statusTopic id) = ["cp_simu".toList, "cps".toList, id.toList, "status".toList] := by
  rw [levels_statusTopic, levels_of_not_mem h]
  rfl

theorem levels_connector {id : String} (h : '/' ∉ id.toList) (con : Nat) : levels (connectorTopic id con) =
    ["cp_simu".toList, "cps".toList, id.toList, "connectors".toList, (toString con).toList, "status".toList] := by
  rw [levels_connectorTopic, levels_of_not_mem h]
  rfl

theorem delivered_append (filters : List String) (before after : List Notice) :
    delivered filters (before ++ after) = delivered filters before ++ delivered filters after := by
  unfold delivered
  rw [List.filter_append, List.map_append]

theorem delivered_of_passes {filters : List String} {x : Notice}
    (h : filters.any (fun f => passes (levels f) (levels x.topic)) = true) : delivered filters [x] = [(x.topic, x.payload)] := by
  unfold delivered
  rw [List.filter_singleton, h]
  rfl

theorem passes_status {id : String} (h : '/' ∉ id.toList) :
    passes (levels "cp_simu/cps/+/status") (levels (statusTopic id)) = true := by
  have hf : levels "cp_simu/cps/+/status" = ["cp_simu".toList, "cps".toList, ['+'], "status".toList] := by decide +kernel
  rw [hf, levels_status h]
  simp [passes]

theorem passes_connector {id : String} (h : '/' ∉ id.toList) (con : Nat) :
    passes (levels "cp_simu/cps/+/connectors/+/status") (levels (connectorTopic id con)) = true := by
  have hf : levels "cp_simu/cps/+/connectors/+/status" =
      ["cp_simu".toList, "cps".toList, ['+'], "connectors".toList, ['+'], "status".toList] := by decide +kernel
  rw [hf, levels_connector h]
  simp [passes]

/-- The supervisor hears everything. -/
theorem delivered_supervisor {x : Notice} (h : '/' ∉ x.id.toList) : delivered subscriptions [x] = [(x.topic, x.payload)] := by
  apply delivered_of_passes
  rw [List.any_eq_true]
  cases x with
  | status id payload => exact ⟨_, List.mem_cons_self, passes_status h⟩
  | connector id con payload => exact ⟨_, List.mem_cons_of_mem _ List.mem_cons_self, passes_connector h con⟩

theorem delivered_status {id : String} {payload : Payload} (h : '/' ∉ id.toList) :
    delivered launcherSubscriptions [.status id payload] = [(statusTopic id, payload)] := by
  apply delivered_of_passes
  rw [List.any_eq_true]
  exact ⟨_, List.mem_cons_self, passes_status h⟩

/-- The launcher hears nothing of a connector. -/
theorem delivered_connector {id : String} {con : Nat} {payload : Payload} (h : '/' ∉ id.toList) :
    delivered launcherSubscriptions [.connector id con payload] = [] := by
  have no : ∀ f ∈ launcherSubscriptions, ¬passes (levels f) (levels (connectorTopic id con)) = true := by
    intro f hf hp
    have hl := passes_length hp
    have h₁ : (levels "cp_simu/cps/+/status").length = 4 := by decide +kernel
    have h₂ : (levels "cp_simu/launcher/cmd").length = 3 := by decide +kernel
    rw [levels_connector h] at hl
    simp only [launcherSubscriptions, List.mem_cons, List.not_mem_nil, or_false] at hf
    rcases hf with rfl | rfl
    · rw [h₁] at hl
      cases hl
    · rw [h₂] at hl
      cases hl
  unfold delivered
  rw [List.filter_cons_of_neg (by simpa [Notice.topic] using no)]
  rfl

/-! ## The launcher -/

/-- The name the launcher knows a charge point by. -/
def name (id : String) : String := if id = "" then "cps" else id

theorem toList_statusTopic (id : String) : (Wire.statusTopic id).toList = Launcher.statusTopic id.toList := by
  unfold Wire.statusTopic Launcher.statusTopic
  rw [String.toList_append, String.toList_append]

theorem levelBefore_statusTopic {id : String} (h : '/' ∉ id.toList) : levelBefore (Wire.statusTopic id) = name id := by
  have ht : levelBefore (Wire.statusTopic id) = chargePointOf (Launcher.statusTopic id.toList) :=
    congrArg chargePointOf (toList_statusTopic id)
  rw [ht, chargePointOf_statusTopic h]
  by_cases h₀ : id = ""
  · have h₁ : id.toList = [] := String.toList_eq_nil_iff.2 h₀
    rw [if_pos h₁, name, if_pos h₀]
  · have h₁ : ¬id.toList = [] := fun h => h₀ (String.toList_eq_nil_iff.1 h)
    rw [if_neg h₁, name, if_neg h₀, String.ofList_toList]

theorem filename_statusTopic (id : String) : filename (Wire.statusTopic id) = "status" := by
  unfold filename
  rw [toList_statusTopic, elements_statusTopic, List.getLast?_cons_cons, List.getLast?_cons]
  simp

/-- **A valid status is taken in**, under the name the launcher reads. -/
theorem receive_status (sys : System) (h : Host) {id : String} {payload : Payload} (hs : '/' ∉ id.toList)
    (hv : StatusValid payload) : ∃ h', h.receive sys (Wire.statusTopic id) payload = .ok h' ∧
      ∀ k, (h'.handler.cpStatus k).isSome = if name id = k then !isEmpty payload else (h.handler.cpStatus k).isSome := by
  have hf : ¬filename (Wire.statusTopic id) = "cmd" := by rw [filename_statusTopic]; decide
  have hr : Launcher.Readable (Wire.statusTopic id) payload := by
    cases payload with
    | empty => trivial
    | other => trivial
    | json j =>
      unfold Launcher.Readable
      dsimp only
      rw [if_neg hf]
      exact hv.2
  refine ⟨_, Host.receive_eq_ok_iff.2 ⟨hr, rfl⟩, fun k => ?_⟩
  have update : ∀ {o : Option Bool} {f : String → Option Bool}, (Function.update f (name id) o k).isSome =
      if name id = k then o.isSome else (f k).isSome := by
    intro o f
    by_cases hk : name id = k
    · rw [if_pos hk, ← hk, Function.update_self]
    · rw [if_neg hk, Function.update_of_ne (Ne.symm hk)]
  unfold Message.ofPayload
  cases payload with
  | other => exact hv.elim
  | empty =>
    dsimp only
    rw [if_neg hf, levelBefore_statusTopic hs]
    exact update
  | json j =>
    obtain ⟨v, hm⟩ := Option.isSome_iff_exists.1 hv.1
    obtain ⟨s, hs', -⟩ := hv.2.2 v hm
    dsimp only
    rw [if_neg hf, levelBefore_statusTopic hs, Message.ofStatus, hm, Option.bind_some, hs']
    exact update

/-- **The launcher's table**: the names whose last status is not empty. -/
theorem launcher_table (sys : System) (notices : List Notice) (hl : ∀ x ∈ notices, '/' ∉ x.id.toList)
    (hv : ∀ id payload, .status id payload ∈ notices → StatusValid payload) :
    ∃ h, launcherAfter sys (started sys) (delivered launcherSubscriptions notices) = .ok h ∧ ∀ k, (h.handler.cpStatus k).isSome =
      since (sets (fun id => decide (name id = k))) (clears (fun id => decide (name id = k))) notices.reverse := by
  induction notices using List.reverseRecOn with
  | nil => exact ⟨_, rfl, fun _ => rfl⟩
  | append_singleton notices x ih =>
    obtain ⟨h, hh, hk⟩ := ih (fun y hy => hl y (List.mem_append_left _ hy))
      (fun id payload hy => hv id payload (List.mem_append_left _ hy))
    have hx := hl x (List.mem_append_right _ (List.mem_singleton.2 rfl))
    rw [delivered_append]
    unfold launcherAfter at hh ⊢
    rw [List.foldlM_append, hh, List.reverse_append]
    cases x with
    | connector id con payload =>
      rw [delivered_connector (show '/' ∉ id.toList from hx)]
      exact ⟨h, rfl, hk⟩
    | status id payload =>
      obtain ⟨h', hr, hk'⟩ := receive_status sys h hx (hv id payload (List.mem_append_right _ (List.mem_singleton.2 rfl)))
      rw [delivered_status (show '/' ∉ id.toList from hx)]
      refine ⟨h', bind_eq_ok_iff.2 ⟨h, rfl, bind_eq_ok_iff.2 ⟨h', hr, rfl⟩⟩, fun k => ?_⟩
      rw [hk' k, hk k, List.reverse_singleton, List.singleton_append, since_cons]
      by_cases hn : name id = k
      · cases hp : isEmpty payload <;> simp [Notice.id, sets, clears, hn, hp]
      · simp [Notice.id, sets, clears, hn]

/-! ## The supervisor -/

theorem isTopic_notice {x : Notice} (h : '/' ∉ x.id.toList) : IsTopic x.topic x.id := by
  cases x with
  | status id payload => exact isTopic_of_levels (levels_status h)
  | connector id con payload => exact isTopic_of_levels (levels_connector h con)

theorem mem_onMessageReceived {m : ChargePointManager} {topic id k : String} {payload : Payload} (ht : IsTopic topic id) :
    k ∈ (m.onMessageReceived topic payload).cps ↔ k ∈ m.cps ∨ (k = id ∧ isEmpty payload = false) := by
  unfold ChargePointManager.onMessageReceived
  rw [if_neg ht.launcher, ht.level]
  cases payload with
  | empty => simp [isEmpty]
  | json j => simp [isEmpty, AList.mem_insert, or_comm]
  | other => simp [isEmpty, AList.mem_insert, or_comm]

/-- **The supervisor's registry**: the charge points that ever sent something. -/
theorem mem_registry_iff (notices : List Notice) (hl : ∀ x ∈ notices, '/' ∉ x.id.toList) (k : String) :
    k ∈ (ChargePointManager.empty.receiveAll (delivered subscriptions notices)).cps ↔
      ∃ x ∈ notices, x.id = k ∧ isEmpty x.payload = false := by
  induction notices using List.reverseRecOn with
  | nil => simp [delivered, ChargePointManager.receiveAll, ChargePointManager.empty]
  | append_singleton notices x ih =>
    have hx := hl x (List.mem_append_right _ (List.mem_singleton.2 rfl))
    rw [delivered_append, delivered_supervisor hx]
    unfold ChargePointManager.receiveAll at ih ⊢
    rw [List.foldl_append, List.foldl_cons, List.foldl_nil, mem_onMessageReceived (isTopic_notice hx),
      ih (fun y hy => hl y (List.mem_append_left _ hy))]
    constructor
    · rintro (⟨y, hy, h⟩ | ⟨rfl, h⟩)
      · exact ⟨y, List.mem_append_left _ hy, h⟩
      · exact ⟨x, List.mem_append_right _ (List.mem_singleton.2 rfl), rfl, h⟩
    · rintro ⟨y, hy, rfl, h⟩
      rcases List.mem_append.1 hy with hy | hy
      · exact .inl ⟨y, hy, rfl, h⟩
      · rw [List.mem_singleton.1 hy] at h ⊢
        exact .inr ⟨rfl, h⟩

theorem any_sets_iff {notices : List Notice} {id : String} :
    notices.any (sets (is id)) = true ↔ ∃ payload, .status id payload ∈ notices ∧ isEmpty payload = false := by
  rw [List.any_eq_true]
  constructor
  · rintro ⟨x, hx, h⟩
    cases x with
    | connector id' con payload => cases h
    | status id' payload =>
      simp only [sets, is, Bool.and_eq_true, decide_eq_true_eq, Bool.not_eq_true'] at h
      obtain ⟨rfl, h⟩ := h
      exact ⟨payload, hx, h⟩
  · rintro ⟨payload, hx, h⟩
    exact ⟨_, hx, by simp [sets, is, h]⟩

/-- A connector is heard of after its charge point, so what ever sent something sent a status. -/
theorem Valid.mem_registry_iff {notices : List Notice} (hv : Valid notices) (k : String) :
    k ∈ (ChargePointManager.empty.receiveAll (delivered subscriptions notices)).cps ↔ notices.any (sets (is k)) = true := by
  rw [Registry.mem_registry_iff notices hv.level, any_sets_iff]
  constructor
  · rintro ⟨x, hx, rfl, h⟩
    cases x with
    | status id payload => exact ⟨payload, hx, h⟩
    | connector id con payload =>
      obtain ⟨before, after, rfl⟩ := List.append_of_mem hx
      obtain ⟨payload', hp, h'⟩ := any_sets_iff.1 (hv.follows before id con payload after rfl)
      exact ⟨payload', List.mem_append_left _ hp, h'⟩
  · rintro ⟨payload, hx, h⟩
    exact ⟨_, hx, rfl, h⟩

/-! ## The names -/

/-- What the launcher's table says of a name. -/
def tabled (k : String) (notices : List Notice) : Bool :=
  since (sets (fun id => decide (name id = k))) (clears (fun id => decide (name id = k))) notices.reverse

theorem tabled_of_ne {k : String} (h₀ : k ≠ "") (hc : k ≠ "cps") (notices : List Notice) : tabled k notices = present k notices := by
  have hk : (fun id => decide (name id = k)) = is k := by
    funext id
    unfold name is
    by_cases hid : id = ""
    · rw [if_pos hid, hid]
      simp [h₀.symm, hc.symm]
    · rw [if_neg hid]
  unfold tabled present
  rw [hk]

/-- No charge point has the empty name in the launcher's table. -/
theorem tabled_empty (notices : List Notice) : tabled "" notices = false := by
  have hn : ∀ id, name id ≠ "" := by
    intro id
    unfold name
    by_cases hid : id = ""
    · rw [if_pos hid]
      decide
    · rw [if_neg hid]
      exact hid
  rw [Bool.eq_false_iff]
  intro h
  obtain ⟨x, -, hx⟩ := List.any_eq_true.1 (any_of_since h)
  cases x with
  | status id payload => simp [sets, hn id] at hx
  | connector id con payload => cases hx

/-- The name of the level before stands for two topics. -/
theorem tabled_cps {notices : List Notice} (h : notices.any (sets (is "")) = false) : tabled "cps" notices =
    (present "cps" notices && since (sets (is "cps")) (clears (is "")) notices.reverse) := by
  have hn : ∀ id, decide (name id = "cps") = (is "cps" id || is "" id) := by
    intro id
    unfold name is
    by_cases hid : id = ""
    · rw [if_pos hid, hid]
      decide
    · rw [if_neg hid]
      simp [hid]
  unfold tabled present
  rw [← since_or_kill]
  apply since_congr
  · intro x hx
    cases x with
    | connector id con payload => rfl
    | status id payload =>
      have hs : sets (is "") (.status id payload) = false := by
        rw [List.any_eq_false] at h
        simpa using h _ (List.mem_reverse.1 hx)
      simp only [sets] at hs ⊢
      rw [hn, Bool.and_or_distrib_right, hs, Bool.or_false]
  · intro x _
    cases x with
    | connector id con payload => rfl
    | status id payload =>
      simp only [clears]
      rw [hn, Bool.and_or_distrib_right]

/-- A charge point that is there. -/
def sampleStatus : Payload := .json (.obj [("pid", .int 1), ("status", .str "Accepted")])

theorem Valid.nil : Valid [] := ⟨nofun, nofun, nofun, fun _ _ _ _ _ he => by simp at he⟩

/-- One more message. -/
theorem Valid.snoc {notices : List Notice} (h : Valid notices) {x : Notice} (hl : '/' ∉ x.id.toList)
    (hs : ∀ id payload, x = .status id payload → StatusValid payload)
    (hc : ∀ id con payload, x = .connector id con payload →
      ConnectorValid payload ∧ notices.any (sets (is id)) = true) : Valid (notices ++ [x]) where
  level y hy := (List.mem_append.1 hy).elim (h.level y) (fun hm => List.mem_singleton.1 hm ▸ hl)
  status id payload hm := (List.mem_append.1 hm).elim (h.status id payload)
    (fun hm => hs id payload (List.mem_singleton.1 hm).symm)
  connector id con payload hm := (List.mem_append.1 hm).elim (h.connector id con payload)
    (fun hm => (hc id con payload (List.mem_singleton.1 hm).symm).1)
  follows before id con payload after he := by
    rcases List.eq_nil_or_concat after with rfl | ⟨rest, y, rfl⟩
    · obtain ⟨rfl, hx⟩ := List.append_inj' he rfl
      exact (hc id con payload (List.singleton_inj.1 hx)).2
    · rw [List.concat_eq_append, ← List.cons_append, ← List.append_assoc] at he
      obtain ⟨hn, -⟩ := List.append_inj' he rfl
      exact h.follows before id con payload rest hn

theorem Valid.status_snoc {notices : List Notice} (h : Valid notices) {id : String} (hl : '/' ∉ id.toList) {payload : Payload}
    (hs : StatusValid payload) : Valid (notices ++ [.status id payload]) :=
  h.snoc hl (fun _ _ he => by cases he; exact hs) nofun

theorem Valid.connector_snoc {notices : List Notice} (h : Valid notices) {id : String} (hl : '/' ∉ id.toList) (con : Nat)
    {payload : Payload} (hp : ConnectorValid payload) (hs : notices.any (sets (is id)) = true) :
    Valid (notices ++ [.connector id con payload]) :=
  h.snoc hl nofun (fun _ _ _ he => by cases he; exact ⟨hp, hs⟩)

theorem sampleStatus_valid : StatusValid sampleStatus :=
  ⟨rfl, rfl, fun v hv => by cases hv; exact ⟨_, rfl, fun _ => by decide⟩⟩

/-- **A removal parts the tables**: the supervisor keeps a charge point whose status is emptied. -/
theorem registry_keeps_removed :
    Valid [.status "A" sampleStatus, .status "A" .empty] ∧
      ∀ sys, ¬Agree sys [.status "A" sampleStatus, .status "A" .empty] := by
  have hA : '/' ∉ "A".toList := by decide
  have hv : Valid [.status "A" sampleStatus, .status "A" .empty] :=
    (Valid.nil.status_snoc hA sampleStatus_valid).status_snoc hA trivial
  refine ⟨hv, ?_⟩
  rintro sys ⟨h, -, ha⟩
  have hs : "A" ∈ (ChargePointManager.empty.receiveAll
      (delivered subscriptions [.status "A" sampleStatus, .status "A" .empty])).cps := (hv.mem_registry_iff "A").2 (by decide)
  have hp : present "A" [.status "A" sampleStatus, .status "A" .empty] = false := by decide
  rw [(ha "A").1, hp] at hs
  cases hs

theorem any_of_present {id : String} {notices : List Notice} (h : present id notices = true) :
    notices.any (sets (is id)) = true := by
  have ha := any_of_since h
  rwa [List.any_reverse] at ha

theorem Undisturbed.tabled_eq {notices : List Notice} (hu : Undisturbed notices) (id : String) :
    tabled id notices = present id notices := by
  by_cases h₀ : id = ""
  · subst h₀
    rw [tabled_empty, eq_comm, Bool.eq_false_iff]
    intro hp
    exact absurd (any_of_present hp) (by rw [hu.named]; decide)
  by_cases hc : id = "cps"
  · subst hc
    rw [tabled_cps hu.named]
    cases hp : present "cps" notices with
    | false => rfl
    | true => rw [hu.apart hp, Bool.true_and]
  · exact tabled_of_ne h₀ hc notices

/-- **The launcher and the supervisor agree on the charge points exactly in undisturbed histories.** -/
theorem tables_agree_iff (sys : System) (notices : List Notice) (hv : Valid notices) :
    Agree sys notices ↔ Undisturbed notices := by
  obtain ⟨h, hh, hk⟩ := launcher_table sys notices hv.level hv.status
  constructor
  · rintro ⟨h', hh', ha⟩
    obtain rfl := Except.ok.inj (hh.symm.trans hh')
    have kept : ∀ id, notices.any (sets (is id)) = true → present id notices = true := fun id hs =>
      (ha id).1.1 ((hv.mem_registry_iff id).2 hs)
    have tabled_present : ∀ id, present id notices = true → tabled id notices = true := by
      intro id hp
      have hs := (ha id).2.2 hp
      rwa [hk id] at hs
    have named : notices.any (sets (is "")) = false := by
      rw [Bool.eq_false_iff]
      intro hs
      have ht := tabled_present "" (kept "" hs)
      rw [tabled_empty] at ht
      cases ht
    refine ⟨kept, named, fun hp => ?_⟩
    have ht := tabled_present "cps" hp
    rw [tabled_cps named, Bool.and_eq_true] at ht
    exact ht.2
  · intro hu
    refine ⟨h, hh, fun id => ⟨?_, ?_⟩⟩
    · rw [hv.mem_registry_iff]
      exact ⟨hu.kept id, any_of_present⟩
    · rw [← hu.tabled_eq id, hk id]
      exact Iff.rfl

/-- Two charge points; the first tells of a connector twice and of itself again, the second goes and comes back. -/
def sampleNotices : List Notice :=
  [.status "A" sampleStatus, .connector "A" 1 (.json (.obj [("status", .str "Available")])), .status "B" sampleStatus,
   .connector "A" 1 (.json (.obj [("status", .str "Charging")])), .status "A" sampleStatus, .status "B" .empty,
   .status "B" sampleStatus]

theorem sampleNotices_valid : Valid sampleNotices := by
  have hA : '/' ∉ "A".toList := by decide
  have hB : '/' ∉ "B".toList := by decide
  have hobject : ∀ text, ConnectorValid (.json (.obj [("status", .str text)])) := fun _ => rfl
  have hempty : StatusValid .empty := trivial
  have hfirst := (Valid.nil.status_snoc hA sampleStatus_valid).connector_snoc hA 1 (hobject "Available") rfl
  have hsecond := (hfirst.status_snoc hB sampleStatus_valid).connector_snoc hA 1 (hobject "Charging") rfl
  exact ((hsecond.status_snoc hA sampleStatus_valid).status_snoc hB hempty).status_snoc hB sampleStatus_valid

theorem tables_agree_sample : Agree ⟨id, fun _ _ => true⟩ sampleNotices := by
  refine (tables_agree_iff _ _ sampleNotices_valid).2 ⟨fun id h => ?_, by decide, fun h => by revert h; decide⟩
  have hid : id = "A" ∨ id = "B" := by
    simp only [sampleNotices, sets, is, isEmpty, List.any_cons, List.any_nil] at h
    by_contra hn
    rw [not_or] at hn
    simp [Ne.symm hn.1, Ne.symm hn.2] at h
  rcases hid with rfl | rfl <;> decide

end Registry
