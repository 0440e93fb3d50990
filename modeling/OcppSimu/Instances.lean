import OcppSimu.Removal
/-!
# Instances — one process at a time for each identifier

The guard of `startChargePoints` knows of a process only what its status messages said to this launcher, and what is
wiped may hold the working directories of other identifiers.  So an identifier has one process at a time, and no process
loses its directory, as long as elements and removals come in time (`Entry.InTime`): an element when the last process
launched for its identifier has spoken since, and the launcher has not forgotten what it said, or that was `Dead`; and
what wipes a directory when the last process launched for each identifier that has its directory there was reported
`Dead`.
-/
namespace Launcher

open Hist Paths

/-! ## What the log says of the processes -/

def Entry.pidFor (id : String) : Entry → Option Nat
  | .launched p pid => if p.id = id then some pid else none
  | _ => none

def Entry.launches (id : String) (pid : Nat) (e : Entry) : Bool := decide (e.pidFor id = some pid)

def Entry.saysDead (id : String) (pid : Nat) : Entry → Bool
  | .status c s p => decide (c = id ∧ s = "Dead" ∧ p = pid)
  | _ => false

def launchedFor (id : String) (h : List Entry) : List Nat := h.filterMap (Entry.pidFor id)

/-- **Every process launched for `id` was reported dead since.** -/
def AllDead (id : String) (h : List Entry) : Prop :=
  ∀ pid ∈ launchedFor id h, since (Entry.saysDead id pid) (Entry.launches id pid) h = true

instance (id : String) (h : List Entry) : Decidable (AllDead id h) := List.decidableBAll _ _

/-- The identifiers a process was launched for. -/
def launchedIds (h : List Entry) : List String :=
  h.filterMap (fun e => match e with | .launched p _ => some p.id | _ => none)

/-- Of the identifiers launched so far, those that have their working directory in `dir / id` are all as `P` says. -/
def Wiped (dir : Path) (id : String) (h : List Entry) (P : String → Prop) : Prop :=
  ∀ a ∈ launchedIds h, Wipes dir id a → P a

instance (dir : Path) (id : String) (h : List Entry) (P : String → Prop) [DecidablePred P] : Decidable (Wiped dir id h P) :=
  List.decidableBAll _ _

/-- A process is launched only where every earlier process for its identifier is dead, and a directory wiped only where
this holds of every identifier that has its working directory there. -/
def Entry.AloneIn (dir : Path) : Entry → List Entry → Prop
  | .launched p _, h => AllDead p.id h
  | .cleared id, h => Wiped dir id h (AllDead · h)
  | _, _ => True

instance (dir : Path) : ∀ (e : Entry) (h : List Entry), Decidable (e.AloneIn dir h)
  | .launched p _, h => inferInstanceAs (Decidable (AllDead p.id h))
  | .cleared id, h => inferInstanceAs (Decidable (Wiped dir id h (AllDead · h)))
  | .started, _ | .stopped, _ | .status _ _ _, _ | .removed _, _ | .asked _ _, _ | .killed _ _, _ => isTrue trivial

def OneInstance (dir : Path) (h : List Entry) : Prop := Always (Entry.AloneIn dir) h

instance (dir : Path) (h : List Entry) : Decidable (OneInstance dir h) := Hist.decidableAlways _ h

/-! ## What the launcher was told -/

def lastLaunch (id : String) (h : List Entry) : Option Nat := last (Entry.pidFor id) h

/-- The newest status of `id` since it was last launched: whose it is, and whether it is alive. -/
def spoke (id : String) : List Entry → Option (Nat × Bool)
  | [] => none
  | .launched p _ :: h => if p.id = id then none else spoke id h
  | .status c s pid :: h => if c = id then some (pid, decide (s ≠ "Dead")) else spoke id h
  | _ :: h => spoke id h

/-- What the last process launched for `id` has said of itself, where the newest status of `id` is its own. -/
def lastWord (id : String) (h : List Entry) : Option Bool :=
  match lastLaunch id h, spoke id h with
  | some p, some (q, alive) => if p = q then some alive else none
  | _, _ => none

def Entry.statusOf (id : String) : Entry → Bool
  | .status c _ _ => decide (c = id)
  | _ => false

def Entry.forgets (id : String) : Entry → Bool
  | .started => true
  | .removed c => decide (c = id)
  | _ => false

/-- The launcher has not been started again, and `id` not been removed, since a status of `id`. -/
def remembered (id : String) (h : List Entry) : Bool := since (Entry.statusOf id) (Entry.forgets id) h

/-- No process was launched for `id`, or the last one has said of itself that it is dead. -/
def Silent (id : String) (h : List Entry) : Prop := lastLaunch id h = none ∨ lastWord id h = some false

instance (id : String) (h : List Entry) : Decidable (Silent id h) := instDecidableOr

/-- **An element, and a removal, come in time.**  An element that the launcher knows to run is passed over. -/
def Entry.InTime (dir : Path) : Entry → List Entry → Prop
  | .asked id cleanEnv, h => (lastWord id h = some true ∧ remembered id h = true) ∨
      (Silent id h ∧ (cleanEnv = true → Wiped dir id h (Silent · h)))
  | .removed id, h => Wiped dir id h (Silent · h)
  | _, _ => True

instance (dir : Path) : ∀ (e : Entry) (h : List Entry), Decidable (e.InTime dir h)
  | .asked _ _, _ => instDecidableOr
  | .removed id, h => inferInstanceAs (Decidable (Wiped dir id h (Silent · h)))
  | .started, _ | .stopped, _ | .status _ _ _, _ | .cleared _, _ | .launched _ _, _ | .killed _ _, _ => isTrue trivial

def InTime (dir : Path) (h : List Entry) : Prop := Always (Entry.InTime dir) h

instance (dir : Path) (h : List Entry) : Decidable (InTime dir h) := Hist.decidableAlways _ h

/-! ## Histories -/

theorem launchedFor_cons_of_not {id : String} {e : Entry} {h : List Entry} (he : e.pidFor id = none) :
    launchedFor id (e :: h) = launchedFor id h := by
  rw [launchedFor, List.filterMap_cons_none he]
  rfl

theorem AllDead.cons {id : String} {e : Entry} {h : List Entry} (he : e.pidFor id = none) (hd : AllDead id h) :
    AllDead id (e :: h) := by
  intro pid hp
  rw [launchedFor_cons_of_not he] at hp
  apply since_cons_of_not_kill _ (hd pid hp)
  simp [Entry.launches, he]

/-- **What goes with a directory stays** after an entry that launches nothing. -/
theorem Wiped.cons {dir : Path} {id : String} {e : Entry} {h : List Entry} {P Q : String → Prop}
    (he : ∀ a, e.pidFor a = none) (hPQ : ∀ a, P a → Q a) (hw : Wiped dir id h P) : Wiped dir id (e :: h) Q := by
  have hl : launchedIds (e :: h) = launchedIds h := by
    cases e with
    | launched p pid =>
      have hn := he p.id
      rw [Entry.pidFor, if_pos rfl] at hn
      cases hn
    | _ => rfl
  unfold Wiped at hw ⊢
  rw [hl]
  exact fun a ha hd => hPQ a (hw a ha hd)

section
variable {dir : Path}

/-- **Where there was one process at a time, all but the last are dead.** -/
theorem dead_or_last {id : String} {h : List Entry} (ho : OneInstance dir h) {pid : Nat} (hp : pid ∈ launchedFor id h) :
    lastLaunch id h = some pid ∨ since (Entry.saysDead id pid) (Entry.launches id pid) h = true := by
  induction ho with
  | nil => cases hp
  | @cons e h ha _ ih =>
    cases he : e.pidFor id with
    | none =>
      rw [launchedFor_cons_of_not he] at hp
      rw [lastLaunch, last_cons, he, Option.none_or]
      rcases ih hp with hl | hd
      · exact .inl hl
      · exact .inr (since_cons_of_not_kill (by simp [Entry.launches, he]) hd)
    | some q =>
      rw [lastLaunch, last_cons, he, Option.some_or]
      by_cases hq : q = pid
      · exact .inl (congrArg some hq)
      · rw [launchedFor, List.filterMap_cons_some he] at hp
        have hp' : pid ∈ launchedFor id h := (List.mem_cons.1 hp).resolve_left (fun hpq => hq hpq.symm)
        -- a later process was launched, and when it was, this one was dead
        have hdead : AllDead id h := by
          cases e with
          | launched p r =>
            by_cases hid : p.id = id
            · exact hid ▸ ha
            · rw [Entry.pidFor, if_neg hid] at he
              cases he
          | _ => cases he
        exact .inr (since_cons_of_not_kill (by simp [Entry.launches, he, hq]) (hdead pid hp'))

theorem dead_of_spoke {id : String} {pid : Nat} : ∀ {h : List Entry}, spoke id h = some (pid, false) →
    since (Entry.saysDead id pid) (Entry.launches id pid) h = true
  | [], hs => by cases hs
  | .launched p q :: h, hs => by
    by_cases hid : p.id = id
    · rw [spoke, if_pos hid] at hs
      cases hs
    · rw [spoke, if_neg hid] at hs
      exact since_cons_of_not_kill (by simp [Entry.launches, Entry.pidFor, hid]) (dead_of_spoke hs)
  | .status c s q :: h, hs => by
    by_cases hid : c = id
    · rw [spoke, if_pos hid] at hs
      obtain ⟨rfl, hd⟩ := Prod.mk.inj (Option.some.inj hs)
      apply since_cons_of_hit
      simpa [Entry.saysDead, hid] using hd
    · rw [spoke, if_neg hid] at hs
      exact since_cons_of_not_kill rfl (dead_of_spoke hs)
  | .started :: h, hs | .stopped :: h, hs | .removed _ :: h, hs | .asked _ _ :: h, hs | .cleared _ :: h, hs
  | .killed _ _ :: h, hs => since_cons_of_not_kill rfl (dead_of_spoke (h := h) hs)

/-- **Told of the end of the last process, the launcher has been told of all.** -/
theorem allDead_of_silent {id : String} {h : List Entry} (ho : OneInstance dir h) (ht : Silent id h) : AllDead id h := by
  intro pid hp
  rcases dead_or_last ho hp with hl | hd
  · rcases ht with hn | hw
    · cases hl.symm.trans hn
    · unfold lastWord at hw
      rw [hl] at hw
      cases hs : spoke id h with
      | none => rw [hs] at hw; cases hw
      | some r =>
        obtain ⟨q, alive⟩ := r
        rw [hs] at hw
        by_cases hq : pid = q
        · simp only [if_pos hq, Option.some.injEq] at hw
          subst hq hw
          exact dead_of_spoke hs
        · simp [hq] at hw
  · exact hd

/-! ## The invariant -/

/-- **The map recalls who lives**: where the newest status since the last launch says that a process is alive, and is
remembered, the map says so too. -/
def Recalls (m : String → Option Bool) (h : List Entry) : Prop :=
  ∀ id pid, spoke id h = some (pid, true) → remembered id h = true → m id = some true

theorem Recalls.cons {m : String → Option Bool} {e : Entry} {h : List Entry} (he : ∀ id, e.statusOf id = false)
    (hr : Recalls m h) : Recalls m (e :: h) := by
  intro id pid hs hm
  have hs' : spoke id h = some (pid, true) := by
    cases e with
    | launched p q =>
      by_cases hid : p.id = id
      · rw [spoke, if_pos hid] at hs
        cases hs
      · rwa [spoke, if_neg hid] at hs
    | status c s q =>
      have hc : decide (c = c) = false := he c
      simp at hc
    | _ => exact hs
  have hm' : remembered id h = true := by
    rw [remembered, since_cons, he id, Bool.false_or, Bool.and_eq_true] at hm
    exact hm.2
  exact hr id pid hs' hm'

structure Told (dir : Path) (h : Host) : Prop where
  recalls : Recalls h.handler.cpStatus h.log
  alone : InTime dir h.log → OneInstance dir h.log

theorem Told.initial : Told dir Host.initial := ⟨fun _ _ hs => (by cases hs), fun _ => .nil⟩

theorem Told.note {h : Host} {e : Entry} (hs : ∀ id, e.statusOf id = false) (ha : ∀ l, e.AloneIn dir l)
    (ht : Told dir h) : Told dir (h.note e) := ⟨ht.recalls.cons hs, fun hi => .cons (ha _) (ht.alone hi.tail)⟩

theorem Told.statusReceived {h : Host} (c s : String) (pid : Nat) (ht : Told dir h) : Told dir (h.statusReceived c s pid) := by
  refine ⟨fun id q hs hm => ?_, fun hi => .cons trivial (ht.alone hi.tail)⟩
  show Function.update h.handler.cpStatus c (some (decide (s ≠ "Dead"))) id = some true
  have hs' : (if c = id then some (pid, decide (s ≠ "Dead")) else spoke id h.log) = some (q, true) := hs
  by_cases hid : c = id
  · subst hid
    rw [if_pos rfl] at hs'
    rw [Function.update_self, (Prod.mk.inj (Option.some.inj hs')).2]
  · rw [if_neg hid] at hs'
    rw [Function.update_of_ne (Ne.symm hid)]
    apply ht.recalls id q hs'
    have hm' : (decide (c = id) || (true && remembered id h.log)) = true := hm
    simpa [hid] using hm'

theorem Told.removeChargePoint {h : Host} (c : String) (ht : Told dir h) : Told dir (h.removeChargePoint c) := by
  refine ⟨fun id q hs hm => ?_, fun hi => ?_⟩
  · show Function.update h.handler.cpStatus c none id = some true
    have hm' : (!decide (c = id) && remembered id h.log) = true := hm
    by_cases hid : c = id
    · simp [hid] at hm'
    · rw [Function.update_of_ne (Ne.symm hid)]
      exact ht.recalls id q hs (by simpa [hid] using hm')
  · have ho := ht.alone hi.tail.tail
    have hsilent : Wiped dir c h.log (Silent · h.log) := hi.tail.head
    exact .cons (hsilent.cons (fun _ => rfl) (fun _ hs => (allDead_of_silent ho hs).cons rfl)) (.cons trivial ho)

theorem Told.readStatus {h : Host} (id : String) (ht : Told dir h) : Told dir (h.readStatus id) := by
  refine ⟨fun i q hs hm => ?_, ht.alone⟩
  have hr := ht.recalls i q hs hm
  show Function.update h.handler.cpStatus id (some ((h.handler.cpStatus id).getD false)) i = some true
  by_cases hid : i = id
  · subst hid
    rw [Function.update_self, hr]
    rfl
  · rw [Function.update_of_ne hid]
    exact hr

theorem Told.started {h : Host} (b : Bool) (ht : Told dir h) :
    Told dir ({ h with running := b, handler := {} }.note .started) :=
  ⟨fun _ _ _ hm => (by cases hm), fun hi => .cons trivial (ht.alone hi.tail)⟩

/-! ## The commands -/

variable {sys : System}

/-- The guard lets an element that comes in time in only where no process lives. -/
theorem Told.silent {h : Host} {id : String} {cleanEnv : Bool} (ht : Told dir h) (hg : h.handler.cpStatus id ≠ some true)
    (hi : InTime dir (.asked id cleanEnv :: h.log)) :
    Silent id h.log ∧ (cleanEnv = true → Wiped dir id h.log (Silent · h.log)) := by
  rcases hi.head with ⟨hw, hm⟩ | hs
  · -- the last process lives and is remembered, so the guard would have held the element back
    exfalso
    unfold lastWord at hw
    split at hw
    · rename_i q r alive _ hs
      by_cases hq : q = r
      · simp only [if_pos hq, Option.some.injEq] at hw
        subst hw
        exact hg (ht.recalls id r hs hm)
      · simp [hq] at hw
    · cases hw
  · exact hs

/-- **An element that comes in time launches a process where there is none.** -/
theorem Told.startChargePoint {h : Host} (cleanEnv : Bool) (e : Element) (ht : Told dir h) :
    Told dir (h.startChargePoint sys cleanEnv e).1 := by
  unfold Host.startChargePoint
  cases e.parameters with
  | none => exact ht
  | some p =>
    have hasked : Told dir (h.note (.asked p.id cleanEnv)) := ht.note (fun _ => rfl) (fun _ => trivial)
    dsimp only
    by_cases hg : (h.note (.asked p.id cleanEnv)).handler.cpStatus p.id = none ∨
        (h.note (.asked p.id cleanEnv)).handler.cpStatus p.id = some false
    · have hnot : h.handler.cpStatus p.id ≠ some true := by
        intro hs
        rw [Host.handler_note, hs] at hg
        simp at hg
      rw [if_pos hg]
      cases cleanEnv with
      | true =>
        refine ⟨((hasked.recalls.cons (fun _ => rfl)).cons (fun _ => rfl)), fun hi => ?_⟩
        obtain ⟨hs, hw⟩ := ht.silent hnot hi.tail.tail
        have ho := ht.alone hi.tail.tail.tail
        have hd : AllDead p.id (.asked p.id true :: h.log) := (allDead_of_silent ho hs).cons rfl
        have hwiped : Wiped dir p.id (.asked p.id true :: h.log) (AllDead · (.asked p.id true :: h.log)) :=
          (hw rfl).cons (fun _ => rfl) (fun _ hs => (allDead_of_silent ho hs).cons rfl)
        exact .cons (hd.cons rfl) (.cons hwiped (hasked.alone hi.tail.tail))
      | false =>
        refine ⟨hasked.recalls.cons (fun _ => rfl), fun hi => ?_⟩
        obtain ⟨hs, -⟩ := ht.silent hnot hi.tail
        exact .cons ((allDead_of_silent (ht.alone hi.tail.tail) hs).cons rfl) (hasked.alone hi.tail)
    · rw [if_neg hg]
      exact hasked

theorem Told.startChargePoints {h : Host} (cleanEnv : Bool) (l : List Element) (ht : Told dir h) :
    Told dir (h.startChargePoints sys cleanEnv l).1 :=
  List.foldlRecOn (motive := fun acc : Host × Nat => Told dir acc.1) l _ ht (fun _ hacc e _ => hacc.startChargePoint cleanEnv e)

theorem Told.killChargePoint {h : Host} (e : Element) (ht : Told dir h) : Told dir (h.killChargePoint sys e).1 := by
  unfold Host.killChargePoint
  cases e.id with
  | none => exact ht
  | some id =>
    dsimp only
    cases h.handler.cpPids id with
    | none => exact ht
    | some pid =>
      dsimp only
      split
      · exact (ht.readStatus id).note (fun _ => rfl) (fun _ => trivial)
      · exact ht.readStatus id

theorem Told.killChargePoints {h : Host} (l : List Element) (ht : Told dir h) : Told dir (h.killChargePoints sys l).1 :=
  List.foldlRecOn (motive := fun acc : Host × Nat => Told dir acc.1) l _ ht (fun _ hacc e _ => hacc.killChargePoint e)

theorem Told.mqttMessageReceived {h : Host} (m : Message) (ht : Told dir h) : Told dir (h.mqttMessageReceived sys m) := by
  cases m with
  | close => exact ⟨ht.recalls, ht.alone⟩
  | start l => exact ht.startChargePoints true l
  | kill l => exact ht.killChargePoints l
  | restart l => exact ht.startChargePoints false l
  | status c s pid => exact ht.statusReceived c s pid
  | empty c => exact ht.removeChargePoint c
  | other => exact ht

theorem Told.step {h : Host} (e : Event) (ht : Told dir h) : Told dir (h.step sys e) := by
  cases e with
  | start config =>
    cases config with
    | none => exact ht.started true
    | invalid => exact ht.started false
    | chargePoints l => exact (ht.started true).startChargePoints true l
  | stop => exact ⟨ht.recalls.cons (fun _ => rfl), fun hi => .cons trivial (ht.alone hi.tail)⟩
  | message m =>
    show Told dir (if h.running then h.mqttMessageReceived sys m else h)
    split
    · exact ht.mqttMessageReceived m
    · exact ht

theorem Told.run {h : Host} (events : List Event) (ht : Told dir h) : Told dir (h.run sys events) :=
  List.foldlRecOn (motive := Told dir) events _ ht (fun _ hh e _ => hh.step e)

end

/-- **One process at a time**: in every run in which elements and removals come in time, a process is launched for an
identifier, and its working directory wiped, only when every process launched for it was reported dead since. -/
theorem oneInstance_of_inTime (dir : Path) (sys : System) (events : List Event)
    (hi : InTime dir (Host.initial.run sys events).log) : OneInstance dir (Host.initial.run sys events).log :=
  (Told.initial.run events).alone hi

def System.sample : System := ⟨fun n => 100 + n, fun _ _ => true⟩

def Element.sample (id : String) : Element where
  id := some id
  type := some "AC"
  vendor := some "vendor"
  model := some "model"
  serial := some "serial"
  centralSystem := some "ws://localhost:8080"
  nbConnectors := some 1
  nbPhases := some 3
  maxSetpoint := some 32
  maxSetpointPerConnector := some 16
  voltage := some 230

def sampleDir : Path := "/wd/chargepoints".toList

/-- A charge point is started, killed, and started again, beside another. -/
theorem oneInstance_of_inTime_restart :
    let log := (Host.initial.run .sample [.start .none, .message (.start [.sample "A", .sample "B"]),
      .message (.status "A" "Accepted" 100), .message (.start [.sample "A"]), .message (.kill [.sample "A"]),
      .message (.status "A" "Dead" 100), .message (.restart [.sample "A"])]).log
    launchedFor "A" log = [102, 100] ∧ OneInstance sampleDir log :=
  ⟨by decide +kernel, oneInstance_of_inTime sampleDir .sample _ (by decide +kernel)⟩

/-- **Named twice in one list, a charge point is launched twice**, and the second time over the directory of the
first; and a start of another name of its directory wipes it while it runs. -/
theorem two_instances_of_repeated_id :
    let log := (Host.initial.run .sample [.start .none, .message (.start [.sample "A", .sample "A"])]).log
    let wiped := (Host.initial.run .sample [.start .none, .message (.start [.sample "A"]),
      .message (.status "A" "Accepted" 100), .message (.start [.sample "./A"])]).log
    launchedFor "A" log = [101, 100] ∧ ¬OneInstance sampleDir log ∧
      launchedFor "A" wiped = [100] ∧ ¬OneInstance sampleDir wiped := by
  decide +kernel

end Launcher
