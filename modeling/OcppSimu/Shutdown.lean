import OcppSimu.Status
/-!
# Shutdown — how the two threads end

A close command sets `m_end`.  `MqttManager::start` then publishes `Dead` and deletes the client; the loop tests `m_end`
at the end of an iteration, and until then uses the client as ever.  Nothing makes either thread wait for the other, so
the loop may publish its status after `Dead`, and may call a client that is gone.  The log tells where in its round the
loop is (`phase`); what the order of the steps has to heed for a clean end is said entry by entry (`Heeds`), and
`clean_of_heeds` follows it through every interleaving of `SimulatedChargePoint::start` with the other threads.
-/
namespace Simu

open Hist Script

/-! ## What the log says of the end -/

def Entry.asksEnd : Entry → Bool
  | .event .closeCommand => true
  | _ => false

def Entry.opens : Entry → Bool
  | .mqttOpened => true
  | _ => false

def Entry.closes : Entry → Bool
  | .mqttClosed => true
  | _ => false

def Entry.callsClient : Entry → Bool
  | .published _ _ | .publishStatus _ | .publishData _ => true
  | _ => false

/-- The loop is to publish its status and finds the client connected. -/
def Entry.looks : Entry → Bool
  | .publishStatus connected => connected
  | _ => false

/-- A publication on the status topic, whether or not it succeeds. -/
def Entry.onStatusTopic : Entry → Bool
  | .published (.status _) _ => true
  | _ => false

/-- A message sent on the status topic, and whether it is `Dead`. -/
def Entry.statusSent : Entry → Option Bool
  | .published (.status m) true => some (decide (m.status = "Dead"))
  | _ => none

/-- A `Dead` that is not sent. -/
def Entry.deadLost : Entry → Bool
  | .published (.status m) false => decide (m.status = "Dead")
  | _ => false

/-- `MqttManager::start` has found `m_end` not set, and goes on to close the client. -/
def Entry.goesToClose : Entry → Bool
  | .mqttEndTested ended => !ended
  | _ => false

/-- An entry that says nothing of the client and of the end. -/
def Entry.silent (e : Entry) : Bool := !e.asksEnd && !e.opens && !e.goesToClose && !e.closes && !e.onStatusTopic

def endAsked (h : List Entry) : Bool := h.any Entry.asksEnd

def clientOpen (h : List Entry) : Bool := since Entry.opens Entry.closes h

/-- The client is about to be closed, whatever is asked for. -/
def closing (h : List Entry) : Bool := since Entry.goesToClose Entry.closes h

/-- **The client was released**: it was closed after the end was asked for. -/
def released : List Entry → Bool
  | [] => false
  | e :: h => (e.closes && endAsked h) || released h

/-- **The last status message sent is `Dead`.** -/
def lastDead (h : List Entry) : Bool := (last Entry.statusSent h).getD false

/-- The loop has found the client connected and has not yet published its status. -/
def aboutToPublish (h : List Entry) : Bool := since Entry.looks Entry.onStatusTopic h

/-- **Where the loop is**: in the inner loop or before it, in its tests, in an iteration, at the last publication of one
with some connectors to go, in the test that ends it, or out of it, before the tests of `start`. -/
inductive Phase
  | round | asked | askedTwice | iterates
  | publishes (left : Nat)
  | leaving | left | stopping | over
  deriving DecidableEq

/-- An iteration has used the client for the last time, or the loop is over. -/
def Phase.final : Phase → Bool
  | .publishes 0 | .left | .stopping | .over => true
  | _ => false

section

variable (cp : SimulatedChargePoint)

def Phase.next (ph : Phase) (e : Entry) : Phase :=
  match ph, e with
  | .round, .isEndOfApplication b => if b then .iterates else .asked
  | .asked, .isResetPending b => if b then .iterates else .askedTwice
  | .askedTwice, .getRegistrationStatus s => if s = .accepted then .iterates else .round
  | .iterates, .publishData b => .publishes (if b then cp.ids.length else 0)
  | .publishes (n + 1), .published (.connector _ _) _ => .publishes n
  | .publishes 0, .isEndOfApplication b => if b then .left else .leaving
  | .leaving, .isResetPending b => if b then .left else .round
  | .left, .isResetPending _ => .stopping
  | .stopping, .isResetPending b => if b then .round else .over
  | ph, _ => ph

def phase : List Entry → Phase
  | [] => .round
  | e :: h => (phase h).next cp e

/-- **What the order of the steps has to heed**: a close command reaches an open client that is not about to be closed;
`Dead` can be sent; the loop does not find its status to be published after `Dead`, nor is `Dead` published while it is
about to publish its own; the client is released when an iteration has used it for the last time; and `start` does not
begin anew after that. -/
structure Heeds (e : Entry) (past : List Entry) : Prop where
  asked : e.asksEnd = true → clientOpen past = true ∧ closing past = false
  sent : e.deadLost = false
  looks : e.looks = true → lastDead past = false
  dead : e.statusSent = some true → aboutToPublish past = false
  release : e.closes = true → endAsked past = true → (phase cp past).final = true
  again : e = .isResetPending true → released past = true → phase cp past ≠ .stopping

/-- **The client is not called once it is released, and the last status message then is `Dead`.** -/
structure Clean (e : Entry) (past : List Entry) : Prop where
  unused : released past = true → e.callsClient = false
  dead : released (e :: past) = true → lastDead (e :: past) = true

/-- **The process ends cleanly**, at every moment of the history. -/
def CleanShutdown (h : List Entry) : Prop := Always Clean h

instance (e : Entry) (past : List Entry) : Decidable (Heeds cp e past) :=
  decidable_of_iff ((e.asksEnd = true → clientOpen past = true ∧ closing past = false) ∧ e.deadLost = false ∧
      (e.looks = true → lastDead past = false) ∧ (e.statusSent = some true → aboutToPublish past = false) ∧
      (e.closes = true → endAsked past = true → (phase cp past).final = true) ∧
      (e = .isResetPending true → released past = true → phase cp past ≠ .stopping))
    ⟨fun ⟨h₁, h₂, h₃, h₄, h₅, h₆⟩ => ⟨h₁, h₂, h₃, h₄, h₅, h₆⟩, fun ⟨h₁, h₂, h₃, h₄, h₅, h₆⟩ => ⟨h₁, h₂, h₃, h₄, h₅, h₆⟩⟩

instance (e : Entry) (past : List Entry) : Decidable (Clean e past) :=
  decidable_of_iff ((released past = true → e.callsClient = false) ∧ (released (e :: past) = true → lastDead (e :: past) = true))
    ⟨fun ⟨h₁, h₂⟩ => ⟨h₁, h₂⟩, fun ⟨h₁, h₂⟩ => ⟨h₁, h₂⟩⟩

instance (h : List Entry) : Decidable (CleanShutdown h) := decidableAlways Clean h

/-- The entries of the other threads, and those on the status topic, do not move the loop. -/
theorem Phase.next_of_other {cp : SimulatedChargePoint} (ph : Phase) {e : Entry}
    (he : e = .event .closeCommand ∨ e = .mqttOpened ∨ (∃ b, e = .mqttEndTested b) ∨ e = .mqttClosed ∨
      ∃ m b, e = .published (.status m) b) : ph.next cp e = ph := by
  rcases he with rfl | rfl | ⟨b, rfl⟩ | rfl | ⟨m, b, rfl⟩ <;> cases ph with
  | publishes n => cases n <;> rfl
  | _ => rfl

/-! ## `SimulatedChargePoint::start` -/

def clearResetPending : M Unit :=
  call (World.tick cp) (fun _ w => ((), { w with handler := { w.handler with resetPending := false } }))

/-- The begin of a pass of `start`: the loop's variables are new in each. -/
def beginPass : M Unit := do
  clearResetPending cp
  update (fun w => { w with vars := {} })

/-- A round of the loop, and where that ends it the tests of `start`: the first is for a pause, the second for a new
pass. -/
def startRound : M Bool := do
  if ← loopRound cp then pure true
  else
    let _ ← isResetPending cp
    let again ← isResetPending cp
    (if again then beginPass cp else pure ())
    pure again

/-- **`start`**, for up to `k` rounds of its loops. -/
def SimulatedChargePoint.start (k : Nat) : M Unit := do
  beginPass cp
  rounds (startRound cp) k

def afterStart (k : Nat) (w : World) (script : List Tick) : World := (cp.start k (w, script)).2.1

end

/-! ## The ending -/

structure Ending where
  ended : Bool
  pc : StartPc
  client : Bool
  history : List Entry

def Entry.ofEnding : Entry → Bool
  | .event .closeCommand | .mqttOpened | .mqttEndTested _ | .mqttClosed | .published _ _ | .publishStatus _
  | .publishData _ | .isEndOfApplication _ | .isResetPending _ | .getRegistrationStatus _ => true
  | _ => false

def World.ending (w : World) : Ending where
  ended := w.mqtt.ended
  pc := w.mqtt.pc
  client := w.mqtt.client
  history := w.log.filter Entry.ofEnding

/-- `MqttManager::start` is at work on its connection. -/
def StartPc.works : StartPc → Bool
  | .connect | .subscribe _ | .ready | .retry => true
  | _ => false

/-- It has not come to its last test yet, nor published `Dead`. -/
def StartPc.before : StartPc → Bool
  | .close | .farewell => true
  | pc => pc.works

namespace Ending

def note (l : Ending) (e : Entry) : Ending := { l with history := e :: l.history }

/-- **One step of the other threads**, as the ending sees it. -/
inductive Env (cp : SimulatedChargePoint) (l : Ending) : Ending → Prop
  | asked : Env cp l ({ l with ended := true }.note (.event .closeCommand))
  | opened (hp : l.pc = .connect) (hc : l.client = false) :
    Env cp l ({ l with client := true, pc := .subscribe 0 }.note .mqttOpened)
  | works (pc : StartPc) (hp : l.pc.works = true) (hq : pc.works = true) : Env cp l { l with pc := pc }
  | tested (hp : l.pc = .retry) :
    Env cp l ({ l with pc := if l.ended then .farewell else .close }.note (.mqttEndTested l.ended))
  | closed (hp : l.pc = .close) : Env cp l ({ l with client := false, pc := .loopTest }.note .mqttClosed)
  | dead (hp : l.pc = .farewell) (he : l.ended = true) (b : Bool) :
    Env cp l ({ l with pc := .loopTest }.note (.published (.status (will cp)) b))
  | again (hp : l.pc = .loopTest) (he : l.ended = false) : Env cp l { l with pc := .connect }
  | ends (hp : l.pc = .loopTest) (he : l.ended = true) : Env cp l { l with pc := .release }
  | released (hp : l.pc = .release) : Env cp l ({ l with client := false, pc := .released }.note .mqttClosed)

def Closed (cp : SimulatedChargePoint) (P : Ending → Prop) : Prop := ∀ l l', Env cp l l' → P l → P l'

end Ending

theorem ending_note (w : World) (e : Entry) :
    (w.note e).ending = if e.ofEnding then w.ending.note e else w.ending := by
  by_cases h : e.ofEnding = true <;> simp [World.ending, World.note, Ending.note, h]

theorem ending_note_of_ofEnding {w : World} {e : Entry} (h : e.ofEnding = true) : (w.note e).ending = w.ending.note e := by
  rw [ending_note, if_pos h]

theorem ending_note_of_not {w : World} {e : Entry} (h : e.ofEnding = false) : (w.note e).ending = w.ending := by
  rw [ending_note, h]
  rfl

theorem ending_mqttStartStep (cp : SimulatedChargePoint) (w : World) (b : Bool) :
    (mqttStartStep cp w b).ending = w.ending ∨ Ending.Env cp w.ending (mqttStartStep cp w b).ending := by
  unfold mqttStartStep
  split
  · rename_i hp
    split
    · rename_i hb
      exact .inr (by rw [ending_note_of_ofEnding rfl]; exact .opened hp hb.2)
    · exact .inr (.works .retry (by show w.mqtt.pc.works = true; rw [hp]; rfl) rfl)
  · rename_i i hp
    have hw : w.ending.pc.works = true := by show w.mqtt.pc.works = true; rw [hp]; rfl
    split
    · refine .inr (.works (if i = 3 then .ready else .subscribe (i + 1)) hw ?_)
      split <;> rfl
    · exact .inr (.works .retry hw rfl)
  · rename_i hp
    split
    · exact .inl rfl
    · exact .inr (.works .retry (by show w.mqtt.pc.works = true; rw [hp]; rfl) rfl)
  · rename_i hp
    exact .inr (by rw [ending_note_of_ofEnding rfl]; exact .tested hp)
  · rename_i hp
    exact .inr (by rw [ending_note_of_ofEnding rfl]; exact .closed hp)
  · rename_i hp
    have he : w.ending.ended = true := w.mqtt.farewell hp
    split <;> exact .inr (by rw [ending_note_of_ofEnding rfl]; exact .dead hp he _)
  · rename_i hp
    by_cases he : w.mqtt.ended = false
    · have hn : Ending.Env cp w.ending _ := .again hp he
      exact .inr (by simpa [World.ending, MqttManager.goOn, he] using hn)
    · have hn : Ending.Env cp w.ending _ := .ends hp (Bool.eq_true_of_not_eq_false he)
      exact .inr (by simpa [World.ending, MqttManager.goOn, he] using hn)
  · rename_i hp
    exact .inr (by rw [ending_note_of_ofEnding rfl]; exact .released hp)
  · exact .inl rfl

theorem step_ending (cp : SimulatedChargePoint) (w : World) (e : Event) :
    (w.step cp e).ending = w.ending ∨ Ending.Env cp w.ending (w.step cp e).ending := by
  have other : ∀ {w' : World} {x : Entry}, x.ofEnding = false → w'.ending = w.ending → (w'.note x).ending = w.ending :=
    fun hx hw => by rw [ending_note_of_not hx, hw]
  cases e with
  | carMessage c p | idTagMessage c id | faultedMessage c b =>
    left
    simp only [World.step]
    split
    · exact other rfl rfl
    · rfl
  | closeCommand => exact .inr (by rw [World.step, ending_note_of_ofEnding rfl]; exact .asked)
  | remoteStartTransactionRequested c idTag =>
    left
    simp only [World.step, remoteStartTransactionRequested]
    split <;> exact other rfl rfl
  | brokerLost =>
    left
    simp only [World.step]
    split
    · exact other rfl rfl
    · rfl
  | mqttStartStep b => exact ending_mqttStartStep cp w b
  | _ => exact .inl (other rfl rfl)

theorem Ending.Closed.tick {cp : SimulatedChargePoint} {P : Ending → Prop} (hP : Ending.Closed cp P) (t : Tick) (w : World)
    (h : P w.ending) : P (w.tick cp t).ending := by
  refine tick_keeps (I := fun w => P w.ending) (fun w e h => ?_) t h
  rcases step_ending cp w e with hw | hw
  · rw [hw]
    exact h
  · exact hP _ _ hw h

theorem blind_ending (d : Nat) : Blind World.ending d where
  noted _ _ he _ := ending_note_of_not (by
    have hn : ∀ {e : Entry}, e.ofEnding = true → e.about = none := by
      intro e h
      unfold Entry.ofEnding at h
      split at h <;> first | rfl | cases h
    cases h : Entry.ofEnding _ with
    | false => rfl
    | true => rw [hn h] at he; cases he)
  connector _ _ := rfl
  mqtt _ _ := rfl
  meter _ _ := rfl
  status _ _ := rfl
  start _ _ := rfl
  stop _ _ := rfl

theorem statusSent_of_not {e : Entry} (h : e.onStatusTopic = false) : e.statusSent = none := by
  unfold Entry.onStatusTopic at h
  unfold Entry.statusSent
  split at h
  · cases h
  · rename_i hn
    split
    · exact absurd rfl (hn _ _)
    · rfl

/-! ## The invariant -/

namespace Ending

variable {cp : SimulatedChargePoint} {l l' : Ending}

/-- **What holds of the ending**, as long as the order of the steps has heeded what it has to. -/
structure Good (cp : SimulatedChargePoint) (l : Ending) : Prop where
  asked : endAsked l.history = l.ended
  opened : clientOpen l.history = l.client
  committed : Simu.closing l.history = decide (l.pc = .close)
  gone : Simu.released l.history = decide (l.pc = .released)
  closing : l.pc = .close → l.ended = false
  idle : l.client = false → l.ended = true → l.pc = .released
  begun : l.pc = .loopTest → l.ended = false → l.client = false
  ends : l.pc = .release ∨ l.pc = .released → l.ended = true
  dead : l.pc = .loopTest ∨ l.pc = .release ∨ l.pc = .released → l.ended = true → lastDead l.history = true
  final : l.pc = .released → (phase cp l.history).final = true
  clean : CleanShutdown l.history

theorem Good.initial : Good cp ⟨false, .connect, false, []⟩ where
  asked := rfl
  opened := rfl
  committed := rfl
  gone := rfl
  closing h := by cases h
  idle _ h := by cases h
  begun h := by cases h
  ends h := by rcases h with h | h <;> cases h
  dead h := by rcases h with h | h | h <;> cases h
  final h := by cases h
  clean := .nil

/-- What the loop adds without a word on the status topic keeps the invariant, unless the client is gone: then it may not
be a call of the client, and the loop stays where it does not come to one. -/
theorem Good.note (hg : Good cp l) {e : Entry} (he : e.silent = true)
    (hr : l.pc = .released → e.callsClient = false ∧ ((phase cp l.history).next cp e).final = true) : Good cp (l.note e) := by
  simp only [Entry.silent, Bool.and_eq_true, Bool.not_eq_true'] at he
  obtain ⟨⟨⟨⟨ha, ho⟩, hk⟩, hc⟩, hs⟩ := he
  have hgone : Simu.released (e :: l.history) = Simu.released l.history := by
    rw [Simu.released, hc, Bool.false_and, Bool.false_or]
  have hdead : lastDead (e :: l.history) = lastDead l.history := by
    unfold lastDead
    rw [last_cons, statusSent_of_not hs, Option.none_or]
  refine ⟨?_, ?_, ?_, hgone.trans hg.gone, hg.closing, hg.idle, hg.begun, hg.ends, fun h he => hdead.trans (hg.dead h he),
    fun h => (hr h).2, .cons ⟨fun h => ?_, fun h => ?_⟩ hg.clean⟩
  · show endAsked (e :: l.history) = l.ended
    rw [endAsked, List.any_cons, ha, Bool.false_or]
    exact hg.asked
  · show clientOpen (e :: l.history) = l.client
    rw [clientOpen, since_cons, ho, hc, Bool.not_false, Bool.false_or, Bool.true_and]
    exact hg.opened
  · show Simu.closing (e :: l.history) = decide (l.pc = .close)
    rw [Simu.closing, since_cons, hk, hc, Bool.not_false, Bool.false_or, Bool.true_and]
    exact hg.committed
  · rw [hg.gone] at h
    exact (hr (of_decide_eq_true h)).1
  · rw [hgone, hg.gone] at h
    rw [hdead]
    exact hg.dead (.inr (.inr (of_decide_eq_true h))) (hg.ends (.inr (of_decide_eq_true h)))

theorem Good.alive (hg : Good cp l) (hp : l.pc ≠ .released) : l.client = false → l.ended = false := by
  intro hc
  rw [← Bool.not_eq_true]
  exact fun he => hp (hg.idle hc he)

theorem Good.unreleased (hg : Good cp l) (hp : l.pc ≠ .released) : Simu.released l.history = false := by
  rw [hg.gone]
  exact decide_eq_false hp

/-- As long as the client is not released there is nothing to spoil. -/
theorem clean_of_unreleased {e : Entry} {past : List Entry} (h : Simu.released (e :: past) = false) : Clean e past := by
  have hpast : Simu.released past = false := (Bool.or_eq_false_iff.1 h).2
  exact ⟨fun hr => absurd hr (by simp [hpast]), fun hr => absurd hr (by simp [h])⟩

/-- The loop's own status, before `Dead`. -/
theorem Good.publish (hg : Good cp l) {m : StatusMessage} {b : Bool} (hd : lastDead l.history = false) :
    Good cp (l.note (.published (.status m) b)) := by
  have before : l.pc = .loopTest ∨ l.pc = .release ∨ l.pc = .released → l.ended = false := by
    intro h
    rw [← Bool.not_eq_true]
    intro he
    rw [hg.dead h he] at hd
    cases hd
  have here : l.pc ≠ .released := fun h => by
    have hf := before (.inr (.inr h))
    rw [hg.ends (.inr h)] at hf
    cases hf
  refine ⟨hg.asked, hg.opened, hg.committed, hg.gone, hg.closing, hg.idle, hg.begun, hg.ends, fun h he => ?_,
    fun h => absurd h here, .cons (clean_of_unreleased (hg.unreleased here)) hg.clean⟩
  have hf := before h
  rw [show l.ended = true from he] at hf
  cases hf

/-! ### The steps of the other threads -/

/-- **Before `Dead`** nothing is said of the end. -/
theorem Good.before (hq : l.pc.before = true) (ha : endAsked l.history = l.ended) (ho : clientOpen l.history = l.client)
    (hk : Simu.closing l.history = decide (l.pc = .close)) (hr : Simu.released l.history = false)
    (he : l.pc = .close → l.ended = false) (hi : l.client = false → l.ended = false) (hc : CleanShutdown l.history) :
    Good cp l := by
  have away : l.pc ≠ .loopTest ∧ l.pc ≠ .release ∧ l.pc ≠ .released := by
    refine ⟨?_, ?_, ?_⟩ <;> intro h <;> rw [h] at hq <;> cases hq
  refine ⟨ha, ho, hk, hr.trans (decide_eq_false away.2.2).symm, he, fun h he => ?_, fun h => absurd h away.1, fun h => ?_,
    fun h => ?_, fun h => absurd h away.2.2, hc⟩
  · rw [hi h] at he
    cases he
  · exact absurd h (by simp [away])
  · exact absurd h (by simp [away])

/-- At work on the connection the client is not about to be closed. -/
theorem Good.working (hq : l.pc.works = true) (ha : endAsked l.history = l.ended) (ho : clientOpen l.history = l.client)
    (hk : Simu.closing l.history = false) (hr : Simu.released l.history = false) (hi : l.client = false → l.ended = false)
    (hc : CleanShutdown l.history) : Good cp l := by
  have hn : l.pc ≠ .close := fun h => by
    rw [h] at hq
    cases hq
  refine .before ?_ ha ho (hk.trans (decide_eq_false hn).symm) hr (fun h => absurd h hn) hi hc
  cases hp : l.pc <;> rw [hp] at hq <;> first | rfl | cases hq

theorem Good.uncommitted (hg : Good cp l) (hp : l.pc ≠ .close) : Simu.closing l.history = false :=
  hg.committed.trans (decide_eq_false hp)

theorem Good.close (hg : Good cp l) (hh : Heeds cp (.event .closeCommand) l.history) :
    Good cp ({ l with ended := true }.note (.event .closeCommand)) := by
  obtain ⟨hclient, hclosing⟩ := hh.asked rfl
  have hopen : l.client = true := hg.opened.symm.trans hclient
  have hdead : l.pc = .loopTest ∨ l.pc = .release ∨ l.pc = .released → lastDead l.history = true := by
    intro hp
    refine hg.dead hp ?_
    -- an open client is not at the test of the loop before the end was asked for
    rw [← Bool.not_eq_false]
    intro he
    rcases hp with hp | hp
    · rw [hg.begun hp he] at hopen
      cases hopen
    · rw [hg.ends hp] at he
      cases he
  refine ⟨rfl, hg.opened, hg.committed, hg.gone, fun hp => ?_, fun hc _ => ?_, fun _ he => (by cases he), fun _ => rfl,
    fun hp _ => hdead hp, fun hp => ?_, .cons ⟨fun _ => rfl, fun hr => ?_⟩ hg.clean⟩
  · exact absurd (show l.pc = .close from hp) (of_decide_eq_false (hg.committed.symm.trans hclosing))
  · rw [show l.client = false from hc] at hopen
    cases hopen
  · exact (congrArg Phase.final (Phase.next_of_other _ (.inl rfl))).trans (hg.final hp)
  · exact hdead (.inr (.inr (of_decide_eq_true (hg.gone.symm.trans hr))))

/-- **The test before a retry** leads to `Dead` where the end was asked for, and else to a client that is closed. -/
theorem Good.tested (hg : Good cp l) (hp : l.pc = .retry) :
    Good cp ({ l with pc := if l.ended then .farewell else .close }.note (.mqttEndTested l.ended)) := by
  have here : l.pc ≠ .released := by simp [hp]
  have hk : Simu.closing (.mqttEndTested l.ended :: l.history) = !l.ended := by
    rw [Simu.closing, since_cons, show since Entry.goesToClose Entry.closes l.history = false from
      hg.uncommitted (by simp [hp]), Bool.and_false, Bool.or_false]
    rfl
  have hr : Simu.released (.mqttEndTested l.ended :: l.history) = false := hg.unreleased here
  refine .before ?_ hg.asked hg.opened (hk.trans ?_) hr (fun h => ?_) (hg.alive here) (.cons (clean_of_unreleased hr) hg.clean)
  all_goals cases he : l.ended <;> simp_all [Ending.note, StartPc.before]

theorem Good.closed (hg : Good cp l) (hp : l.pc = .close) :
    Good cp ({ l with client := false, pc := .loopTest }.note .mqttClosed) := by
  have he : l.ended = false := hg.closing hp
  have hr : Simu.released (.mqttClosed :: l.history) = false := by
    rw [Simu.released, show endAsked l.history = false from hg.asked.trans he, hg.unreleased (by simp [hp])]
    rfl
  refine ⟨hg.asked, rfl, rfl, hr, fun _ => he, fun _ he' => ?_, fun _ _ => rfl, fun hp' => absurd hp' (by simp [Ending.note]),
    fun _ he' => ?_, fun hp' => (by cases hp'), .cons (clean_of_unreleased hr) hg.clean⟩
  · rw [show l.ended = true from he'] at he
    cases he
  · rw [show l.ended = true from he'] at he
    cases he

theorem Good.dies (hg : Good cp l) (hp : l.pc = .farewell) (he : l.ended = true) {b : Bool}
    (hh : Heeds cp (.published (.status (will cp)) b) l.history) :
    Good cp ({ l with pc := .loopTest }.note (.published (.status (will cp)) b)) := by
  have here : l.pc ≠ .released := by simp [hp]
  have hr : Simu.released (.published (.status (will cp)) b :: l.history) = false := hg.unreleased here
  have hopen : l.client ≠ false := fun hc => by
    rw [hg.alive here hc] at he
    cases he
  have hb : b = true := by
    cases b with
    | true => rfl
    | false => cases hh.sent
  subst hb
  refine ⟨hg.asked, hg.opened, hg.uncommitted (by simp [hp]), hr, fun hp' => (by cases hp'), fun hc _ => absurd hc hopen,
    fun _ he' => ?_, fun hp' => absurd hp' (by simp [Ending.note]), fun _ _ => rfl, fun hp' => (by cases hp'),
    .cons (clean_of_unreleased hr) hg.clean⟩
  rw [show l.ended = false from he'] at he
  cases he

theorem Good.leaves (hg : Good cp l) (hp : l.pc = .loopTest) (he : l.ended = true) : Good cp { l with pc := .release } := by
  have here : l.pc ≠ .released := by simp [hp]
  refine ⟨hg.asked, hg.opened, hg.uncommitted (by simp [hp]), hg.unreleased here, fun hp' => (by cases hp'),
    fun hc he' => ?_, fun hp' => (by cases hp'), fun _ => he, fun _ _ => hg.dead (.inl hp) he, fun hp' => (by cases hp'),
    hg.clean⟩
  exact absurd (hg.idle hc he') here

theorem Good.releases (hg : Good cp l) (hp : l.pc = .release) (hh : Heeds cp .mqttClosed l.history) :
    Good cp ({ l with client := false, pc := .released }.note .mqttClosed) := by
  have he := hg.ends (.inl hp)
  have hdead : lastDead l.history = true := hg.dead (.inr (.inl hp)) he
  have ha : endAsked l.history = true := hg.asked.trans he
  refine ⟨hg.asked, rfl, rfl, ?_, fun hp' => (by cases hp'), fun _ _ => rfl, fun _ he' => ?_, fun _ => he,
    fun _ _ => hdead, fun _ => ?_, .cons ⟨fun _ => rfl, fun _ => hdead⟩ hg.clean⟩
  · show Simu.released (.mqttClosed :: l.history) = true
    rw [Simu.released, ha]
    rfl
  · rw [show l.ended = false from he'] at he
    cases he
  · exact (congrArg Phase.final (Phase.next_of_other _ (.inr (.inr (.inr (.inl rfl)))))).trans (hh.release rfl ha)

/-- **The other threads keep the invariant.** -/
theorem Good.env (hg : Good cp l) (h : Env cp l l') (hh : Always (Heeds cp) l'.history) : Good cp l' := by
  have unreleased : ∀ {pc : StartPc}, l.pc = pc → pc ≠ .released → Simu.released l.history = false := by
    rintro pc rfl hne
    exact hg.unreleased hne
  cases h with
  | asked => exact hg.close hh.head
  | opened hp hc =>
    have hr := unreleased hp (by simp)
    exact .working rfl hg.asked rfl (hg.uncommitted (by simp [hp])) hr (fun h => (by cases h))
      (.cons (clean_of_unreleased hr) hg.clean)
  | works pc hp hq =>
    have here : l.pc ≠ .released ∧ l.pc ≠ .close := by
      refine ⟨?_, ?_⟩ <;> intro h <;> rw [h] at hp <;> cases hp
    exact .working hq hg.asked hg.opened (hg.uncommitted here.2) (hg.unreleased here.1) (hg.alive here.1) hg.clean
  | tested hp => exact hg.tested hp
  | closed hp => exact hg.closed hp
  | dead hp he b => exact hg.dies hp he hh.head
  | again hp he =>
    exact .working rfl hg.asked hg.opened (hg.uncommitted (by simp [hp])) (unreleased hp (by simp)) (fun _ => he) hg.clean
  | ends hp he => exact hg.leaves hp he
  | released hp => exact hg.releases hp hh.head

theorem Good.here (hg : Good cp l) (hf : (phase cp l.history).final = false) : l.pc ≠ .released := by
  intro hp
  rw [hg.final hp] at hf
  cases hf

theorem Env.history (h : Env cp l l') : l'.history = l.history ∨ ∃ e : Entry, l'.history = e :: l.history ∧
    (e = .event .closeCommand ∨ e = .mqttOpened ∨ (∃ b, e = .mqttEndTested b) ∨ e = .mqttClosed ∨
      ∃ m b, e = .published (.status m) b) := by
  cases h with
  | asked => exact .inr ⟨_, rfl, .inl rfl⟩
  | opened hp hc => exact .inr ⟨_, rfl, .inr (.inl rfl)⟩
  | works pc hp hq => exact .inl rfl
  | tested hp => exact .inr ⟨_, rfl, .inr (.inr (.inl ⟨_, rfl⟩))⟩
  | closed hp => exact .inr ⟨_, rfl, .inr (.inr (.inr (.inl rfl)))⟩
  | dead hp he b => exact .inr ⟨_, rfl, .inr (.inr (.inr (.inr ⟨_, b, rfl⟩)))⟩
  | again hp he => exact .inl rfl
  | ends hp he => exact .inl rfl
  | released hp => exact .inr ⟨_, rfl, .inr (.inr (.inr (.inl rfl)))⟩

/-- **The loop is at `ph`**, and the invariant holds if the order of the steps has heeded what it has to. -/
structure At (cp : SimulatedChargePoint) (ph : Phase) (l : Ending) : Prop where
  phase : Simu.phase cp l.history = ph
  good : Always (Heeds cp) l.history → Good cp l

theorem At.closed (ph : Phase) : Closed cp (At cp ph) := by
  intro l l' h ha
  rcases h.history with hh | ⟨e, hh, he⟩
  · exact ⟨by rw [hh]; exact ha.phase, fun hl => (ha.good (by rwa [hh] at hl)).env h hl⟩
  · refine ⟨?_, fun hl => (ha.good (by rw [hh] at hl; exact hl.tail)).env h hl⟩
    rw [hh]
    exact (Phase.next_of_other _ he).trans ha.phase

theorem At.note {ph next : Phase} (ha : At cp ph l) {e : Entry} (hn : ph.next cp e = next) (he : e.silent = true)
    (hr : Heeds cp e l.history → Good cp l → l.pc = .released → e.callsClient = false ∧ next.final = true) :
    At cp next (l.note e) := by
  have hp : (Simu.phase cp l.history).next cp e = next := by rw [ha.phase, hn]
  exact ⟨hp, fun hl => (ha.good hl.tail).note he (fun hpc => by rw [hp]; exact hr hl.head (ha.good hl.tail) hpc)⟩

/-- Where the client is used, it is there. -/
theorem At.call {ph next : Phase} (ha : At cp ph l) (hf : ph.final = false) {e : Entry} (hn : ph.next cp e = next)
    (he : e.silent = true) : At cp next (l.note e) :=
  ha.note hn he (fun _ hg hp => absurd hp (hg.here (by rw [ha.phase]; exact hf)))

/-- The loop is about to publish its status, which comes before `Dead`. -/
structure Looking (cp : SimulatedChargePoint) (ph : Phase) (l : Ending) : Prop extends At cp ph l where
  about : Always (Heeds cp) l.history → aboutToPublish l.history = true ∧ lastDead l.history = false

theorem Looking.closed (ph : Phase) : Closed cp (Looking cp ph) := by
  intro l l' h ha
  refine ⟨At.closed ph l l' h ha.toAt, fun hl => ?_⟩
  cases h with
  | dead hp he b =>
    have hab := (ha.about hl.tail).1
    have hh := hl.head
    cases b with
    | true =>
      rw [hh.dead rfl] at hab
      cases hab
    | false => cases hh.sent
  | asked => exact ha.about hl.tail
  | opened hp hc => exact ha.about hl.tail
  | tested hp => exact ha.about hl.tail
  | closed hp => exact ha.about hl.tail
  | released hp => exact ha.about hl.tail
  | works pc hp hq => exact ha.about hl
  | again hp he => exact ha.about hl
  | ends hp he => exact ha.about hl

end Ending

open Ending

/-! ## The loop -/

variable {cp : SimulatedChargePoint} {α : Type} {ph : Phase}

abbrev SpecEnding (P : Ending → Prop) (m : M α) (Q : α → Ending → Prop) : Prop := SpecOn World.ending P m Q

theorem passive_ending {m : M α} (hm : Passive (World.tick cp) World.ending m) {P : Ending → Prop}
    (hP : Ending.Closed cp P) : SpecEnding P m (fun _ => P) := hm P (fun t w hw => hP.tick t w hw)

theorem ask_ending {f : Tick → World → α} {entry : α → Entry} {P : Ending → Prop} {Q : α → Ending → Prop}
    (he : ∀ a, (entry a).ofEnding = true) (hP : Ending.Closed cp P)
    (h : ∀ t w, P w.ending → Q (f t w) (w.ending.note (entry (f t w)))) : SpecEnding P (ask cp f entry) Q :=
  Spec.call (fun t w hw => hP.tick t w hw) (fun t w hw => by
    show Q (f t w) (w.note (entry (f t w))).ending
    rw [ending_note_of_ofEnding (he _)]
    exact h t w hw)

theorem ask_ending_passive {f : Tick → World → α} {entry : α → Entry} (he : ∀ a, (entry a).ofEnding = false) :
    Passive (World.tick cp) World.ending (ask cp f entry) := ask_passive (fun a _ => ending_note_of_not (he a))

theorem publish_ending {m : Publication} {P Q : Ending → Prop} (hP : Ending.Closed cp P)
    (h : ∀ l b, P l → Q (l.note (.published m b))) : SpecEnding P (publish cp m) (fun _ => Q) :=
  Spec.call (fun t w hw => hP.tick t w hw) (fun t w hw => by
    show Q (World.ending (World.note _ _))
    rw [ending_note_of_ofEnding rfl]
    split
    · cases m <;> exact h _ _ hw
    · exact h _ _ hw)

/-- The bodies of the two loops: what the status is published in does not move the loop. -/
def Phase.body : Phase → Bool
  | .round | .iterates => true
  | _ => false

theorem Phase.final_of_body (h : ph.body = true) : ph.final = false := by
  cases ph <;> first | rfl | cases h

theorem Phase.next_of_body (h : ph.body = true) (s : RegistrationStatus) (b : Bool) :
    ph.next cp (.getRegistrationStatus s) = ph ∧ ph.next cp (.publishStatus b) = ph := by
  cases ph <;> first | exact ⟨rfl, rfl⟩ | cases h

theorem publishStatus_ending (hb : ph.body = true) (text : String) :
    SpecEnding (At cp ph) (publishStatus cp text) (fun _ => At cp ph) := by
  refine SpecOn.bind (R := fun b l => if b = true then Looking cp ph l else At cp ph l) ?_ (fun b => ?_)
  · refine ask_ending (fun _ => rfl) (At.closed ph) (fun t w h => ?_)
    have hn := h.call (Phase.final_of_body hb) (Phase.next_of_body hb .accepted w.mqtt.connected).2 rfl
    show if w.mqtt.connected = true then Looking cp ph _ else At cp ph _
    cases hc : w.mqtt.connected with
    | false =>
      rw [hc] at hn
      exact hn
    | true =>
      rw [hc] at hn
      exact ⟨hn, fun hl => ⟨rfl, hl.head.looks rfl⟩⟩
  · cases b with
    | false => exact SpecOn.pure _ (fun _ h => h)
    | true =>
      simp only [if_true]
      refine publish_ending (Looking.closed ph) (fun l b h => ⟨?_, fun hl => ?_⟩)
      · exact (Phase.next_of_other _ (.inr (.inr (.inr (.inr ⟨_, b, rfl⟩))))).trans h.phase
      · exact (h.good hl.tail).publish (h.about hl.tail).2

theorem updateStatus_ending (hb : ph.body = true) : SpecEnding (At cp ph) (updateStatus cp) (fun _ => At cp ph) := by
  refine SpecOn.keep (passive_ending (ask_ending_passive (fun _ => rfl)) (At.closed ph)) (fun connected => ?_)
  refine SpecOn.keep (ask_ending (fun _ => rfl) (At.closed ph) (fun t w h => ?_)) (fun status => ?_)
  · exact h.call (Phase.final_of_body hb) (Phase.next_of_body hb _ true).1 rfl
  refine SpecOn.keep (Spec.update (fun _ h => h)) (fun _ => SpecOn.keep (Spec.read (fun _ h => h)) (fun v => ?_))
  refine SpecOn.ite (fun _ => ?_) (fun _ => SpecOn.pure _ (fun _ h => h))
  exact SpecOn.keep (publishStatus_ending hb v.statusStr) (fun _ => Spec.update (fun _ h => h))

theorem publishConnector_ending {next : Phase} (hf : ph.final = false)
    (hn : ∀ c m b, ph.next cp (.published (.connector c m) b) = next) (c : Nat) :
    SpecEnding (At cp ph) (publishConnector cp c) (fun _ => At cp next) := by
  refine SpecOn.keep (Spec.read (fun _ h => h)) (fun m => ?_)
  refine SpecOn.bind (R := fun _ => At cp next) ?_ (fun _ => SpecOn.pure _ (fun _ h => h))
  exact publish_ending (At.closed ph) (fun l b h => h.call hf (hn c m b) rfl)

/-- The publications of an iteration, counted down. -/
theorem publishConnectors_ending : ∀ l : List Nat,
    SpecEnding (At cp (.publishes l.length)) (l.forM (publishConnector cp)) (fun _ => At cp (.publishes 0))
  | [] => SpecOn.pure _ (fun _ h => h)
  | c :: l => SpecOn.bind (publishConnector_ending rfl (fun _ _ _ => rfl) c) (fun _ => publishConnectors_ending l)

/-- **The last publication of an iteration.** -/
theorem publishData_iteration : SpecEnding (At cp .iterates) (publishData cp) (fun _ => At cp (.publishes 0)) := by
  refine SpecOn.bind (R := fun b => At cp (.publishes (if b then cp.ids.length else 0))) ?_ (fun b => ?_)
  · exact ask_ending (fun _ => rfl) (At.closed _) (fun t w h => h.call rfl rfl rfl)
  · cases b with
    | false => exact SpecOn.pure _ (fun _ h => h)
    | true => exact publishConnectors_ending cp.ids

/-- The publications of the inner loop. -/
theorem publishData_waiting : SpecEnding (At cp .round) (publishData cp) (fun _ => At cp .round) := by
  refine SpecOn.keep (ask_ending (fun _ => rfl) (At.closed _) (fun t w h => h.call rfl rfl rfl)) (fun b => ?_)
  refine SpecOn.ite (fun _ => ?_) (fun _ => SpecOn.pure _ (fun _ h => h))
  exact Spec.forM (fun c _ => publishConnector_ending rfl (fun _ _ _ => rfl) c)

theorem waiting_ending :
    SpecEnding (At cp .round) (waiting cp) (fun wait => At cp (if wait then .round else .iterates)) := by
  refine SpecOn.bind (R := fun b => At cp (if b then .iterates else .asked)) ?_ (fun b => ?_)
  · exact ask_ending (fun _ => rfl) (At.closed _) (fun t w h => h.call rfl rfl rfl)
  cases b with
  | true => exact SpecOn.pure _ (fun _ h => h)
  | false =>
    refine SpecOn.bind (R := fun r => At cp (if r then .iterates else .askedTwice)) ?_ (fun r => ?_)
    · exact ask_ending (fun _ => rfl) (At.closed _) (fun t w h => h.call rfl rfl rfl)
    cases r with
    | true => exact SpecOn.pure _ (fun _ h => h)
    | false =>
      refine SpecOn.bind (R := fun s => At cp (if s = .accepted then .iterates else .round)) ?_ (fun s => ?_)
      · exact ask_ending (fun _ => rfl) (At.closed _) (fun t w h => h.call rfl rfl rfl)
      · refine SpecOn.pure _ (fun l h => ?_)
        by_cases hs : s = .accepted
        · simpa [hs] using h
        · simpa [hs] using h

theorem goingOn_ending :
    SpecEnding (At cp (.publishes 0)) (goingOn cp) (fun again => At cp (if again then .round else .left)) := by
  refine SpecOn.bind (R := fun b => At cp (if b then .left else .leaving)) ?_ (fun b => ?_)
  · refine ask_ending (fun _ => rfl) (At.closed _) (fun t w h => h.note rfl rfl (fun _ hg hp => ⟨rfl, ?_⟩))
    -- a client that is gone means that the end was asked for
    have he : w.mqtt.ended = true := hg.ends (.inr hp)
    show (if w.mqtt.ended then Phase.left else .leaving).final = true
    rw [he]
    rfl
  cases b with
  | true => exact SpecOn.pure _ (fun _ h => h)
  | false =>
    refine SpecOn.bind (R := fun r => At cp (if r then .left else .round)) ?_ (fun r => SpecOn.pure _ (fun l h => ?_))
    · exact ask_ending (fun _ => rfl) (At.closed _) (fun t w h => h.call rfl rfl rfl)
    · cases r <;> exact h

theorem actOnConnectors_ending : SpecEnding (At cp .iterates) (actOnConnectors cp) (fun _ => At cp (.publishes 0)) := by
  have hs : Passive (World.tick cp) World.ending (computeSetpoints cp) :=
    computeSetpoints_passive blind_ending (fun _ e he => ending_note_of_not (by cases e <;> first | rfl | cases he)) (fun _ _ => rfl)
  refine SpecOn.keep (passive_ending hs (At.closed _)) (fun _ => ?_)
  refine SpecOn.keep (passive_ending (updateData_passive blind_ending) (At.closed _)) (fun _ => ?_)
  exact SpecOn.keep (passive_ending (passes_passive blind_ending) (At.closed _)) (fun _ => publishData_iteration)

/-- **A round of the loop** ends before the next or out of the loop. -/
theorem loopRound_ending :
    SpecEnding (At cp .round) (loopRound cp) (fun again => At cp (if again then .round else .left)) := by
  refine SpecOn.bind waiting_ending (fun wait => ?_)
  cases wait with
  | true =>
    refine SpecOn.bind (R := fun _ => At cp .round) ?_ (fun _ => SpecOn.pure _ (fun _ h => h))
    exact SpecOn.keep (updateStatus_ending rfl) (fun _ => publishData_waiting)
  | false =>
    refine SpecOn.bind (R := fun _ => At cp .iterates) ?_ (fun _ => SpecOn.bind actOnConnectors_ending (fun _ => goingOn_ending))
    refine SpecOn.keep (updateStatus_ending rfl) (fun _ => ?_)
    exact passive_ending (Passive.forM (fun c _ => updateConnectorStatus_passive (blind_ending c))) (At.closed _)

theorem beginPass_ending : SpecEnding (At cp .round) (beginPass cp) (fun _ => At cp .round) :=
  SpecOn.keep (Spec.call (fun t w hw => (At.closed _).tick t w hw) (fun _ _ h => h)) (fun _ => Spec.update (fun _ h => h))

theorem startRound_ending :
    SpecEnding (At cp .round) (startRound cp) (fun again => At cp (if again then .round else .over)) := by
  refine SpecOn.bind loopRound_ending (fun again => ?_)
  cases again with
  | true => exact SpecOn.pure _ (fun _ h => h)
  | false =>
    refine SpecOn.bind (R := fun _ => At cp .stopping) ?_ (fun _ => ?_)
    · exact ask_ending (fun _ => rfl) (At.closed _) (fun t w h => h.note rfl rfl (fun _ _ _ => ⟨rfl, rfl⟩))
    refine SpecOn.bind (R := fun b => At cp (if b then .round else .over)) ?_ (fun b => ?_)
    · refine ask_ending (fun _ => rfl) (At.closed _) (fun t w h => h.note rfl rfl (fun hh hg hp => ⟨rfl, ?_⟩))
      -- nothing begins anew once the client is gone
      show (if w.handler.resetPending then Phase.round else .over).final = true
      cases hb : w.handler.resetPending with
      | false => rfl
      | true =>
        have hr : released w.ending.history = true := hg.gone.trans (decide_eq_true hp)
        exact absurd h.phase (hh.again (congrArg Entry.isResetPending hb) hr)
    · cases b with
      | false => exact SpecOn.pure _ (fun _ h => h)
      | true => exact SpecOn.keep beginPass_ending (fun _ => SpecOn.pure _ (fun _ h => h))

/-- **The run**: the loop is before a round, or over. -/
theorem start_ending (k : Nat) :
    SpecEnding (At cp .round) (cp.start k) (fun _ l => At cp .round l ∨ At cp .over l) := by
  refine SpecOn.keep beginPass_ending (fun _ => ?_)
  refine Spec.rounds_ended (Spec.post startRound_ending (fun again w h => ?_)) k
  cases again <;> exact h

/-! ## From the ending to the log -/

theorem endAsked_filter (h : List Entry) : endAsked (h.filter Entry.ofEnding) = endAsked h := by
  unfold endAsked
  rw [List.any_filter]
  refine congrArg h.any (funext fun e => ?_)
  cases e with
  | event e => cases e <;> rfl
  | _ => rfl

theorem ofEnding_of_statusSent {e : Entry} (h : e.ofEnding = false) : e.statusSent = none := by
  cases e <;> first | rfl | cases h

theorem clientOpen_filter (h : List Entry) : clientOpen (h.filter Entry.ofEnding) = clientOpen h :=
  since_filter (fun e he => by cases e <;> first | rfl | cases he) (fun e he => by cases e <;> first | rfl | cases he) h

theorem closing_filter (h : List Entry) : closing (h.filter Entry.ofEnding) = closing h :=
  since_filter (fun e he => by cases e <;> first | rfl | cases he) (fun e he => by cases e <;> first | rfl | cases he) h

theorem lastDead_filter (h : List Entry) : lastDead (h.filter Entry.ofEnding) = lastDead h := by
  unfold lastDead
  rw [last_filter (fun _ => ofEnding_of_statusSent)]

theorem aboutToPublish_filter (h : List Entry) : aboutToPublish (h.filter Entry.ofEnding) = aboutToPublish h := by
  refine since_filter (fun e he => ?_) (fun e he => ?_) h
  · cases e <;> first | rfl | cases he
  · cases e <;> first | rfl | cases he

theorem released_filter : ∀ h : List Entry, released (h.filter Entry.ofEnding) = released h
  | [] => rfl
  | e :: h => by
    rw [List.filter_cons, released]
    cases he : e.ofEnding with
    | true => rw [if_pos rfl, released, endAsked_filter, released_filter h]
    | false =>
      have hc : e.closes = false := by cases e <;> first | rfl | cases he
      rw [if_neg Bool.false_ne_true, released_filter h, hc, Bool.false_and, Bool.false_or]

theorem phase_filter (cp : SimulatedChargePoint) : ∀ h : List Entry, phase cp (h.filter Entry.ofEnding) = phase cp h
  | [] => rfl
  | e :: h => by
    rw [List.filter_cons, phase]
    cases he : e.ofEnding with
    | true => rw [if_pos rfl, phase, phase_filter cp h]
    | false =>
      rw [if_neg Bool.false_ne_true, phase_filter cp h]
      have hn : ∀ ph : Phase, ph.next cp e = ph := by
        intro ph
        cases ph with
        | publishes n => cases n <;> cases e <;> first | rfl | cases he
        | _ => cases e <;> first | rfl | cases he
      rw [hn]

theorem Heeds.filter {cp : SimulatedChargePoint} {e : Entry} {h : List Entry} (hh : Heeds cp e h) :
    Heeds cp e (h.filter Entry.ofEnding) where
  asked ha := ⟨(clientOpen_filter h).trans (hh.asked ha).1, (closing_filter h).trans (hh.asked ha).2⟩
  sent := hh.sent
  looks hl := (lastDead_filter h).trans (hh.looks hl)
  dead hd := (aboutToPublish_filter h).trans (hh.dead hd)
  release hc ha := by
    rw [phase_filter]
    exact hh.release hc ((endAsked_filter h).symm.trans ha)
  again ha hr := by
    rw [phase_filter]
    exact hh.again ha ((released_filter h).symm.trans hr)

theorem CleanShutdown.dead {h : List Entry} (hc : CleanShutdown h) (hr : released h = true) : lastDead h = true := by
  cases hc with
  | nil => cases hr
  | cons he _ => exact he.dead hr

theorem CleanShutdown.of_filter : ∀ {h : List Entry}, CleanShutdown (h.filter Entry.ofEnding) → CleanShutdown h
  | [], _ => .nil
  | e :: h, hc => by
    rw [List.filter_cons] at hc
    cases he : e.ofEnding with
    | true =>
      rw [if_pos he] at hc
      have hf : (e :: h).filter Entry.ofEnding = e :: h.filter Entry.ofEnding := by rw [List.filter_cons, if_pos he]
      refine .cons ⟨fun hr => hc.head.unused ((released_filter h).trans hr), fun hr => ?_⟩ (CleanShutdown.of_filter hc.tail)
      rw [← released_filter, hf] at hr
      rw [← lastDead_filter, hf]
      exact hc.head.dead hr
    | false =>
      -- what says nothing of the ending leaves it as the past has it
      rw [if_neg (by rw [he]; exact Bool.false_ne_true)] at hc
      have hh : CleanShutdown h := CleanShutdown.of_filter hc
      refine .cons ⟨fun _ => (by cases e <;> first | rfl | cases he), fun hr => ?_⟩ hh
      have hclose : e.closes = false := by cases e <;> first | rfl | cases he
      rw [released, hclose, Bool.false_and, Bool.false_or] at hr
      unfold lastDead
      rw [last_cons, ofEnding_of_statusSent he, Option.none_or]
      exact hh.dead hr

/-! ## The end of the process -/

/-- A close command at `asked`, with what follows of it up to `Dead`; the client is released at `gone`. -/
def sampleClose (asked gone : Nat) : List Tick := script 80
  ((connectSteps.map (fun e => (0, e)) ++ (asked, .closeCommand) :: List.replicate 4 (asked, .mqttStartStep true)) ++
    [(gone, .mqttStartStep true)])

/-- **The loop publishes its status after `Dead`, and then calls the client that is gone**: the close command comes in an
iteration, before the loop publishes its status. -/
theorem close_within_iteration :
    let w := afterStart .sample 1 (.start .sample .idle) (sampleClose 4 15)
    released w.log = true ∧ lastDead w.log = false ∧ .publishData false ∈ w.log ∧ ¬CleanShutdown w.log := by
  decide +kernel

/-- **The process ends cleanly in every interleaving that heeds the order**: whatever the stack answers, at whatever calls
of the loop the other threads take their steps, and for as many rounds as there are. -/
theorem clean_of_heeds (cp : SimulatedChargePoint) (stack : Stack) (k : Nat) (script : List Tick) (t : Tick)
    (h : Always (Heeds cp) ((afterStart cp k (.start cp stack) script).tick cp t).log) :
    CleanShutdown ((afterStart cp k (.start cp stack) script).tick cp t).log := by
  have h₀ : At cp .round (World.start cp stack).ending := ⟨rfl, fun _ => Good.initial⟩
  have hrun := start_ending k _ script h₀
  have hend : ∃ ph, At cp ph ((afterStart cp k (.start cp stack) script).tick cp t).ending := by
    rcases hrun with hr | ho
    · exact ⟨.round, (At.closed _).tick t _ hr⟩
    · exact ⟨.over, (At.closed _).tick t _ ho⟩
  obtain ⟨ph, ha⟩ := hend
  have hheeds : Always (Heeds cp) (World.ending _).history := h.filter (fun _ _ _ hh => hh.filter)
  exact (ha.good hheeds).clean.of_filter

theorem clean_of_heeds_session :
    released ((afterStart .sample 2 (.start .sample .idle) (sampleClose 40 48)).tick .sample {}).log = true ∧
    CleanShutdown ((afterStart .sample 2 (.start .sample .idle) (sampleClose 40 48)).tick .sample {}).log :=
  ⟨by decide +kernel, clean_of_heeds .sample .idle 2 (sampleClose 40 48) {} (by decide +kernel)⟩

end Simu
