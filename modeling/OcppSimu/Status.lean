import OcppSimu.Rules
/-!
# Status — the retained status of the charge point

The broker retains one status message.  The loop publishes it where the connection to the Central System or the
registration has changed, or where the last publication failed; the broker overwrites it with the will when the
connection is lost, and the loop's flag does not say so.  `lost` reads off the log whether the will is the later of the
two: the message is the current one exactly if nothing was lost before the iteration or the iteration was to publish
(`status_current_iff`).
-/
namespace Simu

open Hist Script

/-! ## What the log says of the link -/

def Entry.ofLink : Entry → Bool
  | .event (.closeCommand) | .event (.connectionStateChanged _) | .event (.registrationChanged _) | .willPublished
  | .mqttOpened | .mqttClosed | .published (.status _) _ | .isEndOfApplication _ => true
  | _ => false

def Entry.loses : Entry → Bool
  | .willPublished => true
  | _ => false

def Entry.publishes : Entry → Bool
  | .published (.status _) success => success
  | _ => false

def Entry.begins : Entry → Bool
  | .isEndOfApplication _ => true
  | _ => false

/-- What an iteration that runs undisturbed has not got: a reconnection, a change of the connection to the Central
System or of the registration, a failed publication. -/
def Entry.disturbs : Entry → Bool
  | .mqttOpened | .event (.connectionStateChanged _) | .event (.registrationChanged _) => true
  | .published (.status _) success => !success
  | _ => false

/-- **The will was published since the status last was.** -/
def lost (h : List Entry) : Bool := since Entry.loses Entry.publishes h

/-- The same, when the iteration began. -/
def lostBefore (h : List Entry) : Bool := sinceAt Entry.begins (fun _ => false) lost h

/-- **The iteration has run undisturbed.** -/
def Quiet (h : List Entry) : Prop := since Entry.disturbs Entry.begins h = false

instance (h : List Entry) : Decidable (Quiet h) := inferInstanceAs (Decidable (_ = false))

/-- **What the loop is to publish in this iteration**, from the variables it began with. -/
def toPublish (v : LoopVars) (connected : Bool) (s : RegistrationStatus) : Bool :=
  decide (v.statusPublished = false ∨ connected ≠ v.ocppConnected ∨ s ≠ v.ocppStatus)

/-- **The retained message is the current one.** -/
def StatusCurrent (cp : SimulatedChargePoint) (w : World) : Prop :=
  w.broker.status = some (buildStatusMessage cp (statusText w.handler.isConnected w.stack.registration))

instance (cp : SimulatedChargePoint) (w : World) : Decidable (StatusCurrent cp w) :=
  inferInstanceAs (Decidable (_ = _))

/-! ## The link -/

structure Link where
  ended : Bool
  connected : Bool
  status : Option StatusMessage
  vars : LoopVars
  isConnected : Bool
  registration : RegistrationStatus
  history : List Entry

def World.link (w : World) : Link where
  ended := w.mqtt.ended
  connected := w.mqtt.connected
  status := w.broker.status
  vars := w.vars
  isConnected := w.handler.isConnected
  registration := w.stack.registration
  history := w.log.filter Entry.ofLink

namespace Link

def note (l : Link) (e : Entry) : Link := { l with history := e :: l.history }

/-- **One step of the other threads**, as the link sees it. -/
inductive Env (cp : SimulatedChargePoint) (l : Link) : Link → Prop
  | close : Env cp l ({ l with ended := true }.note (.event .closeCommand))
  | connection (b : Bool) : Env cp l ({ l with isConnected := b }.note (.event (.connectionStateChanged b)))
  | registration (s : RegistrationStatus) :
    Env cp l ({ l with registration := s }.note (.event (.registrationChanged s)))
  | lost : Env cp l ({ l with connected := false, status := some (will cp) }.note .willPublished)
  | opened : Env cp l ({ l with connected := true }.note .mqttOpened)
  | closed : Env cp l ({ l with connected := false }.note .mqttClosed)
  | dead (s : Option StatusMessage) (b : Bool) (he : l.ended = true) :
    Env cp l ({ l with status := s }.note (.published (.status (will cp)) b))

def Closed (cp : SimulatedChargePoint) (P : Link → Prop) : Prop := ∀ l l', Env cp l l' → P l → P l'

end Link

theorem link_note (w : World) (e : Entry) :
    (w.note e).link = if e.ofLink then w.link.note e else w.link := by
  by_cases h : e.ofLink = true <;> simp [World.link, World.note, Link.note, h]

theorem link_note_of_ofLink {w : World} {e : Entry} (h : e.ofLink = true) : (w.note e).link = w.link.note e := by
  rw [link_note, if_pos h]

theorem link_note_of_not {w : World} {e : Entry} (h : e.ofLink = false) : (w.note e).link = w.link := by
  rw [link_note, h]
  rfl

theorem link_mqttStartStep (cp : SimulatedChargePoint) (w : World) (b : Bool) :
    (mqttStartStep cp w b).link = w.link ∨ Link.Env cp w.link (mqttStartStep cp w b).link := by
  unfold mqttStartStep
  split
  · split
    · exact .inr (by rw [link_note_of_ofLink rfl]; exact .opened)
    · exact .inl rfl
  · split <;> exact .inl rfl
  · split <;> exact .inl rfl
  · exact .inl (link_note_of_not rfl)
  · exact .inr (by rw [link_note_of_ofLink rfl]; exact .closed)
  · rename_i hp
    have he : w.link.ended = true := w.mqtt.farewell hp
    split <;> exact .inr (by rw [link_note_of_ofLink rfl]; exact .dead _ _ he)
  · exact .inl rfl
  · exact .inr (by rw [link_note_of_ofLink rfl]; exact .closed)
  · exact .inl rfl

theorem step_link (cp : SimulatedChargePoint) (w : World) (e : Event) :
    (w.step cp e).link = w.link ∨ Link.Env cp w.link (w.step cp e).link := by
  have other : ∀ {w' : World} {x : Entry}, x.ofLink = false → w'.link = w.link → (w'.note x).link = w.link :=
    fun hx hw => by rw [link_note_of_not hx, hw]
  cases e with
  | carMessage c p | idTagMessage c id | faultedMessage c b =>
    left
    simp only [World.step]
    split
    · exact other rfl rfl
    · rfl
  | closeCommand => exact .inr (by rw [World.step, link_note_of_ofLink rfl]; exact .close)
  | remoteStartTransactionRequested c idTag =>
    left
    simp only [World.step, remoteStartTransactionRequested]
    split <;> exact other rfl rfl
  | connectionStateChanged b => exact .inr (by rw [World.step, link_note_of_ofLink rfl]; exact .connection b)
  | registrationChanged s => exact .inr (by rw [World.step, link_note_of_ofLink rfl]; exact .registration s)
  | brokerLost =>
    simp only [World.step]
    split
    · exact .inr (by rw [link_note_of_ofLink rfl]; exact .lost)
    · exact .inl rfl
  | mqttStartStep b => exact link_mqttStartStep cp w b
  | _ => exact .inl (other rfl rfl)

theorem Link.Closed.tick {cp : SimulatedChargePoint} {P : Link → Prop} (hP : Link.Closed cp P) (t : Tick) (w : World)
    (h : P w.link) : P (w.tick cp t).link := by
  refine tick_keeps (I := fun w => P w.link) (fun w e h => ?_) t h
  rcases step_link cp w e with hw | hw
  · rw [hw]
    exact h
  · exact hP _ _ hw h

theorem blind_link (d : Nat) : Blind World.link d where
  noted _ _ he _ := link_note_of_not (by
    have hn : ∀ {e : Entry}, e.ofLink = true → e.about = none := by
      intro e h
      unfold Entry.ofLink at h
      split at h <;> first | rfl | cases h
    cases h : Entry.ofLink _ with
    | false => rfl
    | true => rw [hn h] at he; cases he)
  connector _ _ := rfl
  mqtt _ _ := rfl
  meter _ _ := rfl
  status _ _ := rfl
  start _ _ := rfl
  stop _ _ := rfl

/-! ## Calm -/

namespace Link

/-- The charge point is connected, has not been told to end, and the iteration has run undisturbed. -/
structure Calm (l : Link) : Prop where
  ended : l.ended = false
  connected : l.connected = true
  quiet : Quiet l.history

/-- **The other threads end every calm**, so what is said of a calm link alone outlives them. -/
theorem Env.not_calm {cp : SimulatedChargePoint} {l l' : Link} (h : Env cp l l') : ¬l'.Calm := by
  rintro ⟨he, hc, hq⟩
  cases h with
  | close => cases he
  | connection b => cases hq
  | registration s => cases hq
  | lost => cases hc
  | opened => cases hq
  | closed => cases hc
  | dead s b hd =>
    have hf : true = false := hd.symm.trans he
    cases hf

/-- **What the loop's flag says**: the message it last published is retained, unless the will came later. -/
structure Base (cp : SimulatedChargePoint) (l : Link) : Prop where
  text : l.vars.statusStr = statusText l.vars.ocppConnected l.vars.ocppStatus
  retained : l.ended = false → l.vars.statusPublished = true →
    l.status = some (if lost l.history then will cp else buildStatusMessage cp l.vars.statusStr)

theorem Base.closed (cp : SimulatedChargePoint) : Closed cp (Base cp) := by
  intro l l' h hb
  obtain ⟨ht, hr⟩ := hb
  cases h with
  | close => exact ⟨ht, fun he => by cases he⟩
  | lost => exact ⟨ht, fun _ _ => rfl⟩
  | dead s b hd => exact ⟨ht, fun he => by cases hd.symm.trans he⟩
  | _ => exact ⟨ht, hr⟩

/-- **An invariant of the link**: the flag is right, the variables are `v`, and a calm link has `X`. -/
structure Holds (cp : SimulatedChargePoint) (v : LoopVars) (X : Link → Prop) (l : Link) : Prop where
  base : Base cp l
  vars : l.vars = v
  calm : l.Calm → X l

theorem Holds.closed (cp : SimulatedChargePoint) (v : LoopVars) (X : Link → Prop) : Closed cp (Holds cp v X) := by
  intro l l' h hl
  have hv : l'.vars = l.vars := by cases h <;> rfl
  exact ⟨Base.closed cp l l' h hl.base, hv.trans hl.vars, fun hc => absurd hc h.not_calm⟩

def Began (l : Link) : Prop := lost l.history = lostBefore l.history

def Read (connected : Bool) (s : RegistrationStatus) (l : Link) : Prop :=
  l.isConnected = connected ∧ l.registration = s

def Published (v₀ : LoopVars) (l : Link) : Prop :=
  l.vars.statusPublished = true ∧ l.vars.ocppConnected = l.isConnected ∧ l.vars.ocppStatus = l.registration ∧
    lost l.history = (lostBefore l.history && !toPublish v₀ l.isConnected l.registration)

end Link

open Link

/-! ## The loop -/

variable {cp : SimulatedChargePoint} {α : Type}

abbrev SpecLink (P : Link → Prop) (m : M α) (Q : α → Link → Prop) : Prop := SpecOn World.link P m Q

theorem passive_link {m : M α} (hm : Passive (World.tick cp) World.link m) {P : Link → Prop}
    (hP : Link.Closed cp P) : SpecLink P m (fun _ => P) := hm P (fun t w hw => hP.tick t w hw)

theorem call_link {act : Tick → World → α × World} {P : Link → Prop} {Q : α → Link → Prop} (hP : Link.Closed cp P)
    (h : ∀ t w, P w.link → Q (act t w).1 (act t w).2.link) : SpecLink P (Script.call (World.tick cp) act) Q :=
  Spec.call (fun t w hw => hP.tick t w hw) h

theorem ask_link {f : Tick → World → α} {entry : α → Entry} {P : Link → Prop} {Q : α → Link → Prop}
    (he : ∀ a, (entry a).ofLink = false) (hP : Link.Closed cp P) (h : ∀ t w, P w.link → Q (f t w) w.link) :
    SpecLink P (ask cp f entry) Q :=
  call_link hP (fun t w hw => by
    show Q (f t w) (w.note (entry (f t w))).link
    rw [link_note_of_not (he _)]
    exact h t w hw)

theorem ask_link_passive {f : Tick → World → α} {entry : α → Entry} (he : ∀ a, (entry a).ofLink = false) :
    Passive (World.tick cp) World.link (ask cp f entry) := ask_passive (fun a _ => link_note_of_not (he a))

theorem computeSetpoints_link : Passive (World.tick cp) World.link (computeSetpoints cp) :=
  computeSetpoints_passive blind_link (fun _ e he => link_note_of_not (by cases e <;> first | rfl | cases he))
    (fun _ _ => rfl)

theorem publishData_link : Passive (World.tick cp) World.link (publishData cp) := by
  refine Passive.bind (mqttConnected_passive (fun _ _ => link_note_of_not rfl)) (fun _ =>
    Passive.ite (Passive.forM (fun c _ => ?_)) (Passive.pure ()))
  refine Passive.bind Passive.read (fun m => Passive.bind (Passive.call (fun t w => ?_)) (fun _ => Passive.pure ()))
  rw [link_note_of_not rfl]
  split <;> rfl

theorem actOnConnectors_link : Passive (World.tick cp) World.link (actOnConnectors cp) :=
  Passive.bind computeSetpoints_link (fun _ => Passive.bind (updateData_passive blind_link) (fun _ =>
    Passive.bind (passes_passive blind_link) (fun _ => publishData_link)))

theorem statusPublished_refresh (v : LoopVars) (connected : Bool) (s : RegistrationStatus) :
    (v.refresh connected s).statusPublished = !toPublish v connected s := by
  unfold LoopVars.refresh toPublish
  by_cases h : connected ≠ v.ocppConnected ∨ s ≠ v.ocppStatus
  · rw [if_pos h, decide_eq_true (Or.inr h)]
    rfl
  · rw [if_neg h]
    cases hp : v.statusPublished with
    | false => rw [decide_eq_true (Or.inl rfl)]; rfl
    | true => rw [decide_eq_false (by rintro (h' | h'); cases h'; exact h h')]; rfl

theorem refresh_state (v : LoopVars) (connected : Bool) (s : RegistrationStatus) :
    (v.refresh connected s).ocppConnected = connected ∧ (v.refresh connected s).ocppStatus = s := by
  unfold LoopVars.refresh
  by_cases h : connected ≠ v.ocppConnected ∨ s ≠ v.ocppStatus
  · rw [if_pos h]
    exact ⟨rfl, rfl⟩
  · rw [if_neg h]
    rw [not_or, not_not, not_not] at h
    exact ⟨h.1.symm, h.2.symm⟩

theorem Link.Base.refresh {l : Link} (h : Base cp l) (connected : Bool) (s : RegistrationStatus) :
    Base cp { l with vars := l.vars.refresh connected s } := by
  unfold LoopVars.refresh
  by_cases hn : connected ≠ l.vars.ocppConnected ∨ s ≠ l.vars.ocppStatus
  · rw [if_pos hn]
    exact ⟨rfl, fun _ hp => by cases hp⟩
  · rw [if_neg hn]
    exact h

structure Link.Tried (cp : SimulatedChargePoint) (v : LoopVars) (c : Bool) (s : RegistrationStatus) (success : Bool)
    (l : Link) : Prop where
  vars : l.vars = v
  retained : success = true → l.status = some (buildStatusMessage cp v.statusStr) ∧ lost l.history = false
  calm : l.Calm → success = true ∧ Read c s l

theorem link_publish (w : World) (m : StatusMessage) (b : Bool) :
    ((if b = true then { w with broker := { w.broker with status := some m } } else w).note
      (.published (.status m) b)).link =
    { w.link with status := if b = true then some m else w.link.status }.note (.published (.status m) b) := by
  rw [link_note_of_ofLink rfl]
  cases b <;> rfl

theorem publishStatus_link {v : LoopVars} (c : Bool) (s : RegistrationStatus) :
    SpecLink (Holds cp v (Read c s)) (publishStatus cp v.statusStr) (Tried cp v c s) := by
  refine Spec.bind (R := fun b w => Holds cp v (fun l => b = true ∧ Read c s l) w.link) ?_ (fun b => ?_)
  · exact ask_link (fun _ => rfl) (Holds.closed cp v (Read c s)) (fun _ _ h =>
      ⟨h.base, h.vars, fun hc => ⟨hc.connected, h.calm hc⟩⟩)
  cases b with
  | false =>
    refine Spec.pure _ (fun w h => ⟨h.vars, fun hf => (by cases hf), fun hc => ?_⟩)
    exact absurd (h.calm hc).1 Bool.false_ne_true
  | true =>
    rw [if_pos rfl]
    refine Spec.call (fun t w hw => (Holds.closed cp v (fun l => true = true ∧ Read c s l)).tick t w hw) (fun t w h => ?_)
    show Tried cp v c s (w.mqtt.connected && t.published) (World.link (World.note _ _))
    rw [link_publish]
    cases w.mqtt.connected && t.published with
    | false => exact ⟨h.vars, fun hf => (by cases hf), fun hc => (by cases hc.quiet)⟩
    | true => exact ⟨h.vars, fun _ => ⟨rfl, rfl⟩, fun hc => ⟨rfl, (h.calm ⟨hc.ended, hc.connected, hc.quiet⟩).2⟩⟩

def Link.After (cp : SimulatedChargePoint) (v₀ : LoopVars) (l : Link) : Prop :=
  Base cp l ∧ (l.Calm → Published v₀ l)

theorem Link.After.closed (v₀ : LoopVars) : Link.Closed cp (After cp v₀) := fun l l' h hl =>
  ⟨Base.closed cp l l' h hl.1, fun hc => absurd hc h.not_calm⟩

/-- The flag is the outcome of what was tried. -/
theorem Link.Tried.after {v₀ : LoopVars} {c b : Bool} {s : RegistrationStatus} {l : Link}
    (h : Tried cp (v₀.refresh c s) c s b l) (ht : toPublish v₀ c s = true)
    (htext : (v₀.refresh c s).statusStr = statusText (v₀.refresh c s).ocppConnected (v₀.refresh c s).ocppStatus) :
    After cp v₀ { l with vars := { l.vars with statusPublished := b } } := by
  obtain ⟨hc, hs⟩ := refresh_state v₀ c s
  obtain ⟨hv, hret, hcalm⟩ := h
  refine ⟨⟨?_, fun _ hb => ?_⟩, fun hl => ?_⟩
  · show l.vars.statusStr = statusText l.vars.ocppConnected l.vars.ocppStatus
    rw [hv]
    exact htext
  · obtain ⟨hstatus, hlost⟩ := hret hb
    show l.status = some (if lost l.history then _ else buildStatusMessage cp l.vars.statusStr)
    rw [hlost, if_neg Bool.false_ne_true, hv]
    exact hstatus
  · obtain ⟨hb, hr₁, hr₂⟩ := hcalm ⟨hl.ended, hl.connected, hl.quiet⟩
    refine ⟨hb, ?_, ?_, ?_⟩
    · show l.vars.ocppConnected = l.isConnected
      rw [hv, hc, hr₁]
    · show l.vars.ocppStatus = l.registration
      rw [hv, hs, hr₂]
    · show lost l.history = (lostBefore l.history && !toPublish v₀ l.isConnected l.registration)
      rw [hr₁, hr₂, ht, (hret hb).2, Bool.not_true, Bool.and_false]

theorem Link.After.of_nothing {v₀ : LoopVars} {c : Bool} {s : RegistrationStatus} {l : Link} (hb : Base cp l)
    (hv : l.vars = v₀.refresh c s) (ht : toPublish v₀ c s = false) (hl : l.Calm → Began l ∧ Read c s l) :
    After cp v₀ l := by
  obtain ⟨hc, hs⟩ := refresh_state v₀ c s
  refine ⟨hb, fun h => ?_⟩
  obtain ⟨hbegan, hr₁, hr₂⟩ := hl h
  refine ⟨?_, ?_, ?_, ?_⟩
  · rw [hv, statusPublished_refresh, ht]
    rfl
  · rw [hv, hc, hr₁]
  · rw [hv, hs, hr₂]
  · have hlost : lost l.history = lostBefore l.history := hbegan
    rw [hr₁, hr₂, ht, hlost, Bool.not_false, Bool.and_true]

/-- **`updateStatus` publishes what it is to publish.** -/
theorem updateStatus_link (v₀ : LoopVars) :
    SpecLink (Holds cp v₀ Began) (updateStatus cp) (fun _ => After cp v₀) := by
  refine Spec.bind (R := fun c w => Holds cp v₀ (fun l => Began l ∧ l.isConnected = c) w.link) ?_ (fun c => ?_)
  · exact ask_link (fun _ => rfl) (Holds.closed cp v₀ _) (fun _ _ h => ⟨h.base, h.vars, fun hc => ⟨h.calm hc, rfl⟩⟩)
  refine Spec.bind (R := fun s w => Holds cp v₀ (fun l => Began l ∧ Read c s l) w.link) ?_ (fun s => ?_)
  · exact ask_link (fun _ => rfl) (Holds.closed cp v₀ _) (fun _ _ h =>
      ⟨h.base, h.vars, fun hc => ⟨(h.calm hc).1, (h.calm hc).2, rfl⟩⟩)
  refine Spec.bind (R := fun _ w => Holds cp (v₀.refresh c s) (fun l => Began l ∧ Read c s l) w.link) ?_ (fun _ => ?_)
  · refine Spec.update (fun w h => ⟨h.base.refresh c s, ?_, fun hc => h.calm ⟨hc.ended, hc.connected, hc.quiet⟩⟩)
    rw [← h.vars]
    rfl
  refine Spec.read_bind (fun w₁ h₁ => Spec.pre (fun _ h => h.1) ?_)
  have hv : w₁.vars = v₀.refresh c s := h₁.vars
  have hp := statusPublished_refresh v₀ c s
  rw [hv]
  -- the flag is down exactly where there is something to publish
  refine Spec.ite (fun hf => ?_) (fun hf => ?_)
  · have ht : toPublish v₀ c s = true := by simpa [hf] using hp
    have htext : (v₀.refresh c s).statusStr = statusText (v₀.refresh c s).ocppConnected (v₀.refresh c s).ocppStatus := by
      rw [← hv]
      exact h₁.base.text
    refine Spec.bind (R := fun b w => Tried cp (v₀.refresh c s) c s b w.link) ?_ (fun b => ?_)
    · exact Spec.pre (fun w h => ⟨h.base, h.vars, fun hc => (h.calm hc).2⟩) (publishStatus_link c s)
    · exact Spec.update (fun w h => h.after ht htext)
  · have ht : toPublish v₀ c s = false := by simpa [hf] using hp
    exact Spec.pure _ (fun w h => After.of_nothing h.base h.vars ht h.calm)

theorem isEndOfApplication_link {P : Link → Prop} {Q : Bool → Link → Prop} (hP : Link.Closed cp P)
    (h : ∀ l b, P l → Q b (l.note (.isEndOfApplication b))) : SpecLink P (isEndOfApplication cp) Q :=
  call_link hP (fun t w hw => by
    show Q w.mqtt.ended (w.note (.isEndOfApplication w.mqtt.ended)).link
    rw [link_note_of_ofLink rfl]
    exact h _ _ hw)

theorem waiting_link (v : LoopVars) :
    SpecLink (fun l => Base cp l ∧ l.vars = v) (waiting cp) (fun _ => Holds cp v Began) := by
  have hcl : Link.Closed cp (fun l => Base cp l ∧ l.vars = v) := by
    intro l l' h hl
    have hv : l'.vars = l.vars := by cases h <;> rfl
    exact ⟨Base.closed cp l l' h hl.1, hv.trans hl.2⟩
  have kept := Holds.closed cp v Began
  refine SpecOn.bind (R := fun _ => Holds cp v Began) ?_ (fun b => ?_)
  · exact isEndOfApplication_link hcl (fun l b h => ⟨⟨h.1.text, h.1.retained⟩, h.2, fun _ => rfl⟩)
  refine SpecOn.ite (fun _ => SpecOn.pure _ (fun _ h => h)) (fun _ => ?_)
  refine SpecOn.keep (passive_link (ask_link_passive (fun _ => rfl)) kept) (fun r => ?_)
  refine SpecOn.ite (fun _ => SpecOn.pure _ (fun _ h => h)) (fun _ => ?_)
  exact SpecOn.keep (passive_link (ask_link_passive (fun _ => rfl)) kept) (fun s => SpecOn.pure _ (fun _ h => h))

theorem goingOn_link : SpecLink (Base cp) (goingOn cp) (fun _ => Base cp) := by
  refine SpecOn.keep (isEndOfApplication_link (Base.closed cp) (fun l b h => ⟨h.text, h.retained⟩)) (fun b => ?_)
  refine SpecOn.ite (fun _ => SpecOn.pure _ (fun _ h => h)) (fun _ => ?_)
  exact SpecOn.keep (passive_link (ask_link_passive (fun _ => rfl)) (Base.closed cp)) (fun r => SpecOn.pure _ (fun _ h => h))

theorem pollConnectors_link (v₀ : LoopVars) :
    SpecLink (Holds cp v₀ Began) (pollConnectors cp) (fun _ => After cp v₀) :=
  SpecOn.bind (updateStatus_link v₀) (fun _ =>
    passive_link (Passive.forM (fun c _ => updateConnectorStatus_passive (blind_link c))) (After.closed v₀))

theorem loopRound_link : SpecLink (Base cp) (loopRound cp) (fun _ => Base cp) := by
  refine SpecOn.split Link.vars (fun v => SpecOn.bind (waiting_link v) (fun b => SpecOn.ite (fun _ => ?_) (fun _ => ?_)))
  · refine SpecOn.bind (R := fun _ => Base cp) ?_ (fun _ => SpecOn.pure _ (fun _ h => h))
    refine SpecOn.bind (updateStatus_link v) (fun _ => SpecOn.pre (fun _ h => h.1) ?_)
    exact passive_link publishData_link (Base.closed cp)
  · refine SpecOn.bind (pollConnectors_link v) (fun _ => SpecOn.pre (fun _ h => h.1) ?_)
    exact SpecOn.keep (passive_link actOnConnectors_link (Base.closed cp)) (fun _ => goingOn_link)

theorem loop_link (k : Nat) : SpecLink (Base cp) (loop cp k) (fun _ => Base cp) := Spec.rounds loopRound_link k

theorem iteration_link (v : LoopVars) :
    SpecLink (fun l => Base cp l ∧ l.vars = v)
      (do let wait ← waiting cp; (if wait then pure () else do pollConnectors cp; actOnConnectors cp); pure (!wait))
      (fun ran l => ran = true → After cp v l) := by
  refine SpecOn.bind (waiting_link v) (fun wait => ?_)
  cases wait with
  | true => exact SpecOn.pure _ (fun _ _ h => by cases h)
  | false =>
    refine SpecOn.bind (R := fun _ => After cp v) ?_ (fun _ => SpecOn.pure _ (fun _ h _ => h))
    exact SpecOn.bind (pollConnectors_link v) (fun _ => passive_link actOnConnectors_link (After.closed v))

/-! ## The run -/

theorem will_ne_status (connected : Bool) (s : RegistrationStatus) :
    will cp ≠ buildStatusMessage cp (statusText connected s) := by
  intro h
  have hs : "Dead" = statusText connected s := congrArg StatusMessage.status h
  revert hs
  cases connected <;> cases s <;> decide

theorem ofLink_of_disturbs {e : Entry} (h : e.disturbs = true) : e.ofLink = true := by
  unfold Entry.disturbs at h
  split at h <;> first | rfl | cases h

theorem ofLink_of_begins {e : Entry} (h : e.begins = true) : e.ofLink = true := by
  unfold Entry.begins at h
  split at h <;> first | rfl | cases h

theorem ofLink_of_loses {e : Entry} (h : e.loses = true) : e.ofLink = true := by
  unfold Entry.loses at h
  split at h <;> first | rfl | cases h

theorem ofLink_of_publishes {e : Entry} (h : e.publishes = true) : e.ofLink = true := by
  unfold Entry.publishes at h
  split at h <;> first | rfl | cases h

theorem quiet_link (w : World) : Quiet w.link.history ↔ Quiet w.log := by
  unfold Quiet
  rw [← since_filter (fun _ => ofLink_of_disturbs) (fun _ => ofLink_of_begins) w.log]
  rfl

theorem lostBefore_link (w : World) : lostBefore w.link.history = lostBefore w.log :=
  sinceAt_filter (fun _ => ofLink_of_begins) (fun _ h => by cases h)
    (since_filter (fun _ => ofLink_of_loses) (fun _ => ofLink_of_publishes)) w.log

/-- **At the end of an undisturbed iteration the retained message is the current one exactly if nothing was lost before
it, or it was to publish.** -/
theorem status_current_iff (cp : SimulatedChargePoint) (w : World) (hv : w.vars = {}) (k : Nat) (script : List Tick)
    (hr : (loopIterated cp k (w, script)).1 = true) (he : (afterIteration cp k w script).mqtt.ended = false)
    (hc : (afterIteration cp k w script).mqtt.connected = true) (hq : Quiet (afterIteration cp k w script).log) :
    StatusCurrent cp (afterIteration cp k w script) ↔
      lostBefore (afterIteration cp k w script).log = false ∨
        toPublish (afterLoop cp k w script).vars (afterIteration cp k w script).handler.isConnected
          (afterIteration cp k w script).stack.registration = true := by
  have hb : Base cp (afterLoop cp k w script).link := by
    refine loop_link k w script ⟨?_, fun _ hp => ?_⟩
    · show w.vars.statusStr = statusText w.vars.ocppConnected w.vars.ocppStatus
      rw [hv]
      rfl
    · have hf : w.vars.statusPublished = true := hp
      rw [hv] at hf
      cases hf
  have ha : After cp (afterLoop cp k w script).vars (afterIteration cp k w script).link :=
    iteration_link (afterLoop cp k w script).vars _ (loop cp k (w, script)).2.2 ⟨hb, rfl⟩ hr
  obtain ⟨⟨htext, hret⟩, hpub⟩ := ha
  obtain ⟨hp, hconn, hstatus, hlost⟩ := hpub ⟨he, hc, (quiet_link _).2 hq⟩
  rw [lostBefore_link] at hlost
  have hmsg := hret he hp
  rw [htext, hconn, hstatus] at hmsg
  have hcur : StatusCurrent cp (afterIteration cp k w script) ↔ lost (afterIteration cp k w script).link.history = false := by
    show (afterIteration cp k w script).link.status = _ ↔ _
    rw [hmsg]
    cases lost (afterIteration cp k w script).link.history with
    | true => exact ⟨fun h => absurd (Option.some.inj h) (will_ne_status _ _), fun h => by cases h⟩
    | false => exact ⟨fun _ => rfl, fun _ => rfl⟩
  have hand : ∀ a b : Bool, (a && !b) = false ↔ a = false ∨ b = true := by decide
  rw [hcur, hlost]
  exact hand _ _

/-- What `MqttManager::start` does to connect, and after a loss to close, to wait and to connect again. -/
def connectSteps : List Event := List.replicate 6 (.mqttStartStep true)

def reconnectSteps : List Event := .brokerLost :: List.replicate 9 (.mqttStartStep true)

/-- A charge point that registers, loses the broker where `lossAt` says, and is connected again. -/
def sampleLoss (lossAt : Nat) : List Tick := script 120
  ((connectSteps ++ [Event.connectionStateChanged true]).map (fun e => (0, e)) ++ reconnectSteps.map (fun e => (lossAt, e)))

/-- Connected for the first time, the charge point publishes its status. -/
theorem status_current_iff_session :
    StatusCurrent .sample (afterIteration .sample 1 (.start .sample .idle) (sampleLoss 60)) :=
  (status_current_iff .sample (.start .sample .idle) rfl 1 (sampleLoss 60) (by decide +kernel) (by decide +kernel)
    (by decide +kernel) (by decide +kernel)).2 (by decide +kernel)

/-- **The broker is lost and found again, an undisturbed iteration has run, and the will is still retained.** -/
theorem status_dead_after_reconnect :
    let w := afterIteration .sample 3 (.start .sample .idle) (sampleLoss 60)
    w.mqtt.connected = true ∧ w.mqtt.ended = false ∧ Quiet w.log ∧ w.broker.status = some (will .sample) ∧
      ¬StatusCurrent .sample w := by
  decide +kernel

end Simu
