import OcppSimu.Rules
/-!
# Publications — what a charge point says of itself

The loop publishes the status of the charge point and those of its connectors, `MqttManager` registers a will, and all
of these messages carry the parameters of the program: the status messages in every field but one, those of the
connectors the rating, which is set once and never written again.
-/
namespace Simu

open Script View

variable {cp : SimulatedChargePoint} {c : Nat} {α : Type}

/-- **A message is the charge point's own.** -/
def Publication.Own (cp : SimulatedChargePoint) : Publication → Prop
  | .status m => ∃ text, m = buildStatusMessage cp text
  | .connector c m => c ∈ cp.ids ∧ m.maxSetpoint = cp.maxConnectorSetpoint

def Entry.publication : Entry → Option Publication
  | .published m _ => some m
  | _ => none

def publications (w : World) : List Publication := w.log.filterMap Entry.publication

def AllOwn (cp : SimulatedChargePoint) (w : World) : Prop := ∀ m ∈ publications w, m.Own cp

/-! ## The rating -/

def Rated (cp : SimulatedChargePoint) (v : View) : Prop := v.connector.maxSetpoint = cp.maxConnectorSetpoint

def AllRated (cp : SimulatedChargePoint) (w : World) : Prop := ∀ c ∈ cp.ids, Rated cp (w.view c)

theorem rated_steady : Steady c (Rated cp) where
  env := closed_own (P := fun d _ => d.maxSetpoint = cp.maxConnectorSetpoint) (fun _ _ _ _ _ h => h)
  setpoints _ _ _ h := h
  asked _ _ _ h := h
  metered _ _ h := h

theorem updateConnectorStatus_rated : SpecAt c (Rated cp) (updateConnectorStatus cp c) (fun _ => Rated cp) := by
  have entryFree : EntryFree c (Rated cp) :=
    { env := rated_steady.env, cleared := fun _ h => h, badge := fun _ h => h, timed := fun _ _ h => h }
  exact updateConnectorStatus_keeps entryFree (fun _ h => h) (fun _ _ h => h) (fun _ _ h => h)

theorem nextStatus_rated : SpecAt c (Rated cp) (nextStatus cp c) (fun _ => Rated cp) :=
  Unassigned.nextStatus (P := fun d => d.maxSetpoint = cp.maxConnectorSetpoint) (fun _ _ _ _ _ h => h)

theorem allRated {m : M α} (h : ∀ c ∈ cp.ids, SpecAt c (Rated cp) m (fun _ => Rated cp)) :
    Spec (AllRated cp) m (fun _ => AllRated cp) := fun w ts hw c hc => h c hc w ts (hw c hc)

theorem allRated_passive {m : M α} (h : ∀ c, Passive (World.tick cp) (World.view c) m) :
    Spec (AllRated cp) m (fun _ => AllRated cp) := allRated (fun c _ => passive_at (h c) rated_steady.env)

/-! ## The messages -/

theorem publications_cons {e : Entry} (h : e.publication = none) (l : List Entry) :
    (e :: l).filterMap Entry.publication = l.filterMap Entry.publication := List.filterMap_cons_none h

theorem publications_note (w : World) {e : Entry} (h : e.publication = none) :
    publications (w.note e) = publications w := publications_cons h w.log

theorem publications_published (w : World) (m : Publication) (b : Bool) :
    publications (w.note (.published m b)) = m :: publications w := rfl

theorem AllOwn.note {w : World} (h : AllOwn cp w) {m : Publication} (hm : m.Own cp) (b : Bool) :
    AllOwn cp (w.note (.published m b)) := by
  intro x hx
  rw [publications_published] at hx
  rcases List.mem_cons.1 hx with rfl | hx
  · exact hm
  · exact h x hx

theorem AllOwn.same {w w' : World} (h : AllOwn cp w) (hw : publications w' = publications w) : AllOwn cp w' := by
  unfold AllOwn
  rw [hw]
  exact h

theorem own_will : Publication.Own cp (.status (will cp)) := ⟨_, rfl⟩

/-- **The other threads publish nothing but the will.** -/
theorem AllOwn.step {w : World} (h : AllOwn cp w) (e : Event) : AllOwn cp (w.step cp e) := by
  cases e with
  | carMessage c p | idTagMessage c id | faultedMessage c b =>
    simp only [World.step]
    split
    · exact h.same (publications_note _ rfl)
    · exact h
  | remoteStartTransactionRequested c idTag =>
    simp only [World.step, remoteStartTransactionRequested]
    split
    · exact h.same (publications_note _ rfl)
    · exact h.same (publications_note _ rfl)
  | brokerLost =>
    simp only [World.step]
    split
    · exact h.same (publications_note _ rfl)
    · exact h
  | mqttStartStep b =>
    simp only [World.step, mqttStartStep]
    split
    · split
      · exact h.same (publications_note _ rfl)
      · exact h
    · split
      · exact h
      · exact h
    · split
      · exact h
      · exact h
    · exact h.same (publications_note _ rfl)
    · exact h.same (publications_note _ rfl)
    · split
      · exact AllOwn.note (w := { w with broker := _, mqtt := _ }) h own_will true
      · exact AllOwn.note (w := { w with mqtt := _ }) h own_will false
    · exact h
    · exact h.same (publications_note _ rfl)
    · exact h
  | _ => exact h.same (publications_note _ rfl)

theorem AllOwn.tick {w : World} (h : AllOwn cp w) (t : Tick) : AllOwn cp (w.tick cp t) :=
  tick_keeps (fun _ e h => h.step e) t h

/-! ## The loop -/

theorem blind_publications (d : Nat) : Blind publications d := blind_log (f := List.filterMap Entry.publication)
  (fun e l he _ => publications_cons (by cases e <;> first | rfl | cases he) l)

theorem allOwn_passive {m : M α} (hm : Passive (World.tick cp) publications m) :
    Spec (AllOwn cp) m (fun _ => AllOwn cp) := hm (fun l => ∀ m ∈ l, m.Own cp) (fun t _ h => AllOwn.tick h t)

theorem ask_publications {f : Tick → World → α} {entry : α → Entry} (he : ∀ a, (entry a).publication = none) :
    Passive (World.tick cp) publications (ask cp f entry) := ask_passive (fun a w => publications_note w (he a))

theorem publish_own {m : Publication} (hm : m.Own cp) : Spec (AllOwn cp) (publish cp m) (fun _ => AllOwn cp) := by
  refine Spec.call (fun t w h => h.tick t) (fun t w h => AllOwn.note ?_ hm _)
  split
  · cases m <;> exact h
  · exact h

/-- **What is published is sound between any two phases of the loop.** -/
def Sound (cp : SimulatedChargePoint) (w : World) : Prop := AllRated cp w ∧ AllOwn cp w

theorem sound_passive {m : M α} (h : ∀ c, Passive (World.tick cp) (World.view c) m)
    (hm : Spec (AllOwn cp) m (fun _ => AllOwn cp)) : Spec (Sound cp) m (fun _ => Sound cp) :=
  Spec.and (allRated_passive h) hm

theorem publishConnector_sound (hc : c ∈ cp.ids) : Spec (Sound cp) (publishConnector cp c) (fun _ => Sound cp) := by
  refine Spec.read_bind (fun w hw => Spec.pre (fun _ h => h.1) ?_)
  refine Spec.bind (R := fun _ => Sound cp) ?_ (fun _ => Spec.pure _ (fun _ h => h))
  exact sound_passive (fun c => publish_passive (deaf_view c) _) (publish_own ⟨hc, hw.1 c hc⟩)

theorem publishData_sound : Spec (Sound cp) (publishData cp) (fun _ => Sound cp) := by
  refine Spec.bind (R := fun _ => Sound cp) (sound_passive
      (fun c => mqttConnected_passive (fun _ w => (deaf_view c).noted w _ rfl))
      (allOwn_passive (mqttConnected_passive (fun _ w => publications_note w rfl))))
    (fun b => Spec.ite (fun _ => ?_) (fun _ => Spec.pure _ (fun _ h => h)))
  exact Spec.forM (fun c hc => publishConnector_sound hc)

theorem publishStatus_own (text : String) : Spec (AllOwn cp) (publishStatus cp text) (fun _ => AllOwn cp) := by
  refine Spec.bind (R := fun _ => AllOwn cp) (allOwn_passive (mqttConnected_passive (fun _ w => publications_note w rfl)))
    (fun b => ?_)
  exact Spec.ite (fun _ => publish_own ⟨text, rfl⟩) (fun _ => Spec.pure _ (fun _ h => h))

theorem updateStatus_sound : Spec (Sound cp) (updateStatus cp) (fun _ => Sound cp) := by
  refine sound_passive (fun c => updateStatus_passive (deaf_view c)) ?_
  refine Spec.bind (R := fun _ => AllOwn cp) (allOwn_passive (ask_publications (fun _ => rfl))) (fun connected => ?_)
  refine Spec.bind (R := fun _ => AllOwn cp) (allOwn_passive (ask_publications (fun _ => rfl))) (fun status => ?_)
  refine Spec.bind (R := fun _ => AllOwn cp) (Spec.update (fun _ h => h)) (fun _ => ?_)
  refine Spec.bind (R := fun _ => AllOwn cp) (Spec.read (fun _ h => h)) (fun v => ?_)
  refine Spec.ite (fun _ => ?_) (fun _ => Spec.pure _ (fun _ h => h))
  exact Spec.bind (publishStatus_own v.statusStr) (fun _ => Spec.update (fun _ h => h))

theorem publications_note_of_round (w : World) (e : Entry) (he : e.ofRound = true) :
    publications (w.note e) = publications w := publications_note w (by cases e <;> first | rfl | cases he)

theorem waiting_sound : Spec (Sound cp) (waiting cp) (fun _ => Sound cp) :=
  sound_passive (fun _ => waiting_passive) (allOwn_passive (waiting_unseen publications_note_of_round))

theorem goingOn_sound : Spec (Sound cp) (goingOn cp) (fun _ => Sound cp) :=
  sound_passive (fun _ => goingOn_passive) (allOwn_passive (goingOn_unseen publications_note_of_round))

theorem computeSetpoints_publications : Passive (World.tick cp) publications (computeSetpoints cp) :=
  computeSetpoints_passive blind_publications (fun w e he => publications_note w (by cases e <;> first | rfl | cases he))
    (fun _ _ => rfl)

theorem pollConnectors_sound : Spec (Sound cp) (pollConnectors cp) (fun _ => Sound cp) := by
  refine Spec.bind updateStatus_sound (fun _ => Spec.and (allRated (fun c hc => ?_)) (allOwn_passive ?_))
  · exact forM_at hc (fun _ hd => updateConnectorStatus_passive (blind_view hd)) rated_steady.env rated_steady.env
      updateConnectorStatus_rated
  · exact Passive.forM (fun c _ => updateConnectorStatus_passive (blind_publications c))

theorem actOnConnectors_sound : Spec (Sound cp) (actOnConnectors cp) (fun _ => Sound cp) := by
  refine Spec.bind (R := fun _ => Sound cp) ?_ (fun _ => Spec.bind (R := fun _ => Sound cp) ?_ (fun _ =>
    Spec.bind (R := fun _ => Sound cp) ?_ (fun _ => publishData_sound)))
  · exact Spec.and (allRated (fun c _ => computeSetpoints_steady rated_steady)) (allOwn_passive computeSetpoints_publications)
  · refine Spec.and (allRated (fun c hc => updateData_at hc rated_steady.env (fun _ h => h))) (allOwn_passive ?_)
    exact updateData_passive blind_publications
  · refine Spec.and (allRated (fun c hc => ?_)) (allOwn_passive (passes_passive blind_publications))
    refine passes_at hc rated_steady.env rated_steady.env ?_
    exact SpecOn.bind nextStatus_rated (fun _ => computeConsumption_steady rated_steady)

theorem loopRound_sound : Spec (Sound cp) (loopRound cp) (fun _ => Sound cp) := by
  refine Spec.bind waiting_sound (fun b => Spec.ite (fun _ => ?_) (fun _ => ?_))
  · exact Spec.bind (Spec.bind updateStatus_sound (fun _ => publishData_sound)) (fun _ => Spec.pure _ (fun _ h => h))
  · exact Spec.bind pollConnectors_sound (fun _ => Spec.bind actOnConnectors_sound (fun _ => goingOn_sound))

/-- **Whatever a charge point publishes in a run is its own.** -/
theorem published_own (cp : SimulatedChargePoint) (stack : Stack) (k : Nat) (script : List Tick) (m : Publication) (b : Bool)
    (h : .published m b ∈ (afterLoop cp k (World.start cp stack) script).log) : m.Own cp := by
  have hs : Sound cp (afterLoop cp k (World.start cp stack) script) := by
    refine Spec.rounds loopRound_sound k _ _ ⟨fun c _ => rfl, fun m hm => ?_⟩
    cases hm
  exact hs.2 m (List.mem_filterMap.2 ⟨_, h, rfl⟩)

end Simu
