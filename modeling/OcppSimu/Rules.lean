import OcppSimu.View
/-!
# Rules — the calls of the loop, on the view of the connector they are made for

One rule for each call: what it answers and how it moves the view (`isIdTagPending_at` and its siblings), for any
precondition the other threads keep.  The passes of the loop for another connector are passive (`nextStatus_passive`),
so a whole round is the four passes for the connector itself, in the order of an iteration (`loopRound_at`).
-/
namespace Simu

open Script View

variable {cp : SimulatedChargePoint} {c : Nat} {α β ν : Type}

abbrev SpecAt (c : Nat) (P : View → Prop) (m : M α) (Q : α → View → Prop) : Prop := SpecOn (World.view c) P m Q

/-- **The rule of a call about the connector.** -/
theorem SpecAt.call {P : View → Prop} {Q : α → View → Prop} {act : Tick → World → α × World} (hP : Closed c P)
    (h : ∀ t w, P (w.view c) → Q (act t w).1 ((act t w).2.view c)) :
    SpecAt c P (Script.call (World.tick cp) act) Q := Spec.call (fun t w hw => hP.tick cp t w hw) h

theorem passive_at {m : M α} (hm : Passive (World.tick cp) (World.view c) m) {P : View → Prop}
    (hP : Closed c P) : SpecAt c P m (fun _ => P) := hm P (fun t w hw => hP.tick cp t w hw)

/-! ## The calls about a connector -/

theorem ask_at {f : Tick → World → α} {entry : α → Entry} {P : View → Prop} {Q : α → View → Prop}
    (he : ∀ a, (entry a).about = some c) (hP : Closed c P)
    (h : ∀ t w, P (w.view c) → Q (f t w) ((w.view c).note (entry (f t w)))) : SpecAt c P (ask cp f entry) Q :=
  SpecAt.call hP (fun t w hw => by rw [view_note_of_about (he _)]; exact h t w hw)

theorem act_at {f : World → World} {g : View → View} {entry : Entry} {P : View → Prop} {Q : Unit → View → Prop}
    (he : entry.about = some c) (hf : ∀ w, (f w).view c = g (w.view c)) (hP : Closed c P)
    (h : ∀ v, P v → Q () ((g v).note entry)) : SpecAt c P (act cp f entry) Q :=
  SpecAt.call hP (fun _ w hw => by rw [view_note_of_about he, hf]; exact h _ hw)

section Calls

variable {P : View → Prop}

theorem getConnectorStatus_at {Q : ChargePointStatus → View → Prop} (hP : Closed c P)
    (h : ∀ v, P v → Q v.status (v.note (.getConnectorStatus c v.status))) :
    SpecAt c P (getConnectorStatus cp c) Q := ask_at (fun _ => rfl) hP (fun _ w hw => h (w.view c) hw)

theorem statusNotification_at {Q : Unit → View → Prop} {s : ChargePointStatus} (hP : Closed c P)
    (h : ∀ v, P v → Q () ({ v with status := s }.note (.statusNotification c s))) :
    SpecAt c P (statusNotification cp c s) Q :=
  act_at (g := fun v => { v with status := s }) rfl (fun w => view_setStatus w c s) hP h

theorem startTransaction_at {Q : AuthorizationStatus → View → Prop} {idTag : String} (hP : Closed c P)
    (h : ∀ v a, P v → Q a (v.note (.startTransaction c idTag a))) : SpecAt c P (startTransaction cp c idTag) Q :=
  ask_at (fun _ => rfl) hP (fun t w hw => h (w.view c) t.startTransaction hw)

theorem stopTransaction_at {Q : Unit → View → Prop} {idTag : String} {reason : Reason} (hP : Closed c P)
    (h : ∀ v, P v → Q () (v.note (.stopTransaction c idTag reason))) :
    SpecAt c P (stopTransaction cp c idTag reason) Q :=
  act_at (g := id) rfl (fun _ => rfl) hP h

theorem getSetpoint_at {Q : Option (Option ℚ × Option ℚ) → View → Prop} {unit : ChargingRateUnitType}
    (hP : Closed c P) (h : ∀ v a, P v → Q a (v.note (.getSetpoint c unit a))) : SpecAt c P (getSetpoint cp c unit) Q :=
  ask_at (fun _ => rfl) hP (fun t w hw => h (w.view c) t.getSetpoint hw)

theorem authorize_at {Q : AuthorizationStatus × String → View → Prop} {idTag : String} (hP : Closed c P)
    (h : ∀ v r, P v → Q r (v.note (.authorize c idTag r.1))) : SpecAt c P (authorize cp c idTag) Q :=
  ask_at (fun _ => rfl) hP (fun t w hw => h (w.view c) (t.authorize, t.parentIdTag) hw)

theorem authorizeRemoteTxRequests_at {Q : Bool → View → Prop} (hP : Closed c P)
    (h : ∀ v b, P v → Q b (v.note (.authorizeRemoteTxRequests c b))) :
    SpecAt c P (authorizeRemoteTxRequests cp c) Q :=
  ask_at (fun _ => rfl) hP (fun _ w hw => h (w.view c) w.stack.authorizeRemoteTxRequests hw)

theorem isIdTagPending_at {Q : Bool → View → Prop} (hP : Closed c P)
    (h : ∀ v, P v → Q (decide (v.mqtt.idTag ≠ "")) (v.note (.isIdTagPending c (decide (v.mqtt.idTag ≠ ""))))) :
    SpecAt c P (isIdTagPending cp c) Q := ask_at (fun _ => rfl) hP (fun _ w hw => h (w.view c) hw)

theorem pendingIdTag_at {Q : String → View → Prop} (hP : Closed c P)
    (h : ∀ v, P v → Q v.mqtt.idTag (v.note (.pendingIdTag c v.mqtt.idTag))) : SpecAt c P (pendingIdTag cp c) Q :=
  ask_at (fun _ => rfl) hP (fun _ w hw => h (w.view c) hw)

theorem resetIdTagPending_at {Q : Unit → View → Prop} (hP : Closed c P)
    (h : ∀ v, P v → Q () ({ v with mqtt := { v.mqtt with idTag := "" } }.note (.resetIdTagPending c))) :
    SpecAt c P (resetIdTagPending cp c) Q :=
  act_at (g := fun v => { v with mqtt := { v.mqtt with idTag := "" } }) rfl
    (fun w => view_setMqttConnector w c _) hP h

theorem isRemoteStartPending_at {Q : Bool → View → Prop} (hP : Closed c P)
    (h : ∀ v, P v → Q v.startPending (v.note (.isRemoteStartPending c v.startPending))) :
    SpecAt c P (isRemoteStartPending cp c) Q := ask_at (fun _ => rfl) hP (fun _ w hw => h (w.view c) hw)

theorem remoteStartIdTag_at {Q : String → View → Prop} (hP : Closed c P)
    (h : ∀ v, P v → Q v.startIdTag (v.note (.remoteStartIdTag c v.startIdTag))) :
    SpecAt c P (remoteStartIdTag cp c) Q := ask_at (fun _ => rfl) hP (fun _ w hw => h (w.view c) hw)

theorem resetRemoteStartPending_at {Q : Unit → View → Prop} (hP : Closed c P)
    (h : ∀ v, P v → Q () ({ v with startPending := false }.note (.resetRemoteStartPending c))) :
    SpecAt c P (resetRemoteStartPending cp c) Q :=
  act_at (g := fun v => { v with startPending := false }) rfl (fun w => by simp [World.view, World.history, World.setRemoteStart]) hP h

theorem isRemoteStopPending_at {Q : Bool → View → Prop} (hP : Closed c P)
    (h : ∀ v, P v → Q v.stopPending (v.note (.isRemoteStopPending c v.stopPending))) :
    SpecAt c P (isRemoteStopPending cp c) Q := ask_at (fun _ => rfl) hP (fun _ w hw => h (w.view c) hw)

theorem resetRemoteStopPending_at {Q : Unit → View → Prop} (hP : Closed c P)
    (h : ∀ v, P v → Q () ({ v with stopPending := false }.note (.resetRemoteStopPending c))) :
    SpecAt c P (resetRemoteStopPending cp c) Q :=
  act_at (g := fun v => { v with stopPending := false }) rfl (fun w => by simp [World.view, World.history, World.setRemoteStop]) hP h

theorem unavailablePending_at {Q : Bool → View → Prop} (hP : Closed c P)
    (h : ∀ v, P v → Q v.connector.unavailablePending (v.note (.unavailablePending c v.connector.unavailablePending))) :
    SpecAt c P (unavailablePending cp c) Q := ask_at (fun _ => rfl) hP (fun _ w hw => h (w.view c) hw)

theorem preparingTimedOut_at {Q : Bool → View → Prop} (hP : Closed c P) (h : ∀ v b, P v → Q b v) :
    SpecAt c P (preparingTimedOut cp c) Q := SpecAt.call hP (fun _ w hw => h (w.view c) _ hw)

theorem startPreparing_at {Q : Unit → View → Prop} (hP : Closed c P)
    (h : ∀ v now, P v → Q () (v.setOwn ({ · with preparingStart := now }))) : SpecAt c P (startPreparing cp c) Q :=
  SpecAt.call hP (fun _ w hw => by rw [view_setConnector]; exact h (w.view c) w.clock hw)

theorem setOwn_at {Q : Unit → View → Prop} {f : ConnectorData → ConnectorData} (h : ∀ v, P v → Q () (v.setOwn f)) :
    SpecAt c P (setOwn c f) Q := Spec.update (fun w hw => by rw [view_setConnector]; exact h (w.view c) hw)

theorem clearIdTags_at {Q : Unit → View → Prop}
    (h : ∀ v, P v → Q () (v.setOwn ({ · with idTag := "", parentIdTag := "" }))) : SpecAt c P (clearIdTags c) Q :=
  setOwn_at h

theorem record_at {Q : Unit → View → Prop} {e : Entry} (he : e.about = some c) (h : ∀ v, P v → Q () (v.note e)) :
    SpecAt c P (record e) Q := Spec.update (fun w hw => by rw [view_note_of_about he]; exact h (w.view c) hw)

theorem ownData_at {Q : β → View → Prop} {k : ConnectorData → M β}
    (h : ∀ v, P v → SpecAt c (fun v' => P v' ∧ v'.connector = v.connector) (k v.connector) Q) :
    SpecAt c P (ownData c >>= k) Q := Spec.read_bind (fun w hw => h (w.view c) hw)

end Calls

/-! ## What a view does not see -/

/-- **A view that sees nothing the loop does for connector `d`**, but for its calls of `getSetpoint`. -/
structure Blind (view : World → ν) (d : Nat) : Prop where
  noted : ∀ w e, e.about = some d → e.asksSetpoint = false → view (w.note e) = view w
  connector : ∀ w f, view (w.setConnector d f) = view w
  mqtt : ∀ w f, view (w.setMqttConnector d f) = view w
  meter : ∀ w f, view (w.setMeter d f) = view w
  status : ∀ w s, view (w.setStatus d s) = view w
  start : ∀ w b, view (w.setRemoteStart d b) = view w
  stop : ∀ w b, view (w.setRemoteStop d b) = view w

/-- **A view that sees nothing of the status of the charge point and of what is published.** -/
structure Deaf (view : World → ν) : Prop where
  noted : ∀ w e, e.ofStatus = true → view (w.note e) = view w
  vars : ∀ w : World, ∀ x, view { w with vars := x } = view w
  broker : ∀ w : World, ∀ b, view { w with broker := b } = view w

theorem blind_view {c d : Nat} (h : d ≠ c) : Blind (World.view c) d where
  noted _ _ he _ := view_note_of_about_ne he h
  connector _ f := view_setConnector_of_ne h f
  mqtt _ f := view_setMqttConnector_of_ne h f
  meter _ f := view_setMeter_of_ne h f
  status _ s := view_setStatus_of_ne h s
  start _ _ := by simp [World.view, World.history, World.setRemoteStart, Function.update_of_ne (Ne.symm h)]
  stop _ _ := by simp [World.view, World.history, World.setRemoteStop, Function.update_of_ne (Ne.symm h)]

theorem deaf_view (c : Nat) : Deaf (World.view c) where
  noted _ e he := view_note_of_ne (by cases e <;> first | (simp [Entry.about]; done) | cases he)
  vars _ _ := rfl
  broker _ _ := rfl

/-- A view of the log alone is blind to a connector whose entries it leaves out. -/
theorem blind_log {f : List Entry → ν} {d : Nat}
    (h : ∀ e l, e.about = some d → e.asksSetpoint = false → f (e :: l) = f l) : Blind (fun w => f w.log) d where
  noted w e he hs := h e w.log he hs
  connector _ _ := rfl
  mqtt _ _ := rfl
  meter _ _ := rfl
  status _ _ := rfl
  start _ _ := rfl
  stop _ _ := rfl

theorem deaf_log {f : List Entry → ν} (h : ∀ e l, e.ofStatus = true → f (e :: l) = f l) : Deaf (fun w => f w.log) where
  noted w e he := h e w.log he
  vars _ _ := rfl
  broker _ _ := rfl

section Passive

variable {view : World → ν} {d : Nat}

theorem ask_passive {f : Tick → World → α} {entry : α → Entry} (he : ∀ a w, view (w.note (entry a)) = view w) :
    Passive (World.tick cp) view (ask cp f entry) := Passive.call (fun _ w => he _ w)

theorem Blind.ask (h : Blind view d) {f : Tick → World → α} {entry : α → Entry} (he : ∀ a, (entry a).about = some d)
    (hs : ∀ a, (entry a).asksSetpoint = false) : Passive (World.tick cp) view (ask cp f entry) :=
  ask_passive (fun a w => h.noted w _ (he a) (hs a))

theorem act_passive {f : World → World} {entry : Entry} (he : ∀ w, view (w.note entry) = view w)
    (hf : ∀ w, view (f w) = view w) : Passive (World.tick cp) view (act cp f entry) :=
  Passive.call (fun _ w => by rw [he, hf w])

theorem setOwn_passive (h : Blind view d) (f : ConnectorData → ConnectorData) :
    Passive (World.tick cp) view (setOwn d f) := Passive.update (fun w => h.connector w f)

theorem record_passive {e : Entry} (he : ∀ w, view (w.note e) = view w) : Passive (World.tick cp) view (record e) :=
  Passive.update he

theorem statusNotification_passive (h : Blind view d) (s : ChargePointStatus) :
    Passive (World.tick cp) view (statusNotification cp d s) :=
  act_passive (fun w => h.noted w _ rfl rfl) (fun w => h.status w s)

theorem stopTransaction_passive (h : Blind view d) (idTag : String) (reason : Reason) :
    Passive (World.tick cp) view (stopTransaction cp d idTag reason) :=
  act_passive (fun w => h.noted w _ rfl rfl) (fun _ => rfl)

theorem resetIdTagPending_passive (h : Blind view d) : Passive (World.tick cp) view (resetIdTagPending cp d) :=
  act_passive (fun w => h.noted w _ rfl rfl) (fun w => h.mqtt w _)

theorem resetRemoteStartPending_passive (h : Blind view d) :
    Passive (World.tick cp) view (resetRemoteStartPending cp d) :=
  act_passive (fun w => h.noted w _ rfl rfl) (fun w => h.start w false)

theorem resetRemoteStopPending_passive (h : Blind view d) :
    Passive (World.tick cp) view (resetRemoteStopPending cp d) :=
  act_passive (fun w => h.noted w _ rfl rfl) (fun w => h.stop w false)

theorem unavailablePending_passive (h : Blind view d) : Passive (World.tick cp) view (unavailablePending cp d) :=
  h.ask (fun _ => rfl) (fun _ => rfl)

theorem startPreparing_passive (h : Blind view d) : Passive (World.tick cp) view (startPreparing cp d) :=
  Passive.call (fun _ w => h.connector w (fun x => { x with preparingStart := w.clock }))

theorem mqttConnected_passive {entry : Bool → Entry} (he : ∀ b w, view (w.note (entry b)) = view w) :
    Passive (World.tick cp) view (mqttConnected cp entry) := ask_passive he

theorem publish_passive (h : Deaf view) (m : Publication) : Passive (World.tick cp) view (publish cp m) :=
  Passive.call (fun t w => by
    rw [h.noted _ _ rfl]
    split
    · cases m with
      | status x => exact h.broker w _
      | connector c x => exact h.broker w _
    · rfl)

theorem publishData_passive (h : Deaf view) : Passive (World.tick cp) view (publishData cp) :=
  Passive.bind (mqttConnected_passive (fun _ w => h.noted w _ rfl)) (fun _ => Passive.ite (Passive.forM (fun _ _ =>
    Passive.bind Passive.read (fun _ => Passive.bind (publish_passive h _) (fun _ => Passive.pure ())))) (Passive.pure ()))

theorem updateStatus_passive (h : Deaf view) : Passive (World.tick cp) view (updateStatus cp) := by
  refine Passive.bind (ask_passive (fun _ w => h.noted w _ rfl)) (fun _ => ?_)
  refine Passive.bind (ask_passive (fun _ w => h.noted w _ rfl)) (fun _ => ?_)
  refine Passive.bind (Passive.update (fun w => h.vars w _)) (fun _ => Passive.bind Passive.read (fun v => ?_))
  refine Passive.ite (Passive.bind ?_ (fun _ => Passive.update (fun w => h.vars w _))) (Passive.pure ())
  exact Passive.bind (mqttConnected_passive (fun _ w => h.noted w _ rfl)) (fun _ => Passive.ite (publish_passive h _) (Passive.pure _))

/-- The calls that end a round, and those that begin one. -/
def Entry.ofRound : Entry → Bool
  | .isEndOfApplication _ | .isResetPending _ | .getRegistrationStatus _ => true
  | _ => false

theorem waiting_unseen (h : ∀ w e, e.ofRound = true → view (w.note e) = view w) :
    Passive (World.tick cp) view (waiting cp) := by
  refine Passive.bind (ask_passive (fun _ w => h w _ rfl)) (fun _ => Passive.ite (Passive.pure _) ?_)
  refine Passive.bind (ask_passive (fun _ w => h w _ rfl)) (fun _ => Passive.ite (Passive.pure _) ?_)
  exact Passive.bind (ask_passive (fun _ w => h w _ rfl)) (fun _ => Passive.pure _)

theorem goingOn_unseen (h : ∀ w e, e.ofRound = true → view (w.note e) = view w) :
    Passive (World.tick cp) view (goingOn cp) := by
  refine Passive.bind (ask_passive (fun _ w => h w _ rfl)) (fun _ => Passive.ite (Passive.pure _) ?_)
  exact Passive.bind (ask_passive (fun _ w => h w _ rfl)) (fun _ => Passive.pure _)

theorem view_note_of_round (w : World) {e : Entry} (he : e.ofRound = true) : (w.note e).view c = w.view c :=
  view_note_of_ne (by cases e <;> first | (simp [Entry.about]; done) | cases he)

theorem waiting_passive : Passive (World.tick cp) (World.view c) (waiting cp) :=
  waiting_unseen (fun w _ he => view_note_of_round w he)

theorem goingOn_passive : Passive (World.tick cp) (World.view c) (goingOn cp) :=
  goingOn_unseen (fun w _ he => view_note_of_round w he)

theorem waitRegistration_passive (h : Deaf view) : Passive (World.tick cp) view (waitRegistration cp) :=
  Passive.bind (updateStatus_passive h) (fun _ => publishData_passive h)

theorem updateConnectorStatus_passive (h : Blind view d) :
    Passive (World.tick cp) view (updateConnectorStatus cp d) := by
  refine Passive.bind (h.ask (fun _ => rfl) (fun _ => rfl)) (fun _ => Passive.bind Passive.read (fun _ => ?_))
  refine Passive.ite (Passive.bind (record_passive (fun w => h.noted w _ rfl rfl)) (fun _ => ?_)) (Passive.pure ())
  refine Passive.bind (Passive.ite ?_ (Passive.ite (startPreparing_passive h) (Passive.pure ())))
    (fun _ => setOwn_passive h _)
  exact Passive.bind (setOwn_passive h _) (fun _ => resetIdTagPending_passive h)

theorem authorizeOwn_passive (h : Blind view d) (idTag : String) :
    Passive (World.tick cp) view (authorizeOwn cp d idTag) :=
  Passive.bind (h.ask (fun _ => rfl) (fun _ => rfl)) (fun _ =>
    Passive.bind (setOwn_passive h _) (fun _ => Passive.pure _))

theorem isValidIdTagPresent_passive (h : Blind view d) (localOnly : Bool) :
    Passive (World.tick cp) view (isValidIdTagPresent cp d localOnly) := by
  refine Passive.bind ?_ (fun r => ?_)
  · refine Passive.bind (h.ask (fun _ => rfl) (fun _ => rfl)) (fun _ => Passive.ite ?_ ?_)
    · refine Passive.bind (h.ask (fun _ => rfl) (fun _ => rfl)) (fun _ => Passive.bind (setOwn_passive h _) (fun _ => ?_))
      exact Passive.bind (authorizeOwn_passive h _) (fun _ => Passive.bind (resetIdTagPending_passive h)
        (fun _ => Passive.pure _))
    · refine Passive.bind (Passive.ite (Passive.pure _) (h.ask (fun _ => rfl) (fun _ => rfl))) (fun _ => ?_)
      refine Passive.ite ?_ (Passive.pure _)
      refine Passive.bind (h.ask (fun _ => rfl) (fun _ => rfl)) (fun _ => Passive.bind (setOwn_passive h _) (fun _ => ?_))
      refine Passive.bind ?_ (fun _ => Passive.bind (resetRemoteStartPending_passive h) (fun _ => Passive.pure _))
      exact Passive.bind (h.ask (fun _ => rfl) (fun _ => rfl)) (fun _ => Passive.ite (authorizeOwn_passive h _) (Passive.pure _))
  · refine Passive.bind (Passive.ite (setOwn_passive h _) (Passive.pure ())) (fun _ => ?_)
    exact Passive.bind (record_passive (fun w => h.noted w _ rfl rfl)) (fun _ => Passive.pure _)

theorem isTransactionStopCondition_passive (h : Blind view d) :
    Passive (World.tick cp) view (isTransactionStopCondition cp d) := by
  have stopped : ∀ (idTag : String) (reason : Reason), Passive (World.tick cp) view
      (do stopTransaction cp d idTag reason; pure true) := fun idTag reason =>
    Passive.bind (stopTransaction_passive h idTag reason) (fun _ => Passive.pure _)
  refine Passive.bind (h.ask (fun _ => rfl) (fun _ => rfl)) (fun _ => Passive.ite ?_ ?_)
  · refine Passive.bind (h.ask (fun _ => rfl) (fun _ => rfl)) (fun _ => Passive.bind (h.ask (fun _ => rfl) (fun _ => rfl)) (fun _ => ?_))
    exact Passive.bind (resetIdTagPending_passive h) (fun _ => Passive.ite (stopped _ _) (Passive.pure _))
  · refine Passive.bind (h.ask (fun _ => rfl) (fun _ => rfl)) (fun _ => Passive.ite ?_ ?_)
    · exact Passive.bind (resetRemoteStopPending_passive h) (fun _ => stopped _ _)
    · refine Passive.bind Passive.read (fun _ => Passive.ite (stopped _ _) ?_)
      exact Passive.ite (stopped _ _) (Passive.pure _)

theorem faultOrUnavailable_passive (h : Blind view d) (x : ConnectorData) :
    Passive (World.tick cp) view (faultOrUnavailable cp d x) :=
  Passive.ite (statusNotification_passive h _) (Passive.bind (unavailablePending_passive h) (fun _ =>
    Passive.ite (statusNotification_passive h _) (Passive.pure ())))

theorem tryStart_passive (h : Blind view d) (x : ConnectorData) :
    Passive (World.tick cp) view (tryStart cp d x) := by
  refine Passive.ite (Passive.bind (h.ask (fun _ => rfl) (fun _ => rfl)) (fun _ => ?_)) (Passive.ite
    (statusNotification_passive h _) (Passive.ite (statusNotification_passive h _) ?_))
  · exact Passive.ite (statusNotification_passive h _) (setOwn_passive h _)
  · exact Passive.bind (Passive.call (fun _ _ => rfl)) (fun _ =>
      Passive.ite (statusNotification_passive h _) (Passive.pure ()))

/-- **What the loop does for another connector, a view does not see.** -/
theorem nextStatus_passive (h : Blind view d) : Passive (World.tick cp) view (nextStatus cp d) := by
  have sn := fun s => @statusNotification_passive cp ν view d h s
  have valid := @isValidIdTagPresent_passive cp ν view d h false
  have stop := @isTransactionStopCondition_passive cp ν view d h
  refine Passive.bind Passive.read (fun x => ?_)
  cases x.status with
  | available =>
    exact Passive.ite (sn _) (Passive.bind valid (fun _ => Passive.ite (sn _) (faultOrUnavailable_passive h x)))
  | preparing =>
    refine Passive.bind (Passive.ite (Passive.bind valid (fun _ => ?_)) (Passive.pure ()))
      (fun _ => Passive.bind Passive.read (fun y => tryStart_passive h y))
    exact Passive.ite (startPreparing_passive h) (Passive.pure ())
  | charging =>
    exact Passive.bind stop (fun _ => Passive.ite (sn _) (Passive.ite (sn _) (Passive.ite (sn _) (Passive.pure ()))))
  | suspendedEVSE =>
    exact Passive.bind stop (fun _ => Passive.ite (sn _) (Passive.ite (Passive.ite (sn _) (sn _)) (Passive.pure ())))
  | suspendedEV =>
    exact Passive.bind stop (fun _ => Passive.ite (sn _) (Passive.ite (sn _) (Passive.ite (sn _) (Passive.pure ()))))
  | finishing => exact Passive.ite (sn _) (Passive.ite (sn _) (Passive.pure ()))
  | reserved => exact Passive.bind valid (fun _ => Passive.ite (sn _) (faultOrUnavailable_passive h x))
  | unavailable => exact Passive.pure ()
  | faulted =>
    exact Passive.ite (sn _) (Passive.bind (unavailablePending_passive h) (fun _ =>
      Passive.ite (sn _) (Passive.pure ())))

theorem computeConsumption_passive (h : Blind view d) :
    Passive (World.tick cp) view (computeConsumption cp d) :=
  Passive.bind Passive.read (fun _ => act_passive (fun w => h.noted w _ rfl rfl) (fun w => h.meter w _))

theorem updateData_passive (h : ∀ d, Blind view d) : Passive (World.tick cp) view (updateData cp) := by
  refine Passive.bind (Passive.call (fun _ _ => rfl)) (fun _ => Passive.forM (fun c _ => Passive.update (fun w => ?_)))
  unfold World.copyData
  rw [(h c).noted _ _ rfl rfl, (h c).connector]

/-- The entries of `computeSetpoints`. -/
def Entry.ofSetpoints : Entry → Bool
  | .getSetpoint _ _ _ | .division _ _ => true
  | _ => false

theorem computeSetpoints_passive (h : ∀ d, Blind view d) (noted : ∀ w e, e.ofSetpoints = true → view (w.note e) = view w)
    (mapped : ∀ w f, view (w.mapConnectors f) = view w) : Passive (World.tick cp) view (computeSetpoints cp) := by
  have each : ∀ (whole : ℚ) (c : Nat), Passive (World.tick cp) view (connectorSetpoint cp whole c) := by
    intro whole c
    refine Passive.bind (setOwn_passive (h c) _) (fun _ => Passive.bind Passive.read (fun unit => ?_))
    refine Passive.bind (ask_passive (fun _ w => noted w _ rfl)) (fun r => ?_)
    cases r with
    | none => exact Passive.pure _
    | some r => exact Passive.bind (setOwn_passive (h c) _) (fun _ => Passive.pure _)
  refine Passive.bind (Passive.foldlM (fun whole c _ => each whole c) _) (fun whole => ?_)
  refine Passive.bind (Passive.update (fun w => mapped w _)) (fun _ => Passive.bind Passive.read (fun total => ?_))
  refine Passive.bind (Passive.ite ?_ (Passive.pure ())) (fun _ => Passive.update (fun w => mapped w _))
  exact Passive.bind (record_passive (fun w => noted w _ rfl)) (fun _ => Passive.update (fun w => mapped w _))

theorem pollConnectors_passive (h : ∀ d, Blind view d) (hd : Deaf view) :
    Passive (World.tick cp) view (pollConnectors cp) :=
  Passive.bind (updateStatus_passive hd) (fun _ => Passive.forM (fun c _ => updateConnectorStatus_passive (h c)))

theorem passes_passive (h : ∀ d, Blind view d) :
    Passive (World.tick cp) view (cp.ids.forM (fun c => do nextStatus cp c; computeConsumption cp c)) :=
  Passive.forM (fun c _ => Passive.bind (nextStatus_passive (h c)) (fun _ => computeConsumption_passive (h c)))

end Passive

/-! ## Authorization and the stop condition, for a property they do not touch -/

/-- The entries of the calls of `isValidIdTagPresent` and `isTransactionStopCondition` that change nothing. -/
def Entry.reads : Entry → Bool
  | .isIdTagPending _ _ | .pendingIdTag _ _ | .authorize _ _ _ | .isRemoteStartPending _ _ | .remoteStartIdTag _ _
  | .authorizeRemoteTxRequests _ _ | .isRemoteStopPending _ _ => true
  | _ => false

/-- **A property that the authorization of an id tag keeps.** -/
structure Authorizing (c : Nat) (P : View → Prop) : Prop where
  env : Closed c P
  tagged : ∀ v x y, P v → P (v.setOwn ({ · with idTag := x, parentIdTag := y }))
  asked : ∀ v b, P v → P (v.note (.authorizeRemoteTxRequests c b))
  authorized : ∀ v idTag r, P v → P (v.note (.authorize c idTag r))

namespace Authorizing

variable {P : View → Prop} {Q : Option (TagSource × String) × Bool → View → Prop}

theorem tag (hP : Authorizing c P) (idTag : String) :
    SpecAt c P (setOwn c ({ · with idTag := idTag })) (fun _ => P) :=
  setOwn_at (fun v hv => hP.tagged v idTag v.connector.parentIdTag hv)

theorem authorizeOwn (hP : Authorizing c P) (idTag : String) : SpecAt c P (authorizeOwn cp c idTag) (fun _ => P) := by
  refine SpecOn.keep (authorize_at hP.env (fun v r hv => hP.authorized v idTag r.1 hv)) (fun r => ?_)
  refine SpecOn.keep (setOwn_at (fun v hv => ?_)) (fun _ => SpecOn.pure _ (fun _ hv => hv))
  exact hP.tagged v v.connector.idTag r.2 hv

/-- **A pending badge is authorized and taken.** -/
theorem takeBadge (hP : Authorizing c P) {idTag : String}
    (h : ∀ v ok, P v →
      Q (some (.badge, idTag), ok) ({ v with mqtt := { v.mqtt with idTag := "" } }.note (.resetIdTagPending c))) :
    SpecAt c P
      (do
        setOwn c ({ · with idTag := idTag })
        let status ← Simu.authorizeOwn cp c idTag
        resetIdTagPending cp c
        pure (some (TagSource.badge, idTag), status.ok))
      Q := by
  refine SpecOn.keep (hP.tag idTag) (fun _ => SpecOn.keep (hP.authorizeOwn idTag) (fun status => ?_))
  exact SpecOn.bind (R := fun _ v => Q (some (.badge, idTag), status.ok) v)
    (resetIdTagPending_at hP.env (fun v hv => h v status.ok hv)) (fun _ => SpecOn.pure _ (fun _ hv => hv))

/-- **A pending remote start is authorized, where the configuration asks for it, and taken.** -/
theorem takeRemoteStart (hP : Authorizing c P) {idTag : String}
    (h : ∀ v ok, P v → Q (some (.remoteStart, idTag), ok) ({ v with startPending := false }.note (.resetRemoteStartPending c))) :
    SpecAt c P
      (do
        setOwn c ({ · with idTag := idTag })
        let status ← (do if ← authorizeRemoteTxRequests cp c then Simu.authorizeOwn cp c idTag else pure .accepted)
        resetRemoteStartPending cp c
        pure (some (TagSource.remoteStart, idTag), status.ok))
      Q := by
  refine SpecOn.keep (hP.tag idTag) (fun _ => SpecOn.keep ?_ (fun status => ?_))
  · refine SpecOn.keep (authorizeRemoteTxRequests_at hP.env (fun v b hv => hP.asked v b hv)) (fun _ => ?_)
    exact SpecOn.ite (fun _ => hP.authorizeOwn idTag) (fun _ => SpecOn.pure _ (fun _ hv => hv))
  · exact SpecOn.bind (R := fun _ v => Q (some (.remoteStart, idTag), status.ok) v)
      (resetRemoteStartPending_at hP.env (fun v hv => h v status.ok hv)) (fun _ => SpecOn.pure _ (fun _ hv => hv))

end Authorizing

/-- **The rule of `isValidIdTagPresent`**, from the rules of its two branches. -/
theorem isValidIdTagPresent_branches {P : View → Prop} (hP : Closed c P) {localOnly : Bool}
    (asked : ∀ v, P v → P (v.note (.isIdTagPending c (decide (v.mqtt.idTag ≠ "")))))
    (tagged : ∀ v x y, P v → P (v.setOwn ({ · with idTag := x, parentIdTag := y })))
    (answered : ∀ v tag ret, P v → P (v.note (.isValidIdTagPresent c tag ret)))
    (badge : SpecAt c P
      (do
        let tag ← pendingIdTag cp c
        setOwn c ({ · with idTag := tag })
        let status ← authorizeOwn cp c tag
        resetIdTagPending cp c
        pure (some (TagSource.badge, tag), status.ok)) (fun _ => P))
    (start : SpecAt c P
      (do
        if ← (if localOnly then pure false else isRemoteStartPending cp c) then
          let tag ← remoteStartIdTag cp c
          setOwn c ({ · with idTag := tag })
          let status ← (do if ← authorizeRemoteTxRequests cp c then authorizeOwn cp c tag else pure .accepted)
          resetRemoteStartPending cp c
          pure (some (TagSource.remoteStart, tag), status.ok)
        else pure (none, false)) (fun _ => P)) :
    SpecAt c P (isValidIdTagPresent cp c localOnly) (fun _ => P) := by
  refine SpecOn.keep ?_ (fun r => ?_)
  · exact SpecOn.keep (isIdTagPending_at hP asked) (fun _ => SpecOn.ite (fun _ => badge) (fun _ => start))
  · refine SpecOn.keep (SpecOn.ite (fun _ => ?_) (fun _ => SpecOn.pure _ (fun _ hv => hv))) (fun _ => ?_)
    · exact clearIdTags_at (fun v hv => tagged v "" "" hv)
    · exact SpecOn.keep (record_at rfl (fun v hv => answered v _ _ hv)) (fun _ => SpecOn.pure _ (fun _ hv => hv))

/-- **A property that says nothing of id tags and start mailboxes.** -/
structure TagFree (c : Nat) (P : View → Prop) : Prop where
  env : Closed c P
  noted : ∀ v e, e.reads = true → P v → P (v.note e)
  answered : ∀ v tag ret, P v → P (v.note (.isValidIdTagPresent c tag ret))
  tagged : ∀ v x y, P v → P (v.setOwn ({ · with idTag := x, parentIdTag := y }))
  badge : ∀ v, P v → P ({ v with mqtt := { v.mqtt with idTag := "" } }.note (.resetIdTagPending c))
  start : ∀ v, P v → P ({ v with startPending := false }.note (.resetRemoteStartPending c))

theorem isValidIdTagPresent_keeps {P : View → Prop} (hP : TagFree c P) (localOnly : Bool) :
    SpecAt c P (isValidIdTagPresent cp c localOnly) (fun _ => P) := by
  have authorizing : Authorizing c P :=
    { env := hP.env, tagged := hP.tagged, asked := fun v _ hv => hP.noted v _ rfl hv
      authorized := fun v _ _ hv => hP.noted v _ rfl hv }
  refine isValidIdTagPresent_branches hP.env (fun v hv => hP.noted v _ rfl hv) hP.tagged hP.answered ?_ ?_
  · refine SpecOn.keep (pendingIdTag_at hP.env (fun v hv => hP.noted v _ rfl hv)) (fun _ => ?_)
    exact authorizing.takeBadge (fun v _ hv => hP.badge v hv)
  · refine SpecOn.keep (SpecOn.ite (fun _ => SpecOn.pure _ (fun _ hv => hv)) (fun _ => ?_)) (fun _ => ?_)
    · exact isRemoteStartPending_at hP.env (fun v hv => hP.noted v _ rfl hv)
    refine SpecOn.ite (fun _ => ?_) (fun _ => SpecOn.pure _ (fun _ hv => hv))
    refine SpecOn.keep (remoteStartIdTag_at hP.env (fun v hv => hP.noted v _ rfl hv)) (fun _ => ?_)
    exact authorizing.takeRemoteStart (fun v _ hv => hP.start v hv)

theorem stopping_at {P Q : View → Prop} (hP : Closed c P) (h : ∀ v idTag reason, P v → Q (v.note (.stopTransaction c idTag reason)))
    (idTag : String) (reason : Reason) : SpecAt c P (do stopTransaction cp c idTag reason; pure true) (fun _ => Q) :=
  SpecOn.bind (R := fun _ => Q) (stopTransaction_at hP (fun v hv => h v idTag reason hv)) (fun _ => SpecOn.pure _ (fun _ hv => hv))

/-- **The rule of `isTransactionStopCondition`**, from the rule of its first branch. -/
theorem isTransactionStopCondition_branches {P : View → Prop} (hP : Closed c P)
    (asked : ∀ v, P v → P (v.note (.isIdTagPending c (decide (v.mqtt.idTag ≠ "")))))
    (askedStop : ∀ v, P v → P (v.note (.isRemoteStopPending c v.stopPending)))
    (stop : ∀ v, P v → P ({ v with stopPending := false }.note (.resetRemoteStopPending c)))
    (stopped : ∀ v idTag reason, P v → P (v.note (.stopTransaction c idTag reason)))
    (badge : SpecAt c P
      (do
        let tag ← pendingIdTag cp c
        let r ← authorize cp c tag
        resetIdTagPending cp c
        if r.1 = .accepted then
          stopTransaction cp c tag .local_
          pure true
        else pure false) (fun _ => P)) :
    SpecAt c P (isTransactionStopCondition cp c) (fun _ => P) := by
  have stopping := fun idTag reason => @stopping_at cp c P P hP stopped idTag reason
  refine SpecOn.keep (isIdTagPending_at hP asked) (fun _ => SpecOn.ite (fun _ => badge) (fun _ => ?_))
  refine SpecOn.keep (isRemoteStopPending_at hP askedStop) (fun _ => SpecOn.ite (fun _ => ?_) (fun _ => ?_))
  · exact SpecOn.keep (resetRemoteStopPending_at hP stop) (fun _ => stopping _ _)
  · refine ownData_at (fun v _ => SpecOn.pre (fun _ hv => hv.1) (SpecOn.ite (fun _ => stopping _ _) (fun _ => ?_)))
    exact SpecOn.ite (fun _ => stopping _ _) (fun _ => SpecOn.pure _ (fun _ hv => hv))

/-- **A property that says nothing of stops and their mailboxes.** -/
structure StopFree (c : Nat) (P : View → Prop) : Prop where
  env : Closed c P
  noted : ∀ v e, e.reads = true → P v → P (v.note e)
  badge : ∀ v, P v → P ({ v with mqtt := { v.mqtt with idTag := "" } }.note (.resetIdTagPending c))
  stop : ∀ v, P v → P ({ v with stopPending := false }.note (.resetRemoteStopPending c))
  stopped : ∀ v idTag reason, P v → P (v.note (.stopTransaction c idTag reason))

theorem isTransactionStopCondition_keeps {P : View → Prop} (hP : StopFree c P) :
    SpecAt c P (isTransactionStopCondition cp c) (fun _ => P) := by
  refine isTransactionStopCondition_branches hP.env (fun v hv => hP.noted v _ rfl hv) (fun v hv => hP.noted v _ rfl hv)
    hP.stop hP.stopped ?_
  refine SpecOn.keep (pendingIdTag_at hP.env (fun v hv => hP.noted v _ rfl hv)) (fun _ => ?_)
  refine SpecOn.keep (authorize_at hP.env (fun v r hv => hP.noted v _ rfl hv)) (fun _ => ?_)
  refine SpecOn.keep (resetIdTagPending_at hP.env hP.badge) (fun _ => ?_)
  exact SpecOn.ite (fun _ => stopping_at hP.env hP.stopped _ _) (fun _ => SpecOn.pure _ (fun _ hv => hv))

/-- **A property that says nothing of the status a connector enters**, nor of what the loop assigns with it. -/
structure EntryFree (c : Nat) (P : View → Prop) : Prop where
  env : Closed c P
  cleared : ∀ v, P v → P (v.setOwn ({ · with idTag := "", parentIdTag := "" }))
  badge : ∀ v, P v → P ({ v with mqtt := { v.mqtt with idTag := "" } }.note (.resetIdTagPending c))
  timed : ∀ v now, P v → P (v.setOwn ({ · with preparingStart := now }))

/-- What follows the comparison of the statuses in `updateConnectorStatus`. -/
theorem entering_at {P Q : View → Prop} {s : ChargePointStatus} (hP : EntryFree c P)
    (h : ∀ v, P v → Q (v.setOwn ({ · with status := s }))) :
    SpecAt c P
      (do
        (if s = .available then do
          clearIdTags c
          resetIdTagPending cp c
        else if s = .preparing then startPreparing cp c
        else pure ())
        setOwn c ({ · with status := s }))
      (fun _ => Q) := by
  refine SpecOn.keep (SpecOn.ite (fun _ => ?_) (fun _ => ?_)) (fun _ => setOwn_at h)
  · exact SpecOn.keep (clearIdTags_at hP.cleared) (fun _ => resetIdTagPending_at hP.env hP.badge)
  · exact SpecOn.ite (fun _ => startPreparing_at hP.env hP.timed) (fun _ => SpecOn.pure _ (fun _ hv => hv))

theorem updateConnectorStatus_keeps {P : View → Prop} (hP : EntryFree c P)
    (polled : ∀ v, P v → P (v.note (.getConnectorStatus c v.status)))
    (entered : ∀ v s, P v → P (v.note (.entered c s)))
    (assigned : ∀ v s, P v → P (v.setOwn ({ · with status := s }))) :
    SpecAt c P (updateConnectorStatus cp c) (fun _ => P) := by
  refine SpecOn.keep (getConnectorStatus_at hP.env polled) (fun s => ?_)
  refine ownData_at (fun v _ => SpecOn.pre (fun _ h => h.1) (SpecOn.ite (fun _ => ?_) (fun _ => ?_)))
  · exact SpecOn.keep (record_at rfl (fun v hv => entered v s hv)) (fun _ => entering_at hP (fun v hv => assigned v s hv))
  · exact SpecOn.pure _ (fun _ hv => hv)

/-! ## The pass of a connector, for a property that each call keeps -/

/-- **A property every call of the pass keeps**, apart from those of authorization and of the stop condition. -/
structure Plain (c : Nat) (P : View → Prop) : Prop where
  env : Closed c P
  notified : ∀ v s, P v → P ({ v with status := s }.note (.statusNotification c s))
  asked : ∀ v b, P v → P (v.note (.unavailablePending c b))
  timed : ∀ v now, P v → P (v.setOwn ({ · with preparingStart := now }))
  started : ∀ v a, P v → v.connector.idTag ≠ "" → a.ok = true → P (v.note (.startTransaction c v.connector.idTag a))
  refused : ∀ v a, P v → v.connector.idTag ≠ "" → a.ok = false →
    P ((v.note (.startTransaction c v.connector.idTag a)).setOwn ({ · with idTag := "", parentIdTag := "" }))

/-- The loop's test of the flag. -/
def goneAsAsked (cp : SimulatedChargePoint) (c : Nat) : M Unit := do
  if ← unavailablePending cp c then statusNotification cp c .unavailable else pure ()

/-- **A property that says nothing of notifications**, but for that of `Unavailable`, which follows a test of the flag. -/
structure NoticeFree (cp : SimulatedChargePoint) (c : Nat) (P : View → Prop) : Prop where
  env : Closed c P
  notified : ∀ v s, s ≠ .unavailable → P v → P ({ v with status := s }.note (.statusNotification c s))
  gone : SpecAt c P (goneAsAsked cp c) (fun _ => P)

section NoticeFree

variable {P : View → Prop}

theorem NoticeFree.notify (hP : NoticeFree cp c P) {s : ChargePointStatus} (hs : s ≠ .unavailable) :
    SpecAt c P (statusNotification cp c s) (fun _ => P) :=
  statusNotification_at hP.env (fun v hv => hP.notified v s hs hv)

theorem NoticeFree.done : SpecAt c P (pure () : M Unit) (fun _ => P) := SpecOn.pure () (fun _ hv => hv)

theorem NoticeFree.faultOrUnavailable (hP : NoticeFree cp c P) (d : ConnectorData) :
    SpecAt c P (faultOrUnavailable cp c d) (fun _ => P) :=
  SpecOn.ite (fun _ => hP.notify (by decide)) (fun _ => hP.gone)

/-- **The rule of a pass**: only in `Preparing` is a transaction started. -/
theorem NoticeFree.nextStatus (hP : NoticeFree cp c P) (valid : SpecAt c P (isValidIdTagPresent cp c false) (fun _ => P))
    (stop : SpecAt c P (isTransactionStopCondition cp c) (fun _ => P))
    (preparing : ∀ d, d.status = .preparing →
      SpecAt c (fun v => P v ∧ v.connector = d) (whenPreparing cp c d) (fun _ => P)) :
    SpecAt c P (nextStatus cp c) (fun _ => P) := by
  refine ownData_at (fun v _ => ?_)
  have other : ∀ {m : M Unit}, SpecAt c P m (fun _ => P) → SpecAt c (fun v' => P v' ∧ v'.connector = v.connector) m (fun _ => P) :=
    fun hm => SpecOn.pre (fun _ h => h.1) hm
  generalize v.connector = d at other ⊢
  have sn : ∀ {s : ChargePointStatus}, s ≠ .unavailable → SpecAt c P (statusNotification cp c s) (fun _ => P) := fun hs => hP.notify hs
  cases hd : d.status with
  | available =>
    refine other (SpecOn.ite (fun _ => sn (by decide)) (fun _ => SpecOn.keep valid (fun _ => ?_)))
    exact SpecOn.ite (fun _ => sn (by decide)) (fun _ => hP.faultOrUnavailable d)
  | preparing => exact preparing d hd
  | charging =>
    refine other (SpecOn.keep stop (fun _ => SpecOn.ite (fun _ => sn (by decide)) (fun _ => SpecOn.ite (fun _ => sn (by decide)) (fun _ => ?_))))
    exact SpecOn.ite (fun _ => sn (by decide)) (fun _ => NoticeFree.done)
  | suspendedEVSE =>
    refine other (SpecOn.keep stop (fun _ => SpecOn.ite (fun _ => sn (by decide)) (fun _ => SpecOn.ite (fun _ => ?_) (fun _ => NoticeFree.done))))
    exact SpecOn.ite (fun _ => sn (by decide)) (fun _ => sn (by decide))
  | suspendedEV =>
    refine other (SpecOn.keep stop (fun _ => SpecOn.ite (fun _ => sn (by decide)) (fun _ => SpecOn.ite (fun _ => sn (by decide)) (fun _ => ?_))))
    exact SpecOn.ite (fun _ => sn (by decide)) (fun _ => NoticeFree.done)
  | finishing => exact other (SpecOn.ite (fun _ => sn (by decide)) (fun _ => SpecOn.ite (fun _ => sn (by decide)) (fun _ => NoticeFree.done)))
  | reserved => exact other (SpecOn.keep valid (fun _ => SpecOn.ite (fun _ => sn (by decide)) (fun _ => hP.faultOrUnavailable d)))
  | unavailable => exact other NoticeFree.done
  | faulted =>
    exact other (SpecOn.ite (fun _ => sn (by decide)) (fun _ => hP.gone))

end NoticeFree

/-- **A property that the calls made in `Preparing` keep.** -/
structure Starting (c : Nat) (P : View → Prop) : Prop where
  env : Closed c P
  notified : ∀ v s, s ≠ .unavailable → P v → P ({ v with status := s }.note (.statusNotification c s))
  timed : ∀ v now, P v → P (v.setOwn ({ · with preparingStart := now }))
  started : ∀ v a, P v → v.connector.idTag ≠ "" → a.ok = true → P (v.note (.startTransaction c v.connector.idTag a))
  refused : ∀ v a, P v → v.connector.idTag ≠ "" → a.ok = false →
    P ((v.note (.startTransaction c v.connector.idTag a)).setOwn ({ · with idTag := "", parentIdTag := "" }))

section Starting

variable {P : View → Prop}

theorem sessionStatus_ne_unavailable (d : ConnectorData) : sessionStatus d ≠ .unavailable := by
  unfold sessionStatus
  split
  · decide
  · split <;> decide

theorem Starting.tryStart (hP : Starting c P) (d : ConnectorData) :
    SpecAt c (fun v => P v ∧ v.connector.idTag = d.idTag) (tryStart cp c d) (fun _ => P) := by
  have sn : ∀ {s : ChargePointStatus}, s ≠ .unavailable → SpecAt c P (statusNotification cp c s) (fun _ => P) := fun hs =>
    statusNotification_at hP.env (fun v hv => hP.notified v _ hs hv)
  refine SpecOn.ite (fun hd => ?_) (fun _ => SpecOn.pre (fun _ h => h.1) ?_)
  · refine SpecOn.bind (R := fun a v => if a.ok then P v else P (v.setOwn ({ · with idTag := "", parentIdTag := "" })))
      (startTransaction_at (hP.env.and (closed_idTag c (· = d.idTag))) (fun v a hv => ?_)) (fun a => ?_)
    · obtain ⟨hv, ht⟩ := hv
      rw [← ht] at hd ⊢
      cases ha : a.ok with
      | true =>
        rw [if_pos rfl]
        exact hP.started v a hv hd.2 ha
      | false =>
        rw [if_neg Bool.false_ne_true]
        exact hP.refused v a hv hd.2 ha
    · refine SpecOn.ite (fun ha => ?_) (fun ha => ?_)
      · exact SpecOn.pre (fun v hv => by rwa [if_pos ha] at hv) (sn (sessionStatus_ne_unavailable d))
      · exact clearIdTags_at (fun v hv => by rwa [if_neg ha] at hv)
  · refine SpecOn.ite (fun _ => sn (by decide)) (fun _ => SpecOn.ite (fun _ => sn (by decide)) (fun _ => ?_))
    refine SpecOn.keep (preparingTimedOut_at hP.env (fun _ _ hv => hv)) (fun _ => ?_)
    exact SpecOn.ite (fun _ => sn (by decide)) (fun _ => NoticeFree.done)

theorem Starting.whenPreparing (hP : Starting c P) (valid : SpecAt c P (isValidIdTagPresent cp c false) (fun _ => P))
    (d : ConnectorData) : SpecAt c P (whenPreparing cp c d) (fun _ => P) := by
  refine SpecOn.keep (SpecOn.ite (fun _ => SpecOn.keep valid (fun _ => ?_)) (fun _ => NoticeFree.done)) (fun _ => ?_)
  · exact SpecOn.ite (fun _ => startPreparing_at hP.env (fun v now hv => hP.timed v now hv)) (fun _ => NoticeFree.done)
  · exact ownData_at (fun v _ => SpecOn.pre (fun _ h => ⟨h.1, by rw [h.2]⟩) (hP.tryStart v.connector))

end Starting

section Plain

variable {P : View → Prop}

theorem Plain.noticeFree (hP : Plain c P) : NoticeFree cp c P where
  env := hP.env
  notified v s _ hv := hP.notified v s hv
  gone := by
    refine SpecOn.keep (unavailablePending_at hP.env (fun v hv => hP.asked v _ hv)) (fun _ => ?_)
    refine SpecOn.ite (fun _ => ?_) (fun _ => NoticeFree.done)
    exact statusNotification_at hP.env (fun v hv => hP.notified v _ hv)

theorem Plain.starting (hP : Plain c P) : Starting c P where
  env := hP.env
  notified v s _ hv := hP.notified v s hv
  timed := hP.timed
  started := hP.started
  refused := hP.refused

/-- **The rule of a pass**: authorization and the stop condition keep the property, and so does the pass. -/
theorem Plain.nextStatus (hP : Plain c P) (valid : SpecAt c P (isValidIdTagPresent cp c false) (fun _ => P))
    (stop : SpecAt c P (isTransactionStopCondition cp c) (fun _ => P)) :
    SpecAt c P (nextStatus cp c) (fun _ => P) :=
  hP.noticeFree.nextStatus valid stop (fun d _ => SpecOn.pre (fun _ h => h.1) (hP.starting.whenPreparing valid d))

end Plain

/-- **A property of the loop's record that says nothing of id tags, of the timer and of the flag**: no pass ends it. -/
def Unassigned (P : ConnectorData → Prop) : Prop :=
  ∀ d t p n u, P d → P { d with idTag := t, parentIdTag := p, preparingStart := n, unavailablePending := u }

section Unassigned

variable {P : ConnectorData → Prop}

theorem Unassigned.closed (hP : Unassigned P) : Closed c (fun v => P v.connector) :=
  closed_own (P := fun d _ => P d) (fun d b _ _ _ h => hP d d.idTag d.parentIdTag d.preparingStart b h)

theorem Unassigned.nextStatus (hP : Unassigned P) :
    SpecAt c (fun v => P v.connector) (nextStatus cp c) (fun _ v => P v.connector) := by
  have tags : ∀ d t p, P d → P { d with idTag := t, parentIdTag := p } := fun d t p h =>
    hP d t p d.preparingStart d.unavailablePending h
  have plain : Plain c (fun v => P v.connector) :=
    { env := hP.closed, notified := fun _ _ h => h, asked := fun _ _ h => h,
      timed := fun v now h => hP v.connector v.connector.idTag v.connector.parentIdTag now v.connector.unavailablePending h
      started := fun _ _ h _ _ => h, refused := fun v _ h _ _ => tags v.connector "" "" h }
  have tagFree : TagFree c (fun v => P v.connector) :=
    { env := hP.closed, noted := fun _ _ _ h => h, answered := fun _ _ _ h => h,
      tagged := fun v x y h => tags v.connector x y h, badge := fun _ h => h, start := fun _ h => h }
  have stopFree : StopFree c (fun v => P v.connector) :=
    { env := hP.closed, noted := fun _ _ _ h => h, badge := fun _ h => h, stop := fun _ h => h,
      stopped := fun _ _ _ h => h }
  exact plain.nextStatus (isValidIdTagPresent_keeps tagFree false) (isTransactionStopCondition_keeps stopFree)

end Unassigned

/-! ## The phases of an iteration -/

theorem forM_at {f : Nat → M Unit} {P Q : View → Prop} (hc : c ∈ cp.ids)
    (hf : ∀ d, d ≠ c → Passive (World.tick cp) (World.view c) (f d)) (hP : Closed c P) (hQ : Closed c Q)
    (h : SpecAt c P (f c) (fun _ => Q)) : SpecAt c P (cp.ids.forM f) (fun _ => Q) :=
  Spec.forM_one hc cp.nodup_ids (fun d hd => passive_at (hf d hd) hP) h (fun d hd => passive_at (hf d hd) hQ)

theorem updateData_at {P Q : View → Prop} (hc : c ∈ cp.ids) (hP : Closed c P)
    (h : ∀ v, P v → Q (v.copyData c)) : SpecAt c P (updateData cp) (fun _ => Q) := by
  refine SpecOn.keep (Spec.call (fun t w hw => hP.tick cp t w hw) (fun _ _ hw => hw)) (fun _ => ?_)
  refine Spec.forM_one (P := fun w : World => P (w.view c)) (Q := fun w : World => Q (w.view c)) hc cp.nodup_ids ?_ ?_ ?_
  · exact fun d hd => Spec.update (fun w hw => by rw [view_copyData_of_ne hd]; exact hw)
  · exact Spec.update (fun w hw => by rw [view_copyData]; exact h _ hw)
  · exact fun d hd => Spec.update (fun w hw => by rw [view_copyData_of_ne hd]; exact hw)

theorem passes_at {P Q : View → Prop} (hc : c ∈ cp.ids) (hP : Closed c P) (hQ : Closed c Q)
    (pass : SpecAt c P (do nextStatus cp c; computeConsumption cp c) (fun _ => Q)) :
    SpecAt c P (cp.ids.forM (fun c => do nextStatus cp c; computeConsumption cp c)) (fun _ => Q) := by
  refine forM_at hc (fun d hd => ?_) hP hQ pass
  exact Passive.bind (nextStatus_passive (blind_view hd)) (fun _ => computeConsumption_passive (blind_view hd))

/-- **The rule of what follows the setpoints**: the data of the connector are copied and its own pass is made. -/
theorem afterSetpoints_at {P Q R : View → Prop} (hc : c ∈ cp.ids) (hP : Closed c P) (hQ : Closed c Q) (hR : Closed c R)
    (copy : ∀ v, P v → Q (v.copyData c)) (pass : SpecAt c Q (do nextStatus cp c; computeConsumption cp c) (fun _ => R)) :
    SpecAt c P
      (do
        updateData cp
        cp.ids.forM (fun c => do nextStatus cp c; computeConsumption cp c)
        publishData cp)
      (fun _ => R) := by
  refine SpecOn.bind (updateData_at hc hP copy) (fun _ => SpecOn.bind (R := fun _ => R) (passes_at hc hQ hR pass) (fun _ => ?_))
  exact passive_at (publishData_passive (deaf_view c)) hR

def View.setSetpoints (v : View) (ocppSetpoint setpoint : ℚ) : View :=
  v.setOwn ({ · with ocppSetpoint := ocppSetpoint, setpoint := setpoint })

/-- **A property of a connector that neither the other threads nor the business of setpoints ends.** -/
structure SetpointFree (c : Nat) (P : View → Prop) : Prop where
  env : Closed c P
  setpoints : ∀ v x y, P v → P (v.setSetpoints x y)
  asked : ∀ v unit a, P v → P (v.note (.getSetpoint c unit a))

/-- **A property of a connector that neither the other threads nor the business of setpoints and meters ends.** -/
structure Steady (c : Nat) (P : View → Prop) : Prop where
  env : Closed c P
  setpoints : ∀ v x y, P v → P (v.setSetpoints x y)
  asked : ∀ v unit a, P v → P (v.note (.getSetpoint c unit a))
  metered : ∀ v x, P v → P ({ v with meter := v.meter.setConsumptions x }.note (.setConsumptions c x))

theorem Steady.and {P Q : View → Prop} (hP : Steady c P) (hQ : Steady c Q) : Steady c (fun v => P v ∧ Q v) where
  env := hP.env.and hQ.env
  setpoints v x y h := ⟨hP.setpoints v x y h.1, hQ.setpoints v x y h.2⟩
  asked v u a h := ⟨hP.asked v u a h.1, hQ.asked v u a h.2⟩
  metered v x h := ⟨hP.metered v x h.1, hQ.metered v x h.2⟩

theorem Steady.setpointFree {P : View → Prop} (hP : Steady c P) : SetpointFree c P :=
  ⟨hP.env, hP.setpoints, hP.asked⟩

theorem SetpointFree.mapConnectors {P : View → Prop} (hP : SetpointFree c P) {f : ConnectorData → ConnectorData}
    (hf : ∀ d : ConnectorData, ∃ y, f d = { d with setpoint := y }) {w : World} (h : P (w.view c)) :
    P ((w.mapConnectors f).view c) := by
  obtain ⟨y, hy⟩ := hf (w.connectors c)
  have hw : (w.mapConnectors f).view c = (w.view c).setSetpoints (w.connectors c).ocppSetpoint y := by
    show View.mk (f (w.connectors c)) _ _ _ _ _ _ _ = _
    rw [hy]
    rfl
  rw [hw]
  exact hP.setpoints _ _ _ h

theorem SetpointFree.connectorSetpoint {P : View → Prop} (hP : SetpointFree c P) (whole : ℚ) (d : Nat) :
    SpecAt c P (connectorSetpoint cp whole d) (fun _ => P) := by
  have own : ∀ f : ConnectorData → ConnectorData, (∀ d, ∃ x, f d = { d with ocppSetpoint := x }) →
      SpecAt c P (setOwn d f) (fun _ => P) := by
    intro f hf
    by_cases hd : d = c
    · subst hd
      refine setOwn_at (fun v hv => ?_)
      obtain ⟨x, hx⟩ := hf v.connector
      have hw : v.setOwn f = v.setSetpoints x v.connector.setpoint := by
        unfold View.setOwn
        rw [hx]
        rfl
      rw [hw]
      exact hP.setpoints _ _ _ hv
    · exact @passive_at cp c _ _ (setOwn_passive (blind_view hd) f) P hP.env
  refine SpecOn.bind (own _ (fun d => ⟨_, rfl⟩)) (fun _ => ?_)
  refine SpecOn.keep (Spec.read (fun _ hw => hw)) (fun unit => ?_)
  refine SpecOn.keep ?_ (fun a => ?_)
  · by_cases hd : d = c
    · subst hd
      exact getSetpoint_at hP.env (fun v a hv => hP.asked v unit a hv)
    · exact passive_at (ask_passive (fun _ _ => view_note_of_about_ne rfl hd)) hP.env
  · cases a with
    | none => exact SpecOn.pure _ (fun _ hv => hv)
    | some r =>
      refine SpecOn.bind (own _ (fun d => ?_)) (fun _ => SpecOn.pure _ (fun _ hv => hv))
      cases r.2 with
      | none => exact ⟨d.ocppSetpoint, rfl⟩
      | some x =>
        dsimp only
        split
        · exact ⟨x, rfl⟩
        · exact ⟨d.ocppSetpoint, rfl⟩

theorem SetpointFree.computeSetpoints {P : View → Prop} (hP : SetpointFree c P) :
    SpecAt c P (computeSetpoints cp) (fun _ => P) := by
  have mapped : ∀ f : ConnectorData → ConnectorData, (∀ d, ∃ y, f d = { d with setpoint := y }) →
      SpecAt c P (update (·.mapConnectors f)) (fun _ => P) := fun f hf =>
    Spec.update (fun w hw => hP.mapConnectors hf hw)
  refine SpecOn.keep ?_ (fun whole => ?_)
  · exact Spec.foldlM (I := fun _ (w : World) => P (w.view c)) (fun x d _ => hP.connectorSetpoint x d) _
  refine SpecOn.bind (mapped _ (fun d => ⟨_, rfl⟩)) (fun _ => ?_)
  refine SpecOn.keep (Spec.read (fun _ hw => hw)) (fun total => ?_)
  refine SpecOn.keep (SpecOn.ite (fun _ => ?_) (fun _ => SpecOn.pure _ (fun _ hv => hv)))
    (fun _ => mapped _ (fun d => ⟨_, rfl⟩))
  refine SpecOn.keep ?_ (fun _ => mapped _ (fun d => ⟨_, rfl⟩))
  exact @passive_at cp c _ _ (record_passive (fun _ => view_note_of_ne (by simp [Entry.about]))) P hP.env

theorem computeSetpoints_steady {P : View → Prop} (hP : Steady c P) :
    SpecAt c P (computeSetpoints cp) (fun _ => P) := hP.setpointFree.computeSetpoints

theorem computeConsumption_steady {P : View → Prop} (hP : Steady c P) :
    SpecAt c P (computeConsumption cp c) (fun _ => P) :=
  SpecOn.keep (Spec.read (fun _ hw => hw)) (fun x =>
    act_at (g := fun v => { v with meter := v.meter.setConsumptions x }) rfl (fun w => view_setMeter w c _) hP.env
      (fun v hv => hP.metered v x hv))

theorem pollConnectors_at {I J : View → Prop} (hc : c ∈ cp.ids) (hI : Closed c I) (hJ : Closed c J)
    (poll : SpecAt c I (updateConnectorStatus cp c) (fun _ => J)) : SpecAt c I (pollConnectors cp) (fun _ => J) :=
  SpecOn.bind (passive_at (updateStatus_passive (deaf_view c)) hI) (fun _ =>
    forM_at hc (fun _ hd => updateConnectorStatus_passive (blind_view hd)) hI hJ poll)

theorem loopThen_at {I : View → Prop} {m : M Unit} {Q : View → Prop} (hI : Closed c I) {k : Nat}
    (hk : SpecAt c I (loop cp k) (fun _ => I)) (hm : SpecAt c I m (fun _ => Q)) :
    SpecAt c I (loopThen cp k m) (fun ran v => ran = true → Q v) := by
  refine SpecOn.keep hk (fun _ => SpecOn.keep (passive_at waiting_passive hI) (fun wait => ?_))
  cases wait with
  | true => exact SpecOn.pure _ (fun _ _ h => by cases h)
  | false => exact SpecOn.bind hm (fun _ => SpecOn.pure _ (fun _ h _ => h))

/-- **The meter is set from the record as it was read**; the other threads may act before it is set. -/
theorem computeConsumption_at {P Q : View → Prop} (hP : Closed c P) (h : ∀ v v', P v → P v' →
      Q ({ v' with meter := v'.meter.setConsumptions (consumptions v.connector v.meter.phasesCount) }.note
        (.setConsumptions c (consumptions v.connector v.meter.phasesCount)))) :
    SpecAt c P (computeConsumption cp c) (fun _ => Q) := by
  refine Spec.read_bind (fun w hw => Spec.pre (fun _ hs => hs.1) ?_)
  have set : SpecAt c P (act cp (·.setMeter c (·.setConsumptions (consumptions (w.connectors c) (w.meters c).phasesCount)))
      (.setConsumptions c (consumptions (w.connectors c) (w.meters c).phasesCount))) (fun _ => Q) :=
    act_at rfl (fun w => view_setMeter w c _) hP (fun v hv => h (w.view c) v hw hv)
  exact set

/-- **The rule of a round.**  `I` holds between rounds, `J` once the connector is polled, `K` once its data are
copied, and its own pass leads back to `I`. -/
theorem loopRound_at {I J K : View → Prop} (hc : c ∈ cp.ids) (hI : Steady c I) (hJ : Steady c J) (hK : Closed c K)
    (poll : SpecAt c I (updateConnectorStatus cp c) (fun _ => J)) (copy : ∀ v, J v → K (v.copyData c))
    (pass : SpecAt c K (nextStatus cp c) (fun _ => I)) : SpecAt c I (loopRound cp) (fun _ => I) := by
  refine SpecOn.bind (passive_at waiting_passive hI.env) (fun b => SpecOn.ite (fun _ => ?_) (fun _ => ?_))
  · exact SpecOn.bind (passive_at (waitRegistration_passive (deaf_view c)) hI.env) (fun _ => SpecOn.pure _ (fun _ hv => hv))
  -- an iteration: poll, setpoints, copy, pass, and the rest is not seen
  refine SpecOn.bind (pollConnectors_at hc hI.env hJ.env poll) (fun _ => ?_)
  refine SpecOn.bind (R := fun _ => I) ?_ (fun _ => passive_at goingOn_passive hI.env)
  refine SpecOn.bind (computeSetpoints_steady hJ) (fun _ => afterSetpoints_at hc hJ.env hK hI.env copy ?_)
  exact SpecOn.bind pass (fun _ => computeConsumption_steady hI)

theorem loop_at {I J K : View → Prop} (hc : c ∈ cp.ids) (hI : Steady c I) (hJ : Steady c J) (hK : Closed c K)
    (poll : SpecAt c I (updateConnectorStatus cp c) (fun _ => J)) (copy : ∀ v, J v → K (v.copyData c))
    (pass : SpecAt c K (nextStatus cp c) (fun _ => I)) (k : Nat) : SpecAt c I (loop cp k) (fun _ => I) :=
  Spec.rounds (loopRound_at hc hI hJ hK poll copy pass) k

/-! ## What no entry ends -/

/-- **A property of the history that holds for good.** -/
def Lasting (H : List Entry → Prop) : Prop := ∀ e h, H h → H (e :: h)

namespace Lasting

variable {H : List Entry → Prop}

theorem steady (hH : Lasting H) : Steady c (fun v => H v.history) where
  env := closed_history (fun e h _ => hH e h)
  setpoints _ _ _ h := h
  asked v _ _ h := hH _ v.history h
  metered v _ h := hH _ v.history h

theorem updateConnectorStatus (hH : Lasting H) :
    SpecAt c (fun v => H v.history) (updateConnectorStatus cp c) (fun _ v => H v.history) := by
  have entryFree : EntryFree c (fun v => H v.history) :=
    { env := hH.steady.env, cleared := fun _ h => h, badge := fun v h => hH _ v.history h, timed := fun _ _ h => h }
  exact updateConnectorStatus_keeps entryFree (fun v h => hH _ v.history h) (fun v _ h => hH _ v.history h) (fun _ _ h => h)

theorem stopFree (hH : Lasting H) : StopFree c (fun v => H v.history) where
  env := hH.steady.env
  noted v _ _ h := hH _ v.history h
  badge v h := hH _ v.history h
  stop v h := hH _ v.history h
  stopped v _ _ h := hH _ v.history h

theorem nextStatus (hH : Lasting H) :
    SpecAt c (fun v => H v.history) (nextStatus cp c) (fun _ v => H v.history) := by
  have plain : Plain c (fun v => H v.history) :=
    { env := hH.steady.env, notified := fun v _ h => hH _ v.history h, asked := fun v _ h => hH _ v.history h
      timed := fun _ _ h => h, started := fun v _ h _ _ => hH _ v.history h, refused := fun v _ h _ _ => hH _ v.history h }
  have tagFree : TagFree c (fun v => H v.history) :=
    { env := hH.steady.env, noted := fun v _ _ h => hH _ v.history h, answered := fun v _ _ h => hH _ v.history h
      tagged := fun _ _ _ h => h, badge := fun v h => hH _ v.history h, start := fun v h => hH _ v.history h }
  exact plain.nextStatus (isValidIdTagPresent_keeps tagFree false) (isTransactionStopCondition_keeps hH.stopFree)

theorem pollConnectors (hH : Lasting H) (hc : c ∈ cp.ids) :
    SpecAt c (fun v => H v.history) (pollConnectors cp) (fun _ v => H v.history) :=
  pollConnectors_at hc hH.steady.env hH.steady.env hH.updateConnectorStatus

end Lasting

end Simu
