import OcppSimu.Loop
/-!
# View — what one connector sees of the world

`World.view c` is everything the program reads or writes for connector `c`: its record, its meter, its mailboxes, its
status in the stack and the entries of the log about it.  The other threads move it by the eight steps of `View.Env`
(`step_view`); whatever the loop does for another connector it does not see (`Passive`).  A property of a connector is
therefore proved on its view: closed under `View.Env`, and followed through the calls made for that connector
(`loopRound_at`).
-/
namespace Simu

open Script

structure View where
  connector : ConnectorData
  meter : MeterSimulator
  mqtt : ConnectorData
  startPending : Bool
  startIdTag : String
  stopPending : Bool
  status : ChargePointStatus
  history : List Entry

def Entry.concerns (c : Nat) (e : Entry) : Bool := decide (e.about = some c)

def World.history (w : World) (c : Nat) : List Entry := w.log.filter (Entry.concerns c)

theorem history_of_log_nil {w : World} (hl : w.log = []) (c : Nat) : w.history c = [] := by
  rw [World.history, hl]
  rfl

def World.view (c : Nat) (w : World) : View where
  connector := w.connectors c
  meter := w.meters c
  mqtt := w.mqtt.connectors c
  startPending := w.handler.remoteStartPending c
  startIdTag := w.handler.remoteStartIdTag c
  stopPending := w.handler.remoteStopPending c
  status := w.stack.status c
  history := w.history c

namespace View

def note (v : View) (e : Entry) : View := { v with history := e :: v.history }

@[simp] theorem connector_note (v : View) (e : Entry) : (v.note e).connector = v.connector := rfl
@[simp] theorem meter_note (v : View) (e : Entry) : (v.note e).meter = v.meter := rfl
@[simp] theorem mqtt_note (v : View) (e : Entry) : (v.note e).mqtt = v.mqtt := rfl
@[simp] theorem startPending_note (v : View) (e : Entry) : (v.note e).startPending = v.startPending := rfl
@[simp] theorem startIdTag_note (v : View) (e : Entry) : (v.note e).startIdTag = v.startIdTag := rfl
@[simp] theorem stopPending_note (v : View) (e : Entry) : (v.note e).stopPending = v.stopPending := rfl
@[simp] theorem status_note (v : View) (e : Entry) : (v.note e).status = v.status := rfl
@[simp] theorem history_note (v : View) (e : Entry) : (v.note e).history = e :: v.history := rfl

def setOwn (v : View) (f : ConnectorData → ConnectorData) : View := { v with connector := f v.connector }

def copyData (c : Nat) (v : View) : View :=
  (v.setOwn (·.setCar v.mqtt.car)).note (.updateData c v.connector v.mqtt.car)

/-- **One step of the other threads**, as a connector sees it. -/
inductive Env (c : Nat) (v : View) : View → Prop
  | car (p : CarPayload) : Env c v ({ v with mqtt := v.mqtt.receiveCar p }.note (.event (.carMessage c p)))
  | badge (id : String) : Env c v ({ v with mqtt := { v.mqtt with idTag := id } }.note (.event (.idTagMessage c id)))
  | fault (b : Bool) :
    Env c v ({ v with mqtt := { v.mqtt with faultPending := b } }.note (.event (.faultedMessage c b)))
  | remoteStart (asked : Nat) (idTag : String) :
    Env c v ({ v with startPending := true, startIdTag := idTag }.note
      (.remoteStartTransactionRequested asked idTag (some c)))
  | remoteStop : Env c v ({ v with stopPending := true }.note (.event (.remoteStopTransactionRequested c)))
  | availability (a : AvailabilityType) :
    Env c v ((v.setOwn ({ · with unavailablePending := (changeAvailability c v.connector a).2 })).note
      (.changeAvailabilityRequested c a (changeAvailability c v.connector a).1))
  | moved (s : ChargePointStatus) : Env c v ({ v with status := s }.note (.statusMoved c v.status s))
  | meterUpdate : Env c v ({ v with meter := v.meter.update }.note (.event (.meterUpdate c)))

/-- A property no step of the other threads ends. -/
def Closed (c : Nat) (P : View → Prop) : Prop := ∀ v v', Env c v v' → P v → P v'

theorem Closed.and {c : Nat} {P Q : View → Prop} (hP : Closed c P) (hQ : Closed c Q) :
    Closed c (fun v => P v ∧ Q v) := fun v v' h hv => ⟨hP v v' h hv.1, hQ v v' h hv.2⟩

theorem Closed.exists {ι : Type} {c : Nat} {P : ι → View → Prop} (h : ∀ i, Closed c (P i)) :
    Closed c (fun v => ∃ i, P i v) := fun v v' hv ⟨i, hi⟩ => ⟨i, h i v v' hv hi⟩

/-- The other threads write no field of the loop's record but `unavailable_pending`. -/
theorem Env.connector {c : Nat} {v v' : View} (h : Env c v v') :
    v'.connector = { v.connector with unavailablePending := v'.connector.unavailablePending } := by
  cases h <;> rfl

theorem Env.history {c : Nat} {v v' : View} (h : Env c v v') :
    ∃ e : Entry, e.outside = true ∧ v'.history = e :: v.history := by
  cases h <;> exact ⟨_, rfl, rfl⟩

/-- **What is said of the loop's record and the history alone** outlives the other threads if it outlives their
entries. -/
theorem closed_own {c : Nat} {P : ConnectorData → List Entry → Prop}
    (hP : ∀ d b e h, e.outside = true → P d h → P { d with unavailablePending := b } (e :: h)) :
    Closed c (fun v => P v.connector v.history) := by
  intro v v' hv h
  obtain ⟨e, he, hh⟩ := hv.history
  show P v'.connector v'.history
  rw [hv.connector, hh]
  exact hP _ _ e _ he h

theorem closed_history {c : Nat} {P : List Entry → Prop} (hP : ∀ e h, e.outside = true → P h → P (e :: h)) :
    Closed c (fun v => P v.history) := closed_own (P := fun _ => P) (fun _ _ e h => hP e h)

theorem closed_idTag (c : Nat) (P : String → Prop) : Closed c (fun v => P v.connector.idTag) :=
  fun v v' h hv => by show P v'.connector.idTag; rw [h.connector]; exact hv

end View

open View

/-! ## The view of a changed world -/

theorem history_note (w : World) (e : Entry) (c : Nat) :
    (w.note e).history c = if e.about = some c then e :: w.history c else w.history c := by
  by_cases h : e.about = some c <;> simp [World.history, World.note, Entry.concerns, h]

theorem view_note_of_about {w : World} {e : Entry} {c : Nat} (h : e.about = some c) :
    (w.note e).view c = (w.view c).note e := by
  unfold World.view
  rw [history_note, if_pos h]
  rfl

theorem view_note_of_ne {w : World} {e : Entry} {c : Nat} (h : e.about ≠ some c) : (w.note e).view c = w.view c := by
  unfold World.view
  rw [history_note, if_neg h]
  rfl

theorem view_note_of_about_ne {w : World} {e : Entry} {c d : Nat} (he : e.about = some d) (hd : d ≠ c) :
    (w.note e).view c = w.view c := view_note_of_ne (fun h => hd (Option.some.inj (he.symm.trans h)))

theorem view_note_of_none {w w' : World} {e : Entry} {c : Nat} (he : e.about = none) (hw : w'.view c = w.view c) :
    (w'.note e).view c = w.view c := by
  rw [view_note_of_ne (by simp [he]), hw]

theorem view_setConnector (w : World) (c : Nat) (f : ConnectorData → ConnectorData) :
    (w.setConnector c f).view c = (w.view c).setOwn f := by
  simp [World.view, View.setOwn, World.setConnector, World.history]

theorem view_setConnector_of_ne {w : World} {c d : Nat} (h : d ≠ c) (f : ConnectorData → ConnectorData) :
    (w.setConnector d f).view c = w.view c := by
  simp [World.view, World.setConnector, World.history, Function.update_of_ne (Ne.symm h)]

theorem view_setMqttConnector (w : World) (c : Nat) (f : ConnectorData → ConnectorData) :
    (w.setMqttConnector c f).view c = { w.view c with mqtt := f (w.view c).mqtt } := by
  simp [World.view, World.setMqttConnector, World.history]

theorem view_setMqttConnector_of_ne {w : World} {c d : Nat} (h : d ≠ c) (f : ConnectorData → ConnectorData) :
    (w.setMqttConnector d f).view c = w.view c := by
  simp [World.view, World.setMqttConnector, World.history, Function.update_of_ne (Ne.symm h)]

theorem view_setMeter (w : World) (c : Nat) (f : MeterSimulator → MeterSimulator) :
    (w.setMeter c f).view c = { w.view c with meter := f (w.view c).meter } := by
  simp [World.view, World.setMeter, World.history]

theorem view_setMeter_of_ne {w : World} {c d : Nat} (h : d ≠ c) (f : MeterSimulator → MeterSimulator) :
    (w.setMeter d f).view c = w.view c := by
  simp [World.view, World.setMeter, World.history, Function.update_of_ne (Ne.symm h)]

theorem view_setStatus (w : World) (c : Nat) (s : ChargePointStatus) :
    (w.setStatus c s).view c = { w.view c with status := s } := by
  simp [World.view, World.setStatus, World.history]

theorem view_setStatus_of_ne {w : World} {c d : Nat} (h : d ≠ c) (s : ChargePointStatus) :
    (w.setStatus d s).view c = w.view c := by
  simp [World.view, World.setStatus, World.history, Function.update_of_ne (Ne.symm h)]

theorem view_copyData (w : World) (c : Nat) : (w.copyData c).view c = (w.view c).copyData c := by
  unfold World.copyData View.copyData
  rw [view_note_of_about rfl, view_setConnector]
  rfl

theorem view_copyData_of_ne {w : World} {c d : Nat} (h : d ≠ c) : (w.copyData d).view c = w.view c := by
  unfold World.copyData
  rw [view_note_of_about_ne rfl h, view_setConnector_of_ne h]

/-! ## The other threads -/

theorem view_mqttStartStep (cp : SimulatedChargePoint) (w : World) (b : Bool) (c : Nat) :
    (mqttStartStep cp w b).view c = w.view c := by
  unfold mqttStartStep
  split
  case h_6 => split <;> exact view_note_of_none rfl rfl
  all_goals first | rfl | (split <;> rfl)

/-- What is done to one connector and noted of it is a step of that connector, and nothing to the others. -/
theorem view_note_step {w w' : World} {e : Entry} {c d : Nat} (he : e.about = some d)
    (hne : d ≠ c → w'.view c = w.view c) (hown : d = c → Env c (w.view c) ((w'.view c).note e)) :
    (w'.note e).view c = w.view c ∨ Env c (w.view c) ((w'.note e).view c) := by
  by_cases hd : d = c
  · right
    rw [view_note_of_about (he.trans (congrArg some hd))]
    exact hown hd
  · left
    rw [view_note_of_about_ne he hd, hne hd]

theorem view_remoteStart (cp : SimulatedChargePoint) (w : World) (d : Nat) (idTag : String) (c : Nat) :
    (remoteStartTransactionRequested cp w d idTag).view c = w.view c ∨
      Env c (w.view c) ((remoteStartTransactionRequested cp w d idTag).view c) := by
  unfold remoteStartTransactionRequested
  cases remoteStartConnector cp w d with
  | none => exact .inl (view_note_of_ne (by simp [Entry.about]))
  | some i =>
    apply view_note_step rfl
    · intro hi
      simp [World.view, World.history, Function.update_of_ne (Ne.symm hi)]
    · rintro rfl
      convert Env.remoteStart (c := i) (v := w.view i) d idTag using 2
      simp [World.view, World.history]

/-- **A step of the other threads, as a connector sees it**: nothing, or a step of `View.Env`. -/
theorem step_view (cp : SimulatedChargePoint) (w : World) (e : Event) (c : Nat) :
    (w.step cp e).view c = w.view c ∨ Env c (w.view c) ((w.step cp e).view c) := by
  cases e with
  | carMessage d p =>
    simp only [World.step]
    split
    · apply view_note_step rfl
      · exact fun hd => view_setMqttConnector_of_ne hd _
      · rintro rfl
        rw [view_setMqttConnector]
        exact Env.car p
    · exact .inl rfl
  | idTagMessage d id =>
    simp only [World.step]
    split
    · apply view_note_step rfl
      · exact fun hd => view_setMqttConnector_of_ne hd _
      · rintro rfl
        rw [view_setMqttConnector]
        exact Env.badge id
    · exact .inl rfl
  | faultedMessage d b =>
    simp only [World.step]
    split
    · apply view_note_step rfl
      · exact fun hd => view_setMqttConnector_of_ne hd _
      · rintro rfl
        rw [view_setMqttConnector]
        exact Env.fault b
    · exact .inl rfl
  | closeCommand => exact .inl (view_note_of_none rfl rfl)
  | remoteStartTransactionRequested d idTag => exact view_remoteStart cp w d idTag c
  | remoteStopTransactionRequested d =>
    simp only [World.step, remoteStopTransactionRequested]
    apply view_note_step rfl
    · intro hd
      simp [World.view, World.history, World.setRemoteStop, Function.update_of_ne (Ne.symm hd)]
    · rintro rfl
      convert Env.remoteStop (c := d) (v := w.view d) using 2
      simp [World.view, World.history, World.setRemoteStop]
  | changeAvailabilityRequested d a =>
    simp only [World.step, changeAvailabilityRequested]
    apply view_note_step rfl
    · exact fun hd => view_setConnector_of_ne hd _
    · rintro rfl
      rw [view_setConnector]
      exact Env.availability a
  | resetRequested => exact .inl (view_note_of_none rfl rfl)
  | connectionStateChanged b => exact .inl (view_note_of_none rfl rfl)
  | registrationChanged s => exact .inl (view_note_of_none rfl rfl)
  | statusMoved d s =>
    apply view_note_step rfl
    · exact fun hd => view_setStatus_of_ne hd _
    · rintro rfl
      rw [view_setStatus]
      exact Env.moved s
  | brokerLost =>
    simp only [World.step]
    split
    · exact .inl (view_note_of_none rfl rfl)
    · exact .inl rfl
  | mqttStartStep b => exact .inl (view_mqttStartStep cp w b c)
  | meterUpdate d =>
    apply view_note_step rfl
    · exact fun hd => view_setMeter_of_ne hd _
    · rintro rfl
      rw [view_setMeter]
      exact Env.meterUpdate
  | elapse ms => exact .inl (view_note_of_none rfl rfl)
  | setAuthorizeRemoteTxRequests b => exact .inl (view_note_of_none rfl rfl)
  | setConnectionTimeOut ms => exact .inl (view_note_of_none rfl rfl)

theorem View.Closed.tick {c : Nat} {P : View → Prop} (hP : Closed c P) (cp : SimulatedChargePoint) (t : Tick)
    (w : World) (h : P (w.view c)) : P ((w.tick cp t).view c) := by
  refine tick_keeps (I := fun w => P (w.view c)) (fun w e h => ?_) t h
  rcases step_view cp w e c with hw | hw
  · rw [hw]; exact h
  · exact hP _ _ hw h

end Simu
