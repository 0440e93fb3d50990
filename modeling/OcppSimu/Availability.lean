import OcppSimu.Rules
import OcppSimu.Session
/-!
# Availability — a scheduled unavailability

`changeAvailabilityRequested` answers `Scheduled` and leaves `unavailable_pending` on the loop's record; the loop honours
it when it finds the connector `Available` or `Reserved`, but only after it has looked at the cable, the id tags and the
fault.  The unavailability is due once the connector was seen entering `Available` with no later request.  Where nothing
comes first in the iterations that find it in one of the two statuses, no transaction is started while it is due.
-/
namespace Simu

open Hist Script View

/-! ## What the history says of the unavailability -/

def Entry.asksAvailability : Entry → Bool
  | .changeAvailabilityRequested _ _ _ => true
  | _ => false

def Entry.schedules : Entry → Bool
  | .changeAvailabilityRequested _ _ .scheduled => true
  | _ => false

def Entry.enters (s : ChargePointStatus) : Entry → Bool
  | .entered _ t => decide (t = s)
  | _ => false

def Entry.polled : Entry → Option ChargePointStatus
  | .getConnectorStatus _ s => some s
  | _ => none

/-- The status the connector was polled in last. -/
def polledAs (h : List Entry) : Option ChargePointStatus := last Entry.polled h

/-- An unavailability was scheduled, and no request has come since. -/
def scheduled (h : List Entry) : Bool := since Entry.schedules Entry.asksAvailability h

/-- **The scheduled unavailability is due**: the connector was seen entering `Available`, and no request has come
since. -/
def due : List Entry → Bool
  | [] => false
  | e :: h => !e.asksAvailability && (e.enters .available && scheduled h || due h)

/-- **No transaction is started while it is due.** -/
def Entry.honours : Entry → List Entry → Bool
  | .startTransaction _ _ _, h => !due h
  | _, _ => true

def Honours (h : List Entry) : Prop := Always (fun e h => e.honours h = true) h

instance (h : List Entry) : Decidable (Honours h) := Hist.decidableAlways _ h

/-- The iteration has found the connector `Available` or `Reserved`, with the unavailability due. -/
def watched (h : List Entry) : Bool :=
  due h && decide (polledAs h = some .available ∨ polledAs h = some .reserved)

/-- **Nothing comes before the unavailability**: in an iteration that finds the connector `Available` with the
unavailability due no cable is plugged, and in one that finds it `Available` or `Reserved` no id tag is let through. -/
def Entry.yields : Entry → List Entry → Bool
  | .updateData _ _ new, h => !(due h && decide (polledAs h = some .available)) || decide (new.cable = 0)
  | .authorize _ _ a, h => !watched h || !a.ok
  | .authorizeRemoteTxRequests _ b, h => !watched h || b
  | _, _ => true

def Yields (h : List Entry) : Prop := Always (fun e h => e.yields h = true) h

instance (h : List Entry) : Decidable (Yields h) := Hist.decidableAlways _ h

/-- **The next user plugs in before the loop sees the connector `Available`**: the cable is tested first, so the session
goes ahead although the connector should be unavailable. -/
theorem start_of_early_plug :
    let h := (afterLoop .sample 9 (.start .sample .idle) (script 260
      [(0, .carMessage 1 { cable := some 10 }), (0, .idTagMessage 1 "A"), (60, .changeAvailabilityRequested 1 .inoperative),
       (62, .carMessage 1 { cable := some 0 }), (110, .carMessage 1 { cable := some 10 }), (140, .idTagMessage 1 "B")])).history 1
    StackKeeps h ∧ ¬Honours h := by
  decide +kernel

/-! ## The invariant -/

def Assumed (h : List Entry) : Prop := StackKeeps h ∧ Yields h

theorem Assumed.tail {e : Entry} {h : List Entry} (ha : Assumed (e :: h)) : Assumed h := ⟨ha.1.tail, ha.2.tail⟩

/-- **What the loop keeps**: a scheduled unavailability is pending, and `F` holds of the loop's record, the history and
the status in the stack while it is due. -/
def Scheduling (F : ConnectorData → List Entry → ChargePointStatus → Prop) (v : View) : Prop :=
  Assumed v.history → Honours v.history ∧ (scheduled v.history = true → v.connector.unavailablePending = true) ∧
    (due v.history = true → F v.connector v.history v.status)

theorem scheduled_of_due : ∀ {h : List Entry}, due h = true → scheduled h = true
  | e :: h, hd => by
    obtain ⟨he, hd⟩ := (Bool.and_eq_true _ _).mp hd
    rw [Bool.not_eq_true'] at he
    have hs : scheduled h = true := by
      rcases (Bool.or_eq_true _ _).mp hd with hd | hd
      · exact ((Bool.and_eq_true _ _).mp hd).2
      · exact scheduled_of_due hd
    exact since_cons_of_not_kill he hs

/-- An entry that is no start, no availability request, no entering and no poll. -/
def Entry.calm : Entry → Bool
  | .startTransaction _ _ _ | .changeAvailabilityRequested _ _ _ | .entered _ _ | .getConnectorStatus _ _ => false
  | _ => true

theorem due_cons {e : Entry} {h : List Entry} (he : e.calm = true) : due (e :: h) = due h := by
  cases e <;> first | rfl | cases he

theorem scheduled_cons {e : Entry} {h : List Entry} (he : e.calm = true) : scheduled (e :: h) = scheduled h := by
  cases e <;> first | rfl | cases he

theorem polledAs_cons {e : Entry} {h : List Entry} (he : e.polled = none) : polledAs (e :: h) = polledAs h := by
  rw [polledAs, last_cons, he, Option.none_or]
  rfl

theorem polled_of_calm {e : Entry} (he : e.calm = true) : e.polled = none := by
  cases e <;> first | rfl | cases he

theorem honours_of_calm {e : Entry} {h : List Entry} (he : e.calm = true) : e.honours h = true := by
  cases e <;> first | rfl | cases he

def Calm (F : ConnectorData → List Entry → ChargePointStatus → Prop) : Prop :=
  ∀ d e h x, e.calm = true → F d h x → F d (e :: h) x

/-- A calm entry leaves what is due, and may tell more of the record. -/
theorem Scheduling.tell {F G : ConnectorData → List Entry → ChargePointStatus → Prop} {v : View} {e : Entry}
    (he : e.calm = true) (hG : Assumed (e :: v.history) → due v.history = true → F v.connector v.history v.status →
      G v.connector (e :: v.history) v.status) (h : Scheduling F v) : Scheduling G (v.note e) := by
  intro ha
  obtain ⟨hh, hs, hd⟩ := h ha.tail
  refine ⟨Always.cons (honours_of_calm he) hh, ?_, ?_⟩
  · rw [View.history_note, scheduled_cons he]
    exact hs
  · rw [View.history_note, due_cons he]
    exact fun hx => hG ha hx (hd hx)

theorem Scheduling.note {F : ConnectorData → List Entry → ChargePointStatus → Prop} (hF : Calm F) {v : View} {e : Entry}
    (he : e.calm = true) (h : Scheduling F v) : Scheduling F (v.note e) := h.tell he (fun _ _ => hF _ _ _ _ he)

/-- A property of the status the moves of the stack do not end, and of the loop's record no request ends. -/
structure Still (F : ConnectorData → List Entry → ChargePointStatus → Prop) : Prop where
  calm : Calm F
  moved : ∀ d h x y, y.stackOwned = true → F d h x → F d h y
  asked : ∀ d b h x, F d h x → F { d with unavailablePending := b } h x

theorem pending_of_scheduled {c : Nat} {d : ConnectorData} {a : AvailabilityType}
    (h : (changeAvailability c d a).1 = .scheduled) : (changeAvailability c d a).2 = true := by
  unfold changeAvailability at h ⊢
  split
  · rename_i hc
    rw [if_pos hc] at h
    cases a with
    | inoperative =>
      dsimp only at h ⊢
      split
      · rfl
      · rename_i hs
        rw [if_neg hs] at h
        cases h
    | operative => cases h
  · rename_i hc
    rw [if_neg hc] at h
    cases h

theorem Scheduling.closed (c : Nat) {F : ConnectorData → List Entry → ChargePointStatus → Prop} (hF : Still F) :
    Closed c (Scheduling F) := by
  intro v v' hv h
  cases hv with
  | availability a =>
    intro ha
    obtain ⟨hh, -, -⟩ := h ha.tail
    refine ⟨Always.cons rfl hh, fun hs => ?_, fun hd => ?_⟩
    · -- only the answer `Scheduled` counts, and it comes with the flag
      refine pending_of_scheduled ?_
      cases hr : (changeAvailability c v.connector a).1 with
      | scheduled => rfl
      | _ =>
        simp only [View.history_note, View.setOwn, hr] at hs
        cases hs
    · cases hd
  | moved s =>
    intro ha
    obtain ⟨hh, hs, hd⟩ := h ha.tail
    refine ⟨Always.cons rfl hh, hs, fun hx => hF.calm _ _ _ _ rfl (hF.moved _ _ v.status s ?_ (hd hx))⟩
    have hm : v.status.stackOwned = true ∧ s.stackOwned = true := by simpa [Entry.moveAllowed] using ha.1.head
    exact hm.2
  | _ => exact Scheduling.note hF.calm rfl h

theorem Scheduling.setOwn {F G : ConnectorData → List Entry → ChargePointStatus → Prop}
    {f : ConnectorData → ConnectorData} (hf : ∀ d, (f d).unavailablePending = d.unavailablePending)
    (hFG : ∀ d h x, F d h x → G (f d) h x) {v : View} (h : Scheduling F v) : Scheduling G (v.setOwn f) := by
  intro ha
  obtain ⟨hh, hs, hd⟩ := h ha
  exact ⟨hh, fun hx => (hf v.connector).trans (hs hx), fun hx => hFG _ _ _ (hd hx)⟩

theorem Scheduling.mono {F G : ConnectorData → List Entry → ChargePointStatus → Prop} {v : View}
    (hFG : F v.connector v.history v.status → G v.connector v.history v.status) (h : Scheduling F v) :
    Scheduling G v := by
  intro ha
  obtain ⟨hh, hs, hd⟩ := h ha
  exact ⟨hh, hs, fun hx => hFG (hd hx)⟩

theorem Scheduling.notify {F G : ConnectorData → List Entry → ChargePointStatus → Prop} {c : Nat} {s : ChargePointStatus}
    (hFG : ∀ d e h x, F d h x → G d (e :: h) s) {v : View} (h : Scheduling F v) :
    Scheduling G ({ v with status := s }.note (.statusNotification c s)) := by
  intro ha
  obtain ⟨hh, hs, hd⟩ := h ha.tail
  exact ⟨Always.cons rfl hh, hs, fun hx => hFG _ _ _ v.status (hd hx)⟩

/-! ## The three places of an iteration -/

/-- Between rounds: a status the stack moves by itself, or `Faulted`. -/
def Settled (_ : ConnectorData) (_ : List Entry) (x : ChargePointStatus) : Prop := x.stackOwned = true ∨ x = .faulted

/-- The connector was polled in `s`. -/
def SeenAs (s : ChargePointStatus) (h : List Entry) (x : ChargePointStatus) : Prop :=
  match s with
  | .available | .reserved => polledAs h = some s
  | .faulted => True
  | .unavailable => x.stackOwned = true
  | _ => False

def Seen (d : ConnectorData) (h : List Entry) (x : ChargePointStatus) : Prop := SeenAs d.status h x

/-- Once the data are copied. -/
def Ready (d : ConnectorData) (h : List Entry) (x : ChargePointStatus) : Prop :=
  SeenAs d.status h x ∧ (d.status = .available → d.carCableCapacity = 0)

theorem SeenAs.cons {s x : ChargePointStatus} {e : Entry} {h : List Entry} (he : e.polled = none) (hs : SeenAs s h x) :
    SeenAs s (e :: h) x := by
  cases s <;> first | exact hs | exact (polledAs_cons he).trans hs

theorem SeenAs.moved {s x y : ChargePointStatus} {h : List Entry} (hy : y.stackOwned = true) (hs : SeenAs s h x) :
    SeenAs s h y := by
  cases s <;> first | exact hs | exact hy

theorem Settled.still : Still Settled where
  calm _ _ _ _ _ h := h
  asked _ _ _ _ h := h
  moved _ _ _ _ hy _ := .inl hy

theorem Seen.still : Still Seen where
  calm _ _ _ _ he h := SeenAs.cons (polled_of_calm he) h
  asked _ _ _ _ h := h
  moved _ _ _ _ hy h := SeenAs.moved hy h

theorem Ready.still : Still Ready where
  calm _ _ _ _ he h := ⟨SeenAs.cons (polled_of_calm he) h.1, h.2⟩
  asked _ _ _ _ h := h
  moved _ _ _ _ hy h := ⟨SeenAs.moved hy h.1, h.2⟩

theorem Still.fixed {F : ConnectorData → List Entry → ChargePointStatus → Prop} (hF : Still F) (d : ConnectorData) :
    Still (fun _ => F d) where
  calm _ e h x he hf := hF.calm d e h x he hf
  moved _ h x y hm hf := hF.moved d h x y hm hf
  asked _ _ _ _ h := h

theorem SeenAs.still (s : ChargePointStatus) : Still (fun _ => SeenAs s) := Seen.still.fixed { status := s }

theorem Scheduling.steady (c : Nat) {F : ConnectorData → List Entry → ChargePointStatus → Prop} (hF : Still F)
    (hs : ∀ d y z h x, F d h x → F { d with ocppSetpoint := y, setpoint := z } h x) : Steady c (Scheduling F) where
  env := Scheduling.closed c hF
  setpoints _ _ _ h := Scheduling.setOwn (fun _ => rfl) (fun _ _ _ hd => hs _ _ _ _ _ hd) h
  asked _ _ _ h := Scheduling.note hF.calm rfl h
  metered v x h := Scheduling.note (v := { v with meter := v.meter.setConsumptions x }) hF.calm rfl h

/-! ## Polling -/

variable {cp : SimulatedChargePoint} {c : Nat}

theorem stackOwned_cases {s : ChargePointStatus} (h : s.stackOwned = true) :
    s = .available ∨ s = .reserved ∨ s = .unavailable := by
  cases s with
  | available => exact .inl rfl
  | reserved => exact .inr (.inl rfl)
  | unavailable => exact .inr (.inr rfl)
  | _ => cases h

theorem getConnectorStatus_scheduling :
    SpecAt c (Scheduling Settled) (getConnectorStatus cp c)
      (fun s v => Scheduling (fun _ => SeenAs s) v ∧ polledAs v.history = some s) := by
  refine getConnectorStatus_at (Scheduling.closed c Settled.still) (fun v h => ⟨fun ha => ?_, rfl⟩)
  obtain ⟨hh, hs, hd⟩ := h ha.tail
  refine ⟨Always.cons rfl hh, hs, fun hx => ?_⟩
  show SeenAs v.status (.getConnectorStatus c v.status :: v.history) v.status
  rcases hd hx with ho | hf
  · rcases stackOwned_cases ho with hv | hv | hv <;> rw [hv] <;> rfl
  · rw [hf]
    trivial

/-- **The connector is seen entering a status**: where that makes the unavailability due, the status is `Available`. -/
theorem record_entered {s : ChargePointStatus} :
    SpecAt c (fun v => Scheduling (fun _ => SeenAs s) v ∧ polledAs v.history = some s) (record (.entered c s))
      (fun _ => Scheduling (fun _ => SeenAs s)) := by
  refine record_at rfl (fun v h ha => ?_)
  obtain ⟨hh, hs, hd⟩ := h.1 ha.tail
  refine ⟨Always.cons rfl hh, hs, fun hx => ?_⟩
  have hx' : (decide (s = .available) && scheduled v.history || due v.history) = true := hx
  rcases (Bool.or_eq_true _ _).mp hx' with hn | ho
  · obtain ⟨hn, -⟩ := (Bool.and_eq_true _ _).mp hn
    have hn := of_decide_eq_true hn
    subst hn
    exact h.2
  · exact SeenAs.cons rfl (hd ho)

theorem updateConnectorStatus_scheduling :
    SpecAt c (Scheduling Settled) (updateConnectorStatus cp c) (fun _ => Scheduling Seen) := by
  refine SpecOn.bind getConnectorStatus_scheduling (fun s => ownData_at (fun v _ => SpecOn.ite (fun _ => ?_) (fun he => ?_)))
  · refine SpecOn.bind (SpecOn.pre (fun _ h => h.1) record_entered) (fun _ => ?_)
    have entryFree : EntryFree c (Scheduling (fun _ => SeenAs s)) :=
      { env := Scheduling.closed c (SeenAs.still s), cleared := fun _ h => h.setOwn (fun _ => rfl) (fun _ _ _ hs => hs)
        badge := fun v h => Scheduling.note (v := { v with mqtt := _ }) (SeenAs.still s).calm rfl h
        timed := fun _ _ h => h.setOwn (fun _ => rfl) (fun _ _ _ hs => hs) }
    exact entering_at entryFree (fun _ h => h.setOwn (fun _ => rfl) (fun _ _ _ hs => hs))
  · refine SpecOn.pure _ (fun v' h => Scheduling.mono (fun hr => ?_) h.1.1)
    have hs : s = v'.connector.status := by rw [h.2]; exact Classical.not_not.1 he
    show SeenAs v'.connector.status _ _
    rw [← hs]
    exact hr

/-- **The data are copied**: an iteration that found the connector `Available` finds no cable. -/
theorem copyData_scheduling (v : View) (h : Scheduling Seen v) : Scheduling Ready (v.copyData c) := by
  intro ha
  obtain ⟨hh, hs, hd⟩ := h ha.tail
  refine ⟨Always.cons rfl hh, hs, fun hx => ⟨SeenAs.cons rfl (hd hx), fun hr => ?_⟩⟩
  have hr' : v.connector.status = .available := hr
  have saw : polledAs v.history = some .available := by
    have h := hd hx
    unfold Seen at h
    rw [hr'] at h
    exact h
  have hx' : due v.history = true := hx
  have hy : (!(due v.history && decide (polledAs v.history = some .available)) ||
      decide (v.mqtt.car.cable = 0)) = true := ha.2.head
  rw [hx', saw] at hy
  exact of_decide_eq_true hy

/-! ## The pass of the connector -/

abbrev NotDue : View → Prop := Scheduling (fun _ _ _ => False)

theorem not_due_still : Still (fun _ _ _ => False) where
  calm _ _ _ _ _ h := h
  moved _ _ _ _ _ h := h
  asked _ _ _ _ h := h

theorem NotDue.any {F : ConnectorData → List Entry → ChargePointStatus → Prop} {v : View} (h : NotDue v) :
    Scheduling F v := h.mono False.elim

theorem NotDue.started {v : View} (idTag : String) (a : AuthorizationStatus) (h : NotDue v) :
    NotDue (v.note (.startTransaction c idTag a)) := by
  intro ha
  obtain ⟨hh, hs, hd⟩ := h ha.tail
  refine ⟨Always.cons ?_ hh, hs, hd⟩
  show (!due v.history) = true
  rw [Bool.not_eq_true', ← Bool.not_eq_true]
  exact hd

theorem NotDue.plain (c : Nat) : Plain c NotDue where
  env := Scheduling.closed c not_due_still
  notified _ _ h := h.notify (fun _ _ _ _ hf => hf)
  asked _ _ h := h.note not_due_still.calm rfl
  timed _ _ h := h.setOwn (fun _ => rfl) (fun _ _ _ hf => hf)
  started _ a h _ _ := h.started _ a
  refused _ a h _ _ := (h.started _ a).setOwn (fun _ => rfl) (fun _ _ _ hf => hf)

theorem calm_of_reads {e : Entry} (he : e.reads = true) : e.calm = true := by
  cases e <;> first | rfl | cases he

theorem NotDue.tagFree (c : Nat) : TagFree c NotDue where
  env := Scheduling.closed c not_due_still
  noted _ _ he h := h.note not_due_still.calm (calm_of_reads he)
  answered _ _ _ h := h.note not_due_still.calm rfl
  tagged _ _ _ h := h.setOwn (fun _ => rfl) (fun _ _ _ hf => hf)
  badge v h := Scheduling.note (v := { v with mqtt := _ }) not_due_still.calm rfl h
  start v h := Scheduling.note (v := { v with startPending := false }) not_due_still.calm rfl h

theorem NotDue.stopFree (c : Nat) : StopFree c NotDue where
  env := Scheduling.closed c not_due_still
  noted _ _ he h := h.note not_due_still.calm (calm_of_reads he)
  badge v h := Scheduling.note (v := { v with mqtt := _ }) not_due_still.calm rfl h
  stop v h := Scheduling.note (v := { v with stopPending := false }) not_due_still.calm rfl h
  stopped _ _ _ h := h.note not_due_still.calm rfl

/-- What is known of the record in a pass in which an id tag may be read. -/
structure Watching (F : ConnectorData → List Entry → ChargePointStatus → Prop) : Prop where
  still : Still F
  own : ∀ d d' h x, F d h x → F d' h x
  saw : ∀ d h x, F d h x → polledAs h = some .available ∨ polledAs h = some .reserved

/-- An id tag that is let through shows that the unavailability is not due. -/
theorem Watching.let_through {F : ConnectorData → List Entry → ChargePointStatus → Prop} (hF : Watching F) {v : View}
    {e : Entry} (he : e.calm = true) (hy : ∀ h, e.yields h = true → watched h = false) (h : Scheduling F v) :
    NotDue (v.note e) := by
  refine h.tell he (fun ha hx hf => ?_)
  have hw := hy _ ha.2.head
  unfold watched at hw
  rw [hx, decide_eq_true (hF.saw _ _ _ hf)] at hw
  cases hw

/-- Either the tag was refused, or the unavailability is not due. -/
def Let (F : ConnectorData → List Entry → ChargePointStatus → Prop) (ok : Bool) (v : View) : Prop :=
  if ok then NotDue v else Scheduling F v

theorem Let.of (F : ConnectorData → List Entry → ChargePointStatus → Prop) {ok : Bool} {v : View}
    (h : Scheduling F v) (hok : ok = true → NotDue v) : Let F ok v := by
  cases ok with
  | true => exact hok rfl
  | false => exact h

section Watching

variable {F : ConnectorData → List Entry → ChargePointStatus → Prop}

theorem Let.map {ok : Bool} {v v' : View} (hn : NotDue v → NotDue v') (hs : Scheduling F v → Scheduling F v')
    (h : Let F ok v) : Let F ok v' := by
  cases ok with
  | true => exact hn h
  | false => exact hs h

theorem Let.closed (c : Nat) (hF : Watching F) (ok : Bool) : Closed c (Let F ok) := by
  intro v v' hv h
  exact h.map (Scheduling.closed c not_due_still v v' hv) (Scheduling.closed c hF.still v v' hv)

theorem Let.note (hF : Watching F) {ok : Bool} {v : View} {e : Entry} (he : e.calm = true) (h : Let F ok v) :
    Let F ok (v.note e) := h.map (fun h => h.note not_due_still.calm he) (fun h => h.note hF.still.calm he)

theorem authorizeOwn_let (hF : Watching F) (idTag : String) :
    SpecAt c (Scheduling F) (authorizeOwn cp c idTag) (fun a => Let F a.ok) := by
  have hc := Scheduling.closed c hF.still
  refine SpecOn.bind (R := fun r => Let F r.1.ok) (authorize_at hc (fun v r h => ?_)) (fun r => ?_)
  · refine Let.of F (h.note hF.still.calm rfl) (fun hok => hF.let_through rfl (fun h hy => ?_) h)
    simpa [Entry.yields, hok] using hy
  · refine SpecOn.bind (setOwn_at (Q := fun _ => Let F r.1.ok) (fun v h => ?_)) (fun _ => SpecOn.pure _ (fun _ h => h))
    exact h.map (fun h => h.setOwn (fun _ => rfl) (fun _ _ _ hf => hf))
      (fun h => h.setOwn (fun _ => rfl) (fun _ _ _ hf => hF.own _ _ _ _ hf))

/-- **Where the unavailability is due, no id tag is found valid.** -/
theorem isValidIdTagPresent_let (hF : Watching F) (localOnly : Bool) :
    SpecAt c (Scheduling F) (isValidIdTagPresent cp c localOnly) (fun ret => Let F ret) := by
  have hc := Scheduling.closed c hF.still
  have tag : ∀ t, SpecAt c (Scheduling F) (setOwn c ({ · with idTag := t })) (fun _ => Scheduling F) := fun t =>
    setOwn_at (fun v h => h.setOwn (fun _ => rfl) (fun _ _ _ hf => hF.own _ _ _ _ hf))
  refine SpecOn.bind (R := fun r => Let F r.2) ?_ (fun r => ?_)
  · refine SpecOn.keep (isIdTagPending_at hc (fun v h => h.note hF.still.calm rfl)) (fun _ => ?_)
    refine SpecOn.ite (fun _ => ?_) (fun _ => ?_)
    · refine SpecOn.keep (pendingIdTag_at hc (fun v h => h.note hF.still.calm rfl)) (fun t => SpecOn.keep (tag t) (fun _ => ?_))
      refine SpecOn.bind (authorizeOwn_let hF t) (fun a => SpecOn.bind (R := fun _ => Let F a.ok) ?_ (fun _ => ?_))
      · exact resetIdTagPending_at (Let.closed c hF a.ok)
          (fun v h => Let.note (v := { v with mqtt := _ }) hF rfl h)
      · exact SpecOn.pure _ (fun _ h => h)
    · refine SpecOn.keep (SpecOn.ite (fun _ => SpecOn.pure _ (fun _ h => h)) (fun _ => ?_)) (fun _ => ?_)
      · exact isRemoteStartPending_at hc (fun v h => h.note hF.still.calm rfl)
      refine SpecOn.ite (fun _ => ?_) (fun _ => SpecOn.pure _ (fun _ h => h))
      refine SpecOn.keep (remoteStartIdTag_at hc (fun v h => h.note hF.still.calm rfl)) (fun t => SpecOn.keep (tag t) (fun _ => ?_))
      refine SpecOn.bind (R := fun a => Let F a.ok) ?_ (fun a => SpecOn.bind (R := fun _ => Let F a.ok) ?_ (fun _ => ?_))
      · refine SpecOn.bind (R := fun b => Let F (!b)) (authorizeRemoteTxRequests_at hc (fun v b h => ?_)) (fun b => ?_)
        · refine Let.of F (h.note hF.still.calm rfl) (fun hb => hF.let_through rfl (fun h hy => ?_) h)
          rw [Bool.not_eq_true'] at hb
          simpa [Entry.yields, hb] using hy
        · cases b with
          | true => exact authorizeOwn_let hF t
          | false => exact SpecOn.pure _ (fun _ h => h)
      · exact resetRemoteStartPending_at (Let.closed c hF a.ok)
          (fun v h => Let.note (v := { v with startPending := false }) hF rfl h)
      · exact SpecOn.pure _ (fun _ h => h)
  · refine SpecOn.bind (R := fun _ => Let F r.2) (SpecOn.ite (fun _ => ?_) (fun _ => SpecOn.pure _ (fun _ h => h))) (fun _ => ?_)
    · refine clearIdTags_at (fun v h => ?_)
      exact h.map (fun h => h.setOwn (fun _ => rfl) (fun _ _ _ hf => hf))
        (fun h => h.setOwn (fun _ => rfl) (fun _ _ _ hf => hF.own _ _ _ _ hf))
    · exact SpecOn.bind (record_at (Q := fun _ => Let F r.2) rfl (fun v h => h.note hF rfl))
        (fun _ => SpecOn.pure _ (fun _ h => h))

end Watching

theorem Ready.watching {d : ConnectorData} (hd : d.status = .available ∨ d.status = .reserved) :
    Watching (fun _ => Ready d) where
  still := Ready.still.fixed d
  own _ _ _ _ h := h
  saw _ h x hr := by
    have hs := hr.1
    unfold SeenAs at hs
    rcases hd with hd | hd
    · rw [hd] at hs
      exact .inl hs
    · rw [hd] at hs
      exact .inr hs

theorem notify_settled {F : ConnectorData → List Entry → ChargePointStatus → Prop} (hF : Still F)
    {s : ChargePointStatus} (hs : s.stackOwned = true ∨ s = .faulted) :
    SpecAt c (Scheduling F) (statusNotification cp c s) (fun _ => Scheduling Settled) :=
  statusNotification_at (Scheduling.closed c hF) (fun _ h => h.notify (fun _ _ _ _ _ => hs))

theorem notify_of_not_due (s : ChargePointStatus) :
    SpecAt c NotDue (statusNotification cp c s) (fun _ => Scheduling Settled) :=
  statusNotification_at (Scheduling.closed c not_due_still) (fun _ h => h.notify (fun _ _ _ _ hf => hf.elim))

/-- **The flag is read**: where it is down, nothing is due. -/
theorem unavailablePending_settled {F : ConnectorData → List Entry → ChargePointStatus → Prop} (hF : Still F) :
    SpecAt c (Scheduling F)
      (do if ← unavailablePending cp c then statusNotification cp c .unavailable else pure ())
      (fun _ => Scheduling Settled) := by
  refine SpecOn.bind (R := fun b v => if b then Scheduling F v else NotDue v) ?_ (fun b => SpecOn.ite (fun hb => ?_) (fun hb => ?_))
  · refine unavailablePending_at (Scheduling.closed c hF) (fun v h => ?_)
    cases hb : v.connector.unavailablePending with
    | true => exact h.note hF.calm rfl
    | false =>
      intro ha
      obtain ⟨hh, hs, -⟩ := h ha.tail
      refine ⟨Always.cons rfl hh, hs, fun hx => ?_⟩
      have hx' : due v.history = true := hx
      have ht := hs (scheduled_of_due hx')
      rw [hb] at ht
      cases ht
  · rw [hb]
    exact notify_settled hF (.inl rfl)
  · rw [Bool.not_eq_true] at hb
    rw [hb]
    exact SpecOn.pure _ (fun _ h => h.any)

theorem faultOrUnavailable_settled {F : ConnectorData → List Entry → ChargePointStatus → Prop} (hF : Still F)
    (d : ConnectorData) : SpecAt c (Scheduling F) (faultOrUnavailable cp c d) (fun _ => Scheduling Settled) :=
  SpecOn.ite (fun _ => notify_settled hF (.inr rfl)) (fun _ => unavailablePending_settled hF)

theorem valid_settled {d : ConnectorData} (hd : d.status = .available ∨ d.status = .reserved) :
    SpecAt c (Scheduling (fun _ => Ready d))
      (do if ← isValidIdTagPresent cp c false then statusNotification cp c .preparing else faultOrUnavailable cp c d)
      (fun _ => Scheduling Settled) := by
  refine SpecOn.bind (isValidIdTagPresent_let (Ready.watching hd) false) (fun ret => SpecOn.ite (fun hr => ?_) (fun hr => ?_))
  · rw [hr]
    exact notify_of_not_due _
  · rw [Bool.not_eq_true] at hr
    rw [hr]
    exact faultOrUnavailable_settled (Ready.still.fixed d) d

theorem whenAvailable_settled {d : ConnectorData} (hd : d.status = .available) :
    SpecAt c (Scheduling (fun _ => Ready d)) (whenAvailable cp c d) (fun _ => Scheduling Settled) := by
  refine SpecOn.ite (fun hc => ?_) (fun _ => valid_settled (.inl hd))
  exact SpecOn.pre (fun v h => h.mono (fun hr => hc (hr.2 hd))) (notify_of_not_due _)

theorem whenFaulted_settled (d : ConnectorData) :
    SpecAt c (Scheduling Ready) (whenFaulted cp c d) (fun _ => Scheduling Settled) :=
  SpecOn.ite (fun _ => notify_settled Ready.still (.inl rfl)) (fun _ => unavailablePending_settled Ready.still)

theorem nextStatus_not_due : SpecAt c NotDue (nextStatus cp c) (fun _ => Scheduling Settled) :=
  SpecOn.post ((NotDue.plain c).nextStatus (isValidIdTagPresent_keeps (NotDue.tagFree c) false)
    (isTransactionStopCondition_keeps (NotDue.stopFree c))) (fun _ _ h => h.any)

/-- **The pass of the connector keeps the scheduling.** -/
theorem nextStatus_scheduling :
    SpecAt c (Scheduling Ready) (nextStatus cp c) (fun _ => Scheduling Settled) := by
  refine SpecOn.split (fun v => v.connector.status) (fun s => ?_)
  have never : (∀ h x, ¬SeenAs s h x) → SpecAt c (fun v => Scheduling Ready v ∧ v.connector.status = s)
      (nextStatus cp c) (fun _ => Scheduling Settled) := by
    intro hs
    refine SpecOn.pre (fun v h => h.1.mono (fun hr => ?_)) nextStatus_not_due
    have hn := hr.1
    rw [h.2] at hn
    exact hs _ _ hn
  have own : ∀ {v v' : View}, (Scheduling Ready v' ∧ v'.connector.status = s) ∧ v'.connector = v.connector →
      Scheduling (fun _ => Ready v.connector) v' := by
    intro v v' h
    rw [← h.2]
    exact h.1.1
  cases s with
  | available =>
    refine ownData_at (fun v hv => ?_)
    rw [hv.2]
    exact SpecOn.pre (fun v' h => own h) (whenAvailable_settled hv.2)
  | reserved =>
    refine ownData_at (fun v hv => ?_)
    rw [hv.2]
    exact SpecOn.pre (fun v' h => own h) (valid_settled (.inr hv.2))
  | faulted =>
    refine ownData_at (fun v hv => ?_)
    rw [hv.2]
    exact SpecOn.pre (fun v' h => h.1.1) (whenFaulted_settled v.connector)
  | unavailable =>
    refine ownData_at (fun v hv => ?_)
    rw [hv.2]
    refine SpecOn.pure _ (fun v' h => h.1.1.mono (fun hr => .inl ?_))
    have hs := hr.1
    rw [h.1.2] at hs
    exact hs
  | _ => exact never (fun _ _ h => h)

theorem loop_scheduling (hc : c ∈ cp.ids) (k : Nat) :
    SpecAt c (Scheduling Settled) (loop cp k) (fun _ => Scheduling Settled) :=
  loop_at hc (Scheduling.steady c Settled.still (fun _ _ _ _ _ h => h))
    (Scheduling.steady c Seen.still (fun _ _ _ _ _ h => h)) (Scheduling.closed c Ready.still)
    updateConnectorStatus_scheduling copyData_scheduling nextStatus_scheduling k

/-- **A scheduled unavailability is honoured where nothing comes before it**: once it is due no transaction is
started. -/
theorem honours_of_yields (cp : SimulatedChargePoint) (c : Nat) (hc : c ∈ cp.ids) (w : World) (hl : w.log = [])
    (k : Nat) (script : List Tick) (hk : StackKeeps ((afterLoop cp k w script).history c))
    (hy : Yields ((afterLoop cp k w script).history c)) : Honours ((afterLoop cp k w script).history c) := by
  have hh : w.history c = [] := history_of_log_nil hl c
  have hw : Scheduling Settled (w.view c) := by
    intro _
    show Honours (w.history c) ∧ (scheduled (w.history c) = true → _) ∧ (due (w.history c) = true → _)
    rw [hh]
    exact ⟨.nil, (fun hs => by cases hs), fun hd => by cases hd⟩
  have h := loop_scheduling hc k w script hw
  exact (h ⟨hk, hy⟩).1

/-- The connector is unplugged and left alone, and is plugged again once it is unavailable. -/
theorem honours_of_yields_session :
    Honours ((afterLoop .sample 9 (.start .sample .idle) (script 260
      [(0, .carMessage 1 { cable := some 10 }), (0, .idTagMessage 1 "A"), (60, .changeAvailabilityRequested 1 .inoperative),
       (62, .carMessage 1 { cable := some 0 }), (170, .carMessage 1 { cable := some 10 })])).history 1) :=
  honours_of_yields .sample 1 (by decide) (.start .sample .idle) rfl 9 _ (by decide +kernel) (by decide +kernel)

end Simu
