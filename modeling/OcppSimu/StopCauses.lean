import OcppSimu.Consumption
import OcppSimu.Mailbox
/-!
# StopCauses — a refused badge hides the other causes of a stop

`isTransactionStopCondition` looks at one cause only where a badge is pending: a badge that is refused ends the call
before the remote stop, the cable and the fault are looked at.  On every other call it stops the transaction exactly
where there is a cause (`stops_on_cause_iff`), and in a run of such calls the loop never notifies `Charging` for a
connector without cable.
-/
namespace Simu

open Hist Script View

/-! ## One call -/

/-- **What a call of `isTransactionStopCondition` finds.**  The badge is looked for at its first call to the other
threads, the remote stop at its second, and the badge is authorized at its third. -/
structure StopPoll where
  badge : Bool
  answer : AuthorizationStatus
  remoteStop : Bool
  unplugged : Bool
  fault : Bool
  deriving DecidableEq

def stopPoll (cp : SimulatedChargePoint) (c : Nat) (w : World) (script : List Tick) : StopPoll :=
  let badge := isIdTagPending cp c (w, script)
  { badge := badge.1
    answer := (script.tail.tail.headD default).authorize
    remoteStop := (isRemoteStopPending cp c badge.2).1
    unplugged := decide ((w.connectors c).carCableCapacity = 0)
    fault := (w.connectors c).faultPending }

namespace StopPoll

/-- The causes beside the badge. -/
def otherCause (p : StopPoll) : Bool := p.remoteStop || p.unplugged || p.fault

/-- **There is a cause to stop.** -/
def cause (p : StopPoll) : Bool := (p.badge && decide (p.answer = .accepted)) || p.otherCause

/-- **A refused badge hides another cause.** -/
def masked (p : StopPoll) : Bool := p.badge && !decide (p.answer = .accepted) && p.otherCause

/-- What the call answers. -/
def stops (p : StopPoll) : Bool := if p.badge then decide (p.answer = .accepted) else p.otherCause

theorem stops_eq_cause_iff (p : StopPoll) : p.stops = p.cause ↔ p.masked = false := by
  obtain ⟨b, a, r, u, f⟩ := p
  cases b <;> cases a <;> cases r <;> cases u <;> cases f <;> decide

end StopPoll

def stopsIn (h : List Entry) : Nat := h.countP Entry.stops

/-- **The call does as it should**: where there is a cause it answers `true` and stops once, else it answers `false` and
stops nothing. -/
def StopsOnCause (cp : SimulatedChargePoint) (c : Nat) (w : World) (script : List Tick) : Prop :=
  (isTransactionStopCondition cp c (w, script)).1 = (stopPoll cp c w script).cause ∧
    stopsIn (isTransactionStopCondition cp c (w, script)).2.1.log =
      stopsIn w.log + if (stopPoll cp c w script).cause then 1 else 0

variable {cp : SimulatedChargePoint} {c : Nat}

theorem stopsIn_cons {e : Entry} (he : e.stops = false) (h : List Entry) : stopsIn (e :: h) = stopsIn h := by
  unfold stopsIn
  rw [List.countP_cons, he]
  rfl

theorem stopsIn_tick (t : Tick) (w : World) : stopsIn (w.tick cp t).log = stopsIn w.log :=
  log_tick (fun e h he => stopsIn_cons (by cases e <;> first | rfl | cases he) h) t w

/-- The other threads write neither the cable nor the fault of the loop's record. -/
theorem car_tick (t : Tick) (w : World) : ((w.tick cp t).connectors c).car = (w.connectors c).car :=
  (closed_own (c := c) (P := fun d _ => d.car = (w.connectors c).car) (fun _ _ _ _ _ h => h)).tick cp t w rfl

/-- **From the state `x` the program answers `b`, and stops once if `b`.** -/
def Outcome (m : M Bool) (b : Bool) (x : World × List Tick) : Prop :=
  (m x).1 = b ∧ stopsIn (m x).2.1.log = stopsIn x.1.log + if b then 1 else 0

namespace Outcome

variable {b b' : Bool} {x : World × List Tick}

theorem call {α : Type} {act : Tick → World → α × World} {k : α → M Bool}
    (hact : ∀ t w, stopsIn (act t w).2.log = stopsIn w.log)
    (hk : Outcome (k (Script.call (World.tick cp) act x).1) b (Script.call (World.tick cp) act x).2) :
    Outcome (Script.call (World.tick cp) act >>= k) b x := by
  obtain ⟨h₁, h₂⟩ := hk
  refine ⟨h₁, h₂.trans ?_⟩
  have hs : stopsIn (Script.call (World.tick cp) act x).2.1.log = stopsIn x.1.log := (hact _ _).trans (stopsIn_tick _ x.1)
  rw [hs]

theorem ask {α : Type} {f : Tick → World → α} {entry : α → Entry} {k : α → M Bool} (he : ∀ a, (entry a).stops = false)
    (hk : Outcome (k (Simu.ask cp f entry x).1) b (Simu.ask cp f entry x).2) : Outcome (Simu.ask cp f entry >>= k) b x :=
  call (fun t w => stopsIn_cons (he (f t w)) w.log) hk

theorem act {f : World → World} {entry : Entry} {k : Unit → M Bool} (he : entry.stops = false)
    (hf : ∀ w, (f w).log = w.log) (hk : Outcome (k ()) b (Simu.act cp f entry x).2) :
    Outcome (Simu.act cp f entry >>= k) b x :=
  call (fun _ w => (stopsIn_cons he (f w).log).trans (congrArg stopsIn (hf w))) hk

theorem stop (idTag : String) (reason : Reason) : Outcome (do stopTransaction cp c idTag reason; pure true) true x := by
  refine ⟨rfl, ?_⟩
  show stopsIn (.stopTransaction c idTag reason :: (x.1.tick cp (x.2.headD default)).log) = _
  unfold stopsIn
  rw [List.countP_cons]
  exact congrArg (· + 1) (stopsIn_tick _ x.1)

theorem done : Outcome (pure false) false x := ⟨rfl, rfl⟩

theorem ite {p : Prop} [Decidable p] {m n : M Bool} (hm : p → Outcome m b x) (hn : ¬p → Outcome n b' x) :
    Outcome (if p then m else n) (if p then b else b') x := by
  by_cases h : p
  · rw [if_pos h, if_pos h]
    exact hm h
  · rw [if_neg h, if_neg h]
    exact hn h

end Outcome

/-- With a badge pending only its authorization counts. -/
theorem badge_outcome (x : World × List Tick) :
    Outcome
      (do
        let tag ← pendingIdTag cp c
        let r ← authorize cp c tag
        resetIdTagPending cp c
        if r.1 = .accepted then
          stopTransaction cp c tag .local_
          pure true
        else pure false)
      (decide ((x.2.tail.headD default).authorize = .accepted)) x := by
  refine Outcome.ask (fun _ => rfl) (Outcome.ask (fun _ => rfl) (Outcome.act rfl (fun _ => rfl) ?_))
  have hd : ∀ a : AuthorizationStatus, (if a = .accepted then true else false) = decide (a = .accepted) := by
    intro a
    cases a <;> rfl
  rw [← hd]
  exact Outcome.ite (fun _ => Outcome.stop _ _) (fun _ => Outcome.done)

/-- With no badge pending the other causes count. -/
theorem otherCause_outcome (x : World × List Tick) :
    Outcome
      (do
        if ← isRemoteStopPending cp c then
          resetRemoteStopPending cp c
          stopTransaction cp c "" .remote
          pure true
        else
          let d ← ownData c
          if d.carCableCapacity = 0 then
            stopTransaction cp c "" .evDisconnected
            pure true
          else if d.faultPending then
            stopTransaction cp c "" .other
            pure true
          else pure false)
      ((isRemoteStopPending cp c x).1 || decide ((x.1.connectors c).carCableCapacity = 0) || (x.1.connectors c).faultPending)
      x := by
  have hcar : ((isRemoteStopPending cp c x).2.1.connectors c).car = (x.1.connectors c).car := car_tick _ x.1
  have hcable : ((isRemoteStopPending cp c x).2.1.connectors c).carCableCapacity = (x.1.connectors c).carCableCapacity :=
    congrArg CarData.cable hcar
  have hfault : ((isRemoteStopPending cp c x).2.1.connectors c).faultPending = (x.1.connectors c).faultPending :=
    congrArg CarData.fault hcar
  have hb : ∀ r u f : Bool, (if r = true then true else if u = true then true else if f = true then true else false) =
      (r || u || f) := by decide
  rw [← hb, ← hcable, ← hfault]
  refine Outcome.ask (fun _ => rfl) (Outcome.ite (fun _ => ?_) (fun _ => ?_))
  · exact Outcome.act rfl (fun _ => rfl) (Outcome.stop _ _)
  · simp only [decide_eq_true_eq]
    exact Outcome.ite (fun _ => Outcome.stop _ _) (fun _ => Outcome.ite (fun _ => Outcome.stop _ _) (fun _ => Outcome.done))

theorem isTransactionStopCondition_outcome (w : World) (script : List Tick) :
    Outcome (isTransactionStopCondition cp c) (stopPoll cp c w script).stops (w, script) := by
  have hcar : ((isIdTagPending cp c (w, script)).2.1.connectors c).car = (w.connectors c).car := car_tick _ w
  have hcable : ((isIdTagPending cp c (w, script)).2.1.connectors c).carCableCapacity = (w.connectors c).carCableCapacity :=
    congrArg CarData.cable hcar
  have hfault : ((isIdTagPending cp c (w, script)).2.1.connectors c).faultPending = (w.connectors c).faultPending :=
    congrArg CarData.fault hcar
  unfold StopPoll.stops StopPoll.otherCause stopPoll
  dsimp only
  rw [← hcable, ← hfault]
  exact Outcome.ask (fun _ => rfl) (Outcome.ite (fun _ => badge_outcome _) (fun _ => otherCause_outcome _))

theorem stopsOnCause_iff (w : World) (script : List Tick) :
    StopsOnCause cp c w script ↔ (stopPoll cp c w script).masked = false := by
  obtain ⟨h₁, h₂⟩ : Outcome (isTransactionStopCondition cp c) _ _ := isTransactionStopCondition_outcome w script
  rw [← StopPoll.stops_eq_cause_iff]
  unfold StopsOnCause
  rw [h₁, h₂]
  exact ⟨fun h => h.1, fun h => ⟨h, by rw [h]⟩⟩

/-! ## The run -/

def Entry.readsTag : Entry → Bool
  | .pendingIdTag _ _ => true
  | _ => false

/-- A remote stop was pending when a badge was last read. -/
def stopBeside (h : List Entry) : Bool := sinceAt Entry.readsTag (fun _ => false) stopAsked h

/-- **No refused badge hides another cause**: where an authorization for a connector in session is refused, its cable is
plugged, and neither a fault nor a remote stop is pending. -/
def Entry.unmasked : Entry → List Entry → Bool
  | .authorize _ _ a, h =>
    match lastCopy h with
    | some (d, x) => !d.status.inSession || decide (a = .accepted) || !(stopBeside h || decide (x.cable = 0) || x.fault)
    | none => true
  | _, _ => true

def Unmasked (h : List Entry) : Prop := Always (fun e h => e.unmasked h = true) h

instance (h : List Entry) : Decidable (Unmasked h) := Hist.decidableAlways _ h

/-- **`Charging` is only notified for a connector with its cable plugged.** -/
def Entry.plugged : Entry → List Entry → Bool
  | .statusNotification _ .charging, h => decide (∀ p ∈ lastCopy h, p.2.cable ≠ 0)
  | _, _ => true

def Plugged (h : List Entry) : Prop := Always (fun e h => e.plugged h = true) h

instance (h : List Entry) : Decidable (Plugged h) := Hist.decidableAlways _ h

def Entry.notifiesCharging : Entry → Bool
  | .statusNotification _ .charging => true
  | _ => false

theorem plugged_cons {e : Entry} {h : List Entry} (he : e.notifiesCharging = false) (hp : Plugged h) : Plugged (e :: h) := by
  refine .cons ?_ hp
  cases e with
  | statusNotification d s => cases s <;> first | rfl | cases he
  | _ => rfl

/-- Between rounds. -/
def PluggedSoFar (v : View) : Prop := Unmasked v.history → Plugged v.history

theorem PluggedSoFar.note {v : View} {e : Entry} (he : e.notifiesCharging = false) (h : PluggedSoFar v) : PluggedSoFar (v.note e) :=
  fun hu => plugged_cons he (h hu.tail)

theorem PluggedSoFar.steady (c : Nat) : Steady c PluggedSoFar where
  env := closed_history (P := fun h => Unmasked h → Plugged h)
    (fun e _ he h hu => plugged_cons (by cases e <;> first | rfl | cases he) (h hu.tail))
  setpoints _ _ _ h := h
  asked _ _ _ h := h.note rfl
  metered v x h := PluggedSoFar.note (v := { v with meter := v.meter.setConsumptions x }) rfl h

/-- **A pass under way**: `p` is what was copied last, and `q` what the pass knows. -/
structure Plugging (p : ConnectorData × CarData) (q : Prop) (v : View) : Prop where
  copied : Copied p (fun _ => True) v.connector v.history
  held : Unmasked v.history → Plugged v.history ∧ q

variable {p : ConnectorData × CarData} {q q' : Prop}

theorem Plugging.note {v : View} {e : Entry} (hc : e.copies = false) (he : e.notifiesCharging = false)
    (h : Plugging p q v) : Plugging p q (v.note e) where
  copied := h.copied.cons hc (fun _ => trivial)
  held hu := ⟨plugged_cons he (h.held hu.tail).1, (h.held hu.tail).2⟩

theorem Plugging.closed (c : Nat) (p : ConnectorData × CarData) (q : Prop) : Closed c (Plugging p q) := by
  intro v v' hv h
  refine ⟨Copied.closed c (fun _ _ _ ht => ht) v v' hv h.copied, ?_⟩
  obtain ⟨e, he, hh⟩ := hv.history
  rw [hh]
  exact fun hu => ⟨plugged_cons (by cases e <;> first | rfl | cases he) (h.held hu.tail).1, (h.held hu.tail).2⟩

theorem Plugging.mono {v : View} (hq : q → q') (h : Plugging p q v) : Plugging p q' v :=
  ⟨h.copied, fun hu => ⟨(h.held hu).1, hq (h.held hu).2⟩⟩

theorem Plugging.tagFree (c : Nat) : TagFree c (Plugging p q) where
  env := Plugging.closed c p q
  noted _ e he h := h.note (by cases e <;> first | rfl | cases he) (by cases e <;> first | rfl | cases he)
  answered _ _ _ h := h.note rfl rfl
  tagged _ x y h := ⟨h.copied.assigned x y _ _, h.held⟩
  badge v h := Plugging.note (v := { v with mqtt := _ }) rfl rfl ⟨h.copied, h.held⟩
  start v h := Plugging.note (v := { v with startPending := _ }) rfl rfl ⟨h.copied, h.held⟩

theorem notify_other {s : ChargePointStatus} (hs : s ≠ .charging) :
    SpecAt c (Plugging p q) (statusNotification cp c s) (fun _ => PluggedSoFar) := by
  refine statusNotification_at (Plugging.closed c p q) (fun v h hu => plugged_cons ?_ (h.held hu.tail).1)
  cases s <;> first | rfl | exact absurd rfl hs

/-- Any status may be notified while the cable is plugged. -/
theorem notify_plugged {s : ChargePointStatus} :
    SpecAt c (Plugging p (p.2.cable ≠ 0)) (statusNotification cp c s) (fun _ => PluggedSoFar) := by
  refine statusNotification_at (Plugging.closed c p _) (fun v h hu => .cons ?_ (h.held hu.tail).1)
  cases s with
  | charging =>
    refine decide_eq_true (fun p' hp => ?_)
    have he : lastCopy v.history = some p' := hp
    rw [h.copied.last] at he
    rw [← Option.some.inj he]
    exact (h.held hu.tail).2
  | _ => rfl

theorem done_pluggedSoFar : SpecAt c (Plugging p q) (pure () : M Unit) (fun _ => PluggedSoFar) :=
  SpecOn.pure _ (fun _ h hu => (h.held hu).1)

/-- **A call that answers `false` leaves the cable plugged**, where no refused badge hides another cause. -/
theorem isTransactionStopCondition_plugged (hs : p.1.status.inSession = true) :
    SpecAt c (Plugging p True) (isTransactionStopCondition cp c) (fun ret => Plugging p (ret = false → p.2.cable ≠ 0)) := by
  have stopped : ∀ {q : Prop} (idTag : String) (reason : Reason), SpecAt c (Plugging p q)
      (do stopTransaction cp c idTag reason; pure true) (fun ret => Plugging p (ret = false → p.2.cable ≠ 0)) :=
    fun idTag reason => SpecOn.keep (stopTransaction_at (Plugging.closed c p _) (fun _ h => h.note rfl rfl))
      (fun _ => SpecOn.pure _ (fun _ h => h.mono (fun _ hr => by cases hr)))
  refine SpecOn.keep (isIdTagPending_at (Plugging.closed c p _) (fun _ h => h.note rfl rfl)) (fun _ => ?_)
  refine SpecOn.ite (fun _ => ?_) (fun _ => ?_)
  · refine SpecOn.keep (pendingIdTag_at (Plugging.closed c p _) (fun _ h => h.note rfl rfl)) (fun tag => ?_)
    refine SpecOn.bind (R := fun r => Plugging p (r.1 ≠ .accepted → p.2.cable ≠ 0)) ?_ (fun r => ?_)
    · refine authorize_at (Plugging.closed c p _) (fun v r h => ⟨h.copied.cons rfl (fun _ => trivial), fun hu => ?_⟩)
      refine ⟨plugged_cons rfl (h.held hu.tail).1, fun hr hz => ?_⟩
      have hhead := hu.head
      simp only [Entry.unmasked, h.copied.last, hs, hr, hz] at hhead
      simp at hhead
    · refine SpecOn.keep (resetIdTagPending_at (Plugging.closed c p _) (Plugging.tagFree c).badge) (fun _ => ?_)
      refine SpecOn.ite (fun _ => stopped _ _) (fun hr => SpecOn.pure _ (fun _ h => h.mono (fun hc _ => hc hr)))
  · refine SpecOn.keep (isRemoteStopPending_at (Plugging.closed c p _) (fun _ h => h.note rfl rfl)) (fun _ => ?_)
    refine SpecOn.ite (fun _ => ?_) (fun _ => ?_)
    · refine SpecOn.keep (resetRemoteStopPending_at (Plugging.closed c p _) (fun v h => ?_)) (fun _ => stopped _ _)
      exact Plugging.note (v := { v with stopPending := _ }) rfl rfl ⟨h.copied, h.held⟩
    · refine ownData_at (fun v hv => SpecOn.pre (fun _ h => h.1) ?_)
      have hcable : v.connector.carCableCapacity = p.2.cable := congrArg CarData.cable hv.copied.car
      refine SpecOn.ite (fun _ => stopped _ _) (fun hz => SpecOn.ite (fun _ => stopped _ _) (fun _ => ?_))
      exact SpecOn.pure _ (fun _ h => h.mono (fun _ _ => by rw [← hcable]; exact hz))

theorem session_plugged {k : M Unit} (hs : p.1.status.inSession = true)
    (hk : SpecAt c (Plugging p (p.2.cable ≠ 0)) k (fun _ => PluggedSoFar)) :
    SpecAt c (Plugging p True)
      (do if ← isTransactionStopCondition cp c then statusNotification cp c .finishing else k) (fun _ => PluggedSoFar) := by
  refine SpecOn.bind (isTransactionStopCondition_plugged hs) (fun ret => SpecOn.ite (fun _ => notify_other (by decide)) (fun hr => ?_))
  rw [Bool.not_eq_true] at hr
  exact SpecOn.pre (fun _ h => h.mono (fun hc => hc hr)) hk

theorem tryStart_plugged {d : ConnectorData} (hd : d.carCableCapacity = p.2.cable) :
    SpecAt c (Plugging p True) (tryStart cp c d) (fun _ => PluggedSoFar) := by
  have hcl := Plugging.closed c p True
  refine SpecOn.ite (fun hc => ?_) (fun _ => SpecOn.ite (fun _ => notify_other (by decide)) (fun _ => ?_))
  · refine SpecOn.keep (startTransaction_at hcl (fun _ _ h => h.note rfl rfl)) (fun a => SpecOn.ite (fun _ => ?_) (fun _ => ?_))
    · exact SpecOn.pre (fun _ h => h.mono (fun _ => hd ▸ hc.1)) notify_plugged
    · exact clearIdTags_at (fun _ h hu => (h.held hu).1)
  · refine SpecOn.ite (fun _ => notify_other (by decide)) (fun _ => ?_)
    refine SpecOn.keep (preparingTimedOut_at hcl (fun _ _ h => h)) (fun _ => ?_)
    exact SpecOn.ite (fun _ => notify_other (by decide)) (fun _ => done_pluggedSoFar)

theorem faultOrUnavailable_plugged (d : ConnectorData) :
    SpecAt c (Plugging p True) (faultOrUnavailable cp c d) (fun _ => PluggedSoFar) := by
  refine SpecOn.ite (fun _ => notify_other (by decide)) (fun _ => ?_)
  refine SpecOn.keep (unavailablePending_at (Plugging.closed c p True) (fun _ h => h.note rfl rfl)) (fun _ => ?_)
  exact SpecOn.ite (fun _ => notify_other (by decide)) (fun _ => done_pluggedSoFar)

theorem nextStatus_plugged (p : ConnectorData × CarData) :
    SpecAt c (Plugging p True) (nextStatus cp c) (fun _ => PluggedSoFar) := by
  refine ownData_at (fun v hv => SpecOn.pre (fun _ h => h.1) ?_)
  have hs : v.connector.status = p.1.status := hv.copied.status
  generalize v.connector = d at hs
  have valid := @isValidIdTagPresent_keeps cp c _ (Plugging.tagFree c (p := p) (q := True)) false
  have unplugged : ∀ {s : ChargePointStatus}, s ≠ .charging → SpecAt c (Plugging p True) (statusNotification cp c s) (fun _ => PluggedSoFar) :=
    fun hn => notify_other hn
  cases hd : d.status with
  | available =>
    refine SpecOn.ite (fun _ => unplugged (by decide)) (fun _ => SpecOn.keep valid (fun _ => ?_))
    exact SpecOn.ite (fun _ => unplugged (by decide)) (fun _ => faultOrUnavailable_plugged d)
  | preparing =>
    refine SpecOn.keep (SpecOn.ite (fun _ => SpecOn.keep valid (fun _ => ?_)) (fun _ => SpecOn.pure _ (fun _ h => h))) (fun _ => ?_)
    · refine SpecOn.ite (fun _ => ?_) (fun _ => SpecOn.pure _ (fun _ h => h))
      exact startPreparing_at (Plugging.closed c p True) (fun _ now h => ⟨h.copied.assigned _ _ now _, h.held⟩)
    · refine ownData_at (fun v hv => SpecOn.pre (fun _ h => h.1) (tryStart_plugged ?_))
      exact congrArg CarData.cable hv.copied.car
  | charging =>
    refine session_plugged (by rw [← hs, hd]; rfl) (SpecOn.ite (fun _ => notify_plugged) (fun _ => ?_))
    exact SpecOn.ite (fun _ => notify_plugged) (fun _ => done_pluggedSoFar)
  | suspendedEVSE =>
    refine session_plugged (by rw [← hs, hd]; rfl) (SpecOn.ite (fun _ => ?_) (fun _ => done_pluggedSoFar))
    exact SpecOn.ite (fun _ => notify_plugged) (fun _ => notify_plugged)
  | suspendedEV =>
    refine session_plugged (by rw [← hs, hd]; rfl) (SpecOn.ite (fun _ => notify_plugged) (fun _ => ?_))
    exact SpecOn.ite (fun _ => notify_plugged) (fun _ => done_pluggedSoFar)
  | finishing =>
    refine SpecOn.ite (fun _ => unplugged (by decide)) (fun _ => ?_)
    exact SpecOn.ite (fun _ => unplugged (by decide)) (fun _ => done_pluggedSoFar)
  | reserved =>
    refine SpecOn.keep valid (fun _ => ?_)
    exact SpecOn.ite (fun _ => unplugged (by decide)) (fun _ => faultOrUnavailable_plugged d)
  | unavailable => exact done_pluggedSoFar
  | faulted =>
    refine SpecOn.ite (fun _ => unplugged (by decide)) (fun _ => ?_)
    refine SpecOn.keep (unavailablePending_at (Plugging.closed c p True) (fun _ h => h.note rfl rfl)) (fun _ => ?_)
    exact SpecOn.ite (fun _ => unplugged (by decide)) (fun _ => done_pluggedSoFar)

theorem updateConnectorStatus_pluggedSoFar : SpecAt c PluggedSoFar (updateConnectorStatus cp c) (fun _ => PluggedSoFar) := by
  have entryFree : EntryFree c PluggedSoFar :=
    { env := (PluggedSoFar.steady c).env, cleared := fun _ h => h, timed := fun _ _ h => h
      badge := fun v h => PluggedSoFar.note (v := { v with mqtt := { v.mqtt with idTag := "" } }) rfl h }
  exact updateConnectorStatus_keeps entryFree (fun _ h => h.note rfl) (fun _ _ h => h.note rfl) (fun _ _ h => h)

theorem loop_pluggedSoFar (hc : c ∈ cp.ids) (k : Nat) : SpecAt c PluggedSoFar (loop cp k) (fun _ => PluggedSoFar) := by
  refine loop_at (K := fun v => ∃ p, Plugging p True v) hc (PluggedSoFar.steady c) (PluggedSoFar.steady c)
    (Closed.exists (fun p => Plugging.closed c p True)) updateConnectorStatus_pluggedSoFar (fun v h => ?_)
    (SpecOn.exists nextStatus_plugged) k
  exact ⟨(v.connector, v.mqtt.car), ⟨⟨rfl, rfl, rfl, rfl, fun _ => trivial⟩, fun hu => ⟨plugged_cons rfl (h hu.tail), trivial⟩⟩⟩

/-- A car that is not ready, and then is ready and unplugged at once while a badge is refused. -/
def sampleRefused : List Tick :=
  (script 70 [(0, .carMessage 1 { cable := some 10, ready := some false }), (0, .idTagMessage 1 "A")]) ++
  (script 130 [(0, .carMessage 1 { cable := some 0, ready := some true }), (0, .idTagMessage 1 "B")]).map
    ({ · with authorize := .invalid })

/-- **A refused badge hides the unplugged cable**: the call answers `false` for a connector without cable, and the loop
notifies `Charging` for it. -/
theorem charging_without_cable :
    (let w := { World.start .sample .idle with
                connectors := fun _ => { status := .charging, carCableCapacity := 0 }
                mqtt := { (World.start .sample .idle).mqtt with connectors := fun _ => { idTag := "B" } } }
     let script : List Tick := [{}, {}, { authorize := .invalid }]
     (stopPoll .sample 1 w script).cause = true ∧ ¬StopsOnCause .sample 1 w script) ∧
    ¬Plugged ((afterLoop .sample 6 (.start .sample .idle) sampleRefused).history 1) := by
  refine ⟨⟨by decide +kernel, fun h => absurd h.1 (by decide +kernel)⟩, by decide +kernel⟩

/-- **A call stops on a cause exactly where no refused badge hides one, and in a run of such calls `Charging` is never
notified for a connector without cable.** -/
theorem stops_on_cause_iff (cp : SimulatedChargePoint) (c : Nat) :
    (∀ (w : World) (script : List Tick), StopsOnCause cp c w script ↔ (stopPoll cp c w script).masked = false) ∧
    ∀ (w : World) (k : Nat) (script : List Tick), c ∈ cp.ids → w.log = [] →
      Unmasked ((afterLoop cp k w script).history c) → Plugged ((afterLoop cp k w script).history c) := by
  refine ⟨stopsOnCause_iff, fun w k script hc hl hu => ?_⟩
  have h₀ : PluggedSoFar (w.view c) := by
    intro _
    show Plugged (w.history c)
    rw [history_of_log_nil hl c]
    exact .nil
  exact loop_pluggedSoFar hc k w script h₀ hu

theorem stops_on_cause_session :
    StopsOnCause .sample 1 (.start .sample .idle) sampleSession ∧
    Plugged ((afterLoop .sample 5 (.start .sample .idle) sampleSession).history 1) :=
  ⟨((stops_on_cause_iff .sample 1).1 _ _).2 (by decide +kernel),
    (stops_on_cause_iff .sample 1).2 _ 5 _ (by decide) rfl (by decide +kernel)⟩

end Simu
