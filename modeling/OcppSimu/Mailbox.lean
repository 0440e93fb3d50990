import OcppSimu.Session
/-!
# Mailbox — the requests a connector has pending

A connector has three mailboxes: the badge the MQTT manager holds for it, the remote start and the remote stop the
events handler holds.  What is in them can be read off the history (`Tracked`): the last message, unless it was reset
since.  A mailbox is not emptied when a transaction starts, so what it holds may be older than the transaction.
-/
namespace Simu

open Hist Script View

/-! ## What the history says of a mailbox -/

def Entry.badge : Entry → Option String
  | .event (.idTagMessage _ id) => some id
  | .resetIdTagPending _ => some ""
  | _ => none

/-- **The badge mailbox**: empty at first, then as the last entry left it. -/
def badgeBox (h : List Entry) : String := (last Entry.badge h).getD ""

def Entry.asksStop : Entry → Bool
  | .event (.remoteStopTransactionRequested _) => true
  | _ => false

def Entry.takesStop : Entry → Bool
  | .resetRemoteStopPending _ => true
  | _ => false

def stopAsked (h : List Entry) : Bool := since Entry.asksStop Entry.takesStop h

def Entry.asksStart : Entry → Bool
  | .remoteStartTransactionRequested _ _ (some _) => true
  | _ => false

def Entry.takesStart : Entry → Bool
  | .resetRemoteStartPending _ => true
  | _ => false

def startAsked (h : List Entry) : Bool := since Entry.asksStart Entry.takesStart h

/-- The mailboxes hold what the history says. -/
structure Tracked (v : View) : Prop where
  badge : v.mqtt.idTag = badgeBox v.history
  stop : v.stopPending = stopAsked v.history
  start : v.startPending = startAsked v.history

/-! ## Properties of mailboxes and history -/

/-- The entries that touch no mailbox, start or stop no transaction, and validate no tag. -/
def Entry.quiet : Entry → Bool
  | .startTransaction _ _ _ | .stopTransaction _ _ _ | .isValidIdTagPresent _ _ _ | .resetIdTagPending _
  | .resetRemoteStartPending _ | .resetRemoteStopPending _ => false
  | e => !e.outside

/-- **A property of mailboxes and history**: it says nothing of the loop's record, of the meter or of the status. -/
structure Posted (c : Nat) (P : View → Prop) : Prop where
  env : Closed c P
  own : ∀ v f, P v → P (v.setOwn f)
  metered : ∀ v m, P v → P { v with meter := m }
  moved : ∀ v s, P v → P { v with status := s }
  noted : ∀ v e, e.quiet = true → P v → P (v.note e)
  badge : ∀ v, P v → P ({ v with mqtt := { v.mqtt with idTag := "" } }.note (.resetIdTagPending c))
  started : ∀ v idTag a, P v → P (v.note (.startTransaction c idTag a))

section Posted

variable {cp : SimulatedChargePoint} {c : Nat} {P : View → Prop}

theorem quiet_of_reads {e : Entry} (he : e.reads = true) : e.quiet = true := by
  cases e <;> first | rfl | cases he

theorem Posted.steady (hP : Posted c P) : Steady c P where
  env := hP.env
  setpoints v _ _ hv := hP.own v _ hv
  asked v _ _ hv := hP.noted v _ rfl hv
  metered v _ hv := hP.noted { v with meter := _ } _ rfl (hP.metered v _ hv)

theorem Posted.plain (hP : Posted c P) : Plain c P where
  env := hP.env
  notified v s hv := hP.noted { v with status := s } _ rfl (hP.moved v s hv)
  asked v _ hv := hP.noted v _ rfl hv
  timed v _ hv := hP.own v _ hv
  started v a hv _ _ := hP.started v _ a hv
  refused v a hv _ _ := hP.own _ _ (hP.started v _ a hv)

theorem Posted.tagFree (hP : Posted c P) (answered : ∀ v tag ret, P v → P (v.note (.isValidIdTagPresent c tag ret)))
    (start : ∀ v, P v → P ({ v with startPending := false }.note (.resetRemoteStartPending c))) : TagFree c P where
  env := hP.env
  noted v e he hv := hP.noted v e (quiet_of_reads he) hv
  answered := answered
  tagged v _ _ hv := hP.own v _ hv
  badge := hP.badge
  start := start

theorem Posted.stopFree (hP : Posted c P)
    (stop : ∀ v, P v → P ({ v with stopPending := false }.note (.resetRemoteStopPending c)))
    (stopped : ∀ v idTag reason, P v → P (v.note (.stopTransaction c idTag reason))) : StopFree c P where
  env := hP.env
  noted v e he hv := hP.noted v e (quiet_of_reads he) hv
  badge := hP.badge
  stop := stop
  stopped := stopped

theorem Posted.authorizing (hP : Posted c P) : Authorizing c P where
  env := hP.env
  tagged v _ _ hv := hP.own v _ hv
  asked v _ hv := hP.noted v _ rfl hv
  authorized v _ _ hv := hP.noted v _ rfl hv

theorem Posted.entryFree (hP : Posted c P) : EntryFree c P where
  env := hP.env
  cleared v hv := hP.own v _ hv
  badge := hP.badge
  timed v _ hv := hP.own v _ hv

theorem Posted.updateConnectorStatus (hP : Posted c P) :
    SpecAt c P (updateConnectorStatus cp c) (fun _ => P) :=
  updateConnectorStatus_keeps hP.entryFree (fun v hv => hP.noted v _ rfl hv) (fun v _ hv => hP.noted v _ rfl hv)
    (fun v _ hv => hP.own v _ hv)

/-- **The rule of a run for such a property**: authorization and the stop condition keep it, and so does the loop. -/
theorem Posted.loop (hP : Posted c P) (hc : c ∈ cp.ids)
    (valid : SpecAt c P (isValidIdTagPresent cp c false) (fun _ => P))
    (stop : SpecAt c P (isTransactionStopCondition cp c) (fun _ => P)) (k : Nat) :
    SpecAt c P (loop cp k) (fun _ => P) :=
  loop_at hc hP.steady hP.steady hP.env hP.updateConnectorStatus
    (fun v hv => hP.noted (v.setOwn _) _ rfl (hP.own v _ hv)) (hP.plain.nextStatus valid stop) k

end Posted

/-! ## A request in hand -/

/-- **The request the call under way consumes is none of before**: when the mailbox was read, an `ask` was later than
the last `kill`.  `I` is what else holds of the view, `A` what is assumed of the run. -/
def Consumes (I : View → Prop) (A : List Entry → Prop) (read ask kill : Entry → Bool) (v : View) : Prop :=
  I v ∧ (A v.history → sinceAt read (fun _ => false) (since ask kill) v.history = true)

section Consumes

variable {I : View → Prop} {A : List Entry → Prop} {read ask kill : Entry → Bool}

theorem Consumes.keep {v v' : View} {e : Entry} (hA : A (e :: v.history) → A v.history) (he : read e = false)
    (hv : v'.history = e :: v.history) (hi : I v') (h : Consumes I A read ask kill v) :
    Consumes I A read ask kill v' := by
  refine ⟨hi, ?_⟩
  rw [hv]
  exact fun ha => sinceAt_cons_of_not_hit he rfl (h.2 (hA ha))

theorem Consumes.closed {c : Nat} (hI : Closed c I) (hA : ∀ e h, A (e :: h) → A h)
    (hr : ∀ e, e.outside = true → read e = false) : Closed c (Consumes I A read ask kill) := by
  intro v v' hv h
  obtain ⟨e, he, hh⟩ := hv.history
  exact h.keep (hA e _) (hr e he) hh (hI v v' hv h.1)

end Consumes

/-! ## The mailboxes are tracked -/

theorem Tracked.noted {v : View} {e : Entry} (he : e.quiet = true) (hv : Tracked v) : Tracked (v.note e) := by
  obtain ⟨hb, hs, ht⟩ := hv
  cases e <;> first | exact ⟨hb, hs, ht⟩ | cases he

theorem Tracked.closed (c : Nat) : Closed c Tracked := by
  intro v v' hv h
  obtain ⟨hb, hs, ht⟩ := h
  cases hv with
  | badge id => exact ⟨rfl, hs, ht⟩
  | remoteStart asked idTag => exact ⟨hb, hs, rfl⟩
  | remoteStop => exact ⟨hb, rfl, ht⟩
  | _ => exact ⟨hb, hs, ht⟩

theorem Tracked.posted (c : Nat) : Posted c Tracked where
  env := Tracked.closed c
  own _ _ h := ⟨h.badge, h.stop, h.start⟩
  metered _ _ h := ⟨h.badge, h.stop, h.start⟩
  moved _ _ h := ⟨h.badge, h.stop, h.start⟩
  noted _ _ he h := h.noted he
  badge _ h := ⟨rfl, h.stop, h.start⟩
  started _ _ _ h := ⟨h.badge, h.stop, h.start⟩

structure Unposted (c : Nat) (w : World) : Prop where
  log : w.log = []
  badge : (w.mqtt.connectors c).idTag = ""
  stop : w.handler.remoteStopPending c = false
  start : w.handler.remoteStartPending c = false

theorem Unposted.history {c : Nat} {w : World} (h : Unposted c w) : w.history c = [] := history_of_log_nil h.log c

theorem Unposted.tracked {c : Nat} {w : World} (h : Unposted c w) : Tracked (w.view c) := by
  have hh : (w.view c).history = [] := h.history
  refine ⟨?_, ?_, ?_⟩
  · rw [hh]; exact h.badge
  · rw [hh]; exact h.stop
  · rw [hh]; exact h.start

end Simu
