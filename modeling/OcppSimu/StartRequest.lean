import OcppSimu.Mailbox
/-!
# StartRequest — a remote start request and the session it opens

A remote start request is stored whatever the connector is doing, and is read only when the connector asks for an id
tag.  What was stored during a transaction, or was pending when it started, is therefore there for the next user.  Where
requests come only outside of transactions and none is pending at a start, a request never outlives a stop.
-/
namespace Simu

open Hist Script View

/-! ## Which session a request opens -/

def Entry.startIs (idTag : String) : Entry → Bool
  | .remoteStartTransactionRequested _ t (some _) => decide (t = idTag)
  | _ => false

def Entry.readsStart (idTag : String) : Entry → Bool
  | .remoteStartIdTag _ t => decide (t = idTag)
  | _ => false

/-- **A validated remote start is no leftover**: when its tag was read, the request that stored it had come after the
last stop. -/
def Entry.startsOwn : Entry → List Entry → Bool
  | .isValidIdTagPresent _ (some (.remoteStart, idTag)) true, h =>
    sinceAt (Entry.readsStart idTag) (fun _ => false) (since (Entry.startIs idTag) Entry.stops) h
  | _, _ => true

def StartsOwn (h : List Entry) : Prop := Always (fun e h => e.startsOwn h = true) h

instance (h : List Entry) : Decidable (StartsOwn h) := Hist.decidableAlways _ h

/-- **Requests come outside of transactions**: none is stored while a transaction is open, and none is pending when a
start is let through. -/
def Entry.asksOutside (e : Entry) (h : List Entry) : Bool :=
  (!e.asksStart || !openTx h) && (!e.starts || !startAsked h)

def AsksOutside (h : List Entry) : Prop := Always (fun e h => e.asksOutside h = true) h

instance (h : List Entry) : Decidable (AsksOutside h) := Hist.decidableAlways _ h

/-- **A request stored while the connector is preparing opens the next session**: the first session has its own badge,
the request is read once the cable is unplugged. -/
theorem start_of_leftover_request :
    let h := (afterLoop .sample 9 (.start .sample .idle) (script 260
      [(0, .idTagMessage 1 "A"), (30, .remoteStartTransactionRequested 1 "R"), (50, .carMessage 1 { cable := some 10 }),
       (110, .carMessage 1 { cable := some 0 })])).history 1
    StackKeeps h ∧ ¬StartsOwn h := by
  decide +kernel

/-! ## The invariant -/

/-- What is assumed of the run; that it is well paired is no assumption in the end. -/
def Outside (h : List Entry) : Prop := AsksOutside h ∧ WellPaired h

theorem Outside.tail {e : Entry} {h : List Entry} (ho : Outside (e :: h)) : Outside h := ⟨ho.1.tail, ho.2.tail⟩

/-- **What is pending was stored since the last stop**, and nothing is pending while a transaction is open. -/
def Requested (v : View) : Prop :=
  Tracked v ∧ (Outside v.history → StartsOwn v.history ∧
    (v.startPending = true → since (Entry.startIs v.startIdTag) Entry.stops v.history = true) ∧
    (openTx v.history = true → v.startPending = false))

def Entry.startFree : Entry → Bool
  | .startTransaction _ _ _ | .stopTransaction _ _ _ | .isValidIdTagPresent _ _ _ => false
  | _ => true

theorem startFree_of_quiet {e : Entry} (he : e.quiet = true) : e.startFree = true := by
  cases e <;> first | rfl | cases he

theorem StartsOwn.cons {e : Entry} {h : List Entry} (he : e.startFree = true) (hs : StartsOwn h) :
    StartsOwn (e :: h) := by
  refine Always.cons ?_ hs
  cases e <;> first | rfl | cases he

theorem openTx_cons {e : Entry} {h : List Entry} (he : e.startFree = true) : openTx (e :: h) = openTx h := by
  cases e <;> first | rfl | cases he

theorem stops_of_startFree {e : Entry} (he : e.startFree = true) : e.stops = false := by
  cases e <;> first | rfl | cases he

theorem Requested.note {v : View} {e : Entry} (he : e.startFree = true) (ht : Tracked (v.note e)) (h : Requested v) :
    Requested (v.note e) := by
  refine ⟨ht, fun ho => ?_⟩
  obtain ⟨hs, hp, hn⟩ := h.2 ho.tail
  refine ⟨hs.cons he, fun hi => since_cons_of_not_kill (stops_of_startFree he) (hp hi), fun hx => hn ?_⟩
  rwa [View.history_note, openTx_cons he] at hx

theorem Requested.closed (c : Nat) : Closed c Requested := by
  intro v v' hv h
  have ht := Tracked.closed c v v' hv h.1
  cases hv with
  | remoteStart asked idTag =>
    refine ⟨ht, fun ho => ?_⟩
    obtain ⟨hs, -, -⟩ := h.2 ho.tail
    refine ⟨hs.cons rfl, fun _ => since_cons_of_hit (decide_eq_true rfl), fun hx => ?_⟩
    -- a request comes outside of transactions
    have hc : openTx v.history = false := by simpa [Entry.asksOutside, Entry.asksStart, Entry.starts] using ho.1.head
    have hx' : openTx v.history = true := hx
    rw [hc] at hx'
    cases hx'
  | _ =>
    refine ⟨ht, fun ho => ?_⟩
    obtain ⟨hs, hp, hn⟩ := h.2 ho.tail
    exact ⟨hs.cons rfl, hp, hn⟩

theorem Requested.posted (c : Nat) : Posted c Requested where
  env := Requested.closed c
  own v f h := ⟨(Tracked.posted c).own v f h.1, h.2⟩
  metered v m h := ⟨(Tracked.posted c).metered v m h.1, h.2⟩
  moved v s h := ⟨(Tracked.posted c).moved v s h.1, h.2⟩
  noted v e he h := h.note (startFree_of_quiet he) (h.1.noted he)
  badge v h := by
    refine ⟨(Tracked.posted c).badge v h.1, fun ho => ?_⟩
    obtain ⟨hs, hp, hn⟩ := h.2 ho.tail
    exact ⟨hs.cons rfl, hp, hn⟩
  started v idTag a h := by
    refine ⟨(Tracked.posted c).started v idTag a h.1, fun ho => ?_⟩
    obtain ⟨hs, hp, hn⟩ := h.2 ho.tail
    refine ⟨Always.cons rfl hs, fun hi => since_cons_of_not_kill rfl (hp hi), fun hx => ?_⟩
    cases ha : a.ok with
    | false =>
      refine hn ?_
      simpa [openTx, Entry.starts, Entry.stops, ha] using hx
    | true =>
      have hc : startAsked v.history = false := by
        simpa [Entry.asksOutside, Entry.asksStart, Entry.starts, ha] using ho.1.head
      exact h.1.start.trans hc

theorem Requested.stopFree (c : Nat) : StopFree c Requested := by
  refine (Requested.posted c).stopFree ?_ ?_
  · intro v h
    refine ⟨⟨h.1.badge, rfl, h.1.start⟩, fun ho => ?_⟩
    obtain ⟨hs, hp, hn⟩ := h.2 ho.tail
    exact ⟨hs.cons rfl, hp, hn⟩
  · intro v idTag reason h
    refine ⟨⟨h.1.badge, h.1.stop, h.1.start⟩, fun ho => ?_⟩
    obtain ⟨hs, -, hn⟩ := h.2 ho.tail
    -- a stop finds a transaction open, so no request is pending
    have hnone : v.startPending = false := hn ho.2.head
    refine ⟨Always.cons rfl hs, fun hi => ?_, fun hx => by cases hx⟩
    rw [View.startPending_note, hnone] at hi
    cases hi

/-! ## Authorization -/

variable {cp : SimulatedChargePoint} {c : Nat}

def StartOwned (v : View) : Prop :=
  Requested v ∧ (Outside v.history → since (Entry.startIs v.startIdTag) Entry.stops v.history = true)

theorem StartOwned.closed (c : Nat) : Closed c StartOwned := by
  intro v v' hv h
  obtain ⟨hr, hs⟩ := h
  refine ⟨Requested.closed c v v' hv hr, ?_⟩
  cases hv with
  | remoteStart asked idTag => exact fun _ => since_cons_of_hit (decide_eq_true rfl)
  | _ => exact fun ho => hs ho.tail

/-- **The tag in hand was stored since the last stop.** -/
abbrev ConsumesStart (idTag : String) : View → Prop :=
  Consumes Requested Outside (Entry.readsStart idTag) (Entry.startIs idTag) Entry.stops

theorem readsStart_of_outside {idTag : String} {e : Entry} (he : e.outside = true) : e.readsStart idTag = false := by
  cases e <;> first | rfl | cases he

theorem ConsumesStart.closed (c : Nat) (idTag : String) : Closed c (ConsumesStart idTag) :=
  Consumes.closed (Requested.closed c) (fun _ _ => Outside.tail) (fun _ => readsStart_of_outside)

/-- What a call of `isValidIdTagPresent` has in hand. -/
def InHand : Option (TagSource × String) → View → Prop
  | some (.remoteStart, idTag), v => ConsumesStart idTag v
  | _, v => Requested v

theorem InHand.own {tag : Option (TagSource × String)} {v : View} (f : ConnectorData → ConnectorData)
    (h : InHand tag v) : InHand tag (v.setOwn f) := by
  unfold InHand at h ⊢
  split
  · exact ⟨(Requested.posted 0).own v f h.1, h.2⟩
  · rename_i hne
    split at h
    · exact absurd rfl (hne _)
    · exact (Requested.posted 0).own v f h

theorem InHand.answered {tag : Option (TagSource × String)} {v : View} (ret : Bool) (h : InHand tag v) :
    Requested (v.note (.isValidIdTagPresent c tag ret)) := by
  have hr : Requested v := by
    unfold InHand at h
    split at h
    · exact h.1
    · exact h
  refine ⟨⟨hr.1.badge, hr.1.stop, hr.1.start⟩, fun ho => ?_⟩
  obtain ⟨hs, hp, hn⟩ := hr.2 ho.tail
  refine ⟨Always.cons ?_ hs, hp, hn⟩
  unfold Entry.startsOwn
  split
  · rename_i he
    cases he
    exact h.2 ho.tail
  · rfl

theorem remoteStart_inHand (idTag : String) :
    SpecAt c (ConsumesStart idTag) (do
      setOwn c ({ · with idTag := idTag })
      let status ← (do if ← authorizeRemoteTxRequests cp c then authorizeOwn cp c idTag else pure .accepted)
      resetRemoteStartPending cp c
      pure (some (TagSource.remoteStart, idTag), status.ok)) (fun r => InHand r.1) := by
  have noted : ∀ v e, e.reads = true → e.readsStart idTag = false → ConsumesStart idTag v → ConsumesStart idTag (v.note e) :=
    fun v e he hn h => h.keep Outside.tail hn rfl ((Requested.posted c).noted v e (quiet_of_reads he) h.1)
  have authorizing : Authorizing c (ConsumesStart idTag) :=
    { env := ConsumesStart.closed c idTag, tagged := fun v _ _ h => ⟨(Requested.posted c).own v _ h.1, h.2⟩
      asked := fun v _ h => noted v _ rfl rfl h, authorized := fun v _ _ h => noted v _ rfl rfl h }
  refine authorizing.takeRemoteStart (fun v ok h => ?_)
  refine Consumes.keep (v := v) Outside.tail rfl rfl ⟨⟨h.1.1.badge, h.1.1.stop, rfl⟩, fun ho => ?_⟩ h
  obtain ⟨hs, -, -⟩ := h.1.2 ho.tail
  exact ⟨hs.cons rfl, (fun hi => by cases hi), fun _ => rfl⟩

theorem badge_inHand (idTag : String) :
    SpecAt c Requested (do
      setOwn c ({ · with idTag := idTag })
      let status ← authorizeOwn cp c idTag
      resetIdTagPending cp c
      pure (some (TagSource.badge, idTag), status.ok)) (fun r => InHand r.1) :=
  (Requested.posted c).authorizing.takeBadge (fun v _ h => (Requested.posted c).badge v h)

/-- **A call of `isValidIdTagPresent` validates no leftover.** -/
theorem isValidIdTagPresent_requested (localOnly : Bool) :
    SpecAt c Requested (isValidIdTagPresent cp c localOnly) (fun _ => Requested) := by
  have hq := Requested.posted c
  refine SpecOn.bind (R := fun r => InHand r.1) ?_ (fun r => ?_)
  · refine SpecOn.keep (isIdTagPending_at hq.env (fun v h => hq.noted v _ rfl h)) (fun _ => SpecOn.ite (fun _ => ?_) (fun _ => ?_))
    · exact SpecOn.keep (pendingIdTag_at hq.env (fun v h => hq.noted v _ rfl h)) badge_inHand
    · refine SpecOn.bind (R := fun b v => if b then StartOwned v else Requested v)
        (SpecOn.ite (fun _ => SpecOn.pure _ (fun _ h => h)) (fun _ => ?_)) (fun b => SpecOn.ite (fun hb => ?_) (fun hb => ?_))
      · refine isRemoteStartPending_at hq.env (fun v h => ?_)
        have hn : Requested (v.note (.isRemoteStartPending c v.startPending)) := hq.noted v _ rfl h
        cases hi : v.startPending with
        | true =>
          rw [hi] at hn
          exact ⟨hn, fun ho => (h.2 ho.tail).2.1 hi⟩
        | false =>
          rw [hi] at hn
          exact hn
      · rw [hb]
        refine SpecOn.bind ?_ remoteStart_inHand
        refine remoteStartIdTag_at (StartOwned.closed c) (fun v h => ⟨hq.noted v _ rfl h.1, fun ho => ?_⟩)
        exact sinceAt_cons_of_hit (decide_eq_true rfl) (h.2 ho.tail)
      · rw [Bool.not_eq_true] at hb
        rw [hb]
        exact SpecOn.pure _ (fun _ h => h)
  · refine SpecOn.keep (SpecOn.ite (fun _ => ?_) (fun _ => SpecOn.pure _ (fun _ h => h))) (fun _ => ?_)
    · exact clearIdTags_at (fun v h => h.own _)
    · refine SpecOn.bind (record_at (Q := fun _ => Requested) rfl (fun v h => h.answered r.2)) (fun _ => ?_)
      exact SpecOn.pure _ (fun _ h => h)

theorem loop_requested (hc : c ∈ cp.ids) (k : Nat) : SpecAt c Requested (loop cp k) (fun _ => Requested) :=
  (Requested.posted c).loop hc (isValidIdTagPresent_requested false)
    (isTransactionStopCondition_keeps (Requested.stopFree c)) k

/-- **Where remote start requests come only outside of transactions and none is pending at a start, a validated remote
start is never older than a stop.** -/
theorem startsOwn_of_asksOutside (cp : SimulatedChargePoint) (c : Nat) (hc : c ∈ cp.ids) (w : World)
    (hw : Unposted c w) (hs : (w.stack.status c).inSession = false) (k : Nat) (script : List Tick)
    (hk : StackKeeps ((afterLoop cp k w script).history c))
    (ho : AsksOutside ((afterLoop cp k w script).history c)) : StartsOwn ((afterLoop cp k w script).history c) := by
  have h₀ : Requested (w.view c) := by
    refine ⟨hw.tracked, fun _ => ⟨?_, fun hi => ?_, fun _ => hw.start⟩⟩
    · show StartsOwn (w.history c)
      rw [hw.history]
      exact .nil
    · have hn : (w.view c).startPending = false := hw.start
      rw [hn] at hi
      cases hi
  obtain ⟨o, hsess⟩ := loop_sess hc k w script (agreed_of_idle hw.log hs)
  have h := loop_requested hc k w script h₀
  exact (h.2 ⟨ho, (hsess hk).1⟩).1

/-- A session a remote start opens. -/
theorem startsOwn_of_asksOutside_session :
    StartsOwn ((afterLoop .sample 3 (.start .sample .idle) (script 120
      [(0, .remoteStartTransactionRequested 1 "R"), (0, .carMessage 1 { cable := some 10 })])).history 1) :=
  startsOwn_of_asksOutside .sample 1 (by decide) (.start .sample .idle) ⟨rfl, rfl, rfl, rfl⟩ rfl 3 _
    (by decide +kernel) (by decide +kernel)

end Simu
