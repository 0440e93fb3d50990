import OcppSimu.Registry
/-!
# Withdrawal — `__remove_charge_points`

The supervisor has charge points killed, polls their objects four times at most until all have the status `Dead`, and
takes each it finds dead out of its registry at once.  It counts anew at every poll, so what an earlier poll took out is
taken out again; and four polls are a failure even where the last of them finds all dead.  So a removal is all or nothing
where all are found dead in one of the first three polls, or none in any (`removal_all_or_nothing_iff`).
-/
namespace Supervisor

open Wire Simu

/-! ## The method -/

def ChargePoint.isDead (cp : ChargePoint) : Bool :=
  match cp.status with
  | .str s => decide (s = "Dead")
  | _ => false

/-- An element of `cps_to_remove`.  It is the object of the registry, until that is taken out: then no message reaches
it any more. -/
structure ToRemove where
  id : String
  takenOut : Option ChargePoint

def ToRemove.object (x : ToRemove) (m : ChargePointManager) : Option ChargePoint := x.takenOut.or (m.cps.lookup x.id)

/-- The body of the inner loop: the registry, the element, and what is added to `total_dead`. -/
def look (m : ChargePointManager) (x : ToRemove) : Except PyError (ChargePointManager × ToRemove × Nat) :=
  match x.object m with
  | some cp =>
    if cp.isDead then
      if cp.id ∈ m.cps then .ok (⟨m.cps.erase cp.id⟩, ⟨x.id, some cp⟩, 1)
      else .error .keyError
    else .ok (m, x, 0)
  | none => .ok (m, x, 0)

/-- **One poll**, `news t` being the messages that come before the look `t`. -/
def poll (news : Nat → List (String × Payload)) :
    Nat → ChargePointManager → List ToRemove → Except PyError (ChargePointManager × List ToRemove × Nat)
  | _, m, [] => .ok (m, [], 0)
  | t, m, x :: l => do
    let (m, x, dead) ← look (m.receiveAll (news t)) x
    let (m, l, totalDead) ← poll news (t + 1) m l
    pure (m, x :: l, dead + totalDead)

/-- "Wait for the charge points to be dead", with so many of the four retries left. -/
def waitDead (news : Nat → List (String × Payload)) :
    Nat → Nat → ChargePointManager → List ToRemove → Nat → Except PyError (ChargePointManager × List ToRemove × Nat)
  | 0, _, m, l, _ => .ok (m, l, 0)
  | left + 1, t, m, l, totalDead =>
    if totalDead = l.length then .ok (m, l, left + 1)
    else do
      let (m, l, totalDead) ← poll news t m l
      waitDead news left (t + l.length) m l totalDead

/-- The status topic of a connector, as `__clean_state` spells it. -/
def connectorStatusTopic (id : String) (con : ℤ) : String :=
  "cp_simu/cps/" ++ id ++ "/connectors/" ++ toString con ++ "/status"

/-- `__clean_state`, with what it publishes. -/
def cleanState (isConnected : Bool) (l : List ChargePoint) : Bool × List (String × Payload) :=
  if isConnected then
    (true, l.flatMap (fun cp =>
      cp.connectors.keys.map (fun con => (connectorStatusTopic cp.id con, .empty)) ++ [(statusTopic cp.id, .empty)]))
  else (false, [])

/-- `__kill_charge_points`, of which the answer is not used. -/
def killChargePoints (isConnected : Bool) (ids : List String) : List (String × Payload) :=
  if isConnected then
    [("cp_simu/launcher/cmd", .json (.obj [("type", .str "kill"),
      ("charge_points", .arr (ids.map (fun id => .obj [("id", .str id)])))]))]
  else []

/-- What `is_connected` answers at the call, in `__kill_charge_points` and in `__clean_state`. -/
structure Link where
  atCall : Bool
  atKill : Bool
  atEnd : Bool

/-- What a call comes to. -/
structure Removal where
  ret : Bool
  manager : ChargePointManager
  published : List (String × Payload)
  polls : Nat

/-- **`__remove_charge_points`**. -/
def removeChargePoints (link : Link) (news : Nat → List (String × Payload)) (m : ChargePointManager) (ids : List String) :
    Except PyError Removal :=
  if link.atCall then do
    let killed := killChargePoints link.atKill ids
    let cpsToRemove := (ids.filter (fun id => decide (id ∈ m.cps))).map (fun id => ⟨id, none⟩)
    let (m, cpsToRemove, left) ← waitDead news 4 0 m cpsToRemove 0
    if left = 0 then pure ⟨false, m, killed, 4⟩
    else
      let (ret, cleaned) := cleanState link.atEnd (cpsToRemove.filterMap (·.object m))
      pure ⟨ret, m, killed ++ cleaned, 4 - left⟩
  else .ok ⟨false, m, [], 0⟩

/-! ## The calls -/

/-- The registry that the messages before a look make, when nothing is taken out. -/
def told (m : ChargePointManager) (news : Nat → List (String × Payload)) : Nat → ChargePointManager
  | 0 => m
  | t + 1 => (told m news t).receiveAll (news t)

/-- At that look the charge point is dead. -/
def deadAt (m : ChargePointManager) (news : Nat → List (String × Payload)) (t : Nat) (id : String) : Bool :=
  ((told m news (t + 1)).cps.lookup id).any ChargePoint.isDead

/-- **A call** for distinct charge points of the registry, and the messages that come while it lasts.  A charge point
found dead has said its last word. -/
structure Call where
  link : Link
  news : Nat → List (String × Payload)
  manager : ChargePointManager
  ids : List String
  filed : Filed manager
  distinct : ids.Nodup
  known : ∀ id ∈ ids, id ∈ manager.cps
  final : ∀ id ∈ ids, ∀ t, deadAt manager news t id = true → ∀ s, t < s → ∀ x ∈ news s, ¬IsTopic x.1 id

namespace Call

def removal (c : Call) : Except PyError Removal := removeChargePoints c.link c.news c.manager c.ids

/-- The messages alone, up to a look. -/
def told (c : Call) (t : Nat) : ChargePointManager := Supervisor.told c.manager c.news t

/-- **In that poll the charge point is seen dead.** -/
def SeenIn (c : Call) (k : Nat) (id : String) : Prop :=
  deadAt c.manager c.news (k * c.ids.length + c.ids.idxOf id) id = true

instance (c : Call) (k : Nat) (id : String) : Decidable (c.SeenIn k id) := inferInstanceAs (Decidable (_ = true))

/-- Its status topic and those of its connectors are cleared. -/
def Cleared (c : Call) (r : Removal) (id : String) : Prop :=
  ∃ cp, (c.told (r.polls * c.ids.length)).cps.lookup id = some cp ∧ (statusTopic id, Payload.empty) ∈ r.published ∧
    ∀ con ∈ cp.connectors, (connectorStatusTopic id con, Payload.empty) ∈ r.published

def AllSeen (c : Call) (r : Removal) : Prop := ∀ id ∈ c.ids, ∃ k < r.polls, c.SeenIn k id

/-- It answers true with all seen dead, taken out and cleared, or false with one not seen dead and the registry as the
messages make it. -/
def Right (c : Call) (r : Removal) : Prop :=
  (r.ret = true ∧ c.AllSeen r ∧ (∀ id ∈ c.ids, r.manager.cps.lookup id = none ∧ c.Cleared r id) ∧
      ∀ k, k ∉ c.ids → r.manager.cps.lookup k = (c.told (r.polls * c.ids.length)).cps.lookup k) ∨
    (r.ret = false ∧ ¬c.AllSeen r ∧ ∀ k, r.manager.cps.lookup k = (c.told (r.polls * c.ids.length)).cps.lookup k)

/-- **All or nothing**: the call does not raise, and comes to that. -/
def AllOrNothing (c : Call) : Prop := ∃ r, c.removal = .ok r ∧ c.Right r

/-- None is seen in any of the four polls. -/
def NoneSeen (c : Call) : Prop := ∀ k < 4, ∀ id ∈ c.ids, ¬c.SeenIn k id

/-- All are seen in one poll of the first three, and none before. -/
def SeenTogether (c : Call) : Prop := ∃ k < 3, (∀ j < k, ∀ id ∈ c.ids, ¬c.SeenIn j id) ∧ ∀ id ∈ c.ids, c.SeenIn k id

/-- **All at once**: with a connection at the call, none is seen dead, or all are in one poll of the first three and the
connection is still there to clear their topics; without one, which makes no poll, something is asked for. -/
def Together (c : Call) : Prop :=
  if c.link.atCall then (c.ids ≠ [] ∧ c.NoneSeen) ∨ (c.link.atEnd = true ∧ c.SeenTogether) else c.ids ≠ []

end Call

/-! ## One look -/

namespace Call

variable {c : Call} {m : ChargePointManager} {t : Nat} {gone : List String} {id : String}

theorem told_succ (c : Call) (t : Nat) : c.told (t + 1) = (c.told t).receiveAll (c.news t) := rfl

/-- The object of a charge point of the call, as the messages make it. -/
theorem lookup_told (c : Call) (hid : id ∈ c.ids) (t : Nat) : ∃ cp, (c.told t).cps.lookup id = some cp ∧ cp.id = id := by
  have h : Filed (c.told t) ∧ id ∈ (c.told t).cps := by
    induction t with
    | zero => exact ⟨c.filed, c.known id hid⟩
    | succ t ih => exact ⟨ih.1.receiveAll _, mem_receiveAll _ ih.2⟩
  obtain ⟨cp, hcp⟩ := Option.isSome_iff_exists.1 (AList.lookup_isSome.2 h.2)
  exact ⟨cp, hcp, (h.1 id cp hcp).1⟩

/-- **The registry before a look**: what the messages make of it, without those taken out, of which none comes again. -/
structure Tracks (c : Call) (t : Nat) (gone : List String) (m : ChargePointManager) : Prop where
  there : ∀ k, k ∉ gone → m.cps.lookup k = (c.told t).cps.lookup k
  away : ∀ k ∈ gone, m.cps.lookup k = none
  silent : ∀ k ∈ gone, ∀ s, t ≤ s → ∀ x ∈ c.news s, ¬IsTopic x.1 k

theorem Tracks.receiveAll (h : c.Tracks t gone m) : c.Tracks (t + 1) gone (m.receiveAll (c.news t)) where
  there k hk := lookup_receiveAll_congr _ (h.there k hk)
  away k hk := (lookup_receiveAll_of_not (h.silent k hk t (Nat.le_refl t))).trans (h.away k hk)
  silent k hk s hs := h.silent k hk s (Nat.le_of_succ_le hs)

/-- What a look makes of an element that is not taken out. -/
def found (c : Call) (t : Nat) (id : String) : ToRemove :=
  ⟨id, if deadAt c.manager c.news t id then (c.told (t + 1)).cps.lookup id else none⟩

/-- **A look at an object of the registry** takes it out where it is dead. -/
theorem look_there (h : c.Tracks t gone m) (hid : id ∈ c.ids) (hg : id ∉ gone) :
    ∃ m', look (m.receiveAll (c.news t)) ⟨id, none⟩ =
        .ok (m', c.found t id, (deadAt c.manager c.news t id).toNat) ∧
      c.Tracks (t + 1) (if deadAt c.manager c.news t id then id :: gone else gone) m' := by
  have hr := h.receiveAll
  obtain ⟨cp, hcp, hn⟩ := c.lookup_told hid (t + 1)
  have hl : (m.receiveAll (c.news t)).cps.lookup id = some cp := (hr.there id hg).trans hcp
  have hd : deadAt c.manager c.news t id = cp.isDead := by
    unfold deadAt
    rw [show Supervisor.told c.manager c.news (t + 1) = c.told (t + 1) from rfl, hcp]
    rfl
  have hm : id ∈ (m.receiveAll (c.news t)).cps := AList.lookup_isSome.1 (by rw [hl]; rfl)
  unfold look ToRemove.object found
  rw [Option.none_or, hl, hcp]
  dsimp only
  cases hdead : deadAt c.manager c.news t id with
  | false =>
    rw [hd] at hdead
    rw [hdead]
    exact ⟨_, rfl, hr⟩
  | true =>
    have hc : cp.isDead = true := hd ▸ hdead
    rw [if_pos hc, hn, if_pos hm]
    simp only [↓reduceIte]
    refine ⟨_, rfl, fun k hk => ?_, fun k hk => ?_, fun k hk s hs => ?_⟩
    · rw [List.mem_cons, not_or] at hk
      obtain ⟨hne, hk⟩ := hk
      exact (AList.lookup_erase_ne hne).trans (hr.there k hk)
    · rcases List.mem_cons.1 hk with rfl | hk
      · exact AList.lookup_erase _ _
      · by_cases he : k = id
        · rw [he]
          exact AList.lookup_erase _ _
        · exact (AList.lookup_erase_ne he).trans (hr.away k hk)
    · rcases List.mem_cons.1 hk with rfl | hk
      · exact c.final k hid t hdead s hs
      · exact hr.silent k hk s hs

/-- **A look at an object that is taken out** raises. -/
theorem look_gone (h : c.Tracks t gone m) (hg : id ∈ gone) {cp : ChargePoint} (hn : cp.id = id) (hd : cp.isDead = true) :
    look (m.receiveAll (c.news t)) ⟨id, some cp⟩ = .error .keyError := by
  have hm : id ∉ (m.receiveAll (c.news t)).cps := AList.lookup_eq_none.1 (h.receiveAll.away id hg)
  unfold look ToRemove.object
  rw [Option.some_or]
  dsimp only
  rw [if_pos hd, hn, if_neg hm]

/-! ## One poll -/

theorem mem_gone_iff {b : Bool} {a : String} :
    id ∈ (if b then a :: gone else gone) ↔ (b = true ∧ id = a) ∨ id ∈ gone := by
  cases b <;> simp

/-- In a poll of these charge points from the look `t` on, this one is seen dead. -/
def seen (c : Call) (t : Nat) (l : List String) (id : String) : Bool := deadAt c.manager c.news (t + l.idxOf id) id

theorem seen_cons_self (c : Call) (t : Nat) (id : String) (l : List String) :
    c.seen t (id :: l) id = deadAt c.manager c.news t id := by
  unfold seen
  rw [List.idxOf_cons_self, Nat.add_zero]

theorem seen_cons_of_ne (c : Call) (t : Nat) {a id : String} (h : id ≠ a) (l : List String) :
    c.seen t (a :: l) id = c.seen (t + 1) l id := by
  unfold seen
  rw [List.idxOf_cons_ne l h.symm, Nat.succ_eq_add_one]
  congr 1
  omega

def foundAll (c : Call) (t : Nat) (l : List String) : List ToRemove := l.map (fun id => c.found (t + l.idxOf id) id)

theorem foundAll_cons (c : Call) (t : Nat) {a : String} {l : List String} (h : a ∉ l) :
    c.foundAll t (a :: l) = c.found t a :: c.foundAll (t + 1) l := by
  unfold foundAll
  rw [List.map_cons, List.idxOf_cons_self, Nat.add_zero]
  congr 1
  apply List.map_congr_left
  intro id hid
  have hne : a ≠ id := fun he => h (he ▸ hid)
  rw [List.idxOf_cons_ne l hne, Nat.succ_eq_add_one]
  congr 1
  omega

/-- **A poll of objects of the registry** does not raise; it takes out those it sees dead, and counts them. -/
theorem poll_there (h : c.Tracks t gone m) {l : List String} (hd : l.Nodup) (hl : ∀ id ∈ l, id ∈ c.ids ∧ id ∉ gone) :
    ∃ m' gone', poll c.news t m (l.map (fun id => ⟨id, none⟩)) = .ok (m', c.foundAll t l, l.countP (c.seen t l)) ∧
      c.Tracks (t + l.length) gone' m' ∧ ∀ id, id ∈ gone' ↔ id ∈ gone ∨ (id ∈ l ∧ c.seen t l id = true) := by
  induction l generalizing t gone m with
  | nil => exact ⟨m, gone, rfl, h, fun id => by simp⟩
  | cons a l ih =>
    obtain ⟨ha, hd⟩ := List.nodup_cons.1 hd
    obtain ⟨hac, hag⟩ := hl a List.mem_cons_self
    obtain ⟨m₁, hlook, h₁⟩ := look_there h hac hag
    have hne : ∀ id ∈ l, id ≠ a := fun id hid he => ha (he ▸ hid)
    have hl₁ : ∀ id ∈ l, id ∈ c.ids ∧ id ∉ (if deadAt c.manager c.news t a then a :: gone else gone) := by
      intro id hid
      obtain ⟨hc, hg⟩ := hl id (List.mem_cons_of_mem a hid)
      refine ⟨hc, fun hm => ?_⟩
      rcases mem_gone_iff.1 hm with ⟨-, he⟩ | hm
      · exact hne id hid he
      · exact hg hm
    obtain ⟨m', gone', hpoll, h', hgone⟩ := ih h₁ hd hl₁
    refine ⟨m', gone', ?_, ?_, fun id => ?_⟩
    · have hcount : l.countP (c.seen t (a :: l)) = l.countP (c.seen (t + 1) l) :=
        List.countP_congr fun id hid => by rw [c.seen_cons_of_ne t (hne id hid)]
      rw [List.map_cons, poll, hlook, c.foundAll_cons t ha, List.countP_cons, hcount, c.seen_cons_self]
      show (poll c.news (t + 1) m₁ _ >>= _) = _
      rw [hpoll]
      cases deadAt c.manager c.news t a <;> simp [bind, Except.bind, pure, Except.pure, Nat.add_comm]
    · rw [List.length_cons]
      convert h' using 1
      omega
    · rw [hgone id]
      by_cases he : id = a
      · subst he
        have hm : id ∉ l := ha
        rw [c.seen_cons_self]
        cases hdead : deadAt c.manager c.news t id <;> simp [hm]
      · have hs := c.seen_cons_of_ne t he l
        rw [hs]
        cases hdead : deadAt c.manager c.news t a <;> simp [he]

/-- **A poll with an object that is taken out already** raises. -/
theorem poll_raises (h : c.Tracks t gone m) {l : List ToRemove} (hd : (l.map ToRemove.id).Nodup)
    (hl : ∀ x ∈ l, (x.takenOut = none ∧ x.id ∈ c.ids ∧ x.id ∉ gone) ∨
      (x.id ∈ gone ∧ ∃ cp, x.takenOut = some cp ∧ cp.id = x.id ∧ cp.isDead = true))
    (he : ∃ x ∈ l, x.id ∈ gone) : poll c.news t m l = .error .keyError := by
  induction l generalizing t gone m with
  | nil =>
    obtain ⟨x, hx, -⟩ := he
    cases hx
  | cons x l ih =>
    obtain ⟨ha, hd⟩ := List.nodup_cons.1 hd
    rcases hl x List.mem_cons_self with ⟨hx, hc, hg⟩ | ⟨hg, cp, hx, hn, hdead⟩
    · obtain ⟨m₁, hlook, h₁⟩ := look_there h hc hg
      have hxe : x = ⟨x.id, none⟩ := by
        cases x
        cases hx
        rfl
      have hrest : poll c.news (t + 1) m₁ l = .error .keyError := by
        refine ih h₁ hd (fun y hy => ?_) ?_
        · have hne : y.id ≠ x.id := fun he => ha (List.mem_map.2 ⟨y, hy, he⟩)
          rcases hl y (List.mem_cons_of_mem x hy) with ⟨hn, hyc, hyg⟩ | ⟨hyg, hcp⟩
          · refine .inl ⟨hn, hyc, fun hm => ?_⟩
            rcases mem_gone_iff.1 hm with ⟨-, he⟩ | hm
            · exact hne he
            · exact hyg hm
          · exact .inr ⟨mem_gone_iff.2 (.inr hyg), hcp⟩
        · obtain ⟨y, hy, hyg⟩ := he
          rcases List.mem_cons.1 hy with rfl | hy
          · exact absurd hyg hg
          · exact ⟨y, hy, mem_gone_iff.2 (.inr hyg)⟩
      rw [poll, hxe, hlook]
      show (poll c.news (t + 1) m₁ l >>= _) = _
      rw [hrest]
      rfl
    · have hxe : x = ⟨x.id, some cp⟩ := by
        cases x
        cases hx
        rfl
      rw [poll, hxe, look_gone h hg hn hdead]
      rfl

/-! ## The wait -/

/-- `cps_to_remove`, at first. -/
def start (c : Call) : List ToRemove := c.ids.map (fun id => ⟨id, none⟩)

theorem map_id_foundAll (c : Call) (t : Nat) (l : List String) : (c.foundAll t l).map ToRemove.id = l := by
  unfold foundAll
  rw [List.map_map]
  exact List.map_id' l

theorem length_foundAll (c : Call) (t : Nat) (l : List String) : (c.foundAll t l).length = l.length := by
  unfold foundAll
  rw [List.length_map]

theorem found_of_seenIn {k : Nat} (h : c.SeenIn k id) : c.found (k * c.ids.length + c.ids.idxOf id) id =
    ⟨id, (c.told (k * c.ids.length + c.ids.idxOf id + 1)).cps.lookup id⟩ := by
  have hd : deadAt c.manager c.news (k * c.ids.length + c.ids.idxOf id) id = true := h
  unfold found
  rw [if_pos hd]

theorem found_of_not_seenIn {k : Nat} (h : ¬c.SeenIn k id) :
    c.found (k * c.ids.length + c.ids.idxOf id) id = ⟨id, none⟩ := by
  have hd : ¬deadAt c.manager c.news (k * c.ids.length + c.ids.idxOf id) id = true := h
  unfold found
  rw [if_neg hd]

/-- **A poll with retries left**, of objects that are all in the registry. -/
theorem wait_poll {k : Nat} (h : c.Tracks (k * c.ids.length) [] m) (hne : c.ids ≠ []) (left : Nat) :
    ∃ m' gone', waitDead c.news (left + 1) (k * c.ids.length) m c.start 0 =
        waitDead c.news left ((k + 1) * c.ids.length) m' (c.foundAll (k * c.ids.length) c.ids)
          (c.ids.countP (c.seen (k * c.ids.length) c.ids)) ∧
      c.Tracks ((k + 1) * c.ids.length) gone' m' ∧ ∀ id, id ∈ gone' ↔ id ∈ c.ids ∧ c.SeenIn k id := by
  obtain ⟨m', gone', hp, ht, hg⟩ := poll_there h c.distinct (fun id hid => ⟨hid, List.not_mem_nil⟩)
  have hlen : 0 ≠ c.start.length := by
    unfold start
    rw [List.length_map]
    exact (List.length_pos_iff.2 hne).ne
  have htime : k * c.ids.length + c.ids.length = (k + 1) * c.ids.length := by rw [Nat.add_mul, Nat.one_mul]
  refine ⟨m', gone', ?_, htime ▸ ht, fun id => ?_⟩
  · rw [waitDead, if_neg hlen]
    show (poll c.news (k * c.ids.length) m c.start >>= _) = _
    unfold start
    rw [hp]
    show waitDead c.news left (k * c.ids.length + (c.foundAll (k * c.ids.length) c.ids).length) m' _ _ = _
    rw [length_foundAll, htime]
  · rw [hg id]
    simp [SeenIn, seen]

/-- **Polls that see none dead** leave everything as it was. -/
theorem wait_quiet (hne : c.ids ≠ []) {k : Nat} (hq : ∀ j < k, ∀ id ∈ c.ids, ¬c.SeenIn j id) (left : Nat) :
    ∃ m', c.Tracks (k * c.ids.length) [] m' ∧
      waitDead c.news (k + left) 0 c.manager c.start 0 = waitDead c.news left (k * c.ids.length) m' c.start 0 := by
  induction k generalizing left with
  | zero =>
    refine ⟨c.manager, ⟨fun _ _ => ?_, fun _ hk => (by cases hk), fun _ hk => (by cases hk)⟩, ?_⟩
    · rw [Nat.zero_mul]
      rfl
    · rw [Nat.zero_add, Nat.zero_mul]
  | succ k ih =>
    obtain ⟨m, ht, hw⟩ := ih (fun j hj => hq j (Nat.lt_succ_of_lt hj)) (left + 1)
    obtain ⟨m', gone', hp, ht', hg⟩ := wait_poll ht hne left
    have hseen : ∀ id ∈ c.ids, ¬c.SeenIn k id := hq k (Nat.lt_succ_self k)
    have hgone : gone' = [] := List.eq_nil_iff_forall_not_mem.2 fun id hid => hseen id ((hg id).1 hid).1 ((hg id).1 hid).2
    have hcount : c.ids.countP (c.seen (k * c.ids.length) c.ids) = 0 := List.countP_eq_zero.2 hseen
    have hfound : c.foundAll (k * c.ids.length) c.ids = c.start := by
      unfold foundAll start
      apply List.map_congr_left
      intro id hid
      exact found_of_not_seenIn (hseen id hid)
    rw [hcount, hfound] at hp
    refine ⟨m', hgone ▸ ht', ?_⟩
    rw [← hp, ← hw]
    congr 1
    omega

/-- **A poll after one that took out some and not all** raises. -/
theorem wait_raises {k : Nat} {m' : ChargePointManager} {gone' : List String}
    (ht : c.Tracks ((k + 1) * c.ids.length) gone' m') (hg : ∀ id, id ∈ gone' ↔ id ∈ c.ids ∧ c.SeenIn k id)
    (hsome : ∃ id ∈ c.ids, c.SeenIn k id) {total : Nat} (htotal : total ≠ c.ids.length) (left : Nat) :
    waitDead c.news (left + 1) ((k + 1) * c.ids.length) m' (c.foundAll (k * c.ids.length) c.ids) total =
      .error .keyError := by
  have hraise : poll c.news ((k + 1) * c.ids.length) m' (c.foundAll (k * c.ids.length) c.ids) = .error .keyError := by
    refine poll_raises ht ?_ (fun x hx => ?_) ?_
    · rw [map_id_foundAll]
      exact c.distinct
    · obtain ⟨id, hid, rfl⟩ := List.mem_map.1 hx
      by_cases hs : c.SeenIn k id
      · right
        obtain ⟨cp, hcp, hn⟩ := c.lookup_told hid (k * c.ids.length + c.ids.idxOf id + 1)
        refine ⟨(hg id).2 ⟨hid, hs⟩, cp, ?_, hn, ?_⟩
        · rw [found_of_seenIn hs, hcp]
        · unfold SeenIn deadAt at hs
          rw [show Supervisor.told c.manager c.news _ = c.told _ from rfl, hcp] at hs
          exact hs
      · left
        refine ⟨?_, hid, fun hm => hs ((hg id).1 hm).2⟩
        rw [found_of_not_seenIn hs]
    · obtain ⟨id, hid, hs⟩ := hsome
      exact ⟨c.found (k * c.ids.length + c.ids.idxOf id) id, List.mem_map.2 ⟨id, hid, rfl⟩, (hg id).2 ⟨hid, hs⟩⟩
  rw [waitDead, length_foundAll, if_neg htotal]
  show (poll c.news _ m' _ >>= _) = _
  rw [hraise]
  rfl

/-! ## The whole call -/

/-- **A charge point seen dead stays as it is.** -/
theorem lookup_told_of_dead (hid : id ∈ c.ids) (hd : deadAt c.manager c.news t id = true) {s : Nat} (hs : t < s) :
    (c.told s).cps.lookup id = (c.told (t + 1)).cps.lookup id := by
  induction s with
  | zero => cases hs
  | succ s ih =>
    by_cases he : t = s
    · rw [he]
    · have hlt : t < s := by omega
      rw [told_succ, lookup_receiveAll_of_not (c.final id hid t hd s hlt), ih hlt]

theorem filter_known (c : Call) : c.ids.filter (fun id => decide (id ∈ c.manager.cps)) = c.ids :=
  List.filter_eq_self.2 fun id hid => decide_eq_true (c.known id hid)

theorem removal_of_wait (hc : c.link.atCall = true) {l : List ToRemove} {left : Nat}
    (h : waitDead c.news 4 0 c.manager c.start 0 = .ok (m, l, left)) :
    c.removal = .ok (if left = 0 then ⟨false, m, killChargePoints c.link.atKill c.ids, 4⟩
      else ⟨(cleanState c.link.atEnd (l.filterMap (·.object m))).1, m,
        killChargePoints c.link.atKill c.ids ++ (cleanState c.link.atEnd (l.filterMap (·.object m))).2, 4 - left⟩) := by
  unfold removal removeChargePoints
  rw [if_pos hc, filter_known]
  show (waitDead c.news 4 0 c.manager c.start 0 >>= _) = _
  rw [h]
  show (if left = 0 then _ else _) = _
  split <;> rfl

theorem removal_of_raise (hc : c.link.atCall = true) {e : PyError}
    (h : waitDead c.news 4 0 c.manager c.start 0 = .error e) : c.removal = .error e := by
  unfold removal removeChargePoints
  rw [if_pos hc, filter_known]
  show (waitDead c.news 4 0 c.manager c.start 0 >>= _) = _
  rw [h]
  rfl

theorem allOrNothing_of_ok {r : Removal} (h : c.removal = .ok r) : c.AllOrNothing ↔ c.Right r := by
  constructor
  · rintro ⟨r', h', hr⟩
    obtain rfl := Except.ok.inj (h.symm.trans h')
    exact hr
  · exact fun hr => ⟨r, h, hr⟩

theorem allOrNothing_of_raise {e : PyError} (h : c.removal = .error e) : ¬c.AllOrNothing := by
  rintro ⟨r, h', -⟩
  rw [h] at h'
  cases h'

theorem allOrNothing_disconnected (hc : ¬c.link.atCall = true) : c.AllOrNothing ↔ c.ids ≠ [] := by
  have hr : c.removal = .ok ⟨false, c.manager, [], 0⟩ := by
    unfold removal removeChargePoints
    rw [if_neg hc]
  rw [allOrNothing_of_ok hr]
  constructor
  · rintro (⟨h, -⟩ | ⟨-, h, -⟩) hnil
    · cases h
    · apply h
      intro id hid
      rw [hnil] at hid
      cases hid
  · intro hne
    obtain ⟨id, hid⟩ := List.exists_mem_of_ne_nil _ hne
    refine .inr ⟨rfl, fun h => ?_, fun k => ?_⟩
    · obtain ⟨k, hk, -⟩ := h id hid
      cases hk
    · rw [Nat.zero_mul]
      rfl

/-- **With nothing to remove** there is no poll, and the answer is that of `__clean_state`. -/
theorem allOrNothing_nil (hc : c.link.atCall = true) (hnil : c.ids = []) : c.AllOrNothing ↔ c.link.atEnd = true := by
  have hw : waitDead c.news 4 0 c.manager c.start 0 = .ok (c.manager, c.start, 4) := by
    unfold start
    rw [hnil]
    rfl
  have hno : ∀ id, id ∉ c.ids := fun id hid => by
    rw [hnil] at hid
    cases hid
  have hall : ∀ r, c.AllSeen r := fun r id hid => absurd hid (hno id)
  rw [allOrNothing_of_ok (removal_of_wait hc hw), if_neg (by decide)]
  unfold Right cleanState
  cases c.link.atEnd with
  | true =>
    refine iff_of_true (.inl ⟨rfl, hall _, fun id hid => absurd hid (hno id), fun k _ => ?_⟩) rfl
    rw [hnil]
    rfl
  | false =>
    refine iff_of_false ?_ (by decide)
    rintro (⟨h, -⟩ | ⟨-, h, -⟩)
    · cases h
    · exact h (hall _)

/-- **With none seen dead** the call answers false, and nothing is taken out. -/
theorem allOrNothing_of_noneSeen (hc : c.link.atCall = true) (hne : c.ids ≠ []) (hq : c.NoneSeen) : c.AllOrNothing := by
  obtain ⟨m', ht, hw⟩ := wait_quiet hne hq 0
  rw [allOrNothing_of_ok (removal_of_wait hc hw), if_pos rfl]
  obtain ⟨id, hid⟩ := List.exists_mem_of_ne_nil _ hne
  refine .inr ⟨rfl, fun h => ?_, fun k => ht.there k List.not_mem_nil⟩
  obtain ⟨k, hk, hs⟩ := h id hid
  exact hq k hk id hid hs

/-- **What is seen together** is cleared, if there is a connection. -/
theorem cleared {k : Nat} (hall : ∀ id ∈ c.ids, c.SeenIn k id) {r : Removal} (hp : r.polls = k + 1)
    {m' : ChargePointManager} (hpub : ∀ x ∈ (cleanState true
      ((c.foundAll (k * c.ids.length) c.ids).filterMap (·.object m'))).2, x ∈ r.published) (hid : id ∈ c.ids) :
    c.Cleared r id := by
  obtain ⟨cp, hcp, hn⟩ := c.lookup_told hid (k * c.ids.length + c.ids.idxOf id + 1)
  have htime : k * c.ids.length + c.ids.idxOf id < r.polls * c.ids.length := by
    have hlt := List.idxOf_lt_length_of_mem hid
    rw [hp, Nat.add_mul, Nat.one_mul]
    omega
  have hmem : cp ∈ (c.foundAll (k * c.ids.length) c.ids).filterMap (·.object m') := by
    refine List.mem_filterMap.2 ⟨_, List.mem_map.2 ⟨id, hid, rfl⟩, ?_⟩
    rw [found_of_seenIn (hall id hid), hcp]
    rfl
  refine ⟨cp, (lookup_told_of_dead hid (hall id hid) htime).trans hcp, ?_, fun con hcon => ?_⟩
  · refine hpub _ (List.mem_flatMap.2 ⟨cp, hmem, List.mem_append_right _ ?_⟩)
    rw [hn]
    exact List.mem_singleton.2 rfl
  · refine hpub _ (List.mem_flatMap.2 ⟨cp, hmem, List.mem_append_left _ (List.mem_map.2 ⟨con, ?_, ?_⟩)⟩)
    · exact AList.mem_keys.1 hcon
    · rw [hn]

/-- **The wait, where none is seen before the poll `k`**: what is left of it after that poll. -/
theorem wait_first (hne : c.ids ≠ []) {k : Nat} (hk : k < 4) (hq : ∀ j < k, ∀ id ∈ c.ids, ¬c.SeenIn j id) :
    ∃ m' gone', waitDead c.news 4 0 c.manager c.start 0 =
        waitDead c.news (3 - k) ((k + 1) * c.ids.length) m' (c.foundAll (k * c.ids.length) c.ids)
          (c.ids.countP (c.seen (k * c.ids.length) c.ids)) ∧
      c.Tracks ((k + 1) * c.ids.length) gone' m' ∧ ∀ id, id ∈ gone' ↔ id ∈ c.ids ∧ c.SeenIn k id := by
  obtain ⟨m, ht, hw⟩ := wait_quiet hne hq (3 - k + 1)
  obtain ⟨m', gone', hp, ht', hg⟩ := wait_poll ht hne (3 - k)
  rw [hp, show k + (3 - k + 1) = 4 by omega] at hw
  exact ⟨m', gone', hw, ht', hg⟩

/-- **With all seen dead in the poll `k`**, and none before, all is well if it is none of the last and there is a
connection to clear their topics. -/
theorem allOrNothing_of_all (hc : c.link.atCall = true) (hne : c.ids ≠ []) {k : Nat} (hk : k < 4)
    (hq : ∀ j < k, ∀ id ∈ c.ids, ¬c.SeenIn j id) (hall : ∀ id ∈ c.ids, c.SeenIn k id) :
    c.AllOrNothing ↔ k < 3 ∧ c.link.atEnd = true := by
  obtain ⟨m', gone', hw, ht, hg⟩ := wait_first hne hk hq
  have hcount : c.ids.countP (c.seen (k * c.ids.length) c.ids) = (c.foundAll (k * c.ids.length) c.ids).length := by
    rw [length_foundAll]
    exact List.countP_eq_length.2 hall
  have hgone : ∀ id ∈ c.ids, m'.cps.lookup id = none := fun id hid => ht.away id ((hg id).2 ⟨hid, hall id hid⟩)
  have hothers : ∀ j, j ∉ c.ids → m'.cps.lookup j = (c.told ((k + 1) * c.ids.length)).cps.lookup j := fun j hj =>
    ht.there j (fun hm => hj ((hg j).1 hm).1)
  have hdone : waitDead c.news 4 0 c.manager c.start 0 = .ok (m', c.foundAll (k * c.ids.length) c.ids, 3 - k) := by
    rw [hw, hcount]
    cases 3 - k with
    | zero => rfl
    | succ left => rw [waitDead, if_pos rfl]
  rw [allOrNothing_of_ok (removal_of_wait hc hdone)]
  by_cases hlast : 3 - k = 0
  · -- the fourth poll: all were taken out, and the answer is false
    rw [if_pos hlast]
    refine iff_of_false ?_ (fun h => by omega)
    rintro (⟨h, -⟩ | ⟨-, h, -⟩)
    · cases h
    · exact h (fun id hid => ⟨k, hk, hall id hid⟩)
  rw [if_neg hlast]
  have hpolls : 4 - (3 - k) = k + 1 := by omega
  have hseen : ∀ id ∈ c.ids, ∃ j < 4 - (3 - k), c.SeenIn j id := fun id hid => ⟨k, by omega, hall id hid⟩
  cases hend : c.link.atEnd with
  | true =>
    refine iff_of_true (.inl ⟨rfl, hseen, fun id hid => ⟨hgone id hid, ?_⟩, fun j hj => ?_⟩) ⟨by omega, rfl⟩
    · exact cleared hall hpolls (fun x hx => List.mem_append_right _ hx) hid
    · show m'.cps.lookup j = (c.told ((4 - (3 - k)) * c.ids.length)).cps.lookup j
      rw [hpolls]
      exact hothers j hj
  | false =>
    refine iff_of_false ?_ (fun h => by cases h.2)
    rintro (⟨h, -⟩ | ⟨-, h, -⟩)
    · cases h
    · exact h hseen

/-- **With some seen dead in the poll `k` and not all**, and none before, the next poll raises, or there is none. -/
theorem not_allOrNothing_of_some (hc : c.link.atCall = true) (hne : c.ids ≠ []) {k : Nat} (hk : k < 4)
    (hq : ∀ j < k, ∀ id ∈ c.ids, ¬c.SeenIn j id) (hsome : ∃ id ∈ c.ids, c.SeenIn k id)
    (hall : ¬∀ id ∈ c.ids, c.SeenIn k id) : ¬c.AllOrNothing := by
  obtain ⟨m', gone', hw, ht, hg⟩ := wait_first hne hk hq
  have hcount : c.ids.countP (c.seen (k * c.ids.length) c.ids) ≠ c.ids.length := fun h => hall (List.countP_eq_length.1 h)
  cases hleft : 3 - k with
  | zero =>
    -- the fourth poll: some were taken out, and the answer is false
    rw [hleft] at hw
    rw [allOrNothing_of_ok (removal_of_wait hc hw), if_pos rfl]
    obtain ⟨id, hid, hs⟩ := hsome
    rintro (⟨h, -⟩ | ⟨-, -, h⟩)
    · cases h
    · obtain ⟨cp, hcp, -⟩ := c.lookup_told hid (4 * c.ids.length)
      have hnone := ht.away id ((hg id).2 ⟨hid, hs⟩)
      rw [h id, hcp] at hnone
      cases hnone
  | succ left =>
    rw [hleft, wait_raises ht hg hsome hcount left] at hw
    exact allOrNothing_of_raise (removal_of_raise hc hw)

theorem allOrNothing_of_first (hc : c.link.atCall = true) (hne : c.ids ≠ []) {k : Nat} (hk : k < 4)
    (hq : ∀ j < k, ∀ id ∈ c.ids, ¬c.SeenIn j id) (hsome : ∃ id ∈ c.ids, c.SeenIn k id) :
    c.AllOrNothing ↔ k < 3 ∧ (∀ id ∈ c.ids, c.SeenIn k id) ∧ c.link.atEnd = true := by
  by_cases hall : ∀ id ∈ c.ids, c.SeenIn k id
  · rw [allOrNothing_of_all hc hne hk hq hall]
    exact ⟨fun ⟨h₃, hend⟩ => ⟨h₃, hall, hend⟩, fun ⟨h₃, _, hend⟩ => ⟨h₃, hend⟩⟩
  · exact iff_of_false (not_allOrNothing_of_some hc hne hk hq hsome hall) (fun h => hall h.2.1)

end Call

/-- **A removal is all or nothing exactly where** all are seen dead at once. -/
theorem removal_all_or_nothing_iff (c : Call) : c.AllOrNothing ↔ c.Together := by
  unfold Call.Together
  by_cases hc : c.link.atCall = true
  · rw [if_pos hc]
    by_cases hnil : c.ids = []
    · have htogether : c.SeenTogether := by
        refine ⟨0, by decide, fun j hj => (by cases hj), fun id hid => ?_⟩
        rw [hnil] at hid
        cases hid
      rw [Call.allOrNothing_nil hc hnil]
      constructor
      · exact fun h => .inr ⟨h, htogether⟩
      · rintro (⟨h, -⟩ | ⟨h, -⟩)
        · exact absurd hnil h
        · exact h
    by_cases hq : c.NoneSeen
    · exact iff_of_true (Call.allOrNothing_of_noneSeen hc hnil hq) (.inl ⟨hnil, hq⟩)
    · -- the first of the four polls that sees one dead
      have hex : ∃ k, k < 4 ∧ ∃ id ∈ c.ids, c.SeenIn k id := by
        unfold Call.NoneSeen at hq
        push Not at hq
        exact hq
      obtain ⟨hk, hsome⟩ := Nat.find_spec hex
      have hbefore : ∀ j < Nat.find hex, ∀ id ∈ c.ids, ¬c.SeenIn j id := fun j hj id hid hs =>
        Nat.find_min hex hj ⟨hj.trans hk, id, hid, hs⟩
      rw [Call.allOrNothing_of_first hc hnil hk hbefore hsome]
      constructor
      · rintro ⟨h₃, hall, hend⟩
        exact .inr ⟨hend, Nat.find hex, h₃, hbefore, hall⟩
      · rintro (⟨-, h⟩ | ⟨hend, k, h₃, hquiet, hall⟩)
        · exact absurd h hq
        · -- that poll is the one in which all are seen
          have heq : k = Nat.find hex := by
            obtain ⟨id, hid, hs⟩ := hsome
            obtain hlt | heq | hgt := Nat.lt_trichotomy k (Nat.find hex)
            · exact absurd (hall id hid) (hbefore k hlt id hid)
            · exact heq
            · exact absurd hs (hquiet _ hgt id hid)
          rw [← heq]
          exact ⟨h₃, hall, hend⟩
  · rw [if_neg hc]
    exact Call.allOrNothing_disconnected hc

/-- One charge point, whose last word comes with the fourth poll. -/
def lateNews (t : Nat) : List (String × Payload) :=
  if t = 3 then [(statusTopic "A", .json { sampleStatus "A" with status := "Dead" }.toJson)] else []

def lateCall : Call where
  link := ⟨true, true, true⟩
  news := lateNews
  manager := ChargePointManager.empty.receiveAll [(statusTopic "A", .json (sampleStatus "A").toJson)]
  ids := ["A"]
  filed := filed_empty.receiveAll _
  distinct := by decide
  known := by decide +kernel
  final := by
    intro id hid t hd s hs x hx
    rw [List.mem_singleton.1 hid] at hd
    have ht : 3 ≤ t := by
      by_contra hlt
      have hcases : t = 0 ∨ t = 1 ∨ t = 2 := by omega
      revert hd
      rcases hcases with rfl | rfl | rfl <;> decide +kernel
    have hnil : lateNews s = [] := if_neg (by omega)
    rw [hnil] at hx
    cases hx

/-- **A charge point seen dead in the fourth poll is taken out, and the answer is false.** -/
theorem late_removal : ¬lateCall.AllOrNothing := by
  intro h
  have hfirst := Call.allOrNothing_of_first (c := lateCall) rfl (by decide) (k := 3) (by decide) (by decide +kernel)
    (by decide +kernel)
  exact absurd (hfirst.1 h).1 (by decide)

end Supervisor
