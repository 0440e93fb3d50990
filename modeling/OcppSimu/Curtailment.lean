import OcppSimu.Sharing
/-!
# Curtailment — what `computeSetpoints` makes of the limits

The setpoints follow from the statuses, the ratings, the cables and what `getSetpoint` answered for each connector
(`Terms`): every connector has a cap, the charge point a limit, and the connectors in `Charging` share the limit in
proportion (`setpoint_eq_ration`).  With exact numbers the sharing is fair and monotone; which connectors are cut down is
settled for the numbers of the machine (`curtails_iff`).
-/
namespace Simu

open Hist Script View Rationing

/-! ## What the setpoints are made of -/

def Entry.answerTo (c : Nat) : Entry → Option (Option (Option ℚ × Option ℚ))
  | .getSetpoint d _ a => if d = c then some a else none
  | _ => none

/-- What `getSetpoint` answered last for connector `c`. -/
def answersOf (h : List Entry) (c : Nat) : Option (Option ℚ × Option ℚ) := (last (Entry.answerTo c) h).join

structure Terms where
  status : Nat → ChargePointStatus
  maxSetpoint : Nat → ℚ
  cable : Nat → ℚ
  answer : Nat → Option (Option ℚ × Option ℚ)

/-- The limit of the connector an answer sets. -/
def connectorLimit : Option (Option ℚ × Option ℚ) → Option ℚ
  | some (_, y) => y
  | none => none

/-- The limit of the charge point an answer sets. -/
def chargePointLimit : Option (Option ℚ × Option ℚ) → Option ℚ
  | some (x, _) => x
  | none => none

namespace Terms

/-- **The cap of a connector**: the least of its rating, its limit if one is set, and its cable. -/
def cap (t : Terms) (c : Nat) : ℚ := min ((connectorLimit (t.answer c)).elim (t.maxSetpoint c) (min · (t.maxSetpoint c))) (t.cable c)

/-- **The limit of the charge point**: the least of its rating and the limits set. -/
def whole (t : Terms) (cp : SimulatedChargePoint) : ℚ :=
  (cp.ids.filterMap (fun c => chargePointLimit (t.answer c))).foldl min (cp.maxChargePointSetpoint : ℚ)

def charging (t : Terms) (cp : SimulatedChargePoint) : List Nat := cp.ids.filter (fun c => decide (t.status c = .charging))

/-- What the connectors in `Charging` would draw together. -/
def total (t : Terms) (cp : SimulatedChargePoint) : ℚ := cp.arith.sum ((t.charging cp).map t.cap)

/-- Ratings, cables and limits are not negative. -/
structure Nonneg (t : Terms) (cp : SimulatedChargePoint) : Prop where
  maxSetpoint : ∀ c ∈ cp.ids, 0 ≤ t.maxSetpoint c
  cable : ∀ c ∈ cp.ids, 0 ≤ t.cable c
  connector : ∀ c ∈ cp.ids, ∀ v ∈ connectorLimit (t.answer c), 0 ≤ v

end Terms

/-- The terms of a state, with the answers in the history `h`. -/
def World.terms (w : World) (h : List Entry) : Terms where
  status c := (w.connectors c).status
  maxSetpoint c := (w.connectors c).maxSetpoint
  cable c := (w.connectors c).carCableCapacity
  answer := answersOf h

/-- The state after `computeSetpoints`. -/
def afterSetpoints (cp : SimulatedChargePoint) (w : World) (script : List Tick) : World :=
  (computeSetpoints cp (w, script)).2.1

/-- **The terms of a call of `computeSetpoints`**: the state before it, and the answers it has had. -/
def termsOf (cp : SimulatedChargePoint) (w : World) (script : List Tick) : Terms := w.terms (afterSetpoints cp w script).log

/-! ## Asking for the limits -/

variable {cp : SimulatedChargePoint}

theorem answersOf_cons {e : Entry} (he : ∀ c, e.answerTo c = none) (h : List Entry) : answersOf (e :: h) = answersOf h := by
  funext c
  unfold answersOf
  rw [last_cons, he c, Option.none_or]

theorem answersOf_getSetpoint (h : List Entry) (c : Nat) (unit : ChargingRateUnitType) (a : Option (Option ℚ × Option ℚ)) :
    answersOf (.getSetpoint c unit a :: h) = Function.update (answersOf h) c a := by
  funext d
  unfold answersOf
  rw [last_cons, Function.update_apply]
  by_cases hd : d = c
  · subst hd
    simp [Entry.answerTo]
  · simp [Entry.answerTo, hd, Ne.symm hd]

theorem answersOf_tick (t : Tick) (w : World) : answersOf (w.tick cp t).log = answersOf w.log :=
  log_tick (fun e h he => answersOf_cons (fun c => by cases e <;> first | rfl | cases he) h) t w

/-- The part of a record that `computeSetpoints` reads and does not write. -/
def ConnectorData.given (d : ConnectorData) : ChargePointStatus × ℚ × ℚ := (d.status, d.maxSetpoint, d.carCableCapacity)

/-- The other threads write neither what is given nor the limit. -/
theorem connectors_tick (t : Tick) (w : World) (c : Nat) :
    ((w.tick cp t).connectors c).given = (w.connectors c).given ∧
      ((w.tick cp t).connectors c).ocppSetpoint = (w.connectors c).ocppSetpoint :=
  (closed_own (c := c) (P := fun d _ => d.given = (w.connectors c).given ∧ d.ocppSetpoint = (w.connectors c).ocppSetpoint)
    (fun _ _ _ _ _ h => h)).tick cp t w ⟨rfl, rfl⟩

/-- **The limits of the connectors `seen` are known**, and `whole` is the least of those of the charge point. -/
structure LimitsAsked (cp : SimulatedChargePoint) (w₀ : World) (seen : List Nat) (whole : ℚ) (w : World) : Prop where
  given : ∀ c, (w.connectors c).given = (w₀.connectors c).given
  limited : ∀ c ∈ seen, (w.connectors c).ocppSetpoint =
    (connectorLimit (answersOf w.log c)).elim (w₀.connectors c).maxSetpoint (min · (w₀.connectors c).maxSetpoint)
  whole : whole = (seen.filterMap (fun c => chargePointLimit (answersOf w.log c))).foldl min (cp.maxChargePointSetpoint : ℚ)

theorem LimitsAsked.tick {w₀ w : World} {seen : List Nat} {whole : ℚ} (h : LimitsAsked cp w₀ seen whole w) (t : Tick) :
    LimitsAsked cp w₀ seen whole (w.tick cp t) where
  given c := (connectors_tick t w c).1.trans (h.given c)
  limited c hc := by
    rw [(connectors_tick t w c).2, answersOf_tick]
    exact h.limited c hc
  whole := by
    rw [answersOf_tick]
    exact h.whole

/-- A connector that is not among those seen may be given any limit. -/
theorem LimitsAsked.setConnector {w₀ w : World} {seen : List Nat} {whole : ℚ} (h : LimitsAsked cp w₀ seen whole w) {c : Nat}
    (hc : c ∉ seen) {f : ConnectorData → ConnectorData} (hf : ∀ d, (f d).given = d.given) :
    LimitsAsked cp w₀ seen whole (w.setConnector c f) where
  given d := by
    show ((Function.update w.connectors c (f (w.connectors c))) d).given = _
    rw [Function.update_apply]
    split
    · rename_i hd
      rw [hf, hd]
      exact h.given c
    · exact h.given d
  limited d hd := by
    have hdc : d ≠ c := fun he => hc (he ▸ hd)
    show ((Function.update w.connectors c (f (w.connectors c))) d).ocppSetpoint = _
    rw [Function.update_of_ne hdc]
    exact h.limited d hd
  whole := h.whole

/-- An answer to a connector that is not among those seen. -/
theorem LimitsAsked.note {w₀ w : World} {seen : List Nat} {whole : ℚ} (h : LimitsAsked cp w₀ seen whole w) {c : Nat}
    (hc : c ∉ seen) (unit : ChargingRateUnitType) (a : Option (Option ℚ × Option ℚ)) :
    LimitsAsked cp w₀ seen whole (w.note (.getSetpoint c unit a)) := by
  have hself : ∀ d ∈ seen, answersOf (w.note (.getSetpoint c unit a)).log d = answersOf w.log d := by
    intro d hd
    have hdc : d ≠ c := fun he => hc (he ▸ hd)
    show answersOf (.getSetpoint c unit a :: w.log) d = _
    rw [answersOf_getSetpoint, Function.update_of_ne hdc]
  refine ⟨h.given, fun d hd => ?_, ?_⟩
  · rw [hself d hd]
    exact h.limited d hd
  · have hm : seen.filterMap (fun d => chargePointLimit (answersOf (w.note (.getSetpoint c unit a)).log d)) =
        seen.filterMap (fun d => chargePointLimit (answersOf w.log d)) :=
      List.filterMap_congr (fun d hd => by rw [hself d hd])
    rw [hm]
    exact h.whole

/-- What the answer makes of the limits: the connector's own, and the charge point's. -/
theorem LimitsAsked.append {w₀ w : World} {seen : List Nat} {whole whole' : ℚ} (h : LimitsAsked cp w₀ seen whole w) {c : Nat}
    (hl : (w.connectors c).ocppSetpoint =
      (connectorLimit (answersOf w.log c)).elim (w₀.connectors c).maxSetpoint (min · (w₀.connectors c).maxSetpoint))
    (hw : whole' = (chargePointLimit (answersOf w.log c)).elim whole (min whole)) :
    LimitsAsked cp w₀ (seen ++ [c]) whole' w where
  given := h.given
  limited d hd := by
    rcases List.mem_append.1 hd with hd | hd
    · exact h.limited d hd
    · rw [List.mem_singleton.1 hd]
      exact hl
  whole := by
    rw [hw, List.filterMap_append, List.foldl_append, ← h.whole]
    cases hx : chargePointLimit (answersOf w.log c) with
    | none => simp [hx]
    | some x => simp [hx]

theorem ite_lt_eq_min {x y : ℚ} : (if x < y then x else y) = min x y := by
  split
  · rename_i h
    exact (min_eq_left (le_of_lt h)).symm
  · rename_i h
    exact (min_eq_right (not_lt.1 h)).symm

theorem limit_given (d : ConnectorData) (y : Option ℚ) :
    (match y with
      | some v => if v < d.maxSetpoint then { d with ocppSetpoint := v } else d
      | none => d).given = d.given := by
  cases y with
  | none => rfl
  | some v =>
    dsimp only
    split <;> rfl

/-- What an answer makes of a limit that is still the rating. -/
theorem limit_ocppSetpoint {d : ConnectorData} {max : ℚ} (hm : d.maxSetpoint = max) (ho : d.ocppSetpoint = max) (y : Option ℚ) :
    (match y with
      | some v => if v < d.maxSetpoint then { d with ocppSetpoint := v } else d
      | none => d).ocppSetpoint = y.elim max (min · max) := by
  cases y with
  | none => exact ho
  | some v =>
    show (if v < d.maxSetpoint then _ else _ : ConnectorData).ocppSetpoint = min v max
    rw [hm, ← ite_lt_eq_min]
    split
    · rfl
    · exact ho

theorem connectorSetpoint_limitsAsked {w₀ : World} {seen : List Nat} {whole : ℚ} {c : Nat} (hc : c ∉ seen) :
    Spec (LimitsAsked cp w₀ seen whole) (connectorSetpoint cp whole c) (fun a => LimitsAsked cp w₀ (seen ++ [c]) a) := by
  have rating : ∀ {w : World}, LimitsAsked cp w₀ seen whole w → (w.connectors c).maxSetpoint = (w₀.connectors c).maxSetpoint :=
    fun h => congrArg (fun g => g.2.1) (h.given c)
  refine Spec.bind (R := fun _ w => LimitsAsked cp w₀ seen whole w ∧ (w.connectors c).ocppSetpoint = (w₀.connectors c).maxSetpoint)
    (Spec.update (fun w h => ⟨h.setConnector hc (fun _ => rfl), ?_⟩)) (fun _ => ?_)
  · show (Function.update w.connectors c _ c).ocppSetpoint = _
    rw [Function.update_self]
    exact rating h
  refine Spec.bind (R := fun _ w => LimitsAsked cp w₀ seen whole w ∧ (w.connectors c).ocppSetpoint = (w₀.connectors c).maxSetpoint)
    (Spec.read (fun _ h => h)) (fun unit => ?_)
  refine Spec.bind (R := fun r w => (LimitsAsked cp w₀ seen whole w ∧ (w.connectors c).ocppSetpoint = (w₀.connectors c).maxSetpoint) ∧
    answersOf w.log c = r) ?_ (fun r => ?_)
  · unfold getSetpoint ask
    refine Spec.call (fun t w h => ⟨h.1.tick t, (connectors_tick t w c).2.trans h.2⟩)
      (fun t w h => ⟨⟨h.1.note hc unit _, h.2⟩, ?_⟩)
    show answersOf (.getSetpoint c unit t.getSetpoint :: w.log) c = t.getSetpoint
    rw [answersOf_getSetpoint, Function.update_self]
  rcases r with _ | ⟨x, y⟩
  · refine Spec.pure _ (fun w h => h.1.1.append ?_ ?_)
    · rw [h.2]
      exact h.1.2
    · rw [h.2]
      rfl
  · refine Spec.bind (R := fun _ => LimitsAsked cp w₀ (seen ++ [c]) (x.elim whole (min whole))) (Spec.update (fun w h => ?_))
      (fun _ => Spec.pure _ (fun w h => ?_))
    · obtain ⟨⟨ha, ho⟩, hr⟩ := h
      refine (ha.setConnector hc (fun d => limit_given d y)).append ?_ ?_
      · show (Function.update w.connectors c _ c).ocppSetpoint = (connectorLimit (answersOf w.log c)).elim _ _
        rw [Function.update_self, hr]
        exact limit_ocppSetpoint (rating ha) ho y
      · show _ = (chargePointLimit (answersOf w.log c)).elim whole (min whole)
        rw [hr]
        rfl
    · cases x with
      | none => exact h
      | some v =>
        dsimp only
        rw [ite_lt_eq_min, min_comm]
        exact h

/-! ## The setpoints -/

/-- **The setpoints are shared out once the limits are known.** -/
theorem computeSetpoints_shareOut (w₀ : World) : Spec (fun w => w = w₀) (computeSetpoints cp)
    (fun _ w => ∃ whole w₁, LimitsAsked cp w₀ cp.ids whole w₁ ∧ w = w₁.shareOut cp whole) := by
  rw [computeSetpoints_eq]
  refine Spec.bind (R := fun whole w => LimitsAsked cp w₀ cp.ids whole w) ?_ (fun whole => Spec.update (fun w h => ⟨whole, w, h, rfl⟩))
  refine Spec.pre (fun w h => ?_) (Spec.foldlM_fresh (I := fun seen a => LimitsAsked cp w₀ seen a) cp.nodup_ids
    (fun seen a c _ hn => connectorSetpoint_limitsAsked hn) [] _ (fun c _ => List.not_mem_nil))
  rw [h]
  exact ⟨fun _ => rfl, fun c hc => absurd hc List.not_mem_nil, rfl⟩

theorem answersOf_shareOut (whole : ℚ) (w : World) : answersOf (w.shareOut cp whole).log = answersOf w.log := by
  unfold World.shareOut
  dsimp only
  split
  · exact answersOf_cons (fun _ => rfl) _
  · rfl

theorem cap_of_limitsAsked {w₀ w : World} {whole : ℚ} (h : LimitsAsked cp w₀ cp.ids whole w) {c : Nat} (hc : c ∈ cp.ids) :
    (w.connectors c).cap = (w₀.terms w.log).cap c := by
  have hcable : (w.connectors c).carCableCapacity = (w₀.connectors c).carCableCapacity := congrArg (fun g => g.2.2) (h.given c)
  unfold ConnectorData.cap Terms.cap
  rw [h.limited c hc, hcable]
  rfl

theorem Terms.cap_nonneg {t : Terms} (h : t.Nonneg cp) {c : Nat} (hc : c ∈ cp.ids) : 0 ≤ t.cap c := by
  refine le_min ?_ (h.cable c hc)
  cases hl : connectorLimit (t.answer c) with
  | none => exact h.maxSetpoint c hc
  | some v => exact le_min (h.connector c hc v (by rw [hl]; rfl)) (h.maxSetpoint c hc)

theorem Terms.mem_charging {t : Terms} {c : Nat} : c ∈ t.charging cp ↔ c ∈ cp.ids ∧ t.status c = .charging := by
  unfold charging
  rw [List.mem_filter, decide_eq_true_eq]

theorem demandOf_limitsAsked {w₀ w : World} {whole : ℚ} (h : LimitsAsked cp w₀ cp.ids whole w) (hn : (w₀.terms w.log).Nonneg cp) :
    demandOf cp w.connectors = (w₀.terms w.log).total cp := by
  unfold demandOf Terms.total Terms.charging
  rw [totalConnectors_eq_sum, ← cp.arith.sum_map_ite (fun c => (w₀.terms w.log).status c = .charging)]
  refine congrArg cp.arith.sum (List.map_congr_left (fun c hc => ?_))
  have hs : (w.connectors c).limitToCable.status = (w₀.terms w.log).status c := congrArg (fun g => g.1) (h.given c)
  have ha := Terms.cap_nonneg hn hc
  unfold ConnectorData.drawn
  rw [ConnectorData.setpoint_limitToCable, cap_of_limitsAsked h hc]
  simp only [hs]
  by_cases hcharging : (w₀.terms w.log).status c = .charging
  · rw [if_pos hcharging]
    split
    · rfl
    · rename_i hpos
      exact le_antisymm ha (not_lt.1 (fun hlt => hpos ⟨hcharging, hlt⟩))
  · rw [if_neg hcharging, if_neg (fun hc => hcharging hc.1)]

theorem share_eq_floor_ration {r : Rounding ℚ} {whole total a : ℚ} (ha : 0 ≤ a) :
    share r whole total a = ⌊r.ration whole total a⌋ := by
  unfold share Rounding.ration
  by_cases h : whole < total
  · rw [if_pos h]
    by_cases h₀ : 0 < a
    · rw [if_pos ⟨h, h₀⟩]
    · have hz : a = 0 := le_antisymm (not_lt.1 h₀) ha
      rw [if_neg (fun hc => h₀ hc.2), hz, zero_mul, r.zero]
  · rw [if_neg h, if_neg (fun hc => h hc.1)]

/-- **The setpoint of a connector is the ration of its cap, rounded down**, when the connectors in `Charging` claim their
caps of the limit of the charge point. -/
theorem setpoint_eq_ration (cp : SimulatedChargePoint) (w : World) (script : List Tick)
    (hn : (termsOf cp w script).Nonneg cp) {c : Nat} (hc : c ∈ cp.ids) :
    ((afterSetpoints cp w script).connectors c).setpoint =
      ⌊cp.arith.ration ((termsOf cp w script).whole cp) ((termsOf cp w script).total cp) ((termsOf cp w script).cap c)⌋ := by
  obtain ⟨whole, w₁, ha, he⟩ := (computeSetpoints_shareOut w : Spec _ (computeSetpoints cp) _) w script rfl
  have he' : afterSetpoints cp w script = w₁.shareOut cp whole := he
  have ht : termsOf cp w script = w.terms w₁.log := by
    unfold termsOf World.terms
    rw [he', answersOf_shareOut]
  rw [ht] at hn ⊢
  have hw : (w.terms w₁.log).whole cp = whole := ha.whole.symm
  rw [he', hw, ← share_eq_floor_ration (Terms.cap_nonneg hn hc), ← demandOf_limitsAsked ha hn, ← cap_of_limitsAsked ha hc]
  rfl

/-! ## The quality of the sharing -/

/-- **The setpoints a call of `computeSetpoints` leaves.** -/
def setpointsAfter (cp : SimulatedChargePoint) (w : World) (script : List Tick) (c : Nat) : ℚ :=
  ((afterSetpoints cp w script).connectors c).setpoint

/-- Nothing the setpoints are made of is negative, the limits of the charge point included. -/
structure Terms.NonnegLimits (t : Terms) (cp : SimulatedChargePoint) : Prop extends t.Nonneg cp where
  chargePoint : ∀ c ∈ cp.ids, ∀ v ∈ chargePointLimit (t.answer c), 0 ≤ v

theorem foldl_min_nonneg {l : List ℚ} {x : ℚ} (hx : 0 ≤ x) (hl : ∀ v ∈ l, 0 ≤ v) : 0 ≤ l.foldl min x := by
  induction l generalizing x with
  | nil => exact hx
  | cons v l ih => exact ih (le_min hx (hl v List.mem_cons_self)) (fun u hu => hl u (List.mem_cons_of_mem v hu))

theorem Terms.whole_nonneg {t : Terms} (h : t.NonnegLimits cp) : 0 ≤ t.whole cp := by
  refine foldl_min_nonneg (Nat.cast_nonneg _) (fun v hv => ?_)
  obtain ⟨c, hc, hl⟩ := List.mem_filterMap.1 hv
  exact h.chargePoint c hc v hl

/-- With exact numbers the rations are exact, and so is the total. -/
theorem setpointsAfter_of_exact (hx : cp.arith = .exact ℚ) (w : World) (script : List Tick)
    (hn : (termsOf cp w script).Nonneg cp) {c : Nat} (hc : c ∈ cp.ids) : setpointsAfter cp w script c =
      ⌊ration ((termsOf cp w script).whole cp) ((termsOf cp w script).total cp) ((termsOf cp w script).cap c)⌋ := by
  rw [setpointsAfter, setpoint_eq_ration cp w script hn hc, hx, Rounding.exact_ration]

theorem total_of_exact (hx : cp.arith = .exact ℚ) (t : Terms) : t.total cp = ((t.charging cp).map t.cap).sum := by
  unfold Terms.total
  rw [hx, Rounding.exact_sum]

/-- The setpoints of the connectors in `Charging` are the rations of their caps, rounded down. -/
theorem setpoints_charging (hx : cp.arith = .exact ℚ) (w : World) (script : List Tick)
    (hn : (termsOf cp w script).Nonneg cp) :
    ((termsOf cp w script).charging cp).map (setpointsAfter cp w script) =
      ((((termsOf cp w script).charging cp).map (termsOf cp w script).cap).map
        (ration ((termsOf cp w script).whole cp) ((termsOf cp w script).total cp))).map (fun x => (⌊x⌋ : ℚ)) := by
  rw [List.map_map, List.map_map]
  exact List.map_congr_left (fun c hc => setpointsAfter_of_exact hx w script hn (Terms.mem_charging.1 hc).1)

/-- **Every setpoint is an integer from 0 to the cap of its connector; together the connectors in `Charging` get what
there is for them, short of less than one each; and the higher cap gets the higher setpoint.** -/
theorem setpoints_shared (cp : SimulatedChargePoint) (hx : cp.arith = .exact ℚ) (w : World) (script : List Tick)
    (hn : (termsOf cp w script).NonnegLimits cp) :
    (∀ c ∈ cp.ids, (∃ z : ℤ, setpointsAfter cp w script c = z) ∧ 0 ≤ setpointsAfter cp w script c ∧
      setpointsAfter cp w script c ≤ (termsOf cp w script).cap c) ∧
    (((termsOf cp w script).charging cp).map (setpointsAfter cp w script)).sum ≤
      min ((termsOf cp w script).whole cp) ((termsOf cp w script).total cp) ∧
    ((termsOf cp w script).charging cp ≠ [] →
      min ((termsOf cp w script).whole cp) ((termsOf cp w script).total cp) - ((termsOf cp w script).charging cp).length <
        (((termsOf cp w script).charging cp).map (setpointsAfter cp w script)).sum) ∧
    ∀ i ∈ (termsOf cp w script).charging cp, ∀ j ∈ (termsOf cp w script).charging cp,
      (termsOf cp w script).cap i ≤ (termsOf cp w script).cap j →
        setpointsAfter cp w script i ≤ setpointsAfter cp w script j := by
  have hs : ∀ c ∈ cp.ids, setpointsAfter cp w script c = _ := fun c hc => setpointsAfter_of_exact hx w script hn.toNonneg hc
  have hsum := setpoints_charging hx w script hn.toNonneg
  have h₀ := Terms.whole_nonneg hn
  have hcap : ∀ c ∈ cp.ids, 0 ≤ (termsOf cp w script).cap c := fun c hc => Terms.cap_nonneg hn.toNonneg hc
  generalize termsOf cp w script = t at *
  have htotal : ((((t.charging cp).map t.cap).map (ration (t.whole cp) (t.total cp)))).sum = min (t.whole cp) (t.total cp) := by
    rw [total_of_exact hx]
    exact sum_ration h₀ _
  refine ⟨fun c hc => ⟨⟨_, hs c hc⟩, ?_, ?_⟩, ?_, fun hne => ?_, fun i hi j hj hij => ?_⟩
  · rw [hs c hc]
    exact_mod_cast Int.floor_nonneg.2 (ration_nonneg h₀ (hcap c hc))
  · rw [hs c hc]
    exact le_trans (Int.floor_le _) (ration_le h₀ (hcap c hc))
  · rw [hsum, ← htotal]
    exact sum_floor_le _
  · have hlt := sum_lt_sum_floor (((t.charging cp).map t.cap).map (ration (t.whole cp) (t.total cp))) (by simpa using hne)
    rw [htotal, List.length_map, List.length_map] at hlt
    rw [hsum]
    exact hlt
  · rw [hs i (Terms.mem_charging.1 hi).1, hs j (Terms.mem_charging.1 hj).1]
    exact_mod_cast Int.floor_mono (ration_mono h₀ hij)

/-- Two cars of different caps share less than they would draw. -/
def sampleSharing : World :=
  { World.start .exactSample .idle with
    connectors := fun c => { maxSetpoint := 32, carCableCapacity := if c = 1 then 20 else 13, status := .charging } }

/-- The answers to `getSetpoint`: the charge point may draw 16. -/
def sampleLimit : List Tick := [{ getSetpoint := some (some 16, none) }, { getSetpoint := some (some 16, some 30) }]

theorem sampleSharing_nonneg : (termsOf .exactSample sampleSharing sampleLimit).NonnegLimits .exactSample :=
  ⟨⟨by decide +kernel, by decide +kernel, by decide +kernel⟩, by decide +kernel⟩

theorem setpoints_shared_sample :
    (termsOf .exactSample sampleSharing sampleLimit).NonnegLimits .exactSample ∧
    (((termsOf .exactSample sampleSharing sampleLimit).charging .exactSample).map
      (setpointsAfter .exactSample sampleSharing sampleLimit)).sum ≤
        min ((termsOf .exactSample sampleSharing sampleLimit).whole .exactSample)
          ((termsOf .exactSample sampleSharing sampleLimit).total .exactSample) :=
  ⟨sampleSharing_nonneg, (setpoints_shared .exactSample rfl sampleSharing sampleLimit sampleSharing_nonneg).2.1⟩

/-! ## Raising a limit -/

theorem total_congr {t t' : Terms} (hs : ∀ c ∈ cp.ids, t'.status c = t.status c) : t'.charging cp = t.charging cp :=
  List.filter_congr (fun c hc => by rw [hs c hc])

theorem total_of_mem (hx : cp.arith = .exact ℚ) {t : Terms} {j : Nat} (hj : j ∈ t.charging cp) :
    t.total cp = (((t.charging cp).erase j).map t.cap).sum + t.cap j := by
  rw [total_of_exact hx, add_comm]
  exact (List.sum_map_erase t.cap hj).symm

theorem nodup_charging (t : Terms) : (t.charging cp).Nodup := cp.nodup_ids.sublist List.filter_sublist

/-- **The sharing is monotone**: with the limit of the charge point no setpoint of a connector in `Charging` falls, and
with the cap of one connector in `Charging` its own setpoint does not fall, and none of the others rises. -/
theorem setpoints_monotone (cp : SimulatedChargePoint) (hx : cp.arith = .exact ℚ) (w w' : World) (script script' : List Tick)
    (hn : (termsOf cp w script).NonnegLimits cp) (hn' : (termsOf cp w' script').NonnegLimits cp)
    (hstatus : ∀ c ∈ cp.ids, (termsOf cp w' script').status c = (termsOf cp w script).status c) :
    ((∀ c ∈ (termsOf cp w script).charging cp, (termsOf cp w' script').cap c = (termsOf cp w script).cap c) →
      (termsOf cp w script).whole cp ≤ (termsOf cp w' script').whole cp →
        ∀ c ∈ (termsOf cp w script).charging cp, setpointsAfter cp w script c ≤ setpointsAfter cp w' script' c) ∧
    ∀ j ∈ (termsOf cp w script).charging cp, (termsOf cp w' script').whole cp = (termsOf cp w script).whole cp →
      (∀ c ∈ (termsOf cp w script).charging cp, c ≠ j → (termsOf cp w' script').cap c = (termsOf cp w script).cap c) →
        (termsOf cp w script).cap j ≤ (termsOf cp w' script').cap j →
          setpointsAfter cp w script j ≤ setpointsAfter cp w' script' j ∧
          ∀ c ∈ (termsOf cp w script).charging cp, c ≠ j →
            setpointsAfter cp w' script' c ≤ setpointsAfter cp w script c := by
  have hs : ∀ c ∈ cp.ids, setpointsAfter cp w script c = _ := fun c hc => setpointsAfter_of_exact hx w script hn.toNonneg hc
  have hs' : ∀ c ∈ cp.ids, setpointsAfter cp w' script' c = _ := fun c hc =>
    setpointsAfter_of_exact hx w' script' hn'.toNonneg hc
  generalize termsOf cp w script = t at *
  generalize termsOf cp w' script' = t' at *
  have hcharging : t'.charging cp = t.charging cp := total_congr hstatus
  have hid : ∀ c ∈ t.charging cp, c ∈ cp.ids := fun c hc => (Terms.mem_charging.1 hc).1
  have h₀ := Terms.whole_nonneg hn
  have hcap : ∀ c ∈ cp.ids, 0 ≤ t.cap c := fun c hc => Terms.cap_nonneg hn.toNonneg hc
  constructor
  · intro hcaps hw c hc
    have ht : t'.total cp = t.total cp := by
      unfold Terms.total
      rw [hcharging]
      exact congrArg cp.arith.sum (List.map_congr_left hcaps)
    rw [hs c (hid c hc), hs' c (hid c hc), ht, hcaps c hc]
    exact_mod_cast Int.floor_mono (ration_mono_supply h₀ (hcap c (hid c hc)) hw)
  · intro j hj hw hcaps hle
    have hrest : ((t'.charging cp).erase j).map t'.cap = ((t.charging cp).erase j).map t.cap := by
      rw [hcharging]
      refine List.map_congr_left (fun c hc => ?_)
      obtain ⟨hne, hm⟩ := (nodup_charging t).mem_erase_iff.1 hc
      exact hcaps c hm hne
    have hr₀ : 0 ≤ (((t.charging cp).erase j).map t.cap).sum := by
      refine List.sum_nonneg (fun x hx => ?_)
      obtain ⟨c, hc, rfl⟩ := List.mem_map.1 hx
      exact hcap c (hid c (List.mem_of_mem_erase hc))
    have ht := total_of_mem hx hj
    have hj' : j ∈ t'.charging cp := hcharging ▸ hj
    have ht' := total_of_mem hx hj'
    rw [hrest] at ht'
    constructor
    · rw [hs j (hid j hj), hs' j (hid j hj), hw, ht, ht']
      exact_mod_cast Int.floor_mono (ration_mono_own h₀ (hcap j (hid j hj)) hr₀ hle)
    · intro c hc hne
      have htt : t.total cp ≤ t'.total cp := by
        rw [ht, ht']
        exact add_le_add_right hle _
      rw [hs c (hid c hc), hs' c (hid c hc), hw, hcaps c hc hne]
      exact_mod_cast Int.floor_mono (ration_anti_total h₀ (hcap c (hid c hc)) htt)

/-- The cable of the second car is changed for one that carries more. -/
def sampleRaised : World :=
  { World.start .exactSample .idle with
    connectors := fun _ => { maxSetpoint := 32, carCableCapacity := 20, status := .charging } }

theorem sampleRaised_nonneg : (termsOf .exactSample sampleRaised sampleLimit).NonnegLimits .exactSample :=
  ⟨⟨by decide +kernel, by decide +kernel, by decide +kernel⟩, by decide +kernel⟩

theorem setpoints_monotone_sample :
    setpointsAfter .exactSample sampleSharing sampleLimit 2 ≤ setpointsAfter .exactSample sampleRaised sampleLimit 2 ∧
    setpointsAfter .exactSample sampleRaised sampleLimit 1 ≤ setpointsAfter .exactSample sampleSharing sampleLimit 1 := by
  have h := (setpoints_monotone .exactSample rfl sampleSharing sampleRaised sampleLimit sampleLimit sampleSharing_nonneg
    sampleRaised_nonneg (by decide +kernel)).2 2 (by decide +kernel) (by decide +kernel) (by decide +kernel) (by decide +kernel)
  exact ⟨h.1, h.2 1 (by decide +kernel) (by decide +kernel)⟩

/-! ## The connectors that do not charge -/

/-- **What the sharing leaves alone**: a connector that is not in `Charging` has its cap rounded down, those in `Charging`
the ration of theirs, and no setpoint above 0 is multiplied by a quotient of divisor 0. -/
structure Curtails (cp : SimulatedChargePoint) (t : Terms) (setpoint : Nat → ℚ) : Prop where
  spared : ∀ c ∈ cp.ids, t.status c ≠ .charging → setpoint c = ⌊t.cap c⌋
  reduced : ∀ c ∈ t.charging cp, setpoint c = ⌊cp.arith.ration (t.whole cp) (t.total cp) (t.cap c)⌋
  divided : t.whole cp < t.total cp → ∀ c ∈ cp.ids, 0 < t.cap c → t.total cp ≠ 0

/-- Ratings, cables and limits are numbers of the machine. -/
structure Terms.Floats (t : Terms) (cp : SimulatedChargePoint) : Prop where
  maxSetpoint : ∀ c ∈ cp.ids, cp.arith.Holds (t.maxSetpoint c)
  cable : ∀ c ∈ cp.ids, cp.arith.Holds (t.cable c)
  connector : ∀ c ∈ cp.ids, ∀ v ∈ connectorLimit (t.answer c), cp.arith.Holds v

theorem Terms.Floats.cap {t : Terms} (h : t.Floats cp) {c : Nat} (hc : c ∈ cp.ids) : cp.arith.Holds (t.cap c) := by
  unfold Terms.cap
  refine cp.arith.holds_min ?_ (h.cable c hc)
  cases hl : connectorLimit (t.answer c) with
  | none => exact h.maxSetpoint c hc
  | some v => exact cp.arith.holds_min (h.connector c hc v hl) (h.maxSetpoint c hc)

/-- The reduction stays within the fraction of the cap. -/
def Terms.Unmoved (t : Terms) (cp : SimulatedChargePoint) (c : Nat) : Prop :=
  t.cap c = 0 ∨ 0 < t.total cp ∧ ⌊t.cap c⌋ ≤ cp.arith.round (t.cap c * cp.arith.round (t.whole cp / t.total cp))

instance (t : Terms) (cp : SimulatedChargePoint) (c : Nat) : Decidable (t.Unmoved cp c) := by
  unfold Terms.Unmoved
  infer_instance

theorem total_nonneg {t : Terms} (h : t.Nonneg cp) : 0 ≤ t.total cp := by
  refine cp.arith.sum_nonneg (fun x hx => ?_)
  obtain ⟨c, hc, rfl⟩ := List.mem_map.1 hx
  exact Terms.cap_nonneg h (Terms.mem_charging.1 hc).1

/-- A connector in `Charging` is part of the total. -/
theorem cap_le_total {t : Terms} (h : t.Nonneg cp) (hf : t.Floats cp) {c : Nat} (hc : c ∈ t.charging cp) :
    t.cap c ≤ t.total cp := by
  refine cp.arith.le_sum (fun x hx => ?_) (hf.cap (Terms.mem_charging.1 hc).1) (List.mem_map.2 ⟨c, hc, rfl⟩)
  obtain ⟨d, hd, rfl⟩ := List.mem_map.1 hx
  exact Terms.cap_nonneg h (Terms.mem_charging.1 hd).1

/-- **Only the connectors in `Charging` are curtailed exactly where the total does not exceed the limit, or the reduction
of every other connector stays within the fraction of its cap.** -/
theorem curtails_iff (cp : SimulatedChargePoint) (w : World) (script : List Tick) (hn : (termsOf cp w script).Nonneg cp)
    (hf : (termsOf cp w script).Floats cp) :
    Curtails cp (termsOf cp w script) (setpointsAfter cp w script) ↔
      (termsOf cp w script).total cp ≤ (termsOf cp w script).whole cp ∨
        ∀ c ∈ cp.ids, (termsOf cp w script).status c ≠ .charging → (termsOf cp w script).Unmoved cp c := by
  have hs : ∀ c ∈ cp.ids, setpointsAfter cp w script c = _ := fun c hc => setpoint_eq_ration cp w script hn hc
  generalize termsOf cp w script = t at *
  have hreduced : ∀ c ∈ t.charging cp, setpointsAfter cp w script c = _ := fun c hc => hs c (Terms.mem_charging.1 hc).1
  have hcap : ∀ c ∈ cp.ids, 0 ≤ t.cap c := fun c hc => Terms.cap_nonneg hn hc
  constructor
  · intro h
    by_cases hle : t.total cp ≤ t.whole cp
    · exact .inl hle
    · refine .inr (fun c hc hne => ?_)
      by_cases hz : t.cap c = 0
      · exact .inl hz
      · have hpos : 0 < t.total cp := lt_of_le_of_ne (total_nonneg hn)
          (Ne.symm (h.divided (not_le.1 hle) c hc (lt_of_le_of_ne (hcap c hc) (Ne.symm hz))))
        refine .inr ⟨hpos, (cp.arith.floor_ration_eq_iff hpos (not_le.1 hle) (hcap c hc) (hf.cap hc)).1 ?_⟩
        have he := h.spared c hc hne
        rw [hs c hc] at he
        exact_mod_cast he
  · intro h
    by_cases hle : t.total cp ≤ t.whole cp
    · refine ⟨fun c hc _ => ?_, hreduced, fun hlt => absurd hle (not_le.2 hlt)⟩
      rw [hs c hc, cp.arith.ration_of_le hle]
    · have hunmoved := h.resolve_left hle
      refine ⟨fun c hc hne => ?_, hreduced, fun _ c hc hpos hz => ?_⟩
      · rw [hs c hc]
        rcases hunmoved c hc hne with h0 | ⟨hpos, hfloor⟩
        · rw [h0, cp.arith.ration_zero]
        · rw [(cp.arith.floor_ration_eq_iff hpos (not_le.1 hle) (hcap c hc) (hf.cap hc)).2 hfloor]
      · by_cases hch : t.status c = .charging
        · exact absurd (cap_le_total hn hf (Terms.mem_charging.2 ⟨hc, hch⟩)) (by rw [hz]; exact not_le.2 hpos)
        · rcases hunmoved c hc hch with h0 | ⟨ht, _⟩
          · exact ne_of_gt hpos h0
          · exact ne_of_gt ht hz

/-- One car charges, the other connector is in `Preparing` with a cable that carries `cable`. -/
def sampleMixed (cable : ℚ) : World :=
  { World.start .sample .idle with
    connectors := fun c => { maxSetpoint := 32, carCableCapacity := if c = 1 then 20 else cable,
                             status := if c = 1 then .charging else .preparing } }

theorem sampleMixed_nonneg {cable : ℚ} (h : cable = 41 / 16 ∨ cable = 20) :
    (termsOf .sample (sampleMixed cable) sampleLimit).Nonneg .sample := by
  rcases h with rfl | rfl <;> exact ⟨by decide +kernel, by decide +kernel, by decide +kernel⟩

theorem sampleMixed_floats {cable : ℚ} (h : cable = 41 / 16 ∨ cable = 20) :
    (termsOf .sample (sampleMixed cable) sampleLimit).Floats .sample := by
  rcases h with rfl | rfl <;> exact ⟨by decide +kernel, by decide +kernel, by decide +kernel⟩

theorem curtails_sample : Curtails .sample (termsOf .sample (sampleMixed (41 / 16)) sampleLimit)
    (setpointsAfter .sample (sampleMixed (41 / 16)) sampleLimit) :=
  (curtails_iff .sample (sampleMixed (41 / 16)) sampleLimit (sampleMixed_nonneg (.inl rfl)) (sampleMixed_floats (.inl rfl))).2
    (.inr (by decide +kernel))

/-- **The connector that does not charge is cut down with the one that does.** -/
theorem preparing_connector_curtailed :
    (termsOf .sample (sampleMixed 20) sampleLimit).Nonneg .sample ∧
    (termsOf .sample (sampleMixed 20) sampleLimit).Floats .sample ∧
    (termsOf .sample (sampleMixed 20) sampleLimit).cap 2 = 20 ∧ setpointsAfter .sample (sampleMixed 20) sampleLimit 2 = 16 ∧
    ¬Curtails .sample (termsOf .sample (sampleMixed 20) sampleLimit) (setpointsAfter .sample (sampleMixed 20) sampleLimit) := by
  refine ⟨sampleMixed_nonneg (.inr rfl), sampleMixed_floats (.inr rfl), by decide +kernel, by decide +kernel, fun h => ?_⟩
  exact absurd (h.spared 2 (by decide +kernel) (by decide +kernel)) (by decide +kernel)

end Simu
