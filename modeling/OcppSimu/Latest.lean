import Mathlib.Data.List.Nodup
/-!
# Latest — states that the last message with each key decides

A store keeps of a sequence of messages the last with each key (`latest`), and hands over what it keeps in any order
(`Handed`).  Where each message overwrites what its key shows and nothing else (`Overwrites`), the keys show what the
last messages say: whoever was handed the messages kept sees what whoever heard them all does.
-/
namespace Latest

variable {κ κ' μ μ' σ ν : Type} [DecidableEq κ] [DecidableEq κ']

/-- The last message with each key. -/
def latest (key : μ → κ) (l : List μ) : κ → Option μ :=
  l.foldl (fun kept m => Function.update kept (key m) (some m)) (fun _ => none)

variable {key : μ → κ}

theorem foldl_update (l : List μ) (f : κ → Option μ) (k : κ) :
    l.foldl (fun kept m => Function.update kept (key m) (some m)) f k = (latest key l k).or (f k) := by
  unfold latest
  induction l generalizing f with
  | nil => rfl
  | cons m l ih =>
    rw [List.foldl_cons, List.foldl_cons, ih, ih (Function.update (fun _ => none) _ _), Option.or_assoc]
    by_cases hk : k = key m
    · rw [hk, Function.update_self, Function.update_self]
      rfl
    · rw [Function.update_of_ne hk, Function.update_of_ne hk]
      rfl

theorem latest_append (l l' : List μ) (k : κ) : latest key (l ++ l') k = (latest key l' k).or (latest key l k) := by
  unfold latest
  rw [List.foldl_append]
  exact foldl_update l' _ k

theorem latest_singleton (m : μ) (k : κ) : latest key [m] k = if key m = k then some m else none := by
  show Function.update (fun _ => none) (key m) (some m) k = _
  rw [Function.update_apply]
  exact if_congr eq_comm rfl rfl

theorem latest_cons (m : μ) (l : List μ) (k : κ) :
    latest key (m :: l) k = (latest key l k).or (if key m = k then some m else none) := by
  rw [← List.singleton_append, latest_append, latest_singleton]

theorem mem_of_latest {l : List μ} {k : κ} {m : μ} (h : latest key l k = some m) : m ∈ l ∧ key m = k := by
  induction l with
  | nil => cases h
  | cons x l ih =>
    rw [latest_cons, Option.or_eq_some_iff] at h
    rcases h with h | ⟨-, h⟩
    · exact (ih h).imp (List.mem_cons_of_mem x) id
    · rw [Option.ite_none_right_eq_some] at h
      obtain ⟨hk, hm⟩ := h
      obtain rfl := Option.some.inj hm
      exact ⟨List.mem_cons_self, hk⟩

theorem exists_latest {l : List μ} {m : μ} (h : m ∈ l) : ∃ x, latest key l (key m) = some x := by
  induction l with
  | nil => cases h
  | cons y l ih =>
    simp only [latest_cons, Option.or_eq_some_iff]
    cases hl : latest key l (key m) with
    | some x => exact ⟨x, .inl rfl⟩
    | none =>
      rcases List.mem_cons.1 h with rfl | hm
      · exact ⟨m, .inr ⟨rfl, if_pos rfl⟩⟩
      · obtain ⟨x, hx⟩ := ih hm
        rw [hl] at hx
        cases hx

theorem latest_map (g : μ' → μ) (l : List μ') (k : κ) :
    latest key (l.map g) k = (latest (key ∘ g) l k).map g := by
  induction l with
  | nil => rfl
  | cons m l ih =>
    rw [List.map_cons, latest_cons, latest_cons, ih, Option.map_or, Function.comp_apply]
    split <;> rfl

/-- **A part of the messages under keys of its own.** -/
theorem latest_filter {key' : μ → κ'} {p : μ → Bool} {l : List μ} {k : κ} {k' : κ'}
    (h : ∀ m ∈ l, p m = true ∧ key' m = k' ↔ key m = k) : latest key' (l.filter p) k' = latest key l k := by
  induction l with
  | nil => rfl
  | cons m l ih =>
    have hm := h m List.mem_cons_self
    have hl := ih (fun x hx => h x (List.mem_cons_of_mem m hx))
    rw [List.filter_cons, latest_cons]
    by_cases hp : p m = true
    · rw [if_pos hp, latest_cons, hl]
      exact congrArg _ (if_congr (by rw [← hm]; exact (and_iff_right hp).symm) rfl rfl)
    · rw [if_neg hp, hl, if_neg (fun hk => hp (hm.2 hk).1), Option.or_none]

theorem latest_of_nodup {l : List μ} (hd : (l.map key).Nodup) {m : μ} (hm : m ∈ l) : latest key l (key m) = some m := by
  induction l with
  | nil => cases hm
  | cons x l ih =>
    rw [List.map_cons, List.nodup_cons] at hd
    rw [latest_cons]
    rcases List.mem_cons.1 hm with rfl | hm
    · have hnone : latest key l (key m) = none := by
        by_contra hn
        obtain ⟨y, hy⟩ := Option.ne_none_iff_exists'.1 hn
        obtain ⟨hmem, hkey⟩ := mem_of_latest hy
        exact hd.1 (List.mem_map.2 ⟨y, hmem, hkey⟩)
      rw [hnone, if_pos rfl]
      rfl
    · rw [ih hd.2 hm]
      rfl

/-- **What a store hands over**: a message of each key it has one of, in any order. -/
structure Handed (key : μ → κ) (kept : κ → Option μ) (l : List μ) : Prop where
  distinct : (l.map key).Nodup
  mem : ∀ m, m ∈ l ↔ kept (key m) = some m

theorem handed_of_perm {l l' : List μ} (hd : (l.map key).Nodup) (h : l'.Perm l) : Handed key (latest key l) l' := by
  refine ⟨(h.map key).nodup_iff.2 hd, fun m => ?_⟩
  rw [h.mem_iff]
  exact ⟨latest_of_nodup hd, fun hm => (mem_of_latest hm).1⟩

/-- The messages handed over are the last. -/
theorem Handed.latest_eq {kept : κ → Option μ} {l : List μ} (h : Handed key kept l)
    (hk : ∀ k m, kept k = some m → key m = k) : latest key l = kept := by
  funext k
  cases hl : latest key l k with
  | some m =>
    obtain ⟨hm, rfl⟩ := mem_of_latest hl
    exact ((h.mem m).1 hm).symm
  | none =>
    cases hf : kept k with
    | none => rfl
    | some m =>
      obtain rfl := hk k m hf
      rw [latest_of_nodup h.distinct ((h.mem m).2 hf)] at hl
      cases hl

/-- **A message overwrites what its key shows**, and nothing else, in the states that are good for it. -/
structure Overwrites (apply : σ → μ → σ) (key : μ → κ) (value : μ → ν) (view : σ → κ → ν) (Fits : μ → Prop)
    (Good : σ → Prop) : Prop where
  good : ∀ s m, Good s → Fits m → Good (apply s m)
  self : ∀ s m, Good s → Fits m → view (apply s m) (key m) = value m
  other : ∀ s m k, Good s → Fits m → k ≠ key m → view (apply s m) k = view s k

variable {apply : σ → μ → σ} {value : μ → ν} {view : σ → κ → ν} {Fits : μ → Prop} {Good : σ → Prop}

omit [DecidableEq κ] in
theorem Overwrites.good_foldl (h : Overwrites apply key value view Fits Good) {l : List μ} (hl : ∀ m ∈ l, Fits m) {s : σ}
    (hs : Good s) : Good (l.foldl apply s) := by
  induction l generalizing s with
  | nil => exact hs
  | cons m l ih =>
    exact ih (fun x hx => hl x (List.mem_cons_of_mem m hx)) (h.good s m hs (hl m List.mem_cons_self))

/-- **The last messages decide.** -/
theorem Overwrites.view_foldl (h : Overwrites apply key value view Fits Good) {l : List μ} (hl : ∀ m ∈ l, Fits m) {s : σ} (hs : Good s) (k : κ) :
    view (l.foldl apply s) k = ((latest key l k).map value).getD (view s k) := by
  induction l generalizing s with
  | nil => rfl
  | cons m l ih =>
    have hm := hl m List.mem_cons_self
    rw [List.foldl_cons, ih (fun x hx => hl x (List.mem_cons_of_mem m hx)) (h.good s m hs hm), latest_cons]
    cases hlast : latest key l k with
    | some y => rfl
    | none =>
      by_cases hk : key m = k
      · rw [if_pos hk, ← hk]
        exact h.self s m hs hm
      · rw [if_neg hk]
        exact h.other s m k hs hm (Ne.symm hk)

end Latest
