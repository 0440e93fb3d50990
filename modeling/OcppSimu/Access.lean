import Mathlib.Data.List.Basic
/-!
# Access — programs that fail where they read what is not there

A program over a partial reading of its input ends with a value or fails, and a failure ends everything after it.  A
loop that reads every element and passes over those that give nothing returns exactly where every reading does, and has
then done its work for the elements that give something (`foldRead_eq_ok_iff`).
-/
namespace Access

variable {ε α β σ ι κ : Type}

/-- **The program ends with a value.** -/
def Returns (m : Except ε α) : Prop := ∃ a, m = .ok a

/-- A reading that has to give something. -/
def demand (e : ε) : Option α → Except ε α
  | some a => .ok a
  | none => .error e

/-- **A loop that reads every element**, and works on what the reading gives, if it gives anything. -/
def foldRead (read : ι → Except ε (Option κ)) (work : σ → κ → σ) (s : σ) : List ι → Except ε σ
  | [] => .ok s
  | i :: l =>
    match read i with
    | .error e => .error e
    | .ok none => foldRead read work s l
    | .ok (some k) => foldRead read work (work s k) l

theorem returns_ok (a : α) : Returns (.ok a : Except ε α) := ⟨a, rfl⟩

theorem bind_eq_ok_iff {m : Except ε α} {k : α → Except ε β} {b : β} :
    m >>= k = .ok b ↔ ∃ a, m = .ok a ∧ k a = .ok b := by
  cases m with
  | error e =>
    constructor
    · intro h
      cases h
    · rintro ⟨a, h, -⟩
      cases h
  | ok a =>
    constructor
    · exact fun h => ⟨a, rfl, h⟩
    · rintro ⟨b, h, hb⟩
      cases h
      exact hb

/-- **A program and what follows it** return where both do. -/
theorem returns_bind_iff {m : Except ε α} {k : α → Except ε β} :
    Returns (m >>= k) ↔ ∃ a, m = .ok a ∧ Returns (k a) := by
  constructor
  · rintro ⟨b, h⟩
    obtain ⟨a, ha, hb⟩ := bind_eq_ok_iff.1 h
    exact ⟨a, ha, b, hb⟩
  · rintro ⟨a, ha, b, hb⟩
    exact ⟨b, bind_eq_ok_iff.2 ⟨a, ha, hb⟩⟩

@[simp] theorem demand_eq_ok_iff {e : ε} {o : Option α} {a : α} : demand e o = .ok a ↔ o = some a := by
  cases o with
  | none =>
    constructor
    · intro h
      cases h
    · intro h
      cases h
  | some b => simp [demand]

/-- **Tests of a list** that return under one condition `c`, with the answers `v`; the loop stops at the first `false`. -/
theorem allM_eq_ok_iff {p : ι → Except ε Bool} {c : Prop} {v : ι → Bool} (hp : ∀ i b, p i = .ok b ↔ c ∧ v i = b) {b : Bool} :
    ∀ {l : List ι}, l ≠ [] → (l.allM p = .ok b ↔ c ∧ l.all v = b)
  | i :: l, _ => by
    have rest : v i = true → c → (l.allM p = .ok b ↔ l.all v = b) := by
      intro hv hc
      cases l with
      | nil => simp [List.allM, pure, Except.pure]
      | cons j l => rw [allM_eq_ok_iff hp (List.cons_ne_nil j l), and_iff_right hc]
    rw [List.allM, bind_eq_ok_iff, List.all_cons]
    constructor
    · rintro ⟨a, ha, hb⟩
      obtain ⟨hc, rfl⟩ := (hp i a).1 ha
      cases hv : v i with
      | false =>
        rw [hv] at hb
        exact ⟨hc, Except.ok.inj hb⟩
      | true =>
        rw [hv] at hb
        exact ⟨hc, (rest hv hc).1 hb⟩
    · rintro ⟨hc, hb⟩
      refine ⟨v i, (hp i _).2 ⟨hc, rfl⟩, ?_⟩
      cases hv : v i with
      | false =>
        rw [hv] at hb
        exact congrArg Except.ok hb
      | true =>
        rw [hv] at hb
        exact (rest hv hc).2 hb

/-- **A loop returns exactly where all its readings do**: `ok` says where a reading returns, and `value` what it then
gives. -/
theorem foldRead_eq_ok_iff {read : ι → Except ε (Option κ)} {work : σ → κ → σ} {ok : ι → Prop} {value : ι → Option κ}
    (hr : ∀ i o, read i = .ok o ↔ ok i ∧ o = value i) {s' : σ} : ∀ {l : List ι} {s : σ},
      foldRead read work s l = .ok s' ↔ (∀ i ∈ l, ok i) ∧ s' = (l.filterMap value).foldl work s
  | [], s => by
    simp only [foldRead, List.filterMap_nil, List.foldl_nil, List.not_mem_nil, false_implies, implies_true, true_and]
    exact ⟨fun h => (Except.ok.inj h).symm, fun h => h ▸ rfl⟩
  | i :: l, s => by
    rw [List.forall_mem_cons]
    cases hi : read i with
    | error e =>
      have hn : ¬ok i := fun ho => by
        rw [(hr i (value i)).2 ⟨ho, rfl⟩] at hi
        cases hi
      simp [foldRead, hi, hn]
    | ok o =>
      obtain ⟨hok, ho⟩ := (hr i o).1 hi
      rw [and_iff_right hok]
      cases o with
      | none => rw [List.filterMap_cons_none ho.symm, ← foldRead_eq_ok_iff hr, foldRead, hi]
      | some k => rw [List.filterMap_cons_some ho.symm, List.foldl_cons, ← foldRead_eq_ok_iff hr, foldRead, hi]

end Access
