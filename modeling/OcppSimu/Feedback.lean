import Mathlib.Data.Set.BooleanAlgebra
import Mathlib.Order.CompletePartialOrder
import Mathlib.Order.Monotone.Basic
/-!
# Feedback — a level that turns things off, and the things on that make the level

The higher the level, the fewer things are on; the more things are on, the higher the next level.  The sets of things on
in two rounds are therefore one inside the other, and if the second and the third are not the same, something has come
back by the third (`exists_return`).  If they are the same, nothing changes any more (`settled`).
-/
namespace Feedback

/-! ## Lists that return -/

section Returns

variable {α : Type*}

/-- **The list returns to a value it has left.** -/
def Returns (l : List α) : Prop := ∃ k < l.length, ∃ j < k, ∃ i < j, l[i]? = l[k]? ∧ l[j]? ≠ l[i]?

instance [DecidableEq α] (l : List α) : Decidable (Returns l) := by
  unfold Returns
  infer_instance

/-- The first `n` values of a sequence. -/
def trail (s : Nat → α) (n : Nat) : List α := (List.range n).map s

theorem trail_succ (s : Nat → α) (n : Nat) : trail s (n + 1) = trail s n ++ [s n] := by
  unfold trail
  rw [List.range_succ, List.map_append, List.map_singleton]

@[simp] theorem length_trail (s : Nat → α) (n : Nat) : (trail s n).length = n := by simp [trail]

theorem getElem?_trail (s : Nat → α) {n i : Nat} (hi : i < n) : (trail s n)[i]? = some (s i) := by simp [trail, hi]

theorem returns_trail_iff (s : Nat → α) (n : Nat) :
    Returns (trail s n) ↔ ∃ k < n, ∃ j < k, ∃ i < j, s i = s k ∧ s j ≠ s i := by
  have hget : ∀ {i j k : Nat}, i < j → j < k → k < n → (((trail s n)[i]? = (trail s n)[k]? ∧
      (trail s n)[j]? ≠ (trail s n)[i]?) ↔ (s i = s k ∧ s j ≠ s i)) := by
    intro i j k hij hjk hk
    rw [getElem?_trail s (show i < n by omega), getElem?_trail s (show j < n by omega), getElem?_trail s hk]
    simp
  unfold Returns
  rw [length_trail]
  constructor
  · rintro ⟨k, hk, j, hjk, i, hij, h⟩
    exact ⟨k, hk, j, hjk, i, hij, (hget hij hjk hk).1 h⟩
  · rintro ⟨k, hk, j, hjk, i, hij, h⟩
    exact ⟨k, hk, j, hjk, i, hij, (hget hij hjk hk).2 h⟩

/-- **A sequence settled from its third value on** returns only if that value is the first and not the second. -/
theorem not_returns_of_settled {s : Nat → α} (hs : ∀ n, s (n + 2) = s 2) (h : s 0 = s 2 → s 1 = s 0) (n : Nat) :
    ¬Returns (trail s n) := by
  rw [returns_trail_iff]
  rintro ⟨k, -, j, hjk, i, hij, hik, hji⟩
  have late : ∀ m, 2 ≤ m → s m = s 2 := by
    intro m hm
    have hm' := hs (m - 2)
    rwa [Nat.sub_add_cancel hm] at hm'
  have hk : s k = s 2 := late k (by omega)
  by_cases hj : 2 ≤ j
  · exact hji ((late j hj).trans (hk.symm.trans hik.symm))
  · obtain rfl : i = 0 := by omega
    obtain rfl : j = 1 := by omega
    exact hji (h (hik.trans hk))

end Returns

/-! ## The loop -/

section

variable {ι X : Type*} (on : X → Set ι) (level : Set ι → X)

/-- The level one round later. -/
def next (x : X) : X := level (on x)

variable {on level} {x : X}

/-- **What is on for two rounds stays on.** -/
theorem settled (h : on (next on level x) = on x) (n : Nat) : on ((next on level)^[n] x) = on x := by
  induction n with
  | zero => rfl
  | succ n ih =>
    rw [Function.iterate_succ_apply']
    have hn : next on level ((next on level)^[n] x) = next on level x := congrArg level ih
    rw [hn, h]

/-- **What is on is not settled after the second round only if something has come back by the third.** -/
theorem exists_return [LinearOrder X] (hon : Antitone on) (hlevel : Monotone level)
    (h : on (next on level (next on level x)) ≠ on (next on level x)) :
    ∃ i, (i ∈ on x ↔ i ∈ on (next on level (next on level x))) ∧ ¬(i ∈ on (next on level x) ↔ i ∈ on x) := by
  have hne : on x ≠ on (next on level x) := fun he => h (congrArg (fun a => on (level a)) he).symm
  generalize h₁ : next on level x = x₁ at h hne ⊢
  generalize h₂ : next on level x₁ = x₂ at h ⊢
  rcases le_total x x₁ with hx | hx
  · -- fewer things are on in the second round, so more in the third
    have hs₁ : on x₁ ⊆ on x := hon hx
    have hx₂ : next on level x₁ ≤ next on level x := hlevel hs₁
    rw [h₁, h₂] at hx₂
    have hs₂ : on x₁ ⊆ on x₂ := hon hx₂
    rcases le_total x x₂ with hc | hc
    · obtain ⟨i, hi, hn⟩ := Set.exists_of_ssubset (hs₂.ssubset_of_ne h.symm)
      exact ⟨i, ⟨fun _ => hi, fun _ => hon hc hi⟩, fun he => hn (he.2 (hon hc hi))⟩
    · obtain ⟨i, hi, hn⟩ := Set.exists_of_ssubset (hs₁.ssubset_of_ne hne.symm)
      exact ⟨i, ⟨fun h => hon hc h, fun _ => hi⟩, fun he => hn (he.2 hi)⟩
  · have hs₁ : on x ⊆ on x₁ := hon hx
    have hx₂ : next on level x ≤ next on level x₁ := hlevel hs₁
    rw [h₁, h₂] at hx₂
    have hs₂ : on x₂ ⊆ on x₁ := hon hx₂
    rcases le_total x x₂ with hc | hc
    · obtain ⟨i, hi, hn⟩ := Set.exists_of_ssubset (hs₁.ssubset_of_ne hne)
      exact ⟨i, ⟨fun h => absurd h hn, fun h => absurd (hon hc h) hn⟩, fun he => hn (he.1 hi)⟩
    · obtain ⟨i, hi, hn⟩ := Set.exists_of_ssubset (hs₂.ssubset_of_ne h)
      exact ⟨i, ⟨fun h => absurd (hon hc h) hn, fun h => absurd h hn⟩, fun he => hn (hon hc (he.1 hi))⟩

end

end Feedback
