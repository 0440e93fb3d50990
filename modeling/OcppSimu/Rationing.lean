import Mathlib.Algebra.BigOperators.Ring.List
import Mathlib.Algebra.Order.BigOperators.Group.List
import Mathlib.Algebra.Order.Field.Basic
import Mathlib.Algebra.Order.Floor.Ring
import Mathlib.Tactic.Ring
import OcppSimu.Rounding
/-!
# Rationing — claims on a supply, cut down in one proportion

Where the claims on a supply exceed it together, each is cut down in the proportion of the supply to their total
(`ration`); what is handed out is rounded down.  The rations of a list add up to the supply or to the claims, whichever
is less (`sum_ration`), and a ration rises with the supply and with the claim itself and falls with the claims of the
others.  Where the machine rounds, a ration is still no more than its claim, and falls with the total.
-/
namespace Rationing

variable {K : Type} [Field K] [LinearOrder K] {supply supply' total total' a b rest : K}

/-- **What a claim `a` gets** of a supply on which the claims together are `total`. -/
def ration (supply total a : K) : K := if supply < total then a * (supply / total) else a

theorem ration_of_le (h : total ≤ supply) : ration supply total a = a := if_neg (not_lt.2 h)

theorem ration_of_lt (h : supply < total) : ration supply total a = a * (supply / total) := if_pos h

theorem ration_zero : ration supply total 0 = 0 := by
  unfold ration
  split
  · exact zero_mul _
  · rfl

/-- **The rations use up the supply, or meet the claims.** -/
theorem sum_ration (h₀ : 0 ≤ supply) (l : List K) : (l.map (ration supply l.sum)).sum = min supply l.sum := by
  by_cases h : supply < l.sum
  · have ht : l.sum ≠ 0 := ne_of_gt (lt_of_le_of_lt h₀ h)
    have hm : l.map (ration supply l.sum) = l.map (fun a => a * (supply / l.sum)) :=
      List.map_congr_left (fun a _ => ration_of_lt h)
    rw [hm, List.sum_map_mul_right, List.map_id', mul_div_cancel₀ _ ht, min_eq_left (le_of_lt h)]
  · have hm : l.map (ration supply l.sum) = l := List.map_id'' (fun a => ration_of_le (not_lt.1 h)) l
    rw [hm, min_eq_right (not_lt.1 h)]

variable [IsStrictOrderedRing K]

/-- A quotient that cuts down is at most 1. -/
theorem div_le_one_of_lt (h₀ : 0 ≤ supply) (h : supply < total) : supply / total ≤ 1 :=
  (div_le_one (lt_of_le_of_lt h₀ h)).2 (le_of_lt h)

theorem ration_nonneg (h₀ : 0 ≤ supply) (ha : 0 ≤ a) : 0 ≤ ration supply total a := by
  unfold ration
  split
  · rename_i h
    exact mul_nonneg ha (div_nonneg h₀ (le_of_lt (lt_of_le_of_lt h₀ h)))
  · exact ha

theorem ration_le (h₀ : 0 ≤ supply) (ha : 0 ≤ a) : ration supply total a ≤ a := by
  unfold ration
  split
  · rename_i h
    exact mul_le_of_le_one_right ha (div_le_one_of_lt h₀ h)
  · exact le_refl a

/-- **The higher claim gets the higher ration.** -/
theorem ration_mono (h₀ : 0 ≤ supply) (hab : a ≤ b) : ration supply total a ≤ ration supply total b := by
  unfold ration
  split
  · rename_i h
    exact mul_le_mul_of_nonneg_right hab (div_nonneg h₀ (le_of_lt (lt_of_le_of_lt h₀ h)))
  · exact hab

/-- **A ration rises with the supply.** -/
theorem ration_mono_supply (h₀ : 0 ≤ supply) (ha : 0 ≤ a) (hs : supply ≤ supply') :
    ration supply total a ≤ ration supply' total a := by
  by_cases h' : supply' < total
  · have h := lt_of_le_of_lt hs h'
    rw [ration_of_lt h, ration_of_lt h']
    have ht : 0 ≤ total := le_of_lt (lt_of_le_of_lt h₀ h)
    exact mul_le_mul_of_nonneg_left (div_le_div_of_nonneg_right hs ht) ha
  · rw [ration_of_le (not_lt.1 h')]
    exact ration_le h₀ ha

/-- **A ration falls with the total of the claims.** -/
theorem ration_anti_total (h₀ : 0 ≤ supply) (ha : 0 ≤ a) (ht : total ≤ total') :
    ration supply total' a ≤ ration supply total a := by
  by_cases h : supply < total
  · have htotal : 0 < total := lt_of_le_of_lt h₀ h
    rw [ration_of_lt h, ration_of_lt (lt_of_lt_of_le h ht)]
    exact mul_le_mul_of_nonneg_left (div_le_div_of_nonneg_left h₀ htotal ht) ha
  · rw [ration_of_le (not_lt.1 h)]
    exact ration_le h₀ ha

/-- **A ration rises with its own claim**, although the total rises with it. -/
theorem ration_mono_own (h₀ : 0 ≤ supply) (ha : 0 ≤ a) (hr : 0 ≤ rest) (hab : a ≤ b) :
    ration supply (rest + a) a ≤ ration supply (rest + b) b := by
  have hb : 0 ≤ b := le_trans ha hab
  have hle : rest + a ≤ rest + b := add_le_add_right hab rest
  have cross : a * rest ≤ b * rest := mul_le_mul_of_nonneg_right hab hr
  by_cases h' : supply < rest + b
  · have hb' : 0 < rest + b := lt_of_le_of_lt h₀ h'
    rw [ration_of_lt h', ← mul_div_assoc, le_div_iff₀ hb']
    by_cases h : supply < rest + a
    · have ha' : 0 < rest + a := lt_of_le_of_lt h₀ h
      rw [ration_of_lt h, ← mul_div_assoc, div_mul_eq_mul_div, div_le_iff₀ ha']
      calc a * supply * (rest + b) = supply * (a * rest) + supply * (a * b) := by ring
        _ ≤ supply * (b * rest) + supply * (a * b) := add_le_add_left (mul_le_mul_of_nonneg_left cross h₀) _
        _ = b * supply * (rest + a) := by ring
    · rw [ration_of_le (not_lt.1 h)]
      calc a * (rest + b) = a * rest + a * b := by ring
        _ ≤ b * rest + a * b := add_le_add_left cross _
        _ = b * (rest + a) := by ring
        _ ≤ b * supply := mul_le_mul_of_nonneg_left (not_lt.1 h) hb
  · rw [ration_of_le (not_lt.1 h'), ration_of_le (le_trans hle (not_lt.1 h'))]
    exact hab

/-! ## Rounding down -/

section

variable [FloorRing K]

theorem sum_floor_le : ∀ l : List K, (l.map (fun x => (⌊x⌋ : K))).sum ≤ l.sum
  | [] => le_refl _
  | x :: l => by
    rw [List.map_cons, List.sum_cons, List.sum_cons]
    exact add_le_add (Int.floor_le x) (sum_floor_le l)

/-- **Rounding loses less than one for each.** -/
theorem sum_lt_sum_floor : ∀ l : List K, l ≠ [] → l.sum - l.length < (l.map (fun x => (⌊x⌋ : K))).sum
  | [x], _ => by simp
  | x :: y :: l, _ => by
    have ih := sum_lt_sum_floor (y :: l) (List.cons_ne_nil y l)
    have hl : ((x :: y :: l).length : K) = 1 + (y :: l).length := by
      rw [List.length_cons, Nat.cast_add, Nat.cast_one, add_comm]
    rw [List.map_cons, List.sum_cons, List.sum_cons, hl, add_sub_add_comm]
    exact add_lt_add (Int.sub_one_lt_floor x) ih

end

end Rationing

/-! ## Rounded rations -/

namespace Rounding

variable {K : Type} [Field K] [LinearOrder K] (r : Rounding K) {supply total total' a : K}

/-- **The ration of a claim**, the proportion and the product rounded. -/
def ration (supply total a : K) : K := if supply < total then r.round (a * r.round (supply / total)) else a

theorem ration_of_le (h : total ≤ supply) : r.ration supply total a = a := if_neg (not_lt.2 h)

theorem ration_of_lt (h : supply < total) : r.ration supply total a = r.round (a * r.round (supply / total)) := if_pos h

theorem exact_ration : (exact K).ration supply total a = Rationing.ration supply total a := rfl

theorem ration_zero : r.ration supply total 0 = 0 := by
  unfold ration
  split
  · rw [zero_mul, r.zero]
  · rfl

variable [IsStrictOrderedRing K]

theorem ration_nonneg (h₀ : 0 ≤ supply) (ha : 0 ≤ a) : 0 ≤ r.ration supply total a := by
  unfold ration
  split
  · rename_i h
    exact r.round_nonneg (mul_nonneg ha (r.round_nonneg (div_nonneg h₀ (h₀.trans h.le))))
  · exact ha

/-- **A cut leaves no more than what is held.** -/
theorem round_mul_le (ht : 0 < total) (h : supply < total) (ha : 0 ≤ a) (hh : r.Holds a) :
    r.round (a * r.round (supply / total)) ≤ a :=
  r.round_le hh (mul_le_of_le_one_right ha (r.round_le_one ((div_le_one ht).2 h.le)))

/-- **A ration falls with the total of the claims.** -/
theorem ration_anti_total (h₀ : 0 ≤ supply) (ha : 0 ≤ a) (hh : r.Holds a) (ht : total ≤ total') :
    r.ration supply total' a ≤ r.ration supply total a := by
  by_cases h' : supply < total'
  · rw [r.ration_of_lt h']
    by_cases h : supply < total
    · rw [r.ration_of_lt h]
      have hdiv : supply / total' ≤ supply / total := div_le_div_of_nonneg_left h₀ (h₀.trans_lt h) ht
      exact r.mono (mul_le_mul_of_nonneg_left (r.mono hdiv) ha)
    · rw [r.ration_of_le (not_lt.1 h)]
      exact r.round_mul_le (h₀.trans_lt h') h' ha hh
  · rw [r.ration_of_le (not_lt.1 h'), r.ration_of_le (ht.trans (not_lt.1 h'))]

/-- **Rounded down, a ration is the claim rounded down** exactly where it is no less. -/
theorem floor_ration_eq_iff [FloorRing K] (ht : 0 < total) (h : supply < total) (ha : 0 ≤ a) (hh : r.Holds a) :
    ⌊r.ration supply total a⌋ = ⌊a⌋ ↔ ⌊a⌋ ≤ r.round (a * r.round (supply / total)) := by
  rw [r.ration_of_lt h, ← Int.le_floor]
  exact ⟨fun he => he.ge, fun hf => le_antisymm (Int.floor_mono (r.round_mul_le ht h ha hh)) hf⟩

end Rounding
