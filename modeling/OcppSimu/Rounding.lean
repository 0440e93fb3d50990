import Mathlib.Algebra.BigOperators.Group.List.Basic
import Mathlib.Algebra.Order.Field.Basic
import Mathlib.Algebra.Order.Floor.Ring
import Mathlib.Data.Int.Log
import Mathlib.Data.Rat.Floor
import Mathlib.Tactic.Linarith
import Mathlib.Tactic.Ring
/-!
# Rounding — arithmetic with rounded results

A machine holds some of the numbers of a field, and rounds the result of an operation to one of them.  All that is asked
of that is that it keeps the order and the numbers that are held, 0 and 1 among them (`Rounding`).  So do the binary
floats of a precision, to the nearest and in a tie to the even one (`Rounding.binary`), and so does a machine that holds
every number (`Rounding.exact`).
-/
structure Rounding (K : Type) [Field K] [LinearOrder K] where
  round : K → K
  mono : Monotone round
  idem : ∀ x, round (round x) = round x
  zero : round 0 = 0
  one : round 1 = 1

namespace Rounding

variable {K : Type} [Field K] [LinearOrder K] (r : Rounding K) {x y : K}

/-- The number is one that is held. -/
def Holds (x : K) : Prop := r.round x = x

instance (x : K) : Decidable (r.Holds x) := inferInstanceAs (Decidable (r.round x = x))

theorem holds_round (x : K) : r.Holds (r.round x) := r.idem x

theorem holds_zero : r.Holds 0 := r.zero

theorem holds_min (hx : r.Holds x) (hy : r.Holds y) : r.Holds (min x y) := by
  rcases min_choice x y with h | h <;> rw [h] <;> assumption

theorem round_le (hy : r.Holds y) (h : x ≤ y) : r.round x ≤ y := (r.mono h).trans_eq hy

theorem le_round (hx : r.Holds x) (h : x ≤ y) : x ≤ r.round y := (Eq.symm hx).trans_le (r.mono h)

theorem round_nonneg (h : 0 ≤ x) : 0 ≤ r.round x := r.le_round r.holds_zero h

theorem round_le_one (h : x ≤ 1) : r.round x ≤ 1 := r.round_le r.one h

/-! ## Sums -/

/-- **The sum of a list**, from its head on, rounded at each step. -/
def sum (l : List K) : K := l.foldl (fun total x => r.round (total + x)) 0

/-- What is not counted adds nothing. -/
theorem sum_map_ite {α : Type} (p : α → Prop) [DecidablePred p] (f : α → K) (l : List α) :
    r.sum (l.map (fun a => if p a then f a else 0)) = r.sum ((l.filter (fun a => decide (p a))).map f) := by
  have h : ∀ (l : List α) (total : K), r.Holds total →
      (l.map (fun a => if p a then f a else 0)).foldl (fun total x => r.round (total + x)) total =
        ((l.filter (fun a => decide (p a))).map f).foldl (fun total x => r.round (total + x)) total := by
    intro l
    induction l with
    | nil => exact fun _ _ => rfl
    | cons a l ih =>
      intro total ht
      rw [List.map_cons, List.foldl_cons, List.filter_cons]
      by_cases ha : p a
      · rw [if_pos ha, if_pos (decide_eq_true ha), List.map_cons, List.foldl_cons]
        exact ih _ (r.holds_round _)
      · rw [if_neg ha, if_neg (by simpa using ha), add_zero, ht]
        exact ih total ht
  exact h l 0 r.holds_zero

/-- The same, counted as it comes. -/
theorem foldl_ite_eq_sum {α : Type} (p : α → Prop) [DecidablePred p] (f : α → K) (l : List α) :
    l.foldl (fun total a => if p a then r.round (total + f a) else total) 0 =
      r.sum (l.map (fun a => if p a then f a else 0)) := by
  rw [sum_map_ite, sum, List.foldl_map, List.foldl_filter]
  simp only [decide_eq_true_eq]

section

variable [IsStrictOrderedRing K]

theorem foldl_mono {total total' : K} {l l' : List K} (ht : total ≤ total') (h : List.Forall₂ (· ≤ ·) l l') :
    l.foldl (fun total x => r.round (total + x)) total ≤ l'.foldl (fun total x => r.round (total + x)) total' := by
  induction h generalizing total total' with
  | nil => exact ht
  | cons hx _ ih => exact ih (r.mono (add_le_add ht hx))

/-- **A sum rises with what it is made of.** -/
theorem sum_mono {l l' : List K} (h : List.Forall₂ (· ≤ ·) l l') : r.sum l ≤ r.sum l' := r.foldl_mono le_rfl h

theorem le_foldl {total : K} (ht : r.Holds total) {l : List K} (h : ∀ x ∈ l, 0 ≤ x) :
    total ≤ l.foldl (fun total x => r.round (total + x)) total := by
  induction l generalizing total with
  | nil => exact le_rfl
  | cons x l ih =>
    have hx : total ≤ r.round (total + x) := r.le_round ht (le_add_of_nonneg_right (h x List.mem_cons_self))
    exact hx.trans (ih (r.holds_round _) (fun y hy => h y (List.mem_cons_of_mem x hy)))

theorem sum_nonneg {l : List K} (h : ∀ x ∈ l, 0 ≤ x) : 0 ≤ r.sum l := r.le_foldl r.holds_zero h

/-- **What is held and counted is at most the sum.** -/
theorem le_sum {l : List K} (h : ∀ x ∈ l, 0 ≤ x) (hx : r.Holds x) (hm : x ∈ l) : x ≤ r.sum l := by
  obtain ⟨l₁, l₂, rfl⟩ := List.append_of_mem hm
  have h₁ : 0 ≤ r.sum l₁ := r.sum_nonneg (fun y hy => h y (List.mem_append_left _ hy))
  have hle : x ≤ r.round (r.sum l₁ + x) := r.le_round hx (le_add_of_nonneg_left h₁)
  unfold sum
  rw [List.foldl_append, List.foldl_cons]
  refine hle.trans (r.le_foldl (r.holds_round _) (fun y hy => h y ?_))
  exact List.mem_append_right _ (List.mem_cons_of_mem _ hy)

end

/-! ## Exact arithmetic -/

/-- **Every number is held.** -/
def exact (K : Type) [Field K] [LinearOrder K] : Rounding K := ⟨id, monotone_id, fun _ => rfl, rfl, rfl⟩

theorem exact_round (x : K) : (exact K).round x = x := rfl

theorem exact_sum (l : List K) : (exact K).sum l = l.sum := List.sum_eq_foldl.symm

/-! ## Binary floats -/

section

variable [FloorRing K]

/-- The nearest integer, in a tie the even one. -/
def nearest (x : K) : ℤ :=
  if Int.fract x < 1 / 2 then ⌊x⌋ else if 1 / 2 < Int.fract x then ⌊x⌋ + 1 else if ⌊x⌋ % 2 = 0 then ⌊x⌋ else ⌊x⌋ + 1

/-- The exponent of the last of `p` digits of a number, from `least` on. -/
def exponent (p : ℕ) (least : ℤ) (x : K) : ℤ := max (Int.log 2 |x| + 1 - p) least

/-- The nearest number with `p` binary digits. -/
def toNearest (p : ℕ) (least : ℤ) (x : K) : K := nearest (x / 2 ^ exponent p least x) * 2 ^ exponent p least x

theorem floor_le_nearest (x : K) : ⌊x⌋ ≤ nearest x ∧ nearest x ≤ ⌊x⌋ + 1 := by
  unfold nearest
  split_ifs <;> omega

variable {p : ℕ} {least : ℤ}

theorem least_le_exponent (x : K) : least ≤ exponent p least x := le_max_right _ _

variable [IsStrictOrderedRing K]

theorem nearest_intCast (k : ℤ) : nearest (k : K) = k := by
  unfold nearest
  rw [Int.fract_intCast, if_pos one_half_pos, Int.floor_intCast]

theorem nearest_mono (h : x ≤ y) : nearest x ≤ nearest y := by
  have hf := Int.floor_mono h
  rcases lt_or_eq_of_le hf with hlt | heq
  · have hx := (floor_le_nearest x).2
    have hy := (floor_le_nearest y).1
    omega
  · have hfract : Int.fract x ≤ Int.fract y := by
      unfold Int.fract
      rw [heq]
      exact sub_le_sub_right h _
    unfold nearest
    rw [heq]
    by_cases hy : Int.fract y < 1 / 2
    · rw [if_pos hy, if_pos (hfract.trans_lt hy)]
    · rw [if_neg hy]
      by_cases hy' : 1 / 2 < Int.fract y
      · rw [if_pos hy']
        split_ifs <;> omega
      · have hhalf : Int.fract y = 1 / 2 := le_antisymm (not_lt.1 hy') (not_lt.1 hy)
        rw [if_neg hy', if_neg (not_lt.2 (hfract.trans_eq hhalf))]
        split_ifs <;> omega

theorem pos_ulp (e : ℤ) : (0 : K) < 2 ^ e := zpow_pos two_pos e

/-- A number has at most `p` digits before its last. -/
theorem abs_lt_of_exponent (x : K) : |x| < 2 ^ (exponent p least x + p) := by
  have hlog : |x| < (2 : ℕ) ^ (Int.log 2 |x| + 1) := Int.lt_zpow_succ_log_self one_lt_two |x|
  refine lt_of_lt_of_le (by exact_mod_cast hlog) (zpow_le_zpow_right₀ one_le_two ?_)
  have hle : Int.log 2 |x| + 1 - p ≤ exponent p least x := le_max_left _ _
  omega

/-- And no fewer, unless its last is the least there is. -/
theorem le_abs_of_exponent (hx : x ≠ 0) (h : least < exponent p least x) : 2 ^ (exponent p least x + p - 1) ≤ |x| := by
  have he : exponent p least x = Int.log 2 |x| + 1 - p := by
    unfold exponent at h ⊢
    exact max_eq_left ((lt_max_iff.1 h).resolve_right (lt_irrefl _)).le
  have hlog : ((2 : ℕ) : K) ^ Int.log 2 |x| ≤ |x| := Int.zpow_log_le_self one_lt_two (abs_pos.2 hx)
  rw [he, show Int.log 2 |x| + 1 - p + p - 1 = Int.log 2 |x| by ring]
  exact_mod_cast hlog

theorem exponent_le {e : ℤ} (he : least ≤ e) (hx : x ≠ 0) (h : |x| < 2 ^ (e + p)) : exponent p least x ≤ e := by
  by_contra hlt
  have hle := le_abs_of_exponent hx (he.trans_lt (not_le.1 hlt))
  have hpow : (2 : K) ^ (e + p) ≤ 2 ^ (exponent p least x + p - 1) := zpow_le_zpow_right₀ one_le_two (by omega)
  exact absurd (hpow.trans hle) (not_le.2 h)

/-- **A number is rounded to where its last digit is.** -/
theorem toNearest_le {k : ℤ} (h : x ≤ k * 2 ^ exponent p least x) : toNearest p least x ≤ k * 2 ^ exponent p least x := by
  have hk := nearest_mono ((div_le_iff₀ (pos_ulp (exponent p least x))).2 h)
  rw [nearest_intCast] at hk
  exact mul_le_mul_of_nonneg_right (Int.cast_le.2 hk) (pos_ulp _).le

theorem le_toNearest {k : ℤ} (h : k * 2 ^ exponent p least x ≤ x) : k * 2 ^ exponent p least x ≤ toNearest p least x := by
  have hk := nearest_mono ((le_div_iff₀ (pos_ulp (exponent p least x))).2 h)
  rw [nearest_intCast] at hk
  exact mul_le_mul_of_nonneg_right (Int.cast_le.2 hk) (pos_ulp _).le

theorem toNearest_of_eq {k : ℤ} (h : x = k * 2 ^ exponent p least x) : toNearest p least x = x :=
  le_antisymm ((toNearest_le h.le).trans_eq h.symm) (h.le.trans (le_toNearest h.ge))

theorem toNearest_zero : toNearest p least (0 : K) = 0 := toNearest_of_eq (k := 0) (by simp)

/-- A power of two that is not below the last digit is a multiple of it. -/
theorem zpow_eq_mul {e n : ℤ} (h : e ≤ n) : (2 : K) ^ n = ((2 ^ (n - e).toNat : ℤ) : K) * 2 ^ e := by
  have hn : ((n - e).toNat : ℤ) = n - e := Int.toNat_of_nonneg (by omega)
  rw [Int.cast_pow, Int.cast_ofNat, ← zpow_natCast, hn, ← zpow_add₀ two_pos.ne', sub_add_cancel]

theorem toNearest_le_zpow {n : ℤ} (hn : exponent p least x ≤ n) (h : x ≤ 2 ^ n) : toNearest p least x ≤ 2 ^ n := by
  rw [zpow_eq_mul hn] at h ⊢
  exact toNearest_le h

theorem zpow_le_toNearest {n : ℤ} (hn : exponent p least x ≤ n) (h : 2 ^ n ≤ x) : 2 ^ n ≤ toNearest p least x := by
  rw [zpow_eq_mul hn] at h ⊢
  exact le_toNearest h

theorem toNearest_le_neg_zpow {n : ℤ} (hn : exponent p least x ≤ n) (h : x ≤ -2 ^ n) : toNearest p least x ≤ -2 ^ n := by
  rw [zpow_eq_mul hn, ← neg_mul, ← Int.cast_neg] at h ⊢
  exact toNearest_le h

theorem neg_zpow_le_toNearest {n : ℤ} (hn : exponent p least x ≤ n) (h : -2 ^ n ≤ x) : -2 ^ n ≤ toNearest p least x := by
  rw [zpow_eq_mul hn, ← neg_mul, ← Int.cast_neg] at h ⊢
  exact le_toNearest h

theorem toNearest_nonneg (h : 0 ≤ x) : 0 ≤ toNearest p least x := by
  have hk : ((0 : ℤ) : K) * 2 ^ exponent p least x ≤ x := by rwa [Int.cast_zero, zero_mul]
  simpa using le_toNearest hk

theorem toNearest_nonpos (h : x ≤ 0) : toNearest p least x ≤ 0 := by
  have hk : x ≤ ((0 : ℤ) : K) * 2 ^ exponent p least x := by rwa [Int.cast_zero, zero_mul]
  simpa using toNearest_le hk

/-- The number of the smaller exponent is the smaller one, and a power of two lies between. -/
theorem abs_lt_of_exponent_lt (hy : y ≠ 0) (h : exponent p least x < exponent p least y) :
    |x| < 2 ^ (exponent p least y + p - 1) ∧ 2 ^ (exponent p least y + p - 1) ≤ |y| := by
  have hlt : |x| < 2 ^ (exponent p least x + p) := abs_lt_of_exponent x
  refine ⟨hlt.trans_le (zpow_le_zpow_right₀ one_le_two (by omega)), ?_⟩
  exact le_abs_of_exponent hy (lt_of_le_of_lt (least_le_exponent x) h)

/-- **Rounding to the nearest keeps the order.** -/
theorem toNearest_mono (hp : 1 ≤ p) : Monotone (toNearest p least : K → K) := by
  intro x y h
  by_cases hx : x = 0
  · rw [hx, toNearest_zero]
    exact toNearest_nonneg (hx.symm.trans_le h)
  by_cases hy : y = 0
  · rw [hy, toNearest_zero]
    exact toNearest_nonpos (h.trans_eq hy)
  rcases lt_trichotomy (exponent p least x) (exponent p least y) with he | he | he
  · obtain ⟨hlt, hle⟩ := abs_lt_of_exponent_lt hy he
    have hpos : 0 ≤ y := by
      by_contra hn
      have habs := hlt.trans_le hle
      rw [abs_of_neg (not_le.1 hn), abs_of_neg (h.trans_lt (not_le.1 hn))] at habs
      exact absurd (neg_lt_neg_iff.1 habs) (not_lt.2 h)
    rw [abs_of_nonneg hpos] at hle
    have hx' : x ≤ 2 ^ (exponent p least y + p - 1) := (le_abs_self x).trans hlt.le
    exact (toNearest_le_zpow (by omega) hx').trans (zpow_le_toNearest (by omega) hle)
  · unfold toNearest
    rw [he]
    exact mul_le_mul_of_nonneg_right (Int.cast_le.2 (nearest_mono (div_le_div_of_nonneg_right h (pos_ulp _).le))) (pos_ulp _).le
  · obtain ⟨hlt, hle⟩ := abs_lt_of_exponent_lt hx he
    have hneg : x ≤ 0 := by
      by_contra hn
      have habs := hlt.trans_le hle
      rw [abs_of_pos (not_le.1 hn), abs_of_pos ((not_le.1 hn).trans_le h)] at habs
      exact absurd habs (not_lt.2 h)
    rw [abs_of_nonpos hneg, le_neg] at hle
    have hy' : -2 ^ (exponent p least x + p - 1) ≤ y := (neg_le_neg hlt.le).trans (neg_abs_le y)
    exact (toNearest_le_neg_zpow (by omega) hle).trans (neg_zpow_le_toNearest (by omega) hy')

theorem toNearest_of_mul {n k : ℤ} (hn : exponent p least x ≤ n) (h : x = k * 2 ^ n) : toNearest p least x = x := by
  refine toNearest_of_eq (k := k * 2 ^ (n - exponent p least x).toNat) (h.trans ?_)
  rw [zpow_eq_mul hn, ← mul_assoc, ← Int.cast_mul]

/-- **A number that is rounded has no more digits**: its last is where it was, or it is a power of two. -/
theorem toNearest_idem (hp : 1 ≤ p) (x : K) : toNearest p least (toNearest p least x) = toNearest p least x := by
  have hlt : |x| < 2 ^ (exponent p least x + p) := abs_lt_of_exponent x
  have habs := abs_lt.1 hlt
  have hle : toNearest p least x ≤ 2 ^ (exponent p least x + p) := toNearest_le_zpow (by omega) habs.2.le
  have hge : -2 ^ (exponent p least x + p) ≤ toNearest p least x := neg_zpow_le_toNearest (by omega) habs.1.le
  have hk : ∃ k : ℤ, toNearest p least x = k * 2 ^ exponent p least x := ⟨_, rfl⟩
  have hleast : least ≤ exponent p least x := least_le_exponent x
  generalize toNearest p least x = y at *
  by_cases hy : y = 0
  · rw [hy, toNearest_zero]
  rcases lt_or_eq_of_le (abs_le.2 ⟨hge, hle⟩) with hlt | heq
  · obtain ⟨k, hk⟩ := hk
    exact toNearest_of_mul (exponent_le hleast hy hlt) hk
  · have he : exponent p least y ≤ exponent p least x + p := by
      have hlt : |y| < 2 ^ (exponent p least x + 1 + p) := heq.trans_lt (zpow_lt_zpow_right₀ one_lt_two (by omega))
      have hone : exponent p least y ≤ exponent p least x + 1 := exponent_le (by omega) hy hlt
      omega
    rcases abs_eq (pos_ulp _).le |>.1 heq with h | h
    · exact toNearest_of_mul (k := 1) he (by rw [h, Int.cast_one, one_mul])
    · exact toNearest_of_mul (k := -1) he (by rw [h, Int.cast_neg, Int.cast_one, neg_one_mul])

/-- Whole numbers of no more digits. -/
theorem toNearest_natCast {n : ℕ} (hl : least ≤ 0) (h : n < 2 ^ p) : toNearest p least (n : K) = n := by
  by_cases hn : n = 0
  · rw [hn, Nat.cast_zero, toNearest_zero]
  have habs : |(n : K)| < 2 ^ ((0 : ℤ) + p) := by
    rw [zero_add, zpow_natCast, abs_of_nonneg (Nat.cast_nonneg n)]
    exact_mod_cast h
  exact toNearest_of_mul (n := 0) (k := n) (exponent_le hl (Nat.cast_ne_zero.2 hn) habs) (by simp)

/-- **The binary floats of `p` digits**, none of them below `2 ^ least`. -/
def binary (p : ℕ) (least : ℤ) (hp : 1 ≤ p) (hl : least ≤ 0) : Rounding K where
  round := toNearest p least
  mono := toNearest_mono hp
  idem := toNearest_idem hp
  zero := toNearest_zero
  one := by simpa using toNearest_natCast (K := K) (n := 1) hl (Nat.one_lt_two_pow (by omega))

end

/-- **Single precision**, without an end upwards. -/
def single : Rounding ℚ := binary 24 (-149) (by decide) (by decide)

/-- A third is rounded up, a third of 10 down. -/
example : single.round (1 / 3) = 11184811 / 2 ^ 25 ∧ single.round (10 / 3) = 13981013 / 2 ^ 22 := by decide +kernel

end Rounding
