import Mathlib.Algebra.Group.Basic
import Mathlib.Tactic.Abel
import OcppSimu.Hist
/-!
# Ledger — what accounts are charged, against what a register counts

A register counts along a history; an account is open between an entry that opens it and one that closes it, and is
charged the difference of the register at the two.  Over a history in which no account is opened twice, what was charged
and what is outstanding come to what the register gained while an account was open (`charged_add_outstanding`).
-/
namespace Ledger

open Hist

variable {α R : Type} [AddCommGroup R]

/-- What the register gained at the entries whose past meets `p`. -/
def gained (register : List α → R) (p : List α → Bool) : List α → R
  | [] => 0
  | e :: h => gained register p h + if p h then register (e :: h) - register h else 0

/-- The register when an account was last opened. -/
def opening (register : List α → R) (opens : α → Bool) : List α → R
  | [] => 0
  | e :: h => if opens e then register h else opening register opens h

/-- What the open account comes to so far. -/
def outstanding (register : List α → R) (opens closes : α → Bool) (h : List α) : R :=
  if since opens closes h then register h - opening register opens h else 0

/-- **What was charged**, over all the accounts that were closed. -/
def charged (register : List α → R) (opens closes : α → Bool) : List α → R
  | [] => 0
  | e :: h => charged register opens closes h + if closes e then outstanding register opens closes h else 0

/-- **An entry that keeps the books**: it opens an account only where none is open, and the register stands still while
an account is opened or closed. -/
structure Kept (register : List α → R) (opens closes : α → Bool) (e : α) (h : List α) : Prop where
  single : opens e = true → closes e = false
  fresh : opens e = true → since opens closes h = false
  still : opens e = true ∨ closes e = true → register (e :: h) = register h

variable {register register' : List α → R} {opens closes : α → Bool} {p q : List α → Bool}

/-- **What was charged and what is outstanding is what the register gained while an account was open.** -/
theorem charged_add_outstanding {h : List α} (hk : Always (Kept register opens closes) h) :
    charged register opens closes h + outstanding register opens closes h = gained register (since opens closes) h := by
  induction hk with
  | nil => simp [charged, outstanding, gained]
  | @cons e h he _ ih =>
    rw [charged, gained, ← ih]
    cases ho : opens e with
    | true =>
      simp [outstanding, opening, ho, he.single ho, he.fresh ho, he.still (.inl ho)]
    | false =>
      cases hc : closes e with
      | true => simp [outstanding, ho, hc, he.still (.inr hc)]
      | false =>
        simp only [outstanding, since_cons, opening, ho, hc, Bool.false_or, Bool.not_false, Bool.true_and]
        cases since opens closes h <;> simp
        abel

theorem gained_add_not (register : List α → R) (p : List α → Bool) : ∀ h : List α,
    gained register p h + gained register (fun h => !p h) h = register h - register []
  | [] => by simp [gained]
  | e :: h => by
    have ih := gained_add_not register p h
    have hs : register (e :: h) - register [] = register h - register [] + (register (e :: h) - register h) := by abel
    rw [gained, gained, hs, ← ih]
    cases p h <;> simp <;> abel

/-- Two conditions that agree wherever the register moves. -/
theorem gained_congr {h : List α} (ha : Always (fun e h => register (e :: h) ≠ register h → p h = q h) h) :
    gained register p h = gained register q h := by
  induction ha with
  | nil => rfl
  | @cons e h he _ ih =>
    rw [gained, gained, ih]
    by_cases hr : register (e :: h) = register h
    · simp [hr]
    · rw [he hr]

/-- Two registers that agree so far. -/
theorem outstanding_congr {h : List α} (hr : ∀ l, l <:+ h → register l = register' l) :
    outstanding register opens closes h = outstanding register' opens closes h := by
  have ho : ∀ h : List α, (∀ l, l <:+ h → register l = register' l) →
      opening register opens h = opening register' opens h := by
    intro h
    induction h with
    | nil => intro _; rfl
    | cons e h ih =>
      intro hr
      rw [opening, opening, hr h (List.suffix_cons e h), ih fun l hl => hr l (hl.trans (List.suffix_cons e h))]
  rw [outstanding, outstanding, hr h (List.suffix_refl h), ho h hr]

theorem charged_congr : ∀ {h : List α}, (∀ l, l <:+ h → register l = register' l) →
    charged register opens closes h = charged register' opens closes h
  | [], _ => rfl
  | e :: h, hr => by
    have hs : ∀ l, l <:+ h → register l = register' l := fun l hl => hr l (hl.trans (List.suffix_cons e h))
    rw [charged, charged, charged_congr hs, outstanding_congr hs]

end Ledger
