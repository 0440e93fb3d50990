import Mathlib.Data.Set.Insert
import OcppSimu.Hist
/-!
# Lifecycle — what is acquired is used while it is held, and released once

A history of calls, newest first, of which each acquires a resource, touches or releases it, or does none of these.  The
history is `Disciplined` if no resource is acquired twice and only what is held is touched or released; then a resource
is released as often as it was acquired, but for the one time it is still held (`Disciplined.count`).
-/
namespace Lifecycle

open Hist

/-- What a call does to a resource. -/
inductive Use (ρ : Type)
  | acquires (r : ρ)
  | touches (r : ρ)
  | releases (r : ρ)
  | nothing
  deriving DecidableEq

variable {α ρ : Type} [DecidableEq ρ] (use : α → Use ρ)

def acquires (r : ρ) (e : α) : Bool := decide (use e = .acquires r)

def releases (r : ρ) (e : α) : Bool := decide (use e = .releases r)

/-- **The resource is held**: acquired, and not released since. -/
def held (r : ρ) (h : List α) : Bool := since (acquires use r) (releases use r) h

/-- What a call needs of the calls before it. -/
def allowed (e : α) (h : List α) : Bool :=
  match use e with
  | .acquires r => !h.any (acquires use r)
  | .touches r | .releases r => held use r h
  | .nothing => true

/-- **Every call is allowed.** -/
def Disciplined (h : List α) : Prop := Always (fun e h => allowed use e h = true) h

variable {use} {e : α} {h : List α} {r : ρ}

theorem acquires_eq (r : ρ) (e : α) : acquires use r e = match use e with
    | .acquires s => decide (s = r)
    | _ => false := by
  unfold acquires
  cases use e <;> simp

theorem releases_eq (r : ρ) (e : α) : releases use r e = match use e with
    | .releases s => decide (s = r)
    | _ => false := by
  unfold releases
  cases use e <;> simp

/-- **What a call changes** is whether the resource it acquires or releases is held. -/
theorem held_cons (r : ρ) : held use r (e :: h) =
    match use e with
    | .acquires s => decide (s = r) || held use r h
    | .releases s => !decide (s = r) && held use r h
    | _ => held use r h := by
  unfold held
  rw [since_cons, acquires_eq, releases_eq]
  cases use e <;> simp

theorem any_of_held (hh : held use r h = true) : h.any (acquires use r) = true := any_of_since hh

/-- **A resource is released as often as it was acquired**, but for the one time it is held; and it was acquired once at
most. -/
theorem Disciplined.count (hd : Disciplined use h) (r : ρ) :
    h.countP (acquires use r) = h.countP (releases use r) + (held use r h).toNat ∧ h.countP (acquires use r) ≤ 1 := by
  induction hd with
  | nil => exact ⟨rfl, Nat.zero_le 1⟩
  | @cons e h he _ ih =>
    obtain ⟨ih₁, ih₂⟩ := ih
    rw [List.countP_cons, List.countP_cons, held_cons, acquires_eq, releases_eq]
    unfold allowed at he
    cases hu : use e with
    | nothing => simpa using ⟨ih₁, ih₂⟩
    | touches s => simpa using ⟨ih₁, ih₂⟩
    | acquires s =>
      by_cases hs : s = r
      · -- never acquired so far, so never held and never released
        subst hs
        rw [hu] at he
        have hnone : h.any (acquires use s) = false := by simpa using he
        have hzero : h.countP (acquires use s) = 0 := List.countP_eq_zero.2 (fun x hx => by simpa using List.any_eq_false.1 hnone x hx)
        have hnot : held use s h = false := Bool.eq_false_iff.2 fun hh => by
          rw [any_of_held hh] at hnone
          cases hnone
        have hrel : h.countP (releases use s) = 0 := by
          rw [hzero, hnot, Bool.toNat_false] at ih₁
          omega
        rw [hzero, hrel, hnot]
        simp
      · simpa [hs] using ⟨ih₁, ih₂⟩
    | releases s =>
      by_cases hs : s = r
      · subst hs
        rw [hu] at he
        have hh : held use s h = true := he
        rw [hh, Bool.toNat_true] at ih₁
        exact ⟨by simpa using ih₁, by simpa using ih₂⟩
      · simpa [hs] using ⟨ih₁, ih₂⟩

/-- **What is held is `S`**, after a disciplined history. -/
structure Holds (use : α → Use ρ) (S : Set ρ) (h : List α) : Prop where
  disciplined : Disciplined use h
  held_iff : ∀ r, held use r h = true ↔ r ∈ S

namespace Holds

variable {S : Set ρ}

theorem nil : Holds use (∅ : Set ρ) [] := ⟨.nil, fun _ => by simp [held]⟩

theorem acquire (hu : use e = .acquires r) (hn : h.any (acquires use r) = false) (hh : Holds use S h) :
    Holds use (insert r S) (e :: h) where
  disciplined := .cons (by unfold allowed; rw [hu]; simpa using hn) hh.disciplined
  held_iff s := by
    rw [held_cons, hu, Set.mem_insert_iff, ← hh.held_iff]
    dsimp only
    rw [Bool.or_eq_true, decide_eq_true_iff, eq_comm]

theorem touch (hu : use e = .touches r) (hr : r ∈ S) (hh : Holds use S h) : Holds use S (e :: h) where
  disciplined := .cons (by unfold allowed; rw [hu]; exact (hh.held_iff r).2 hr) hh.disciplined
  held_iff s := by
    rw [held_cons, hu]
    exact hh.held_iff s

theorem release (hu : use e = .releases r) (hr : r ∈ S) (hh : Holds use S h) : Holds use (S \ {r}) (e :: h) where
  disciplined := .cons (by unfold allowed; rw [hu]; exact (hh.held_iff r).2 hr) hh.disciplined
  held_iff s := by
    rw [held_cons, hu, Set.mem_sdiff, Set.mem_singleton_iff, ← hh.held_iff]
    dsimp only
    rw [Bool.and_eq_true, Bool.not_eq_true', decide_eq_false_iff_not, and_comm, @eq_comm ρ r s]

theorem other (hu : use e = .nothing) (hh : Holds use S h) : Holds use S (e :: h) where
  disciplined := .cons (by unfold allowed; rw [hu]) hh.disciplined
  held_iff s := by
    rw [held_cons, hu]
    exact hh.held_iff s

/-- **With nothing held**, what was acquired was released, each thing once. -/
theorem balanced (hh : Holds use (∅ : Set ρ) h) (r : ρ) :
    h.countP (releases use r) = h.countP (acquires use r) ∧ h.countP (acquires use r) ≤ 1 := by
  obtain ⟨h₁, h₂⟩ := hh.disciplined.count r
  have hn : held use r h = false := Bool.eq_false_iff.2 fun hr => (hh.held_iff r).1 hr
  rw [hn] at h₁
  exact ⟨h₁.symm, h₂⟩

end Holds

end Lifecycle
