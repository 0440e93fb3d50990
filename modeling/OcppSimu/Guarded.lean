import Mathlib.Data.List.Forall2
import Mathlib.Data.List.Induction
import Mathlib.Logic.Function.Basic
import OcppSimu.Hist
/-!
# Guarded — a store with rights on its keys

Everyone may call the store with any key; only the writable keys are set and only the readable ones are answered.  After
a run a key has the value of the last set that was granted, or its first one (`run_apply`); and no answer tells two runs
apart that differ in unreadable keys alone (`read_run_congr`).
-/
namespace Guarded

variable {κ ν : Type}

structure Rights (κ : Type) where
  readable : κ → Bool
  writable : κ → Bool

namespace Rights

variable (r : Rights κ)

/-- What can be set and is never answered. -/
def Secret (k : κ) : Prop := r.writable k = true ∧ r.readable k = false

instance (k : κ) : Decidable (r.Secret k) := inferInstanceAs (Decidable (_ ∧ _))

def read (s : κ → ν) (k : κ) : Option ν := if r.readable k then some (s k) else none

variable [DecidableEq κ]

def set (s : κ → ν) (call : κ × ν) : κ → ν := if r.writable call.1 then Function.update s call.1 call.2 else s

/-- The calls one after the other. -/
def run (s : κ → ν) (calls : List (κ × ν)) : κ → ν := calls.foldl r.set s

/-- The value a call sets the key to. -/
def granted (k : κ) (call : κ × ν) : Option ν := if call.1 = k ∧ r.writable k then some call.2 else none

variable {r} {s s' : κ → ν} {k : κ} {call call' : κ × ν} {calls calls' : List (κ × ν)}

/-! ## One store -/

theorem granted_of_not_writable (hw : r.writable k = false) (call : κ × ν) : r.granted k call = none := by
  unfold granted
  rw [hw]
  exact if_neg (fun h => Bool.false_ne_true h.2)

theorem set_apply : r.set s call k = (r.granted k call).getD (s k) := by
  by_cases hk : call.1 = k
  · subst hk
    unfold set
    cases hw : r.writable call.1 with
    | false =>
      rw [granted_of_not_writable hw]
      rfl
    | true =>
      have hg : r.granted call.1 call = some call.2 := if_pos ⟨rfl, hw⟩
      rw [hg, if_pos rfl]
      exact Function.update_self _ _ _
  · have hg : r.granted k call = none := if_neg (fun h => hk h.1)
    rw [hg]
    unfold set
    split
    · exact Function.update_of_ne (Ne.symm hk) _ _
    · rfl

/-- **A key has the value of the last set that was granted**, or its first one. -/
theorem run_apply (r : Rights κ) (s : κ → ν) (calls : List (κ × ν)) (k : κ) :
    r.run s calls k = (Hist.last (r.granted k) calls.reverse).getD (s k) := by
  induction calls using List.reverseRecOn with
  | nil => rfl
  | append_singleton calls call ih =>
    unfold run at ih ⊢
    rw [List.foldl_append, List.foldl_cons, List.foldl_nil, set_apply, ih, List.reverse_append]
    show _ = ((r.granted k call).or (Hist.last (r.granted k) calls.reverse)).getD (s k)
    cases r.granted k call <;> rfl

/-! ## Two stores -/

/-- No answer tells them apart. -/
def Alike (r : Rights κ) (s s' : κ → ν) : Prop := ∀ k, r.readable k = true → s k = s' k

/-- **Two calls that differ in the value of an unreadable key at most.** -/
def AlikeCalls (r : Rights κ) (call call' : κ × ν) : Prop :=
  call.1 = call'.1 ∧ (r.readable call.1 = true → call.2 = call'.2)

omit [DecidableEq κ] in
theorem Alike.read (h : r.Alike s s') : r.read s = r.read s' := by
  funext k
  unfold Rights.read
  cases hr : r.readable k with
  | false => rfl
  | true => rw [h k hr]

theorem Alike.set (h : r.Alike s s') (hc : r.AlikeCalls call call') : r.Alike (r.set s call) (r.set s' call') := by
  obtain ⟨hk, hv⟩ := hc
  intro k hr
  rw [set_apply, set_apply, h k hr]
  congr 1
  unfold granted
  rw [← hk]
  by_cases hc : call.1 = k ∧ r.writable k = true
  · rw [if_pos hc, if_pos hc, hv (hc.1 ▸ hr)]
  · rw [if_neg hc, if_neg hc]

theorem Alike.run (h : r.Alike s s') (hc : List.Forall₂ r.AlikeCalls calls calls') :
    r.Alike (r.run s calls) (r.run s' calls') := by
  induction hc generalizing s s' with
  | nil => exact h
  | cons hc _ ih => exact ih (h.set hc)

/-- **No leak**: the answers after two runs that differ in unreadable keys alone are the same. -/
theorem read_run_congr (h : r.Alike s s') (hc : List.Forall₂ r.AlikeCalls calls calls') :
    r.read (r.run s calls) = r.read (r.run s' calls') := (h.run hc).read

end Rights

end Guarded
