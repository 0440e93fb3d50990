import OcppSimu.Hist
/-!
# Fates — what becomes of the requests put into a box

A box holds one request.  Its reader reads it, uses what it has read, and resets the box, in three steps; others may put a
request into the box between any two of them.  `fates` follows every request of a history: it waits in the box, is taken
by a read and then used, is replaced by a newer one, is discarded by a reset that was announced, or is lost.  Where no
request is put into the box between a read and the reset that follows it, none is lost: the reader keeps the three phases
`Idle`, `Reading` and `Done`.
-/
namespace Fates

open Hist

variable {α τ : Type}

/-- **How the entries of a history bear on a box.** -/
structure Box (α τ : Type) where
  request : α → Option τ
  replaces : α → Bool
  reads : α → Option τ
  uses : τ → α → Bool
  resets : α → Bool
  clears : α → Bool

inductive Fate (τ : Type)
  | waiting (t : τ) | taken (t : τ) | used | replaced | discarded | lost
  deriving DecidableEq

/-- The request was heeded, or gave way as it should. -/
def Fate.settled : Fate τ → Bool
  | .used | .replaced | .discarded => true
  | _ => false

namespace Box

variable (B : Box α τ)

def isRead (e : α) : Bool := (B.reads e).isSome

/-- A read has not been followed by its reset yet. -/
def inWindow (h : List α) : Bool := since B.isRead B.resets h

/-- The next reset was announced. -/
def clearing (h : List α) : Bool := since B.clears B.resets h

theorem inWindow_cons {B : Box α τ} {e : α} (hr : B.reads e = none) (hs : B.resets e = false) (h : List α) :
    B.inWindow (e :: h) = B.inWindow h := by
  unfold inWindow
  rw [since_cons, isRead, hr, hs]
  rfl

theorem inWindow_cons_of_resets {B : Box α τ} {e : α} (hr : B.reads e = none) (hs : B.resets e = true) (h : List α) :
    B.inWindow (e :: h) = false := by
  unfold inWindow
  rw [since_cons, isRead, hr, hs]
  rfl

variable [DecidableEq τ]

/-- **What an entry makes of a request**; `clearing` says that a reset was announced. -/
def step (clearing : Bool) (e : α) : Fate τ → Fate τ
  | .waiting t =>
    if B.replaces e then .replaced
    else match B.reads e with
      | some t' => if t' = t then .taken t else .lost
      | none => if B.resets e then if clearing then .discarded else .lost else .waiting t
  | .taken t => if B.uses t e then .used else if B.resets e then .lost else .taken t
  | f => f

/-- **The fates of the requests of a history**, newest first. -/
def fates : List α → List (Fate τ)
  | [] => []
  | e :: h =>
    let old := (fates h).map (B.step (B.clearing h) e)
    match B.request e with
    | some t => .waiting t :: old
    | none => old

/-- **No request comes between a read and its reset.** -/
def Undisturbed (h : List α) : Prop := Always (fun e h => (B.request e).isSome = true → B.inWindow h = false) h

instance (h : List α) : Decidable (B.Undisturbed h) := Hist.decidableAlways _ h

/-! ## The phases of the reader -/

/-- **Between two checks**: what is not settled waits in the box, which holds `content`. -/
def Idle (content : Option τ) (h : List α) : Prop := B.Undisturbed h →
  B.inWindow h = false ∧ ∀ f ∈ B.fates h, f.settled = true ∨ ∃ t, content = some t ∧ f = .waiting t

/-- **The box was read**: what is not settled is the request taken. -/
def Reading (t : τ) (h : List α) : Prop := B.Undisturbed h →
  B.inWindow h = true ∧ ∀ f ∈ B.fates h, f.settled = true ∨ f = .taken t

/-- **The request was used**, and the box is not reset yet. -/
def Done (h : List α) : Prop := B.Undisturbed h → B.inWindow h = true ∧ ∀ f ∈ B.fates h, f.settled = true

variable {B}

theorem settled_step {b : Bool} {e : α} {f : Fate τ} (hf : f.settled = true) : (B.step b e f).settled = true := by
  cases f <;> first | exact hf | cases hf

theorem fates_cons {e : α} (hq : B.request e = none) (h : List α) :
    B.fates (e :: h) = (B.fates h).map (B.step (B.clearing h) e) := by
  show (match B.request e with | some t => _ | none => _) = _
  rw [hq]

theorem fates_cons_of_request {e : α} {t : τ} (hq : B.request e = some t) (h : List α) :
    B.fates (e :: h) = .waiting t :: (B.fates h).map (B.step (B.clearing h) e) := by
  show (match B.request e with | some t => _ | none => _) = _
  rw [hq]

/-- What holds of the requests of a history holds of them after an entry that is none, if the entry keeps it. -/
theorem forall_fates_cons {e : α} {h : List α} {P Q : Fate τ → Prop} (hq : B.request e = none) (hf : ∀ f ∈ B.fates h, P f)
    (hstep : ∀ f, P f → Q (B.step (B.clearing h) e f)) : ∀ f ∈ B.fates (e :: h), Q f := by
  rw [fates_cons hq]
  intro f hm
  obtain ⟨f', hm', rfl⟩ := List.mem_map.1 hm
  exact hstep f' (hf f' hm')

omit [DecidableEq τ] in
/-- **In the window no request comes.** -/
theorem Undisturbed.request_eq_none {e : α} {h : List α} (hu : B.Undisturbed (e :: h)) (hw : B.inWindow h = true) :
    B.request e = none := by
  rw [← Option.not_isSome_iff_eq_none]
  intro hq
  have hn := hu.head hq
  rw [hw] at hn
  cases hn

/-- **Before anything has happened.** -/
theorem Idle.nil (content : Option τ) : B.Idle content [] := fun _ => ⟨rfl, fun _ hf => by cases hf⟩

/-- An entry that does not bear on the box. -/
theorem Idle.other {content : Option τ} {e : α} {h : List α} (hq : B.request e = none) (hp : B.replaces e = false)
    (hr : B.reads e = none) (hs : B.resets e = false) (hi : B.Idle content h) : B.Idle content (e :: h) := by
  intro hu
  obtain ⟨hw, hf⟩ := hi hu.tail
  refine ⟨(inWindow_cons hr hs h).trans hw, forall_fates_cons hq hf (fun f hf => ?_)⟩
  rcases hf with hset | ⟨t, ht, rfl⟩
  · exact .inl (settled_step hset)
  · refine .inr ⟨t, ht, ?_⟩
    simp [step, hp, hr, hs]

/-- What was in the box is replaced. -/
theorem Idle.replaced {content : Option τ} {e : α} {h : List α} (hp : B.replaces e = true) (hr : B.reads e = none)
    (hs : B.resets e = false) (hi : B.Idle content h) : B.Idle (B.request e) (e :: h) := by
  intro hu
  obtain ⟨hw, hf⟩ := hi hu.tail
  have hold : ∀ f ∈ (B.fates h).map (B.step (B.clearing h) e), f.settled = true := by
    intro f hm
    obtain ⟨f', hm', rfl⟩ := List.mem_map.1 hm
    rcases hf f' hm' with hset | ⟨t, -, rfl⟩
    · exact settled_step hset
    · simp [step, hp, Fate.settled]
  refine ⟨(inWindow_cons hr hs h).trans hw, fun f hm => ?_⟩
  cases hq : B.request e with
  | none =>
    rw [fates_cons hq] at hm
    exact .inl (hold f hm)
  | some t =>
    rw [fates_cons_of_request hq] at hm
    rcases List.mem_cons.1 hm with rfl | hm
    · exact .inr ⟨t, rfl, rfl⟩
    · exact .inl (hold f hm)

/-- **A read takes what is in the box.** -/
theorem Idle.read {content : Option τ} {e : α} {h : List α} {t : τ} (hq : B.request e = none) (hp : B.replaces e = false)
    (hr : B.reads e = some t) (hc : ∀ t', content = some t' → t' = t) (hi : B.Idle content h) : B.Reading t (e :: h) := by
  intro hu
  obtain ⟨-, hf⟩ := hi hu.tail
  refine ⟨since_cons_of_hit (by unfold isRead; rw [hr]; rfl), forall_fates_cons hq hf (fun f hf => ?_)⟩
  rcases hf with hset | ⟨t', ht, rfl⟩
  · exact .inl (settled_step hset)
  · refine .inr ?_
    rw [hc t' ht]
    simp [step, hp, hr]

/-- An announced reset discards what is in the box. -/
theorem Idle.clear {content : Option τ} {e : α} {h : List α} (hq : B.request e = none) (hp : B.replaces e = false)
    (hr : B.reads e = none) (hs : B.resets e = true) (hc : B.clearing h = true) (hi : B.Idle content h) :
    B.Idle none (e :: h) := by
  intro hu
  obtain ⟨-, hf⟩ := hi hu.tail
  refine ⟨inWindow_cons_of_resets hr hs h, forall_fates_cons hq hf (fun f hf => ?_)⟩
  rcases hf with hset | ⟨t, -, rfl⟩
  · exact .inl (settled_step hset)
  · refine .inl ?_
    simp [step, hp, hr, hs, hc, Fate.settled]

/-- **In the window** what happens leaves the request taken or uses it. -/
theorem Reading.other {e : α} {h : List α} {t : τ} (hr : B.reads e = none) (hs : B.resets e = false)
    (hi : B.Reading t h) : B.Reading t (e :: h) := by
  intro hu
  obtain ⟨hw, hf⟩ := hi hu.tail
  refine ⟨(inWindow_cons hr hs h).trans hw, forall_fates_cons (hu.request_eq_none hw) hf (fun f hf => ?_)⟩
  rcases hf with hset | rfl
  · exact .inl (settled_step hset)
  · show ((if B.uses t e then Fate.used else if B.resets e then .lost else .taken t).settled = true) ∨ _
    rw [hs]
    by_cases huse : B.uses t e = true
    · rw [if_pos huse]
      exact .inl rfl
    · refine .inr ?_
      simp [step, huse, hs]

theorem Reading.use {e : α} {h : List α} {t : τ} (hq : B.request e = none) (hr : B.reads e = none) (hs : B.resets e = false)
    (huse : B.uses t e = true) (hi : B.Reading t h) : B.Done (e :: h) := by
  intro hu
  obtain ⟨hw, hf⟩ := hi hu.tail
  refine ⟨(inWindow_cons hr hs h).trans hw, forall_fates_cons hq hf (fun f hf => ?_)⟩
  rcases hf with hset | rfl
  · exact settled_step hset
  · simp [step, huse, Fate.settled]

theorem Done.other {e : α} {h : List α} (hr : B.reads e = none) (hs : B.resets e = false) (hi : B.Done h) :
    B.Done (e :: h) := by
  intro hu
  obtain ⟨hw, hf⟩ := hi hu.tail
  exact ⟨(inWindow_cons hr hs h).trans hw, forall_fates_cons (hu.request_eq_none hw) hf (fun _ => settled_step)⟩

/-- **The reset ends the check** and erases nothing that is not settled. -/
theorem Done.reset {content : Option τ} {e : α} {h : List α} (hq : B.request e = none) (hr : B.reads e = none)
    (hs : B.resets e = true) (hi : B.Done h) : B.Idle content (e :: h) := by
  intro hu
  obtain ⟨-, hf⟩ := hi hu.tail
  exact ⟨inWindow_cons_of_resets hr hs h, forall_fates_cons hq hf (fun f hf => .inl (settled_step hf))⟩

end Box

end Fates
