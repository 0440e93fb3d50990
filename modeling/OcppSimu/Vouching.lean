import Mathlib.Logic.Function.Basic
/-!
# Vouching — a server that keeps the last message of each topic, and a client that leaves a will

A client that connects leaves the server a will, which the server publishes when the connection is lost and forgets when
the client takes its leave; a client that connects again while the server still has its session loses that session
first.  What is kept on a topic is vouched for when it is what the will says, or when a session is there whose will
would replace it (`Vouched`).  The rules say which steps keep that.
-/
namespace Vouching

structure Session (τ μ : Type) where
  will : Option (τ × μ)
  topics : List τ := []

structure Server (τ μ : Type) where
  session : Option (Session τ μ) := none
  kept : τ → Option μ := fun _ => none

variable {τ μ : Type} [DecidableEq τ]

namespace Server

def publish (s : Server τ μ) (t : τ) (x : μ) : Server τ μ := { s with kept := Function.update s.kept t (some x) }

/-- **The connection is lost**: the will is published. -/
def lose (s : Server τ μ) : Server τ μ :=
  match s.session with
  | some ⟨some (t, x), _⟩ => { s.publish t x with session := none }
  | some ⟨none, _⟩ => { s with session := none }
  | none => s

def accept (s : Server τ μ) (will : Option (τ × μ)) : Server τ μ := { s.lose with session := some ⟨will, []⟩ }

def takeLeave (s : Server τ μ) : Server τ μ := { s with session := none }

def subscribe (s : Server τ μ) (t : τ) : Server τ μ :=
  { s with session := s.session.map (fun c => { c with topics := t :: c.topics }) }

@[simp] theorem kept_publish_self (s : Server τ μ) (t : τ) (x : μ) : (s.publish t x).kept t = some x :=
  Function.update_self ..

@[simp] theorem session_lose (s : Server τ μ) : s.lose.session = none := by
  unfold lose
  split
  · rfl
  · rfl
  · assumption

end Server

/-- **Nothing but `x` is kept on `t`.** -/
def Settled (t : τ) (x : μ) (s : Server τ μ) : Prop := ∀ y, s.kept t = some y → y = x

/-- **What is kept on `t` is vouched for**: it is `x`, or a session is there whose will is `x` on `t`; and no will says
otherwise. -/
structure Vouched (t : τ) (x : μ) (s : Server τ μ) : Prop where
  kept : ∀ y, s.kept t = some y → y = x ∨ ∃ c, s.session = some c ∧ c.will = some (t, x)
  will : ∀ c y, s.session = some c → c.will = some (t, y) → y = x

variable {t : τ} {x : μ} {s : Server τ μ}

/-- **Whoever vouches is believed**: once the session is lost, the topic is settled. -/
theorem Vouched.lose (h : Vouched t x s) : Settled t x s.lose := by
  intro y hy
  unfold Server.lose at hy
  split at hy
  next t' x' topics hs =>
    by_cases ht : t' = t
    · subst ht
      simp only [Server.kept_publish_self, Option.some.injEq] at hy
      rw [← hy]
      exact h.will _ x' hs rfl
    · have hk : s.kept t = some y := by simpa [Server.publish, Function.update_of_ne (Ne.symm ht)] using hy
      refine (h.kept y hk).resolve_right ?_
      rintro ⟨c, hc, hw⟩
      rw [hs] at hc
      obtain rfl := Option.some.inj hc
      exact ht (congrArg Prod.fst (Option.some.inj hw))
  next topics hs =>
    refine (h.kept y hy).resolve_right ?_
    rintro ⟨c, hc, hw⟩
    rw [hs] at hc
    obtain rfl := Option.some.inj hc
    cases hw
  next hs =>
    refine (h.kept y hy).resolve_right ?_
    rintro ⟨c, hc, -⟩
    rw [hs] at hc
    cases hc

omit [DecidableEq τ] in
theorem Settled.vouched (h : Settled t x s) (hw : ∀ c y, s.session = some c → c.will = some (t, y) → y = x) :
    Vouched t x s := ⟨fun y hy => .inl (h y hy), hw⟩

omit [DecidableEq τ] in
theorem Settled.leave (h : Settled t x s) : Vouched t x s.takeLeave :=
  ⟨fun y hy => .inl (h y hy), fun _ _ hc => by cases hc⟩

theorem Vouched.lost (h : Vouched t x s) : Vouched t x s.lose :=
  h.lose.vouched fun c y hc => by simp at hc

/-- A client that connects again settles the topic, and its new will speaks for it. -/
theorem Vouched.accept (h : Vouched t x s) {will : Option (τ × μ)} (hw : ∀ y, will = some (t, y) → y = x) :
    Vouched t x (s.accept will) :=
  ⟨fun y hy => .inl (h.lose y hy), fun c y hc hc' => by
    obtain rfl := Option.some.inj hc
    exact hw y hc'⟩

omit [DecidableEq τ] in
theorem Vouched.subscribe (h : Vouched t x s) (u : τ) : Vouched t x (s.subscribe u) := by
  refine ⟨fun y hy => (h.kept y hy).imp id ?_, fun c y hc hw => ?_⟩
  · rintro ⟨c, hc, hw⟩
    exact ⟨_, congrArg (Option.map _) hc, hw⟩
  · obtain ⟨c', hc', rfl⟩ := Option.map_eq_some_iff.1 hc
    exact h.will c' y hc' hw

/-- A client whose will speaks for the topic may publish what it likes on it. -/
theorem Vouched.publish (h : Vouched t x s) {c : Session τ μ} (hc : s.session = some c) (hw : c.will = some (t, x)) (y : μ) :
    Vouched t x (s.publish t y) := ⟨fun _ _ => .inr ⟨c, hc, hw⟩, h.will⟩

theorem settled_publish (s : Server τ μ) (t : τ) (x : μ) : Settled t x (s.publish t x) := fun y hy => by
  simpa using hy.symm

end Vouching
