import Mathlib.Data.List.Basic
/-!
# Script — programs of one thread whose environment is a script

A `Prog σ τ α` is a program over a state `σ` shared with other threads.  Before every `call` the other threads have
their turn: the program takes the next tick off its script, the environment acts on the state as the tick says, and
only then does the call itself act.  A theorem for every script is a theorem for every interleaving; a script that has
run out goes on with the default tick.  `Spec` is the triple of such a program, with one rule for each construct, and
`Passive` says of a program that a view of the state cannot tell it from the environment.
-/
namespace Script

variable {σ τ ν α β ι : Type}

/-- A program: the state and the ticks still to come, to a result, the state and the ticks left. -/
abbrev Prog (σ τ α : Type) := StateM (σ × List τ) α

/-- **One call**: a tick of the environment, then the call's own action, which may read an answer off the tick. -/
def call [Inhabited τ] (env : τ → σ → σ) (act : τ → σ → α × σ) : Prog σ τ α := fun p =>
  let r := act (p.2.headD default) (env (p.2.headD default) p.1)
  (r.1, r.2, p.2.tail)

/-- A step on data no other thread writes: no tick is needed before it. -/
def update (f : σ → σ) : Prog σ τ Unit := fun p => ((), f p.1, p.2)

def read (f : σ → α) : Prog σ τ α := fun p => (f p.1, p)

/-- **Up to `k` rounds** of a loop, as long as the body answers `true`. -/
def rounds (body : Prog σ τ Bool) : Nat → Prog σ τ Unit
  | 0 => pure ()
  | k + 1 => do if ← body then rounds body k else pure ()

/-- **A triple**: from a state with `P`, under every script, `m` ends in a state and a result with `Q`. -/
def Spec (P : σ → Prop) (m : Prog σ τ α) (Q : α → σ → Prop) : Prop :=
  ∀ s ts, P s → Q (m (s, ts)).1 (m (s, ts)).2.1

/-! ## The rules -/

theorem Spec.pure {P : σ → Prop} {Q : α → σ → Prop} (a : α) (h : ∀ s, P s → Q a s) :
    Spec P (Pure.pure a : Prog σ τ α) Q := fun s _ hs => h s hs

theorem Spec.bind {P : σ → Prop} {R : α → σ → Prop} {Q : β → σ → Prop} {m : Prog σ τ α} {k : α → Prog σ τ β}
    (hm : Spec P m R) (hk : ∀ a, Spec (R a) (k a) Q) : Spec P (m >>= k) Q := fun s ts hs =>
  hk _ _ _ (hm s ts hs)

theorem Spec.ite {P : σ → Prop} {Q : α → σ → Prop} {c : Prop} [Decidable c] {m n : Prog σ τ α}
    (hm : c → Spec P m Q) (hn : ¬c → Spec P n Q) : Spec P (if c then m else n) Q := by
  by_cases hc : c
  · rw [if_pos hc]; exact hm hc
  · rw [if_neg hc]; exact hn hc

theorem Spec.pre {P R : σ → Prop} {Q : α → σ → Prop} {m : Prog σ τ α} (hP : ∀ s, P s → R s) (hm : Spec R m Q) :
    Spec P m Q := fun s ts hs => hm s ts (hP s hs)

theorem Spec.post {P : σ → Prop} {Q Q' : α → σ → Prop} {m : Prog σ τ α} (hm : Spec P m Q)
    (hQ : ∀ a s, Q a s → Q' a s) : Spec P m Q' := fun s ts hs => hQ _ _ (hm s ts hs)

theorem Spec.and {P P' : σ → Prop} {Q Q' : α → σ → Prop} {m : Prog σ τ α} (h : Spec P m Q) (h' : Spec P' m Q') :
    Spec (fun s => P s ∧ P' s) m (fun a s => Q a s ∧ Q' a s) := fun s ts hs => ⟨h s ts hs.1, h' s ts hs.2⟩

/-- **Triples side by side**: a script has one outcome, so what holds of it for each `i` holds for all. -/
theorem Spec.all {P : ι → σ → Prop} {Q : ι → α → σ → Prop} {m : Prog σ τ α} (h : ∀ i, Spec (P i) m (Q i)) :
    Spec (fun s => ∀ i, P i s) m (fun a s => ∀ i, Q i a s) := fun s ts hs i => h i s ts (hs i)

/-- **The rule of a call**: the precondition outlives what the environment does, and the action leads from it to the
postcondition. -/
theorem Spec.call [Inhabited τ] {env : τ → σ → σ} {act : τ → σ → α × σ} {P : σ → Prop} {Q : α → σ → Prop}
    (henv : ∀ t s, P s → P (env t s)) (hact : ∀ t s, P s → Q (act t s).1 (act t s).2) :
    Spec P (Script.call env act) Q := fun s _ hs => hact _ _ (henv _ s hs)

theorem Spec.update {P : σ → Prop} {Q : Unit → σ → Prop} {f : σ → σ} (h : ∀ s, P s → Q () (f s)) :
    Spec P (Script.update f : Prog σ τ Unit) Q := fun s _ hs => h s hs

theorem Spec.read {P : σ → Prop} {Q : α → σ → Prop} {f : σ → α} (h : ∀ s, P s → Q (f s) s) :
    Spec P (Script.read f : Prog σ τ α) Q := fun s _ hs => h s hs

/-- **A read and what follows it**: the program goes on with a value some state with `P` has. -/
theorem Spec.read_bind {P : σ → Prop} {Q : β → σ → Prop} {f : σ → α} {k : α → Prog σ τ β}
    (h : ∀ s, P s → Spec (fun s' => P s' ∧ f s' = f s) (k (f s)) Q) : Spec P (Script.read f >>= k) Q := fun s ts hs =>
  h s hs s ts ⟨hs, rfl⟩

theorem Spec.forM {I : σ → Prop} {f : ι → Prog σ τ Unit} : ∀ {l : List ι},
    (∀ i ∈ l, Spec I (f i) (fun _ => I)) → Spec I (l.forM f) (fun _ => I)
  | [], _ => Spec.pure () (fun _ hs => hs)
  | i :: _, h => Spec.bind (h i List.mem_cons_self) (fun _ => Spec.forM (fun j hj => h j (List.mem_cons_of_mem i hj)))

theorem Spec.foldlM {I : α → σ → Prop} {f : α → ι → Prog σ τ α} : ∀ {l : List ι},
    (∀ a, ∀ i ∈ l, Spec (I a) (f a i) I) → ∀ a, Spec (I a) (l.foldlM f a) I
  | [], _, a => Spec.pure a (fun _ hs => hs)
  | i :: l, h, a => by
    rw [List.foldlM_cons]
    exact Spec.bind (h a i List.mem_cons_self) (fun b =>
      Spec.foldlM (fun b j hj => h b j (List.mem_cons_of_mem i hj)) b)

/-- **A loop that carries a result along**, with an invariant that says what it has seen. -/
theorem Spec.foldlM_seen {I : List ι → α → σ → Prop} {f : α → ι → Prog σ τ α} : ∀ {l : List ι},
    (∀ seen a, ∀ i ∈ l, Spec (I seen a) (f a i) (I (seen ++ [i]))) → ∀ seen a, Spec (I seen a) (l.foldlM f a) (I (seen ++ l))
  | [], _, seen, a => by
    rw [List.append_nil]
    exact Spec.pure a (fun _ hs => hs)
  | i :: l, h, seen, a => by
    rw [List.foldlM_cons, List.append_cons]
    exact Spec.bind (h seen a i List.mem_cons_self) (fun b =>
      Spec.foldlM_seen (fun seen b j hj => h seen b j (List.mem_cons_of_mem i hj)) (seen ++ [i]) b)

/-- The same for a list without duplicates: what comes next was not seen. -/
theorem Spec.foldlM_fresh {I : List ι → α → σ → Prop} {f : α → ι → Prog σ τ α} : ∀ {l : List ι}, l.Nodup →
    (∀ seen a, ∀ i ∈ l, i ∉ seen → Spec (I seen a) (f a i) (I (seen ++ [i]))) → ∀ seen a, (∀ i ∈ l, i ∉ seen) →
      Spec (I seen a) (l.foldlM f a) (I (seen ++ l))
  | [], _, _, seen, a, _ => by
    rw [List.append_nil]
    exact Spec.pure a (fun _ hs => hs)
  | i :: l, hl, h, seen, a, hn => by
    rw [List.nodup_cons] at hl
    rw [List.foldlM_cons, List.append_cons]
    refine Spec.bind (h seen a i List.mem_cons_self (hn i List.mem_cons_self)) (fun b => ?_)
    refine Spec.foldlM_fresh hl.2 (fun seen b j hj => h seen b j (List.mem_cons_of_mem i hj)) (seen ++ [i]) b (fun j hj hm => ?_)
    rcases List.mem_append.1 hm with hm | hm
    · exact hn j (List.mem_cons_of_mem i hj) hm
    · rw [List.mem_singleton.1 hm] at hj
      exact hl.1 hj

/-- **A loop over a list that concerns one element**: the pass for `i` leads from `P` to `Q`, the other passes keep
both. -/
theorem Spec.forM_one [DecidableEq ι] {P Q : σ → Prop} {f : ι → Prog σ τ Unit} {i : ι} :
    ∀ {l : List ι}, i ∈ l → l.Nodup → (∀ j, j ≠ i → Spec P (f j) (fun _ => P)) → Spec P (f i) (fun _ => Q) →
      (∀ j, j ≠ i → Spec Q (f j) (fun _ => Q)) → Spec P (l.forM f) (fun _ => Q)
  | j :: _, hi, hl, hP, hf, hQ => by
    rw [List.nodup_cons] at hl
    by_cases hji : j = i
    · -- the passes that follow are for other elements, since the list has no duplicates
      subst hji
      exact Spec.bind hf (fun _ => Spec.forM (fun k hk => hQ k (fun e => hl.1 (e ▸ hk))))
    · have hi' := (List.mem_cons.1 hi).resolve_left (Ne.symm hji)
      exact Spec.bind (hP j hji) (fun _ => Spec.forM_one hi' hl.2 hP hf hQ)

/-- **The rule of a loop of rounds**: what the body keeps, any number of rounds keeps. -/
theorem Spec.rounds {I : σ → Prop} {body : Prog σ τ Bool} (h : Spec I body (fun _ => I)) :
    ∀ k, Spec I (Script.rounds body k) (fun _ => I)
  | 0 => Spec.pure () (fun _ hs => hs)
  | k + 1 => Spec.bind h (fun _ => Spec.ite (fun _ => Spec.rounds h k) (fun _ => Spec.pure () (fun _ hs => hs)))

/-- The same for a body that leaves `J` behind when it ends the loop. -/
theorem Spec.rounds_ended {I J : σ → Prop} {body : Prog σ τ Bool} (h : Spec I body (fun b s => if b then I s else J s)) :
    ∀ k, Spec I (Script.rounds body k) (fun _ s => I s ∨ J s)
  | 0 => Spec.pure () (fun _ hs => .inl hs)
  | k + 1 => Spec.bind h (fun b => by
    cases b with
    | true => exact Spec.rounds_ended h k
    | false => exact Spec.pure () (fun _ hs => .inr hs))

/-! ## Views -/

/-- **A triple on a view of the state.** -/
def SpecOn (view : σ → ν) (P : ν → Prop) (m : Prog σ τ α) (Q : α → ν → Prop) : Prop :=
  Spec (fun s => P (view s)) m (fun a s => Q a (view s))

section SpecOn

variable {view : σ → ν} {P : ν → Prop}

theorem SpecOn.pure {Q : α → ν → Prop} (a : α) (h : ∀ v, P v → Q a v) :
    SpecOn view P (Pure.pure a : Prog σ τ α) Q := Spec.pure a (fun s hs => h (view s) hs)

theorem SpecOn.bind {R : α → ν → Prop} {Q : β → ν → Prop} {m : Prog σ τ α} {k : α → Prog σ τ β}
    (hm : SpecOn view P m R) (hk : ∀ a, SpecOn view (R a) (k a) Q) : SpecOn view P (m >>= k) Q := Spec.bind hm hk

theorem SpecOn.keep {Q : β → ν → Prop} {m : Prog σ τ α} {k : α → Prog σ τ β} (hm : SpecOn view P m (fun _ => P))
    (hk : ∀ a, SpecOn view P (k a) Q) : SpecOn view P (m >>= k) Q := Spec.bind hm hk

theorem SpecOn.ite {Q : α → ν → Prop} {c : Prop} [Decidable c] {m n : Prog σ τ α} (hm : c → SpecOn view P m Q)
    (hn : ¬c → SpecOn view P n Q) : SpecOn view P (if c then m else n) Q := Spec.ite hm hn

theorem SpecOn.pre {R : ν → Prop} {Q : α → ν → Prop} {m : Prog σ τ α} (hP : ∀ v, P v → R v)
    (hm : SpecOn view R m Q) : SpecOn view P m Q := Spec.pre (fun s hs => hP (view s) hs) hm

theorem SpecOn.post {Q Q' : α → ν → Prop} {m : Prog σ τ α} (hm : SpecOn view P m Q) (hQ : ∀ a v, Q a v → Q' a v) :
    SpecOn view P m Q' := Spec.post hm (fun a s hs => hQ a (view s) hs)

theorem SpecOn.split {Q : α → ν → Prop} {m : Prog σ τ α} (f : ν → β)
    (h : ∀ b, SpecOn view (fun v => P v ∧ f v = b) m Q) : SpecOn view P m Q := fun s ts hs =>
  h (f (view s)) s ts ⟨hs, rfl⟩

theorem SpecOn.exists {P : β → ν → Prop} {Q : α → ν → Prop} {m : Prog σ τ α} (h : ∀ b, SpecOn view (P b) m Q) :
    SpecOn view (fun v => ∃ b, P b v) m Q := fun s ts ⟨b, hb⟩ => h b s ts hb

theorem SpecOn.given {p : Prop} {Q : α → ν → Prop} {m : Prog σ τ α} (h : p → SpecOn view P m Q) :
    SpecOn view (fun v => p ∧ P v) m Q := fun s ts hs => h hs.1 s ts hs.2

end SpecOn

/-- **A program a view takes for the environment**: whatever the environment keeps of the view, the program keeps. -/
def Passive (env : τ → σ → σ) (view : σ → ν) (m : Prog σ τ α) : Prop :=
  ∀ I : ν → Prop, (∀ t s, I (view s) → I (view (env t s))) → Spec (fun s => I (view s)) m (fun _ s => I (view s))

section Passive

variable {env : τ → σ → σ} {view : σ → ν}

theorem Passive.pure (a : α) : Passive env view (Pure.pure a : Prog σ τ α) := fun _ _ => Spec.pure a (fun _ hs => hs)

theorem Passive.bind {m : Prog σ τ α} {k : α → Prog σ τ β} (hm : Passive env view m)
    (hk : ∀ a, Passive env view (k a)) : Passive env view (m >>= k) := fun I hI =>
  Spec.bind (hm I hI) (fun a => hk a I hI)

theorem Passive.ite {c : Prop} [Decidable c] {m n : Prog σ τ α} (hm : Passive env view m) (hn : Passive env view n) :
    Passive env view (if c then m else n) := fun I hI => Spec.ite (fun _ => hm I hI) (fun _ => hn I hI)

theorem Passive.call [Inhabited τ] {act : τ → σ → α × σ} (h : ∀ t s, view (act t s).2 = view s) :
    Passive env view (Script.call env act) := fun I hI =>
  Spec.call (fun t s => hI t s) (fun t s hs => by rw [h t s]; exact hs)

theorem Passive.update {f : σ → σ} (h : ∀ s, view (f s) = view s) :
    Passive env view (Script.update f : Prog σ τ Unit) := fun I _ => Spec.update (fun s hs => by rw [h s]; exact hs)

theorem Passive.read {f : σ → α} : Passive env view (Script.read f : Prog σ τ α) := fun _ _ =>
  Spec.read (fun _ hs => hs)

theorem Passive.forM {f : ι → Prog σ τ Unit} {l : List ι} (h : ∀ i ∈ l, Passive env view (f i)) :
    Passive env view (l.forM f) := fun I hI => Spec.forM (fun i hi => h i hi I hI)

theorem Passive.foldlM {f : α → ι → Prog σ τ α} {l : List ι} (h : ∀ a, ∀ i ∈ l, Passive env view (f a i)) (a : α) :
    Passive env view (l.foldlM f a) := fun I hI =>
  Spec.foldlM (I := fun _ s => I (view s)) (fun b i hi => h b i hi I hI) a

end Passive

end Script
