import Mathlib.Data.List.Basic
/-!
# Hist — histories, newest entry first

A history is a list of entries whose head is the newest.  What a property says of the past is read off it by three
scans: `since` (the last `hit` is later than the last `kill`), `sinceAt` (a question asked of the past of the last
`hit`), and `Always` (every entry meets a condition on its own past).
-/
namespace Hist

variable {α : Type}

/-- **The last `hit` is later than the last `kill`.**  An entry that is both counts as a `hit`. -/
def since (hit kill : α → Bool) : List α → Bool
  | [] => false
  | e :: h => hit e || (!kill e && since hit kill h)

/-- **What `f` answers for the past of the last `hit`**, `false` where a `kill` is later or there is no `hit`. -/
def sinceAt (hit kill : α → Bool) (f : List α → Bool) : List α → Bool
  | [] => false
  | e :: h => if hit e then f h else !kill e && sinceAt hit kill f h

/-- **The value `f` reads off the last entry that has one.** -/
def last {β : Type} (f : α → Option β) : List α → Option β
  | [] => none
  | e :: h => (f e).or (last f h)

/-- **Every entry meets `P` of its own past.** -/
inductive Always (P : α → List α → Prop) : List α → Prop
  | nil : Always P []
  | cons {e : α} {h : List α} : P e h → Always P h → Always P (e :: h)

/-! ## `since` -/

@[simp] theorem since_nil (hit kill : α → Bool) : since hit kill [] = false := rfl

@[simp] theorem since_cons (hit kill : α → Bool) (e : α) (h : List α) :
    since hit kill (e :: h) = (hit e || (!kill e && since hit kill h)) := rfl

/-- **What `since` means**: a `hit` with no `kill` after it. -/
theorem since_iff (hit kill : α → Bool) : ∀ h : List α,
    since hit kill h = true ↔ ∃ newer e older, h = newer ++ e :: older ∧ hit e = true ∧ ∀ x ∈ newer, kill x = false
  | [] => by simp
  | e :: h => by
    rw [since_cons, Bool.or_eq_true, Bool.and_eq_true, Bool.not_eq_true', since_iff hit kill h]
    constructor
    · rintro (he | ⟨hk, newer, x, older, rfl, hx, hn⟩)
      · exact ⟨[], e, h, rfl, he, fun _ hx => by cases hx⟩
      · exact ⟨e :: newer, x, older, rfl, hx, by simpa [hk] using hn⟩
    · rintro ⟨newer, x, older, hs, hx, hn⟩
      cases newer with
      | nil =>
        obtain ⟨rfl, rfl⟩ := List.cons.inj hs
        exact .inl hx
      | cons y newer =>
        obtain ⟨rfl, rfl⟩ := List.cons.inj hs
        exact .inr ⟨hn _ List.mem_cons_self, newer, x, older, rfl, hx, fun z hz => hn z (List.mem_cons_of_mem _ hz)⟩

theorem since_cons_of_hit {hit kill : α → Bool} {e : α} {h : List α} (he : hit e = true) :
    since hit kill (e :: h) = true := by simp [he]

theorem since_cons_of_not_kill {hit kill : α → Bool} {e : α} {h : List α} (hk : kill e = false)
    (hs : since hit kill h = true) : since hit kill (e :: h) = true := by simp [hk, hs]

/-- Entries that neither hit nor kill can be left out. -/
theorem since_filter {hit kill p : α → Bool} (hh : ∀ e, hit e = true → p e = true) (hk : ∀ e, kill e = true → p e = true)
    (h : List α) : since hit kill (h.filter p) = since hit kill h := by
  induction h with
  | nil => rfl
  | cons e h ih =>
    rw [List.filter_cons]
    cases hp : p e with
    | true => rw [if_pos rfl, since_cons, since_cons, ih]
    | false =>
      have h₁ : hit e = false := Bool.eq_false_iff.2 (fun he => by rw [hh e he] at hp; cases hp)
      have h₂ : kill e = false := Bool.eq_false_iff.2 (fun he => by rw [hk e he] at hp; cases hp)
      rw [if_neg Bool.false_ne_true, ih, since_cons, h₁, h₂]
      rfl

theorem any_of_since {hit kill : α → Bool} : ∀ {h : List α}, since hit kill h = true → h.any hit = true
  | e :: h, hs => by
    rw [since_cons, Bool.or_eq_true, Bool.and_eq_true] at hs
    rw [List.any_cons, Bool.or_eq_true]
    exact hs.imp id (fun hs => any_of_since hs.2)

/-- **Later than two kinds of `kill`** is later than each. -/
theorem since_or_kill (hit kill kill' : α → Bool) : ∀ h : List α,
    since hit (fun e => kill e || kill' e) h = (since hit kill h && since hit kill' h)
  | [] => rfl
  | e :: h => by
    rw [since_cons, since_cons, since_cons, since_or_kill hit kill kill' h]
    cases hit e <;> cases kill e <;> cases kill' e <;> simp

theorem since_congr {hit hit' kill kill' : α → Bool} : ∀ {h : List α}, (∀ e ∈ h, hit e = hit' e) →
    (∀ e ∈ h, kill e = kill' e) → since hit kill h = since hit' kill' h
  | [], _, _ => rfl
  | e :: h, hh, hk => by
    rw [since_cons, since_cons, hh e List.mem_cons_self, hk e List.mem_cons_self,
      since_congr (fun x hx => hh x (List.mem_cons_of_mem e hx)) (fun x hx => hk x (List.mem_cons_of_mem e hx))]

/-! ## `sinceAt` -/

@[simp] theorem sinceAt_nil (hit kill : α → Bool) (f : List α → Bool) : sinceAt hit kill f [] = false := rfl

@[simp] theorem sinceAt_cons (hit kill : α → Bool) (f : List α → Bool) (e : α) (h : List α) :
    sinceAt hit kill f (e :: h) = if hit e then f h else !kill e && sinceAt hit kill f h := rfl

theorem sinceAt_cons_of_hit {hit kill : α → Bool} {f : List α → Bool} {e : α} {h : List α} (he : hit e = true)
    (hf : f h = true) : sinceAt hit kill f (e :: h) = true := by simp [he, hf]

theorem sinceAt_cons_of_not_hit {hit kill : α → Bool} {f : List α → Bool} {e : α} {h : List α} (he : hit e = false)
    (hk : kill e = false) (hs : sinceAt hit kill f h = true) : sinceAt hit kill f (e :: h) = true := by simp [he, hk, hs]

theorem sinceAt_filter {hit kill p : α → Bool} {f : List α → Bool} (hh : ∀ e, hit e = true → p e = true)
    (hk : ∀ e, kill e = true → p e = true) (hf : ∀ h, f (h.filter p) = f h) (h : List α) :
    sinceAt hit kill f (h.filter p) = sinceAt hit kill f h := by
  induction h with
  | nil => rfl
  | cons e h ih =>
    rw [List.filter_cons]
    cases hp : p e with
    | true => rw [if_pos rfl, sinceAt_cons, sinceAt_cons, ih, hf]
    | false =>
      have h₁ : hit e = false := Bool.eq_false_iff.2 (fun he => by rw [hh e he] at hp; cases hp)
      have h₂ : kill e = false := Bool.eq_false_iff.2 (fun he => by rw [hk e he] at hp; cases hp)
      rw [if_neg Bool.false_ne_true, ih, sinceAt_cons, h₁, h₂]
      rfl

/-! ## `last` -/

@[simp] theorem last_nil {β : Type} (f : α → Option β) : last f [] = none := rfl

@[simp] theorem last_cons {β : Type} (f : α → Option β) (e : α) (h : List α) :
    last f (e :: h) = (f e).or (last f h) := rfl

theorem last_filter {β : Type} {f : α → Option β} {p : α → Bool} (hf : ∀ e, p e = false → f e = none) :
    ∀ h : List α, last f (h.filter p) = last f h
  | [] => rfl
  | e :: h => by
    rw [List.filter_cons]
    cases hp : p e with
    | true => rw [if_pos rfl, last_cons, last_cons, last_filter hf h]
    | false => rw [if_neg Bool.false_ne_true, last_filter hf h, last_cons, hf e hp, Option.none_or]

theorem last_append {β : Type} (f : α → Option β) (h : List α) : ∀ newer : List α,
    last f (newer ++ h) = (last f newer).or (last f h)
  | [] => rfl
  | e :: newer => by rw [List.cons_append, last_cons, last_cons, last_append f h newer, Option.or_assoc]

theorem last_eq_none_iff {β : Type} {f : α → Option β} : ∀ {h : List α}, last f h = none ↔ ∀ e ∈ h, f e = none
  | [] => by simp
  | e :: h => by rw [last_cons, Option.or_eq_none_iff, last_eq_none_iff, List.forall_mem_cons]

/-! ## `Always` -/

theorem Always.head {P : α → List α → Prop} {e : α} {h : List α} : Always P (e :: h) → P e h
  | .cons he _ => he

theorem Always.tail {P : α → List α → Prop} {e : α} {h : List α} : Always P (e :: h) → Always P h
  | .cons _ ha => ha

instance decidableAlways (P : α → List α → Prop) [∀ e h, Decidable (P e h)] : ∀ h, Decidable (Always P h)
  | [] => isTrue .nil
  | e :: h =>
    match (inferInstance : Decidable (P e h)), decidableAlways P h with
    | isTrue he, isTrue ha => isTrue (.cons he ha)
    | isFalse he, _ => isFalse (fun ha => he ha.head)
    | _, isFalse ha' => isFalse (fun ha => ha' ha.tail)

/-- **What holds of the entries that are kept, on what is kept of their past**, gives what holds of every entry. -/
theorem Always.of_filter {P Q : α → List α → Prop} {p : α → Bool} (hPQ : ∀ e h, p e = true → P e (h.filter p) → Q e h)
    (hQ : ∀ e h, p e = false → Q e h) {h : List α} (ha : Always P (h.filter p)) : Always Q h := by
  induction h with
  | nil => exact .nil
  | cons e h ih =>
    rw [List.filter_cons] at ha
    cases hp : p e with
    | true =>
      rw [if_pos hp] at ha
      exact .cons (hPQ e h hp ha.head) (ih ha.tail)
    | false =>
      rw [if_neg (by rw [hp]; exact Bool.false_ne_true)] at ha
      exact .cons (hQ e h hp) (ih ha)

/-- The other way round: a condition on every entry gives one on those that are kept. -/
theorem Always.filter {P Q : α → List α → Prop} {p : α → Bool} (hPQ : ∀ e h, p e = true → P e h → Q e (h.filter p))
    {h : List α} (ha : Always P h) : Always Q (h.filter p) := by
  induction ha with
  | nil => exact .nil
  | @cons e h he _ ih =>
    rw [List.filter_cons]
    cases hp : p e with
    | true =>
      rw [if_pos rfl]
      exact .cons (hPQ e h hp he) ih
    | false =>
      rw [if_neg Bool.false_ne_true]
      exact ih

/-- Two questions that agree wherever the entries meet `P` agree at the last `hit`. -/
theorem sinceAt_congr {P : α → List α → Prop} {hit kill : α → Bool} {f g : List α → Bool}
    (hfg : ∀ h, Always P h → f h = g h) {h : List α} (ha : Always P h) : sinceAt hit kill f h = sinceAt hit kill g h := by
  induction ha with
  | nil => rfl
  | cons _ ha ih => rw [sinceAt_cons, sinceAt_cons, hfg _ ha, ih]

theorem Always.mono {P Q : α → List α → Prop} (hPQ : ∀ e h, P e h → Q e h) {h : List α} (ha : Always P h) :
    Always Q h := by
  induction ha with
  | nil => exact .nil
  | cons he _ ih => exact .cons (hPQ _ _ he) ih

end Hist
