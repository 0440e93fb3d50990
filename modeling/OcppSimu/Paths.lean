import Mathlib.Data.List.Basic
/-!
# Paths — POSIX paths and what they designate

A path is split at its slashes, and its names are pushed one by one on a stack: `.` is dropped, `..` takes the last name
off.  What is left is the normal form, which says what the path designates as long as no name on it is a link.  A
relative path acts on the normal form of the directory it is joined to (`normal_join`), so whether the result is a
direct child of that directory can be read off the two normal forms (`follow_eq_child_iff`).
-/
namespace Paths

abbrev Path := List Char

abbrev Name := List Char

def dot : Name := ['.']

def dotDot : Name := ['.', '.']

/-- A name that designates something in its directory. -/
def IsName (n : Name) : Prop := n ≠ [] ∧ n ≠ dot ∧ n ≠ dotDot

instance (n : Name) : Decidable (IsName n) := instDecidableAnd

def isAbsolute (p : Path) : Bool := p.head? == some '/'

/-- **Joining two paths**: an absolute right-hand side replaces the left one. -/
def join (p q : Path) : Path :=
  if isAbsolute q then q else if p = [] ∨ p.getLast? = some '/' then p ++ q else p ++ '/' :: q

/-- The names between the slashes; slashes in a row count as one. -/
def components (p : Path) : List Name := (p.splitOn '/').filter (fun n => !n.isEmpty)

/-- What an iterator over a path meets: the root, the names, and an empty element after a slash at the end. -/
def elements (p : Path) : List Name :=
  (if isAbsolute p then [['/']] else []) ++ components p ++
    (if components p ≠ [] ∧ p.getLast? = some '/' then [[]] else [])

/-- **A normal form**: whether it starts at the root, how many levels it leaves upwards, and its names, last first. -/
@[ext] structure Normal where
  absolute : Bool
  ups : Nat
  names : List Name
  deriving DecidableEq

namespace Normal

def push (s : Normal) (n : Name) : Normal :=
  if n = dot then s
  else if n = dotDot then
    match s.names with
    | _ :: rest => { s with names := rest }
    | [] => if s.absolute then s else { s with ups := s.ups + 1 }
  else { s with names := n :: s.names }

def child (s : Normal) (n : Name) : Normal := { s with names := n :: s.names }

/-- **Where the relative form `r` leads from `s`.** -/
def follow (s r : Normal) : Normal where
  absolute := s.absolute
  ups := if s.absolute then s.ups else s.ups + (r.ups - s.names.length)
  names := r.names ++ s.names.drop r.ups

/-- **`t` is `s` or lies in it**, so that it goes where the tree of `s` is removed. -/
def Within (t s : Normal) : Prop :=
  t.absolute = s.absolute ∧ ((t.ups = s.ups ∧ s.names <:+ t.names) ∨ (t.ups < s.ups ∧ s.names = []))

instance (t s : Normal) : Decidable (t.Within s) := instDecidableAnd

end Normal

/-- **The lexical normal form of a path.** -/
def normal (p : Path) : Normal := (components p).foldl Normal.push ⟨isAbsolute p, 0, []⟩

/-! ## Components -/

@[simp] theorem components_nil : components [] = [] := rfl

theorem components_append_slash (p q : Path) : components (p ++ '/' :: q) = components p ++ components q := by
  unfold components
  rw [List.splitOn_append_cons_self, List.filter_append]

theorem components_singleton {n : Name} (hn : n ≠ []) (hs : '/' ∉ n) : components n = [n] := by
  unfold components
  rw [List.splitOn_eq_singleton hs]
  simp [hn]

theorem isAbsolute_append {p : Path} (hp : p ≠ []) (q : Path) : isAbsolute (p ++ q) = isAbsolute p := by
  cases p with
  | nil => exact absurd rfl hp
  | cons c p => rfl

/-! ## Following a relative path -/

namespace Normal

theorem push_dot (s : Normal) : s.push dot = s := rfl

theorem push_dotDot_here : (⟨false, 0, []⟩ : Normal).push dotDot = ⟨false, 1, []⟩ := rfl

theorem push_name {s : Normal} {n : Name} (h₁ : n ≠ dot) (h₂ : n ≠ dotDot) : s.push n = s.child n := by
  unfold push
  rw [if_neg h₁, if_neg h₂]
  rfl

theorem follow_here {s : Normal} : s.follow ⟨false, 0, []⟩ = s := by
  simp [follow]

/-- **One more name**: pushing it and following commute. -/
theorem push_follow (s r : Normal) (hr : r.absolute = false) (n : Name) :
    (s.follow r).push n = s.follow (r.push n) := by
  unfold push
  by_cases h₁ : n = dot
  · rw [if_pos h₁, if_pos h₁]
  rw [if_neg h₁, if_neg h₁]
  by_cases h₂ : n = dotDot
  · rw [if_pos h₂, if_pos h₂]
    cases hrn : r.names with
    | cons m rest => simp [follow, hrn]
    | nil =>
      -- the name that goes is the one of `s` next above those already left
      cases hsn : s.names.drop r.ups with
      | cons m rest =>
        have hlt : r.ups < s.names.length := by
          by_contra hge
          rw [List.drop_eq_nil_of_le (Nat.le_of_not_lt hge)] at hsn
          cases hsn
        have hd : s.names.drop (r.ups + 1) = rest := by
          rw [← List.drop_drop, hsn]
          rfl
        simp [follow, hrn, hsn, hr, hd, Nat.sub_eq_zero_of_le (Nat.le_of_lt hlt), Nat.sub_eq_zero_of_le hlt]
      | nil =>
        have hle : s.names.length ≤ r.ups := List.drop_eq_nil_iff.1 hsn
        have hd : s.names.drop (r.ups + 1) = [] := List.drop_eq_nil_of_le (by omega)
        cases ha : s.absolute with
        | true => simp [follow, hrn, hsn, hr, hd, ha]
        | false =>
          have hu : s.ups + (r.ups - s.names.length) + 1 = s.ups + (r.ups + 1 - s.names.length) := by omega
          simp [follow, hrn, hsn, hr, hd, ha, hu]
  · rw [if_neg h₂, if_neg h₂]
    simp [follow]

theorem absolute_push (s : Normal) (n : Name) : (s.push n).absolute = s.absolute := by
  unfold push
  split
  · rfl
  · split
    · split
      · rfl
      · split <;> rfl
    · rfl

theorem foldl_push_follow (s : Normal) : ∀ (l : List Name) (r : Normal), r.absolute = false →
    l.foldl push (s.follow r) = s.follow (l.foldl push r)
  | [], _, _ => rfl
  | n :: l, r, hr => by
    rw [List.foldl_cons, List.foldl_cons, push_follow s r hr n]
    exact foldl_push_follow s l (r.push n) ((absolute_push r n).trans hr)

/-- **When a relative form leads to a direct child**: it has the child's name and, below it, as many names of the
directory as it has left. -/
theorem follow_eq_child_iff {s r : Normal} {n : Name} : s.follow r = s.child n ↔
    r.names = n :: s.names.take r.ups ∧ (s.absolute = true ∨ r.ups ≤ s.names.length) := by
  have hups : (if s.absolute then s.ups else s.ups + (r.ups - s.names.length)) = s.ups ↔
      (s.absolute = true ∨ r.ups ≤ s.names.length) := by
    cases s.absolute with
    | true => simp
    | false => simp; omega
  have hnames : r.names ++ s.names.drop r.ups = n :: s.names ↔ r.names = n :: s.names.take r.ups := by
    constructor
    · intro h
      cases hr : r.names with
      | nil =>
        rw [hr, List.nil_append] at h
        have hl := congrArg List.length h
        simp at hl
        omega
      | cons m t =>
        rw [hr, List.cons_append, List.cons.injEq] at h
        obtain ⟨rfl, ht⟩ := h
        have hs : t ++ s.names.drop r.ups = s.names.take r.ups ++ s.names.drop r.ups := by
          rw [ht, List.take_append_drop]
        rw [List.append_cancel_right hs]
    · intro h
      rw [h, List.cons_append, List.take_append_drop]
  constructor
  · intro h
    have hn : r.names ++ s.names.drop r.ups = n :: s.names := congrArg Normal.names h
    have hu : (if s.absolute then s.ups else s.ups + (r.ups - s.names.length)) = s.ups := congrArg Normal.ups h
    exact ⟨hnames.1 hn, hups.1 hu⟩
  · rintro ⟨hn, hu⟩
    unfold follow child
    rw [hnames.2 hn, hups.2 hu]

def Proper (s : Normal) : Prop := ∀ n ∈ s.names, IsName n

theorem Proper.push {s : Normal} (hs : s.Proper) {n : Name} (hn : n ≠ []) : (s.push n).Proper := by
  unfold Normal.push
  split
  · exact hs
  · rename_i h₁
    split
    · split
      · rename_i rest hrest
        intro m hm
        exact hs m (by rw [hrest]; exact List.mem_cons_of_mem _ hm)
      · split <;> exact hs
    · rename_i h₂
      intro m hm
      rcases List.mem_cons.1 hm with rfl | hm
      · exact ⟨hn, h₁, h₂⟩
      · exact hs m hm

end Normal

/-- **All names of a normal form are names.** -/
theorem normal_proper (p : Path) : (normal p).Proper := by
  have hl : ∀ l : List Name, (∀ n ∈ l, n ≠ []) → ∀ s : Normal, s.Proper → (l.foldl Normal.push s).Proper := by
    intro l
    induction l with
    | nil => exact fun _ _ hs => hs
    | cons n l ih =>
      intro hn s hs
      rw [List.foldl_cons]
      exact ih (fun m hm => hn m (List.mem_cons_of_mem n hm)) _ (hs.push (hn n List.mem_cons_self))
  refine hl _ (fun n hn => ?_) _ (fun _ hn => by cases hn)
  have hne := (List.mem_filter.1 hn).2
  simpa using hne

theorem absolute_foldl_push (l : List Name) (s : Normal) : (l.foldl Normal.push s).absolute = s.absolute := by
  induction l generalizing s with
  | nil => rfl
  | cons n l ih => exact (ih (s.push n)).trans (s.absolute_push n)

@[simp] theorem absolute_normal (p : Path) : (normal p).absolute = isAbsolute p := absolute_foldl_push _ _

/-- **An absolute path leaves nothing upwards.** -/
theorem ups_normal_of_absolute {p : Path} (hp : isAbsolute p = true) : (normal p).ups = 0 := by
  have hl : ∀ (l : List Name) (s : Normal), s.absolute = true → (l.foldl Normal.push s).ups = s.ups := by
    intro l
    induction l with
    | nil => exact fun _ _ => rfl
    | cons n l ih =>
      intro s hs
      rw [List.foldl_cons, ih _ ((s.absolute_push n).trans hs)]
      unfold Normal.push
      split
      · rfl
      · split
        · split
          · rfl
          · rfl
        · rfl
  exact hl _ _ hp

/-- **A relative path joined to a directory is followed from it.** -/
theorem normal_join (p : Path) {q : Path} (hq : isAbsolute q = false) :
    normal (join p q) = (normal p).follow (normal q) := by
  have hn : normal q = (components q).foldl Normal.push ⟨false, 0, []⟩ := by
    unfold normal
    rw [hq]
  have hf : (normal p).follow (normal q) = (components q).foldl Normal.push (normal p) := by
    rw [hn, ← Normal.foldl_push_follow _ _ _ rfl, Normal.follow_here]
  rw [hf]
  have hj : join p q = if p = [] ∨ p.getLast? = some '/' then p ++ q else p ++ '/' :: q := by
    unfold join
    rw [hq]
    rfl
  by_cases h₀ : p = []
  · subst h₀
    rw [hj, if_pos (.inl rfl), List.nil_append, hn]
    rfl
  by_cases h₁ : p.getLast? = some '/'
  · -- the slash at the end of `p` separates the two
    have hp : p = p.dropLast ++ ['/'] := (List.dropLast_append_getLast? '/' h₁).symm
    have hc : components (p ++ q) = components p ++ components q := by
      rw [hp, List.append_assoc, components_append_slash, List.singleton_append, components_append_slash,
        components_nil, List.append_nil]
    rw [hj, if_pos (.inr h₁)]
    unfold normal
    rw [hc, List.foldl_append, isAbsolute_append h₀]
  · rw [hj, if_neg (by simp [h₀, h₁])]
    unfold normal
    rw [components_append_slash, List.foldl_append, isAbsolute_append h₀]

theorem join_of_absolute (p : Path) {q : Path} (hq : isAbsolute q = true) : join p q = q := by
  unfold join
  rw [if_pos hq]

/-! ## A single name -/

theorem isAbsolute_of_slash_notMem {n : Name} (hs : '/' ∉ n) : isAbsolute n = false := by
  cases n with
  | nil => rfl
  | cons c n =>
    have hc : c ≠ '/' := fun h => hs (by rw [h]; exact List.mem_cons_self)
    simpa [isAbsolute] using hc

theorem normal_name {n : Name} (hn : n ≠ []) (hs : '/' ∉ n) : normal n = Normal.push ⟨false, 0, []⟩ n := by
  unfold normal
  rw [components_singleton hn hs, isAbsolute_of_slash_notMem hs]
  rfl

end Paths
