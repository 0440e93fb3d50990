import OcppSimu.CommandLine
/-!
# Arguments — the loops of `main` over `argv`

Both programs walk over their arguments with a pointer and a counter, which an option with a value moves twice, and leave
the loop where the counter is 1.  The pointer is kept at the argument that the counter says (`loop_eq`), up to an option
that wants a value and is the last argument: the test before it lets it pass, and the value read is the null pointer
after the arguments (`arguments_handled_iff`).
-/
namespace Arguments

open Launcher (Options Expects)

/-! ## The loops -/

inductive Fault
  | nullPointer | outOfBounds
  deriving DecidableEq

/-- **The options of a program**: those with a value, of which some take more than one, and those without. -/
structure Table (σ : Type) where
  valued : List String
  several : List String
  flags : List String
  set : σ → String → String → σ
  add : σ → String → String → σ
  mark : σ → String → σ
  several_valued : ∀ name ∈ several, name ∈ valued
  flag_not_valued : ∀ name ∈ flags, name ∉ valued
  dash : ∀ name ∈ valued ++ flags, name.toList.head? = some '-' ∧ name ≠ "-h"

/-- A program that may run out of fuel, or read what is not an argument. -/
abbrev Run (α : Type) := ExceptT Fault Option α

def interrupted {α : Type} : Run α := ExceptT.mk none

/-- `argv[i]`, as a text.  After the arguments there is the null pointer. -/
def read (args : List String) (i : Nat) : Run String :=
  match args[i]? with
  | some s => pure s
  | none => throw (if i = args.length then .nullPointer else .outOfBounds)

/-- The variables of the loop, `argv` as the index of what it points to. -/
structure Cursor (σ : Type) where
  argv : Nat
  argc : ℤ
  param : Option String
  badParam : Bool
  data : σ

section

variable {σ : Type} (T : Table σ) (args : List String)

/-- `argv++; argc--;`. -/
def Cursor.advance (s : Cursor σ) : Cursor σ := { s with argv := s.argv + 1, argc := s.argc - 1 }

def startsWithDash (arg : String) : Bool := decide (arg.toList.head? = some '-')

/-- The inner loop of an option with more than one value. -/
def moreValues (name : String) : Nat → Cursor σ → Run (Cursor σ)
  | 0, _ => interrupted
  | fuel + 1, s =>
    if s.argc > 2 then do
      let next ← read args (s.argv + 1)
      if startsWithDash next then pure s
      else
        let value ← read args s.advance.argv
        moreValues name fuel { s.advance with data := T.add s.data name value }
    else pure s

/-- The branches of the loop. -/
def branches (fuel : Nat) (s : Cursor σ) : Run (Cursor σ) := do
  let name ← read args s.argv
  if name = "-h" then pure { s with badParam := true }
  else if name ∈ T.valued ∧ s.argc > 1 then
    let value ← read args s.advance.argv
    let s := { s.advance with data := T.set s.data name value }
    if name ∈ T.several then moreValues T args name fuel s else pure s
  else if name ∈ T.flags then pure { s with data := T.mark s.data name }
  else pure { s with param := some name, badParam := true }

/-- **The loop**, "Next param" at the end of a round. -/
def loop : Nat → Cursor σ → Run (Cursor σ)
  | 0, _ => interrupted
  | fuel + 1, s =>
    if s.argc ≠ 1 ∧ s.badParam = false then do
      let s ← branches T args fuel s
      loop fuel s.advance
    else pure s

inductive Outcome (σ : Type)
  | options (data : σ)
  | usage (param : Option String)

def Cursor.outcome (s : Cursor σ) : Outcome σ := if s.badParam then .usage s.param else .options s.data

/-- **"Check parameters"**, of arguments of which the first is the program. -/
def checkParameters (fuel : Nat) (defaults : σ) : Run (Outcome σ) :=
  if args.length > 1 then do
    let s ← loop T args fuel { argv := 1, argc := args.length, param := none, badParam := false, data := defaults }
    pure s.outcome
  else pure (.options defaults)

/-! ## The arguments, one after the other -/

inductive Phase (σ : Type)
  | reading (data : σ) (e : Expects)
  | usage (param : Option String)

variable {T} in
def Phase.option (T : Table σ) (data : σ) (arg : String) : Phase σ :=
  if arg = "-h" then .usage none
  else if arg ∈ T.valued then .reading data (.value arg)
  else if arg ∈ T.flags then .reading (T.mark data arg) .option
  else .usage (some arg)

def Phase.next : Phase σ → String → Phase σ
  | .usage param, _ => .usage param
  | .reading data .option, arg => option T data arg
  | .reading data (.value name), arg =>
    .reading (T.set data name arg) (if name ∈ T.several then .more name else .option)
  | .reading data (.more name), arg =>
    if startsWithDash arg then option T data arg else .reading (T.add data name arg) (.more name)

/-- What a run comes to that ends in that phase. -/
def Phase.finish : Phase σ → Except Fault (Outcome σ)
  | .usage param => .ok (.usage param)
  | .reading _ (.value _) => .error .nullPointer
  | .reading data _ => .ok (.options data)

/-! ## The loops read the arguments one after the other -/

variable {T args}

theorem read_of_drop {i : Nat} {a : String} {rest : List String} (h : args.drop i = a :: rest) : read args i = pure a := by
  have hi : args[i]? = some a := by
    have h₀ : (args.drop i)[0]? = some a := by rw [h]; rfl
    rwa [List.getElem?_drop, Nat.add_zero] at h₀
  unfold read
  rw [hi]

theorem drop_succ_of_drop {i : Nat} {a : String} {rest : List String} (h : args.drop i = a :: rest) :
    args.drop (i + 1) = rest := by
  rw [← List.drop_drop, h]
  rfl

/-- **The null pointer follows the last argument.** -/
theorem read_after_last {i : Nat} {a : String} (h : args.drop i = [a]) : read args (i + 1) = throw .nullPointer := by
  have hl : args.length - i = 1 := by
    rw [← List.length_drop, h]
    rfl
  have hnone : args[i + 1]? = none := List.getElem?_eq_none (by omega)
  have hend : i + 1 = args.length := by omega
  unfold read
  rw [hnone, if_pos hend]

/-- **The pointer is at the arguments that the counter says are left.** -/
structure At (args : List String) (s : Cursor σ) (rest : List String) : Prop where
  drop : args.drop s.argv = rest
  count : s.argc = rest.length + 1
  param : s.param = none
  good : s.badParam = false

theorem At.advance {s : Cursor σ} {a : String} {rest : List String} (h : At args s (a :: rest)) :
    At args s.advance rest where
  drop := drop_succ_of_drop h.drop
  count := by
    have hc := h.count
    rw [List.length_cons] at hc
    push_cast at hc
    show s.argc - 1 = rest.length + 1
    omega
  param := h.param
  good := h.good

theorem At.withData {s : Cursor σ} {rest : List String} (h : At args s rest) (d : σ) : At args { s with data := d } rest :=
  ⟨h.drop, h.count, h.param, h.good⟩

/-- A further value, for an option that takes more. -/
def goesOn (arg : String) : Bool := !startsWithDash arg

theorem goesOn_eq {arg : String} : goesOn arg = true ↔ ¬startsWithDash arg = true := by
  simp [goesOn]

theorem Phase.next_value_several {T : Table σ} {name : String} (h : name ∈ T.several) (d : σ) (a : String) :
    Phase.next T (.reading d (.value name)) a = .reading (T.set d name a) (.more name) :=
  congrArg (Phase.reading _) (if_pos h)

theorem Phase.next_value_single {T : Table σ} {name : String} (h : name ∉ T.several) (d : σ) (a : String) :
    Phase.next T (.reading d (.value name)) a = .reading (T.set d name a) .option :=
  congrArg (Phase.reading _) (if_neg h)

theorem Phase.next_more_dash {a : String} (h : startsWithDash a = true) (T : Table σ) (d : σ) (name : String) :
    Phase.next T (.reading d (.more name)) a = Phase.option T d a := if_pos h

theorem Phase.next_more {a : String} (h : ¬startsWithDash a = true) (T : Table σ) (d : σ) (name : String) :
    Phase.next T (.reading d (.more name)) a = .reading (T.add d name a) (.more name) := if_neg h

/-- **The inner loop** takes the arguments up to the next that starts with a dash. -/
theorem moreValues_eq (T : Table σ) (name : String) (tail : List String) {s : Cursor σ} {a : String}
    (h : At args s (a :: tail)) {fuel : Nat} (hf : tail.length < fuel) :
    ∃ s' a', moreValues T args name fuel s = pure s' ∧
      At args s' (a' :: tail.dropWhile goesOn) ∧
      s'.data = (tail.takeWhile goesOn).foldl (T.add · name) s.data := by
  induction tail generalizing s a fuel with
  | nil =>
    obtain ⟨fuel, rfl⟩ := Nat.exists_eq_succ_of_ne_zero (Nat.ne_of_gt hf)
    have hc : ¬s.argc > 2 := by
      have hcount := h.count
      simp only [List.length_cons, List.length_nil] at hcount
      omega
    exact ⟨s, a, by rw [moreValues, if_neg hc], h, rfl⟩
  | cons n tail ih =>
    obtain ⟨fuel, rfl⟩ := Nat.exists_eq_succ_of_ne_zero (Nat.ne_of_gt (Nat.zero_lt_of_lt hf))
    have hc : s.argc > 2 := by
      rw [h.count]
      simp only [List.length_cons]
      push_cast
      omega
    have hr : read args (s.argv + 1) = pure n := read_of_drop h.advance.drop
    rw [moreValues, if_pos hc, hr, pure_bind]
    by_cases hd : startsWithDash n = true
    · rw [if_pos hd]
      refine ⟨s, a, rfl, ?_, ?_⟩
      · rwa [List.dropWhile_cons_of_neg (fun h => goesOn_eq.1 h hd)]
      · rw [List.takeWhile_cons_of_neg (fun h => goesOn_eq.1 h hd)]
        rfl
    · have hn : goesOn n = true := goesOn_eq.2 hd
      have hlen : tail.length < fuel := Nat.lt_of_succ_lt_succ hf
      obtain ⟨s', a', he, ha, hdata⟩ := ih (h.advance.withData (T.add s.data name n)) hlen
      have hr' : read args s.advance.argv = pure n := hr
      rw [if_neg hd, hr', pure_bind, List.dropWhile_cons_of_pos hn, List.takeWhile_cons_of_pos hn]
      exact ⟨s', a', he, ha, hdata⟩

theorem finish_more (T : Table σ) (name : String) (tail : List String) (d : σ) :
    (tail.foldl (Phase.next T) (.reading d (.more name))).finish =
      ((tail.dropWhile goesOn).foldl (Phase.next T)
        (.reading ((tail.takeWhile goesOn).foldl (T.add · name) d) .option)).finish := by
  induction tail generalizing d with
  | nil => rfl
  | cons n tail ih =>
    rw [List.foldl_cons]
    by_cases hd : startsWithDash n = true
    · have hn : ¬goesOn n = true := fun h => goesOn_eq.1 h hd
      rw [List.dropWhile_cons_of_neg hn, List.takeWhile_cons_of_neg hn, List.foldl_cons, Phase.next_more_dash hd]
      rfl
    · have hn : goesOn n = true := goesOn_eq.2 hd
      rw [Phase.next_more hd, ih, List.dropWhile_cons_of_pos hn, List.takeWhile_cons_of_pos hn]
      rfl

theorem foldl_usage (T : Table σ) (rest : List String) (param : Option String) :
    rest.foldl (Phase.next T) (.usage param) = .usage param := by
  induction rest with
  | nil => rfl
  | cons a rest ih => exact ih

/-- The rest of the loop, and what it comes to. -/
def afterwards (T : Table σ) (args : List String) (fuel : Nat) (s : Cursor σ) : Run (Outcome σ) := do
  let s ← loop T args fuel s
  pure s.outcome

theorem afterwards_bad (T : Table σ) {fuel : Nat} (hf : 0 < fuel) {s : Cursor σ} (hb : s.badParam = true) :
    afterwards T args fuel s = pure (.usage s.param) := by
  obtain ⟨fuel, rfl⟩ := Nat.exists_eq_succ_of_ne_zero hf.ne'
  have hc : ¬(s.argc ≠ 1 ∧ s.badParam = false) := fun h => by
    rw [hb] at h
    cases h.2
  unfold afterwards loop
  rw [if_neg hc, pure_bind]
  unfold Cursor.outcome
  rw [if_pos hb]

/-- **A round for an option with its value**, of which it may take more. -/
theorem branches_value (T : Table σ) {name value : String} {tail : List String} {s : Cursor σ}
    (h : At args s (name :: value :: tail)) (hv : name ∈ T.valued) {fuel : Nat} (hf : tail.length < fuel) :
    ∃ s' rest, branches T args fuel s = pure s' ∧ At args s'.advance rest ∧ rest.length ≤ tail.length ∧
      ((value :: tail).foldl (Phase.next T) (.reading s.data (.value name))).finish =
        (rest.foldl (Phase.next T) (.reading s'.data .option)).finish := by
  have hh : name ≠ "-h" := (T.dash name (List.mem_append_left _ hv)).2
  have hc : s.argc > 1 := by
    have hcount := h.count
    simp only [List.length_cons] at hcount
    push_cast at hcount
    omega
  have hname : read args s.argv = pure name := read_of_drop h.drop
  have hvalue : read args s.advance.argv = pure value := read_of_drop h.advance.drop
  have hd := h.advance.withData (T.set s.data name value)
  unfold branches
  rw [hname, pure_bind, if_neg hh, if_pos ⟨hv, hc⟩, hvalue, pure_bind, List.foldl_cons]
  by_cases hs : name ∈ T.several
  · obtain ⟨s', a', he, ha, hdata⟩ := moreValues_eq T name tail hd hf
    rw [if_pos hs, Phase.next_value_several hs, finish_more]
    refine ⟨s', tail.dropWhile goesOn, he, ha.advance, List.length_dropWhile_le _ _, ?_⟩
    rw [hdata]
  · rw [if_neg hs, Phase.next_value_single hs]
    exact ⟨_, tail, rfl, hd.advance, Nat.le_refl _, rfl⟩

/-- An option that wants a value, and is the last argument: the value is read after the arguments. -/
theorem branches_missing (T : Table σ) {name : String} {s : Cursor σ} (h : At args s [name]) (hv : name ∈ T.valued)
    (fuel : Nat) : branches T args fuel s = throw .nullPointer := by
  have hh : name ≠ "-h" := (T.dash name (List.mem_append_left _ hv)).2
  have hc : s.argc > 1 := by
    rw [h.count]
    simp
  have hname : read args s.argv = pure name := read_of_drop h.drop
  have hvalue : read args s.advance.argv = throw .nullPointer := read_after_last h.drop
  unfold branches
  rw [hname, pure_bind, if_neg hh, if_pos ⟨hv, hc⟩, hvalue]
  rfl

theorem branches_flag (T : Table σ) {name : String} {rest : List String} {s : Cursor σ} (h : At args s (name :: rest))
    (hf : name ∈ T.flags) (fuel : Nat) :
    branches T args fuel s = pure { s with data := T.mark s.data name } ∧
      Phase.next T (.reading s.data .option) name = .reading (T.mark s.data name) .option := by
  have hh : name ≠ "-h" := (T.dash name (List.mem_append_right _ hf)).2
  have hv : name ∉ T.valued := T.flag_not_valued name hf
  have hname : read args s.argv = pure name := read_of_drop h.drop
  constructor
  · unfold branches
    rw [hname, pure_bind, if_neg hh, if_neg (fun h => hv h.1), if_pos hf]
  · exact (if_neg hh).trans ((if_neg hv).trans (if_pos hf))

/-- **A round for what is no option**, or asks for the usage, is the last. -/
theorem branches_bad (T : Table σ) {name : String} {rest : List String} {s : Cursor σ} (h : At args s (name :: rest))
    (hv : name ∉ T.valued) (hf : name ∉ T.flags) (fuel : Nat) :
    ∃ s', branches T args fuel s = pure s' ∧ s'.badParam = true ∧
      Phase.next T (.reading s.data .option) name = .usage s'.param := by
  have hname : read args s.argv = pure name := read_of_drop h.drop
  unfold branches
  rw [hname, pure_bind]
  by_cases hh : name = "-h"
  · rw [if_pos hh]
    refine ⟨_, rfl, rfl, ?_⟩
    show Phase.option T s.data name = .usage s.param
    rw [h.param]
    exact if_pos hh
  · rw [if_neg hh, if_neg (fun h => hv h.1), if_neg hf]
    exact ⟨_, rfl, rfl, (if_neg hh).trans ((if_neg hv).trans (if_neg hf))⟩

/-- **From any point on, the loop reads the rest of the arguments**, one after the other. -/
theorem afterwards_eq (T : Table σ) (rest : List String) {s : Cursor σ} (h : At args s rest) {fuel : Nat}
    (hf : rest.length < fuel) :
    afterwards T args fuel s = ExceptT.mk (some (rest.foldl (Phase.next T) (.reading s.data .option)).finish) := by
  induction hn : rest.length using Nat.strong_induction_on generalizing rest s fuel with
  | _ n ih =>
  obtain ⟨fuel, rfl⟩ := Nat.exists_eq_succ_of_ne_zero (Nat.ne_of_gt (Nat.zero_lt_of_lt hf))
  cases rest with
  | nil =>
    have hc : ¬(s.argc ≠ 1 ∧ s.badParam = false) := fun hc => hc.1 (by rw [h.count]; rfl)
    unfold afterwards loop
    rw [if_neg hc, pure_bind]
    unfold Cursor.outcome
    rw [h.good]
    rfl
  | cons name rest =>
    have hcount := h.count
    rw [List.length_cons] at hcount hn hf
    push_cast at hcount
    have hc : s.argc ≠ 1 ∧ s.badParam = false := ⟨by omega, h.good⟩
    have hround : afterwards T args (fuel + 1) s = branches T args fuel s >>= fun s => afterwards T args fuel s.advance := by
      unfold afterwards
      rw [loop, if_pos hc, bind_assoc]
    rw [hround, List.foldl_cons]
    by_cases hv : name ∈ T.valued
    · have hh : name ≠ "-h" := (T.dash name (List.mem_append_left _ hv)).2
      have hnext : Phase.next T (.reading s.data .option) name = .reading s.data (.value name) :=
        (if_neg hh).trans (if_pos hv)
      rw [hnext]
      cases rest with
      | nil =>
        rw [branches_missing T h hv]
        rfl
      | cons value tail =>
        rw [List.length_cons] at hn hf
        have hlt : tail.length < fuel := by omega
        obtain ⟨s', rest, he, ha, hle, hfold⟩ := branches_value T h hv hlt
        rw [he, pure_bind, hfold]
        exact ih rest.length (by omega) rest ha (by omega) rfl
    by_cases hflag : name ∈ T.flags
    · obtain ⟨he, hnext⟩ := branches_flag T h hflag fuel
      rw [he, pure_bind, hnext]
      exact ih rest.length (by omega) rest (h.withData (T.mark s.data name)).advance (by omega) rfl
    · obtain ⟨s', he, hbad, hnext⟩ := branches_bad T h hv hflag fuel
      have hfuel : 0 < fuel := by omega
      have hadvance : s'.advance.badParam = true := hbad
      rw [he, pure_bind, afterwards_bad T hfuel hadvance, hnext, foldl_usage]
      rfl

/-- **The loops read the arguments one after the other**, and take no more rounds than there are arguments. -/
theorem checkParameters_eq (T : Table σ) (program : String) (rest : List String) (defaults : σ) {fuel : Nat}
    (hf : rest.length < fuel) : checkParameters T (program :: rest) fuel defaults =
      ExceptT.mk (some (rest.foldl (Phase.next T) (.reading defaults .option)).finish) := by
  unfold checkParameters
  cases rest with
  | nil => rfl
  | cons a rest =>
    rw [if_pos (by simp)]
    refine afterwards_eq T (a :: rest) ⟨rfl, ?_, rfl, rfl⟩ hf
    show ((program :: a :: rest).length : ℤ) = (a :: rest).length + 1
    simp

/-! ## Where the arguments end -/

/-- An option with all that it takes. -/
inductive Table.Group (T : Table σ) : List String → Prop
  | flag {name : String} (h : name ∈ T.flags) : Group T [name]
  | value {name value : String} (h : name ∈ T.valued) : Group T [name, value]
  | several {name value : String} {more : List String} (h : name ∈ T.several) (hm : ∀ x ∈ more, goesOn x = true) :
    Group T (name :: value :: more)

/-- The arguments are options with all that they take. -/
def Table.Complete (T : Table σ) (l : List String) : Prop :=
  ∃ groups : List (List String), (∀ g ∈ groups, T.Group g) ∧ l = groups.flatten

/-- **The last of the arguments is an option that wants a value**, after options with all that they take. -/
def Table.Dangling (T : Table σ) (l : List String) : Prop :=
  ∃ before name, T.Complete before ∧ name ∈ T.valued ∧ l = before ++ [name]

theorem Table.Complete.append {T : Table σ} {l g : List String} (h : T.Complete l) (hg : T.Group g) :
    T.Complete (l ++ g) := by
  obtain ⟨groups, hgs, rfl⟩ := h
  refine ⟨groups ++ [g], fun x hx => ?_, by simp⟩
  rcases List.mem_append.1 hx with hx | hx
  · exact hgs x hx
  · rw [List.mem_singleton.1 hx]
    exact hg

/-- What a phase says of the arguments before it. -/
def Phase.Tells (T : Table σ) (l : List String) : Phase σ → Prop
  | .reading _ .option => T.Complete l
  | .reading _ (.value name) => ∃ before, T.Complete before ∧ name ∈ T.valued ∧ l = before ++ [name]
  | .reading _ (.more name) => ∃ before value more, T.Complete before ∧ name ∈ T.several ∧ (∀ x ∈ more, goesOn x = true) ∧
      l = before ++ name :: value :: more
  | .usage _ => True

theorem Phase.tells_option {T : Table σ} {l : List String} (h : T.Complete l) (d : σ) (a : String) :
    (Phase.option T d a).Tells T (l ++ [a]) := by
  unfold Phase.option
  split
  · trivial
  split
  · rename_i hv
    exact ⟨l, h, hv, rfl⟩
  split
  · rename_i hf
    exact h.append (.flag hf)
  · trivial

theorem complete_of_more {T : Table σ} {before more : List String} {name value : String} (h : T.Complete before)
    (hs : name ∈ T.several) (hm : ∀ x ∈ more, goesOn x = true) : T.Complete (before ++ name :: value :: more) :=
  h.append (.several hs hm)

theorem Phase.Tells.next {T : Table σ} {l : List String} {p : Phase σ} (h : p.Tells T l) (a : String) :
    (p.next T a).Tells T (l ++ [a]) := by
  cases p with
  | usage param => trivial
  | reading d e =>
    cases e with
    | option => exact tells_option h d a
    | value name =>
      obtain ⟨before, hb, hv, rfl⟩ := h
      rw [List.append_assoc]
      by_cases hs : name ∈ T.several
      · rw [next_value_several hs]
        exact ⟨before, a, [], hb, hs, fun x hx => (by cases hx), rfl⟩
      · rw [next_value_single hs]
        exact hb.append (.value hv)
    | more name =>
      obtain ⟨before, value, more, hb, hs, hm, rfl⟩ := h
      by_cases hd : startsWithDash a = true
      · rw [next_more_dash hd]
        exact tells_option (complete_of_more hb hs hm) d a
      · rw [next_more hd]
        refine ⟨before, value, more ++ [a], hb, hs, fun x hx => ?_, by simp⟩
        rcases List.mem_append.1 hx with hx | hx
        · exact hm x hx
        · rw [List.mem_singleton.1 hx]
          exact goesOn_eq.2 hd

theorem tells_foldl (T : Table σ) (d : σ) (l : List String) :
    (l.foldl (Phase.next T) (.reading d .option)).Tells T l := by
  induction l using List.reverseRecOn with
  | nil => exact ⟨[], fun g hg => (by cases hg), rfl⟩
  | append_singleton l a ih =>
    rw [List.foldl_append]
    exact ih.next a

/-- The next argument is read as an option, if it starts with a dash. -/
def Phase.Ready : Phase σ → Prop
  | .reading _ (.value _) => False
  | .reading _ _ => True
  | .usage _ => False

theorem Phase.Ready.next {T : Table σ} {p : Phase σ} (h : p.Ready) {a : String} (ha : startsWithDash a = true) :
    ∃ d, p.next T a = Phase.option T d a := by
  cases p with
  | usage param => cases h
  | reading d e =>
    cases e with
    | option => exact ⟨d, rfl⟩
    | value name => cases h
    | more name => exact ⟨d, if_pos ha⟩

/-- An option with a value, where one is read. -/
theorem Phase.Ready.next_valued {T : Table σ} {p : Phase σ} (h : p.Ready) {name : String} (hv : name ∈ T.valued) :
    ∃ d, p.next T name = .reading d (.value name) := by
  obtain ⟨hd, hh⟩ := T.dash name (List.mem_append_left _ hv)
  obtain ⟨d, hn⟩ := h.next (T := T) (decide_eq_true hd)
  exact ⟨d, hn.trans ((if_neg hh).trans (if_pos hv))⟩

theorem foldl_more (T : Table σ) (name : String) {more : List String} (h : ∀ x ∈ more, goesOn x = true) (d : σ) :
    more.foldl (Phase.next T) (.reading d (.more name)) = .reading (more.foldl (T.add · name) d) (.more name) := by
  induction more generalizing d with
  | nil => rfl
  | cons a more ih =>
    have ha : ¬startsWithDash a = true := goesOn_eq.1 (h a List.mem_cons_self)
    rw [List.foldl_cons, Phase.next_more ha, ih (fun x hx => h x (List.mem_cons_of_mem a hx))]
    rfl

/-- **An option with all that it takes** leaves the loop ready for the next. -/
theorem Phase.Ready.foldl_group {T : Table σ} {g : List String} (hg : T.Group g) {p : Phase σ} (h : p.Ready) :
    (g.foldl (Phase.next T) p).Ready := by
  cases hg with
  | @flag name hf =>
    obtain ⟨hd, hh⟩ := T.dash name (List.mem_append_right _ hf)
    obtain ⟨d, hn⟩ := h.next (T := T) (decide_eq_true hd)
    have ho : Phase.option T d name = .reading (T.mark d name) .option :=
      (if_neg hh).trans ((if_neg (T.flag_not_valued name hf)).trans (if_pos hf))
    rw [List.foldl_cons, hn, ho]
    trivial
  | @value name value hv =>
    obtain ⟨d, hn⟩ := h.next_valued hv
    rw [List.foldl_cons, hn, List.foldl_cons, List.foldl_nil]
    by_cases hs : name ∈ T.several
    · rw [next_value_several hs]
      trivial
    · rw [next_value_single hs]
      trivial
  | @several name value more hs hm =>
    obtain ⟨d, hn⟩ := h.next_valued (T.several_valued name hs)
    rw [List.foldl_cons, hn, List.foldl_cons, next_value_several hs, foldl_more T name hm]
    trivial

theorem ready_of_complete {T : Table σ} {l : List String} (h : T.Complete l) (d : σ) :
    (l.foldl (Phase.next T) (.reading d .option)).Ready := by
  obtain ⟨groups, hg, rfl⟩ := h
  induction groups using List.reverseRecOn with
  | nil => trivial
  | append_singleton groups g ih =>
    rw [List.flatten_concat, List.foldl_append]
    exact (ih (fun x hx => hg x (List.mem_append_left _ hx))).foldl_group (hg g (List.mem_append_right _ List.mem_cons_self))

/-- **The loop wants a value at the end exactly where the last argument is such an option.** -/
theorem dangling_iff (T : Table σ) (d : σ) (l : List String) :
    T.Dangling l ↔ ∃ d' name, l.foldl (Phase.next T) (.reading d .option) = .reading d' (.value name) := by
  constructor
  · rintro ⟨before, name, hb, hv, rfl⟩
    obtain ⟨d', hn⟩ := (ready_of_complete hb d).next_valued hv
    exact ⟨d', name, by rw [List.foldl_append]; exact hn⟩
  · rintro ⟨d', name, he⟩
    have hs := tells_foldl T d l
    rw [he] at hs
    obtain ⟨before, hb, hv, rfl⟩ := hs
    exact ⟨before, name, hb, hv, rfl⟩

/-- **The last argument is the name of an option that wants a value**, and not itself the value of one. -/
def Table.EndsInOption (T : Table σ) (l : List String) : Prop :=
  ∃ before name, ¬T.Dangling before ∧ name ∈ T.valued ∧ l = before ++ [name]

/-- **The arguments are handled**: within as many rounds as there are arguments the loops come to an end, having read none
but those; and an option at their end that wants a value is a bad parameter. -/
def Table.Handles (T : Table σ) (defaults : σ) (args : List String) : Prop :=
  ∃ outcome, (∀ fuel, args.length < fuel → checkParameters T args fuel defaults = pure outcome) ∧
    (T.EndsInOption args.tail → ∃ param, outcome = .usage param)

/-- The loops come to an end, or read what is not an argument. -/
def Table.Ends (T : Table σ) (defaults : σ) (args : List String) : Prop :=
  ∃ result, ∀ fuel, args.length < fuel → checkParameters T args fuel defaults = ExceptT.mk (some result)

theorem ends (T : Table σ) (defaults : σ) (args : List String) : T.Ends defaults args := by
  cases args with
  | nil => exact ⟨.ok (.options defaults), fun fuel _ => rfl⟩
  | cons program rest => exact ⟨_, fun fuel hf => checkParameters_eq T program rest defaults (Nat.lt_of_succ_lt hf)⟩

theorem not_handles_of_dangling {T : Table σ} {args : List String} (h : T.Dangling args.tail) (defaults : σ) :
    ¬T.Handles defaults args := by
  rintro ⟨outcome, hr, -⟩
  cases args with
  | nil =>
    obtain ⟨before, name, -, -, he⟩ := h
    simp at he
  | cons program rest =>
    obtain ⟨d, name, he⟩ := (dangling_iff T defaults rest).1 h
    have hlt : rest.length < rest.length + 2 := by omega
    have hc := (checkParameters_eq T program rest defaults hlt).symm.trans (hr _ (by simp))
    rw [he] at hc
    cases hc

theorem handles_of_not_dangling {T : Table σ} {args : List String} (h : ¬T.Dangling args.tail) (defaults : σ) :
    T.Handles defaults args := by
  cases args with
  | nil =>
    refine ⟨.options defaults, fun fuel _ => rfl, fun he => ?_⟩
    obtain ⟨before, name, -, -, hl⟩ := he
    simp at hl
  | cons program rest =>
    have hfold := fun fuel (hf : (program :: rest).length < fuel) =>
      checkParameters_eq T program rest defaults (Nat.lt_of_succ_lt hf)
    cases hp : rest.foldl (Phase.next T) (.reading defaults .option) with
    | usage param =>
      rw [hp] at hfold
      exact ⟨.usage param, hfold, fun _ => ⟨param, rfl⟩⟩
    | reading d e =>
      have hvalue : ∀ name, e ≠ .value name := by
        rintro name rfl
        exact h ((dangling_iff T defaults rest).2 ⟨d, name, hp⟩)
      have hends : ¬T.EndsInOption rest := by
        rintro ⟨before, name, hb, hv, rfl⟩
        rw [List.foldl_append] at hp
        cases hq : before.foldl (Phase.next T) (.reading defaults .option) with
        | usage param =>
          rw [hq] at hp
          cases hp
        | reading d' e' =>
          -- the last argument is read as an option, and then a value is wanted
          have hready : (Phase.reading d' e').Ready := by
            cases e' with
            | option => trivial
            | more name' => trivial
            | value name' => exact absurd ((dangling_iff T defaults before).2 ⟨d', name', hq⟩) hb
          obtain ⟨d'', hn⟩ := hready.next_valued hv
          rw [hq] at hp
          obtain ⟨-, he⟩ := Phase.reading.inj (hn.symm.trans hp)
          exact hvalue name he.symm
      rw [hp] at hfold
      cases e with
      | option => exact ⟨.options d, hfold, fun he => absurd he hends⟩
      | more name => exact ⟨.options d, hfold, fun he => absurd he hends⟩
      | value name => exact absurd rfl (hvalue name)

end

/-! ## The two programs -/

def chargepoint : Table Options where
  valued := Launcher.valued
  several := ["-f", "-v"]
  flags := []
  set := Options.set
  add := Options.add
  mark := fun o _ => o
  several_valued := by decide
  flag_not_valued := by decide
  dash := by decide

structure LauncherOptions where
  workingDir : String := ""
  brokerUrl : String := "tcp://localhost:1883"
  configFile : String := ""
  resetWorkingDir : Bool := false

def LauncherOptions.set (o : LauncherOptions) (name value : String) : LauncherOptions :=
  match name with
  | "-w" => { o with workingDir := value }
  | "-b" => { o with brokerUrl := value }
  | "-c" => { o with configFile := value }
  | _ => o

def launcher : Table LauncherOptions where
  valued := ["-w", "-b", "-c"]
  several := []
  flags := ["-r"]
  set := LauncherOptions.set
  add := fun o _ _ => o
  mark := fun o _ => { o with resetWorkingDir := true }
  several_valued := by decide
  flag_not_valued := by decide
  dash := by decide

def ofReading : Launcher.Reading → Phase Options
  | .reading o e => .reading o e
  | .usage param => .usage param

theorem ofReading_option (o : Options) (arg : String) :
    ofReading (Launcher.Reading.option o arg) = Phase.option chargepoint o arg := by
  unfold Launcher.Reading.option Phase.option
  split
  · rfl
  split
  · rename_i h
    exact (if_pos h).symm
  · rename_i h
    exact (if_neg h).symm

theorem ofReading_next (r : Launcher.Reading) (arg : String) :
    ofReading (r.next arg) = (ofReading r).next chargepoint arg := by
  cases r with
  | usage param => rfl
  | reading o e =>
    cases e with
    | option => exact ofReading_option o arg
    | value name =>
      have hs : (name = "-f" ∨ name = "-v") ↔ name ∈ chargepoint.several := by simp [chargepoint]
      by_cases h : name ∈ chargepoint.several
      · have hn : Launcher.Reading.next (.reading o (.value name)) arg = .reading (o.set name arg) (.more name) :=
          congrArg (Launcher.Reading.reading _) (if_pos (hs.2 h))
        exact (congrArg ofReading hn).trans (Phase.next_value_several h o arg).symm
      · have hn : Launcher.Reading.next (.reading o (.value name)) arg = .reading (o.set name arg) .option :=
          congrArg (Launcher.Reading.reading _) (if_neg (fun h' => h (hs.1 h')))
        exact (congrArg ofReading hn).trans (Phase.next_value_single h o arg).symm
    | more name =>
      by_cases h : arg.toList.head? = some '-'
      · have hn : Launcher.Reading.next (.reading o (.more name)) arg = Launcher.Reading.option o arg := if_pos h
        rw [hn, ofReading_option]
        exact (Phase.next_more_dash (decide_eq_true h) chargepoint o name).symm
      · have hn : Launcher.Reading.next (.reading o (.more name)) arg = .reading (o.add name arg) (.more name) := if_neg h
        rw [hn]
        exact (Phase.next_more (fun h' => h (of_decide_eq_true h')) chargepoint o name).symm

/-- **The pointer and the counter do what the charge point's reading of its command line says.** -/
theorem checkParameters_chargepoint (program : String) (rest : List String) {fuel : Nat} (hf : rest.length < fuel) :
    checkParameters chargepoint (program :: rest) fuel {} =
      match Launcher.checkParameters rest with
      | .options o => pure (.options o)
      | .usage param => pure (.usage param)
      | .undefined => throw .nullPointer := by
  have hfold : ∀ (r : Launcher.Reading), rest.foldl (Phase.next chargepoint) (ofReading r) =
      ofReading (rest.foldl Launcher.Reading.next r) := by
    clear hf
    induction rest with
    | nil => exact fun r => rfl
    | cons a rest ih =>
      intro r
      rw [List.foldl_cons, List.foldl_cons, ← ofReading_next, ih]
  have hstart := hfold (.reading {} .option)
  rw [checkParameters_eq chargepoint program rest {} hf,
    show Phase.reading {} .option = ofReading (.reading {} .option) from rfl, hstart]
  unfold Launcher.checkParameters
  cases rest.foldl Launcher.Reading.next (.reading {} .option) with
  | usage param => rfl
  | reading o e => cases e <;> rfl

/-- **Both programs handle their arguments exactly where** these do not end, after options with all that they take, with
one that wants a value; and their loops always come to an end. -/
theorem arguments_handled_iff (args : List String) :
    (chargepoint.Ends {} args ∧ (chargepoint.Handles {} args ↔ ¬chargepoint.Dangling args.tail)) ∧
      launcher.Ends {} args ∧ (launcher.Handles {} args ↔ ¬launcher.Dangling args.tail) :=
  ⟨⟨ends _ _ args, fun h hd => not_handles_of_dangling hd _ h, fun h => handles_of_not_dangling h _⟩,
    ends _ _ args, fun h hd => not_handles_of_dangling hd _ h, fun h => handles_of_not_dangling h _⟩

/-- **An option without its value** is read with the null pointer for one. -/
theorem value_missing : ¬chargepoint.Handles {} ["chargepoint", "-w"] ∧ ¬launcher.Handles {} ["launcher", "-w"] := by
  have hc : chargepoint.Complete [] := ⟨[], fun g hg => (by cases hg), rfl⟩
  have hl : launcher.Complete [] := ⟨[], fun g hg => (by cases hg), rfl⟩
  exact ⟨not_handles_of_dangling ⟨[], "-w", hc, by decide, rfl⟩ _, not_handles_of_dangling ⟨[], "-w", hl, by decide, rfl⟩ _⟩

end Arguments
