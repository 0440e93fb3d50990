import Mathlib.Algebra.GroupWithZero.Nat
import Mathlib.Data.List.Basic
/-!
# Shell — how a shell splits a line into words

Token recognition as POSIX has it, for a text without a backslash, a dollar sign or a backquote: a blank, an operator or
a comment ends a word, and between two quote marks every character stands for itself.  Reading a text keeps some of its
characters and drops the others, and what the tokens say is what was kept, in its order (`text_run`).  So a text whose
tokens say all of it but a few blanks and quote marks has no other quote mark and no comment in it (`outside_run`).
-/
namespace Shell

def apostrophe : Char := '\x27'

def quote : Char := '\x22'

def isBlank (c : Char) : Bool := c = ' ' || c = '\t'

/-- The characters of the operators, the newline among them; an operator of two characters is two tokens here. -/
def isOperator (c : Char) : Bool := ['\n', '&', ';', '|', '<', '>', '(', ')'].contains c

/-- A character that a word goes on with where no quote mark keeps it. -/
def isOrdinary (c : Char) : Bool := !isBlank c && !isOperator c && c ≠ apostrophe && c ≠ quote

/-- A piece of a word: a character outside quote marks, or the text between two of them. -/
inductive Piece
  | bare (c : Char)
  | quoted (text : List Char)
  deriving DecidableEq

abbrev Word := List Piece

def Piece.value : Piece → List Char
  | .bare c => [c]
  | .quoted text => text

/-- What quote removal leaves of a word. -/
def value (w : Word) : List Char := w.flatMap Piece.value

/-- The word has nothing that pathname expansion or tilde expansion works on. -/
def Plain (w : Word) : Prop := (∀ c ∈ ['*', '?', '['], .bare c ∉ w) ∧ w.head? ≠ some (.bare '~')

instance (w : Word) : Decidable (Plain w) := @instDecidableAnd _ _ (List.decidableBAll _ _) inferInstance

/-- **The expansions of a word**, which depend on the files there are and the users. -/
structure Expansion where
  expand : Word → List (List Char)
  expand_plain : ∀ w, Plain w → expand w = [value w]

inductive Token
  | word (w : Word)
  | operator (c : Char)
  deriving DecidableEq

def Token.isOperator : Token → Bool
  | .word _ => false
  | .operator _ => true

def Token.text : Token → List Char
  | .word w => value w
  | .operator c => [c]

/-- What the shell is in when it reads the next character, with the word and the quoted text it has so far. -/
inductive Mode
  | blank
  | word (w : Word)
  | single (w : Word) (text : List Char)
  | double (w : Word) (text : List Char)
  | comment
  deriving DecidableEq

namespace Mode

/-- What the word that is being read says so far. -/
def text : Mode → List Char
  | .word w => value w
  | .single w text | .double w text => value w ++ text
  | .blank | .comment => []

@[simp] theorem text_blank : Mode.blank.text = [] := rfl
@[simp] theorem text_comment : Mode.comment.text = [] := rfl
@[simp] theorem text_word (w : Word) : (Mode.word w).text = value w := rfl
@[simp] theorem text_single (w : Word) (text : List Char) : (Mode.single w text).text = value w ++ text := rfl
@[simp] theorem text_double (w : Word) (text : List Char) : (Mode.double w text).text = value w ++ text := rfl

/-- Outside quote marks and comments. -/
def Outside : Mode → Prop
  | .blank | .word _ => True
  | .single .. | .double .. | .comment => False

theorem outside_blank : Mode.blank.Outside := trivial

theorem outside_word (w : Word) : (Mode.word w).Outside := trivial

end Mode

/-- The word goes on with a character that does not end it. -/
def extend (w : Word) (c : Char) : Mode :=
  if c = apostrophe then .single w []
  else if c = quote then .double w []
  else .word (w ++ [.bare c])

def step : Mode → Char → Mode × List Token
  | .blank, c =>
    if isBlank c then (.blank, [])
    else if isOperator c then (.blank, [.operator c])
    else if c = '#' then (.comment, [])
    else (extend [] c, [])
  | .word w, c =>
    if isBlank c then (.blank, [.word w])
    else if isOperator c then (.blank, [.word w, .operator c])
    else (extend w c, [])
  | .single w text, c => (if c = apostrophe then .word (w ++ [.quoted text]) else .single w (text ++ [c]), [])
  | .double w text, c => (if c = quote then .word (w ++ [.quoted text]) else .double w (text ++ [c]), [])
  | .comment, c => if c = '\n' then (.blank, [.operator c]) else (.comment, [])

def run (m : Mode) : List Char → Mode × List Token
  | [] => (m, [])
  | c :: s => ((run (step m c).1 s).1, (step m c).2 ++ (run (step m c).1 s).2)

/-- What the end of the text gives; a quote mark that is left open has no meaning. -/
def finish : Mode → Option (List Token)
  | .blank | .comment => some []
  | .word w => some [.word w]
  | .single .. | .double .. => none

/-- **The tokens of a text.** -/
def read (s : List Char) : Option (List Token) := (finish (run .blank s).1).map ((run .blank s).2 ++ ·)

/-- Whether the tokens say the character. -/
def keeps : Mode → Char → Bool
  | .blank, c => !isBlank c && c ≠ '#' && c ≠ apostrophe && c ≠ quote
  | .word _, c => !isBlank c && c ≠ apostrophe && c ≠ quote
  | .single .., c => c ≠ apostrophe
  | .double .., c => c ≠ quote
  | .comment, c => c = '\n'

/-- The characters of the text that the tokens say. -/
def kept (m : Mode) : List Char → List Char
  | [] => []
  | c :: s => (if keeps m c then [c] else []) ++ kept (step m c).1 s

/-! ## Reading on -/

theorem run_append (m : Mode) (s t : List Char) :
    run m (s ++ t) = ((run (run m s).1 t).1, (run m s).2 ++ (run (run m s).1 t).2) := by
  induction s generalizing m with
  | nil => rfl
  | cons c s ih =>
    rw [List.cons_append, run, ih, run]
    simp

theorem kept_append (m : Mode) (s t : List Char) : kept m (s ++ t) = kept m s ++ kept (run m s).1 t := by
  induction s generalizing m with
  | nil => rfl
  | cons c s ih =>
    rw [List.cons_append, kept, ih, kept, run]
    simp

theorem kept_sublist (m : Mode) (s : List Char) : (kept m s).Sublist s := by
  induction s generalizing m with
  | nil => exact List.Sublist.refl _
  | cons c s ih =>
    rw [kept]
    by_cases hk : keeps m c = true
    · rw [if_pos hk]
      exact (ih _).cons_cons c
    · rw [if_neg hk]
      exact (ih _).cons c

@[simp] theorem value_append (v w : Word) : value (v ++ w) = value v ++ value w := List.flatMap_append

@[simp] theorem value_bare (s : List Char) : value (s.map .bare) = s := by
  induction s with
  | nil => rfl
  | cons c s ih =>
    rw [List.map_cons]
    unfold value at ih ⊢
    rw [List.flatMap_cons, ih]
    rfl

@[simp] theorem value_quoted (s : List Char) : value [.quoted s] = s := List.append_nil s

@[simp] theorem value_nil : value [] = [] := rfl

theorem text_extend (w : Word) {c : Char} (ha : c ≠ apostrophe) (hq : c ≠ quote) : (extend w c).text = value w ++ [c] := by
  unfold extend
  rw [if_neg ha, if_neg hq]
  exact value_append w [.bare c]

theorem text_extend_mark (w : Word) {c : Char} (h : ¬(c ≠ apostrophe ∧ c ≠ quote)) : (extend w c).text = value w := by
  unfold extend
  by_cases ha : c = apostrophe
  · rw [if_pos ha]
    exact List.append_nil _
  · have hq : c = quote := by
      by_contra hq
      exact h ⟨ha, hq⟩
    rw [if_neg ha, if_pos hq]
    exact List.append_nil _

theorem of_isOperator {c : Char} (h : isOperator c = true) :
    isBlank c = false ∧ c ≠ '#' ∧ c ≠ apostrophe ∧ c ≠ quote := by
  have hm : c ∈ ['\n', '&', ';', '|', '<', '>', '(', ')'] := List.contains_iff_mem.1 h
  simp only [List.mem_cons, List.not_mem_nil, or_false] at hm
  rcases hm with rfl | rfl | rfl | rfl | rfl | rfl | rfl | rfl <;> decide

/-- **A step adds the character to what is said, where it keeps it.** -/
theorem text_step (m : Mode) (c : Char) : (step m c).2.flatMap Token.text ++ (step m c).1.text =
    m.text ++ if keeps m c then [c] else [] := by
  cases m with
  | blank =>
    simp only [step, keeps]
    by_cases hb : isBlank c = true
    · simp [hb]
    by_cases ho : isOperator c = true
    · obtain ⟨-, hh, ha, hq⟩ := of_isOperator ho
      simp [hb, ho, hh, ha, hq, Token.text]
    by_cases hh : c = '#'
    · have h₁ : isBlank '#' = false := by decide
      have h₂ : isOperator '#' = false := by decide
      simp [hh, h₁, h₂]
    by_cases hm : c ≠ apostrophe ∧ c ≠ quote
    · simp [hb, ho, hh, hm.1, hm.2, text_extend, value]
    · have hk : ¬(c ≠ apostrophe ∧ c ≠ quote) := hm
      simp [hb, ho, hh, text_extend_mark [] hm, value]
      tauto
  | word w =>
    simp only [step, keeps]
    by_cases hb : isBlank c = true
    · simp [hb, Token.text]
    by_cases ho : isOperator c = true
    · obtain ⟨-, -, ha, hq⟩ := of_isOperator ho
      simp [hb, ho, ha, hq, Token.text]
    by_cases hm : c ≠ apostrophe ∧ c ≠ quote
    · simp [hb, ho, hm.1, hm.2, text_extend]
    · simp [hb, ho, text_extend_mark w hm]
      tauto
  | single w text =>
    simp only [step, keeps]
    by_cases ha : c = apostrophe <;> simp [ha]
  | double w text =>
    simp only [step, keeps]
    by_cases hq : c = quote <;> simp [hq]
  | comment =>
    simp only [step, keeps]
    by_cases hn : c = '\n' <;> simp [hn, Token.text]

/-- **What the tokens of a text say is what was kept of it.** -/
theorem text_run (m : Mode) (s : List Char) :
    (run m s).2.flatMap Token.text ++ (run m s).1.text = m.text ++ kept m s := by
  induction s generalizing m with
  | nil => simp [run, kept]
  | cons c s ih =>
    have hs := text_step m c
    rw [run, kept, List.flatMap_append, List.append_assoc, ih, ← List.append_assoc, hs, List.append_assoc]

/-! ## Texts in and out of quote marks -/

theorem run_double (w : Word) (text : List Char) {s : List Char} (hq : quote ∉ s) :
    run (.double w text) s = (.double w (text ++ s), []) := by
  induction s generalizing text with
  | nil => rw [List.append_nil]; rfl
  | cons c s ih =>
    rw [List.mem_cons, not_or] at hq
    have hs : step (.double w text) c = (.double w (text ++ [c]), []) := by
      simp [step, Ne.symm hq.1]
    rw [run, hs, ih _ hq.2]
    simp

theorem kept_double (w : Word) (text : List Char) {s : List Char} (hq : quote ∉ s) : kept (.double w text) s = s := by
  have h := text_run (.double w text) s
  rw [run_double w text hq] at h
  simpa [Mode.text] using h.symm

theorem of_isOrdinary {c : Char} (h : isOrdinary c = true) :
    isBlank c = false ∧ isOperator c = false ∧ c ≠ apostrophe ∧ c ≠ quote := by
  simpa [isOrdinary, and_assoc] using h

/-- **A word goes on with ordinary characters.** -/
theorem run_word (w : Word) {s : List Char} (h : ∀ c ∈ s, isOrdinary c = true) :
    run (.word w) s = (.word (w ++ s.map .bare), []) := by
  induction s generalizing w with
  | nil => simp [run]
  | cons c s ih =>
    obtain ⟨hb, ho, ha, hq⟩ := of_isOrdinary (h c List.mem_cons_self)
    have hs : step (.word w) c = (.word (w ++ [.bare c]), []) := by
      simp [step, extend, hb, ho, ha, hq]
    rw [run, hs, ih _ (fun d hd => h d (List.mem_cons_of_mem c hd))]
    simp

/-- **Ordinary characters after a blank are a word**, unless the first of them starts a comment. -/
theorem run_blank {s : List Char} (hne : s ≠ []) (h : ∀ c ∈ s, isOrdinary c = true) (hh : s.head? ≠ some '#') :
    run .blank s = (.word (s.map .bare), []) := by
  cases s with
  | nil => exact absurd rfl hne
  | cons c s =>
    obtain ⟨hb, ho, ha, hq⟩ := of_isOrdinary (h c List.mem_cons_self)
    have hc : c ≠ '#' := by simpa using hh
    have hs : step .blank c = (.word [.bare c], []) := by
      simp [step, extend, hb, ho, hc, ha, hq]
    rw [run, hs, run_word _ (fun d hd => h d (List.mem_cons_of_mem c hd))]
    simp

/-- Between two quote marks everything is kept, and a word goes on after them. -/
theorem run_section {m : Mode} (hm : m.Outside) {s : List Char} (hq : quote ∉ s) :
    (∃ w, run m (quote :: (s ++ [quote])) = (.word w, [])) ∧ kept m (quote :: (s ++ [quote])) = s := by
  have hs : ∃ w, step m quote = (.double w [], []) := by
    cases m with
    | blank => exact ⟨[], rfl⟩
    | word w => exact ⟨w, rfl⟩
    | single | double | comment => exact hm.elim
  have hk : keeps m quote = false := by
    cases m with
    | blank | word => simp [keeps]
    | single | double | comment => exact hm.elim
  obtain ⟨w, hs⟩ := hs
  have he : step (.double w s) quote = (.word (w ++ [.quoted s]), []) := by simp [step]
  constructor
  · refine ⟨w ++ [.quoted s], ?_⟩
    rw [run, hs, run_append, run_double w [] hq, List.nil_append, run, he]
    rfl
  · rw [kept, hk, hs, kept_append, kept_double w [] hq, run_double w [] hq]
    simp [kept, keeps]

theorem run_quoted {s : List Char} (hq : quote ∉ s) : run .blank (quote :: (s ++ [quote])) = (.word [.quoted s], []) := by
  have hs : step .blank quote = (.double [] [], []) := rfl
  have he : step (.double [] s) quote = (.word [.quoted s], []) := by simp [step]
  rw [run, hs, run_append, run_double [] [] hq, List.nil_append, run, he]
  rfl

/-- The words of a text that no quote mark protects: one, or none where it is empty. -/
def bareWords (s : List Char) : List Word := if s = [] then [] else [s.map .bare]

/-- **Fields with a blank after each are read one by one.** -/
theorem run_fields : ∀ {fields : List (List Char × List Word)},
    (∀ f ∈ fields, run .blank (f.1 ++ [' ']) = (.blank, f.2.map .word)) →
    run .blank (fields.flatMap (fun f => f.1 ++ [' '])) = (.blank, (fields.flatMap Prod.snd).map .word)
  | [], _ => rfl
  | f :: fields, h => by
    have hf := h f List.mem_cons_self
    have ih := run_fields (fun g hg => h g (List.mem_cons_of_mem f hg))
    rw [List.flatMap_cons, run_append, hf, ih, List.flatMap_cons, List.map_append]

theorem run_field_of_word {s : List Char} {w : Word} (h : run .blank s = (.word w, [])) :
    run .blank (s ++ [' ']) = (.blank, [w].map .word) := by
  have hs : step (.word w) ' ' = (.blank, [.word w]) := by simp [step, isBlank]
  rw [run_append, h, run, hs]
  rfl

theorem run_bareWords {s : List Char} (h : ∀ c ∈ s, isOrdinary c = true) (hh : s.head? ≠ some '#') :
    run .blank (s ++ [' ']) = (.blank, (bareWords s).map .word) := by
  by_cases hs : s = []
  · subst hs
    decide
  · rw [bareWords, if_neg hs]
    exact run_field_of_word (run_blank hs h hh)

theorem run_comment {s : List Char} (h : '\n' ∉ s) : run .comment s = (.comment, []) := by
  induction s with
  | nil => rfl
  | cons c s ih =>
    rw [List.mem_cons, not_or] at h
    have hs : step .comment c = (.comment, []) := by simp [step, Ne.symm h.1]
    rw [run, hs, ih h.2]
    rfl

/-- Ordinary characters that a blank ends do not start with a hash. -/
theorem head?_ne_of_run {s : List Char} {ts : List Token} (ho : ∀ c ∈ s, isOrdinary c = true)
    (h : run .blank (s ++ [' ']) = (.blank, ts)) : s.head? ≠ some '#' := by
  intro hh
  obtain ⟨t, rfl⟩ := List.head?_eq_some_iff.1 hh
  have hn : '\n' ∉ t ++ [' '] := by
    intro hm
    rcases List.mem_append.1 hm with hm | hm
    · exact absurd (ho _ (List.mem_cons_of_mem _ hm)) (by decide)
    · exact absurd hm (by decide)
  have hs : step .blank '#' = (.comment, []) := by decide
  rw [List.cons_append, run, hs, run_comment hn] at h
  cases h

/-! ## Texts of which nothing is dropped -/

/-- A character that the shell may take for the start of what it drops: an apostrophe or a hash. -/
def isMark (c : Char) : Bool := c = apostrophe || c = '#'

/-- Every apostrophe and every hash of the text is kept. -/
def Whole (m : Mode) (s : List Char) : Prop := s.countP isMark ≤ (kept m s).countP isMark

theorem Whole.append {m : Mode} {s t : List Char} (h : Whole m (s ++ t)) : Whole m s ∧ Whole (run m s).1 t := by
  unfold Whole at h ⊢
  have hs : (kept m s).countP isMark ≤ s.countP isMark := (kept_sublist m s).countP_le
  have ht : (kept (run m s).1 t).countP isMark ≤ t.countP isMark := (kept_sublist _ t).countP_le
  rw [kept_append, List.countP_append, List.countP_append] at h
  constructor <;> omega

/-- A step outside quote marks that drops no apostrophe and no hash. -/
theorem outside_step {m : Mode} {c : Char} (hm : m.Outside) (hq : c ≠ quote) (hk : isMark c = true → keeps m c = true) :
    (step m c).1.Outside ∧ c ≠ apostrophe ∧ (m = .blank → c ≠ '#') ∧ (keeps m c = true → isBlank c = false) ∧
      (step m c).2.countP Token.isOperator = if isOperator c then 1 else 0 := by
  have ha : c ≠ apostrophe := by
    rintro rfl
    have hd : keeps m apostrophe = true := hk (by decide)
    cases m <;> simp [keeps, Mode.Outside] at hd hm
  have hh : m = .blank → c ≠ '#' := by
    rintro rfl rfl
    exact absurd (hk (by decide)) (by decide)
  have he : ∀ w, (extend w c).Outside := by
    intro w
    unfold extend
    rw [if_neg ha, if_neg hq]
    trivial
  refine ⟨?_, ha, hh, ?_, ?_⟩
  · cases m with
    | blank =>
      simp only [step, if_neg (hh rfl)]
      split
      · trivial
      · split
        · trivial
        · exact he []
    | word w =>
      simp only [step]
      split
      · trivial
      · split
        · trivial
        · exact he w
    | single | double | comment => exact hm.elim
  · intro hkc
    cases m with
    | blank | word =>
      simp only [keeps, Bool.and_eq_true, Bool.not_eq_true'] at hkc
      tauto
    | single | double | comment => exact hm.elim
  · by_cases ho : isOperator c = true
    · obtain ⟨hb, -⟩ := of_isOperator ho
      cases m with
      | blank | word => simp [step, hb, ho, Token.isOperator]
      | single | double | comment => exact hm.elim
    · cases m with
      | blank =>
        by_cases hb : isBlank c = true <;> simp [step, hb, ho, hh rfl]
      | word => by_cases hb : isBlank c = true <;> simp [step, hb, ho, Token.isOperator]
      | single | double | comment => exact hm.elim

/-- **A text read outside quote marks whose apostrophes and hashes are all kept** has no apostrophe and starts no comment;
its blanks are dropped and its operators are tokens. -/
theorem outside_run {m : Mode} {s : List Char} (hm : m.Outside) (hq : quote ∉ s) (hk : Whole m s) :
    (run m s).1.Outside ∧ apostrophe ∉ s ∧ (m = .blank → s.head? ≠ some '#') ∧ (kept m s).countP isBlank = 0 ∧
      (run m s).2.countP Token.isOperator = s.countP isOperator := by
  induction s generalizing m with
  | nil => simpa [run, kept] using hm
  | cons c s ih =>
    rw [List.mem_cons, not_or] at hq
    obtain ⟨hc, hs⟩ := Whole.append (s := [c]) (t := s) hk
    have hmark : isMark c = true → keeps m c = true := by
      intro hmark
      by_contra hn
      simp [Whole, kept, hn, hmark] at hc
    obtain ⟨ho, ha, hh, hb, hop⟩ := outside_step hm (Ne.symm hq.1) hmark
    obtain ⟨ho', ha', -, hb', hop'⟩ := ih ho hq.2 hs
    refine ⟨ho', ?_, ?_, ?_, ?_⟩
    · rw [List.mem_cons, not_or]
      exact ⟨Ne.symm ha, ha'⟩
    · simpa using hh
    · rw [kept, List.countP_append, hb']
      by_cases hkc : keeps m c = true
      · simp [hkc, hb hkc]
      · simp [hkc]
    · rw [run, List.countP_append, hop, hop', List.countP_cons, Nat.add_comm]

/-- A text in and out of quote marks: what stands before each pair of them and between them, and what is left. -/
def sections (parts : List (List Char × List Char)) (rest : List Char) : List Char :=
  parts.flatMap (fun x => x.1 ++ quote :: (x.2 ++ [quote])) ++ rest

/-- **Where nothing is dropped, the quote marks of a text pair up as they stand**: outside them there is no apostrophe,
the blanks that are kept are those between them, and the operators are those outside. -/
theorem run_sections {m : Mode} {parts : List (List Char × List Char)} {rest : List Char} (hm : m.Outside)
    (hp : ∀ x ∈ parts, quote ∉ x.1 ∧ quote ∉ x.2) (hr : quote ∉ rest) (hk : Whole m (sections parts rest)) :
    (∀ x ∈ parts, apostrophe ∉ x.1) ∧ apostrophe ∉ rest ∧
      (kept m (sections parts rest)).countP isBlank = (parts.map (fun x => x.2.countP isBlank)).sum ∧
      (run m (sections parts rest)).2.countP Token.isOperator =
        (parts.map (fun x => x.1.countP isOperator)).sum + rest.countP isOperator := by
  induction parts generalizing m with
  | nil =>
    obtain ⟨-, ha, -, hb, ho⟩ := outside_run hm hr hk
    refine ⟨by simp, ha, hb, ?_⟩
    rw [List.map_nil, List.sum_nil, Nat.zero_add]
    exact ho
  | cons x parts ih =>
    obtain ⟨h₁, h₂⟩ := hp x List.mem_cons_self
    have he : sections (x :: parts) rest = x.1 ++ (quote :: (x.2 ++ [quote]) ++ sections parts rest) := by
      simp [sections]
    rw [he] at hk ⊢
    obtain ⟨hk₁, hk⟩ := hk.append
    obtain ⟨hm', ha, -, hb, ho⟩ := outside_run hm h₁ hk₁
    obtain ⟨⟨w, hw⟩, hkw⟩ := run_section hm' h₂
    have hk₂ := hk.append.2
    rw [hw] at hk₂
    obtain ⟨hpa, hra, hpb, hpo⟩ := ih (Mode.outside_word w) (fun y hy => hp y (List.mem_cons_of_mem x hy)) hk₂
    refine ⟨?_, hra, ?_, ?_⟩
    · intro y hy
      rcases List.mem_cons.1 hy with rfl | hy
      · exact ha
      · exact hpa y hy
    · rw [kept_append, kept_append, hw, hkw, List.countP_append, List.countP_append, hb, hpb, List.map_cons, List.sum_cons]
      omega
    · rw [run_append, run_append, hw, List.nil_append, List.countP_append, ho, hpo, List.map_cons, List.sum_cons]
      omega

/-- **What the tokens of a text say is what was kept of it.** -/
theorem text_read {s : List Char} {ts : List Token} (h : read s = some ts) : ts.flatMap Token.text = kept .blank s := by
  have ht := text_run .blank s
  obtain ⟨fs, hf, rfl⟩ := Option.map_eq_some_iff.1 h
  have hs : fs.flatMap Token.text = (run .blank s).1.text := by
    cases hm : (run .blank s).1 with
    | blank | comment | word =>
      rw [hm] at hf
      obtain rfl := Option.some.inj hf
      simp [Token.text]
    | single | double =>
      rw [hm] at hf
      cases hf
  rw [List.flatMap_append, hs, ht]
  rfl

/-- The end of a text gives no operator. -/
theorem countP_read {s : List Char} {ts : List Token} (h : read s = some ts) :
    ts.countP Token.isOperator = (run .blank s).2.countP Token.isOperator := by
  obtain ⟨fs, hf, rfl⟩ := Option.map_eq_some_iff.1 h
  have hs : fs.countP Token.isOperator = 0 := by
    cases hm : (run .blank s).1 with
    | blank | comment | word =>
      rw [hm] at hf
      obtain rfl := Option.some.inj hf
      rfl
    | single | double =>
      rw [hm] at hf
      cases hf
  rw [List.countP_append, hs, Nat.add_zero]

/-- **Of a text of which nothing is dropped, a field of ordinary characters starts no comment.** -/
theorem run_fields_of_whole : ∀ {fields : List (List Char × List Word)} {rest : List Char},
    (∀ f ∈ fields, run .blank (f.1 ++ [' ']) = (.blank, f.2.map .word) ∨
      (∀ c ∈ f.1, isOrdinary c = true) ∧ f.2 = bareWords f.1) →
    Whole .blank (fields.flatMap (fun f => f.1 ++ [' ']) ++ rest) →
    ∀ f ∈ fields, run .blank (f.1 ++ [' ']) = (.blank, f.2.map .word)
  | [], _, _, _ => by simp
  | f :: fields, rest, h, hk => by
    rw [List.flatMap_cons, List.append_assoc] at hk
    obtain ⟨hk₁, hk₂⟩ := hk.append
    have hf : run .blank (f.1 ++ [' ']) = (.blank, f.2.map .word) := by
      rcases h f List.mem_cons_self with hf | ⟨ho, hw⟩
      · exact hf
      · have hq : quote ∉ f.1 := fun hq => (of_isOrdinary (ho quote hq)).2.2.2 rfl
        obtain ⟨-, -, hh, -⟩ := outside_run Mode.outside_blank hq hk₁.append.1
        rw [hw]
        exact run_bareWords ho (hh rfl)
    rw [hf] at hk₂
    intro g hg
    rcases List.mem_cons.1 hg with rfl | hg
    · exact hf
    · exact run_fields_of_whole (fun g hg => h g (List.mem_cons_of_mem f hg)) hk₂ g hg

end Shell
