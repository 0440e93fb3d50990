import OcppSimu.Shell
/-!
# Words — a line of texts with a blank between them, as a shell reads it

A program that writes texts into a line without quote marks means each of them to be one word.  The shell takes it so
exactly when no text has a character of the shell's own in it or starts a comment, and the expansions leave each as it is
(`says_iff`): of a line that says the texts nothing was dropped but the blanks between them.
-/
namespace Shell

def joined (texts : List (List Char)) (last : List Char) : List Char := texts.flatMap (fun s => s ++ [' ']) ++ last

/-- **The line is one command** whose words say `args` and stay as they are. -/
def Says (E : Expansion) (line : List Char) (args : List (List Char)) : Prop :=
  ∃ words : List Word, read line = some (words.map .word) ∧ words.map value = args ∧ ∀ w ∈ words, E.expand w = [value w]

/-- The shell reads a text that no quote mark protects as it stands. -/
structure Intact (E : Expansion) (s : List Char) : Prop where
  ordinary : ∀ c ∈ s, isOrdinary c = true
  head : s.head? ≠ some '#'
  expand : s ≠ [] → E.expand (s.map .bare) = [s]

/-- A text without a character of the shell's own. -/
def isPlain (s : List Char) : Bool := s.all (fun c => isOrdinary c && decide (c ∉ ['#', '*', '?', '[', '~']))

theorem intact_of_isPlain (E : Expansion) {s : List Char} (h : isPlain s = true) : Intact E s := by
  have hc : ∀ c ∈ s, isOrdinary c = true ∧ c ∉ ['#', '*', '?', '[', '~'] := fun c hm => by
    have h := List.all_eq_true.1 h c hm
    rw [Bool.and_eq_true, decide_eq_true_eq] at h
    exact h
  refine ⟨fun c hm => (hc c hm).1, fun hh => (hc _ (List.mem_of_mem_head? hh)).2 (by decide), fun _ => ?_⟩
  have hp : Plain (s.map .bare) := by
    refine ⟨fun c hg hm => ?_, fun hh => ?_⟩
    · obtain ⟨d, hd, he⟩ := List.mem_map.1 hm
      cases he
      exact (hc c hd).2 (by simp at hg ⊢; tauto)
    · obtain ⟨d, hd, he⟩ := List.mem_map.1 (List.mem_of_mem_head? hh)
      cases he
      exact (hc _ hd).2 (by decide)
  rw [E.expand_plain _ hp, value_bare]

/-! ## What is kept -/

/-- A character that is dropped where it is not protected: a mark of a quotation or of a comment. -/
def isLost (c : Char) : Bool := isMark c || c = quote

/-- **Outside quote marks a text of which no mark is lost has no quote mark.** -/
theorem quote_notMem_of_kept {m : Mode} {s : List Char} (hm : m.Outside) (hk : s.countP isLost ≤ (kept m s).countP isLost) :
    quote ∉ s ∧ Whole m s := by
  have hq : quote ∉ s := by
    induction s generalizing m with
    | nil => exact List.not_mem_nil
    | cons c s ih =>
      have hs : (kept (step m c).1 s).countP isLost ≤ s.countP isLost := (kept_sublist _ s).countP_le
      rw [List.countP_cons, kept, List.countP_append] at hk
      have hc : isLost c = true → keeps m c = true := fun hl => by
        by_contra hn
        rw [if_neg hn, if_pos hl, List.countP_nil] at hk
        omega
      have hne : c ≠ quote := by
        rintro rfl
        have hkq := hc (by decide)
        cases m with
        | blank | word => simp [keeps] at hkq
        | single | double | comment => exact hm.elim
      have ho := (outside_step hm hne fun hl => hc (by rw [isLost, hl]; rfl)).1
      have hle : ((if keeps m c = true then [c] else []).countP isLost) ≤ if isLost c = true then 1 else 0 := by
        split <;> simp [List.countP_cons]
      rw [List.mem_cons, not_or]
      exact ⟨Ne.symm hne, ih ho (by omega)⟩
  refine ⟨hq, ?_⟩
  have he : ∀ t : List Char, quote ∉ t → t.countP isLost = t.countP isMark := fun t ht =>
    List.countP_congr fun c hc => by
      have hne : c ≠ quote := fun h => ht (h ▸ hc)
      simp [isLost, hne]
  rw [he s hq, he _ fun h => hq ((kept_sublist m s).mem h)] at hk
  exact hk

theorem countP_joined {q : Char → Bool} (hq : q ' ' = false) (texts : List (List Char)) (last : List Char) :
    (joined texts last).countP q = ((texts ++ [last]).flatten).countP q := by
  unfold joined
  induction texts with
  | nil => simp
  | cons s texts ih =>
    rw [List.flatMap_cons, List.append_assoc, List.countP_append, ih]
    simp [hq]

theorem bareWords_value (s : List Char) : (bareWords s).map value = [s].filter (fun s => decide (s ≠ [])) := by
  unfold bareWords
  split <;> simp [*]

/-- The texts of a line with a blank after each but the last, each with the words it should be. -/
def fieldsOf (texts : List (List Char)) : List (List Char × List Word) := texts.map fun s => (s, bareWords s)

theorem joined_eq (texts : List (List Char)) (last : List Char) :
    joined texts last = (fieldsOf texts).flatMap (fun f => f.1 ++ [' ']) ++ last := by
  rw [joined, fieldsOf, List.flatMap_map]

theorem words_value (texts : List (List Char)) :
    (texts.flatMap bareWords).map value = texts.filter (fun s => decide (s ≠ [])) := by
  induction texts with
  | nil => rfl
  | cons s texts ih =>
    rw [List.flatMap_cons, List.map_append, ih, bareWords_value, ← List.filter_append]
    rfl

/-- **Texts that are intact are read as they stand.** -/
theorem read_joined {texts : List (List Char)} {last : List Char}
    (h : ∀ s ∈ texts ++ [last], (∀ c ∈ s, isOrdinary c = true) ∧ s.head? ≠ some '#') :
    read (joined texts last) = some (((texts ++ [last]).flatMap bareWords).map .word) := by
  have hf : ∀ f ∈ fieldsOf texts, run .blank (f.1 ++ [' ']) = (.blank, f.2.map .word) := fun f hm => by
    obtain ⟨s, hs, rfl⟩ := List.mem_map.1 hm
    obtain ⟨ho, hh⟩ := h s (List.mem_append_left _ hs)
    exact run_bareWords ho hh
  have hw : (fieldsOf texts).flatMap Prod.snd = texts.flatMap bareWords := by
    rw [fieldsOf, List.flatMap_map]
  obtain ⟨ho, hh⟩ := h last (by simp)
  rw [joined_eq, Shell.read, run_append, run_fields hf, hw, List.flatMap_append, List.map_append]
  by_cases hl : last = []
  · subst hl
    simp [run, finish, bareWords]
  · rw [run_blank hl ho hh]
    simp [finish, bareWords, hl]

/-- **A line that says its texts** has dropped nothing of them. -/
theorem intact_of_read {texts args : List (List Char)} {last : List Char} (ha : args.flatten = (texts ++ [last]).flatten)
    {words : List Word} (hr : read (joined texts last) = some (words.map .word)) (hv : words.map value = args) :
    ∀ s ∈ texts ++ [last], (∀ c ∈ s, isOrdinary c = true) ∧ s.head? ≠ some '#' := by
  have hkept : kept .blank (joined texts last) = (texts ++ [last]).flatten := by
    rw [← text_read hr, ← ha, ← hv, List.flatMap_map, List.flatMap_def]
    rfl
  have hcount : (joined texts last).countP isLost = (kept .blank (joined texts last)).countP isLost := by
    rw [hkept, countP_joined (by decide)]
  obtain ⟨hq, hwhole⟩ := quote_notMem_of_kept Mode.outside_blank (Nat.le_of_eq hcount)
  obtain ⟨-, hap, -, hb, hops⟩ := outside_run Mode.outside_blank hq hwhole
  have hop : (joined texts last).countP isOperator = 0 := by
    rw [← hops, ← countP_read hr, List.countP_map]
    exact List.countP_eq_zero.2 fun w _ => Bool.false_ne_true
  have hmem : ∀ s ∈ texts ++ [last], ∀ c ∈ s, c ∈ joined texts last := fun s hs c hc => by
    unfold joined
    rcases List.mem_append.1 hs with hs | hs
    · exact List.mem_append_left _ (List.mem_flatMap.2 ⟨s, hs, List.mem_append_left _ hc⟩)
    · rw [List.mem_singleton] at hs
      exact List.mem_append_right _ (hs ▸ hc)
  have hord : ∀ s ∈ texts ++ [last], ∀ c ∈ s, isOrdinary c = true := fun s hs c hc => by
    have hcb := List.countP_eq_zero.1 (hkept ▸ hb) c (List.mem_flatten.2 ⟨s, hs, hc⟩)
    have hco := List.countP_eq_zero.1 hop c (hmem s hs c hc)
    have hca : c ≠ apostrophe := fun he => hap (he ▸ hmem s hs c hc)
    have hcq : c ≠ quote := fun he => hq (he ▸ hmem s hs c hc)
    simp [isOrdinary, hcb, hco, hca, hcq]
  rw [joined_eq] at hwhole
  have hrun := run_fields_of_whole (fun f hm => by
    obtain ⟨s, hs, rfl⟩ := List.mem_map.1 hm
    exact .inr ⟨hord s (List.mem_append_left _ hs), rfl⟩) hwhole
  intro s hs
  refine ⟨hord s hs, ?_⟩
  rcases List.mem_append.1 hs with hm | hm
  · exact head?_ne_of_run (hord s hs) (hrun (s, bareWords s) (List.mem_map.2 ⟨s, hm, rfl⟩))
  · rw [List.mem_singleton] at hm
    subst hm
    have hlast := hwhole.append.2
    rw [run_fields hrun] at hlast
    obtain ⟨-, -, hh, -⟩ := outside_run Mode.outside_blank (fun h => hq (hmem s hs _ h)) hlast
    exact hh rfl

/-- **A line says its texts exactly when each of them is intact.** -/
theorem says_iff (E : Expansion) {texts args : List (List Char)} {last : List Char}
    (ha : args.flatten = (texts ++ [last]).flatten) : Says E (joined texts last) args ↔
      (∀ s ∈ texts ++ [last], Intact E s) ∧ args = (texts ++ [last]).filter (fun s => decide (s ≠ [])) := by
  constructor
  · rintro ⟨words, hr, hv, hE⟩
    have hi := intact_of_read ha hr hv
    have hw : (texts ++ [last]).flatMap bareWords = words := by
      rw [read_joined hi] at hr
      exact List.map_injective_iff.2 (fun a b hab => Token.word.inj hab) (Option.some.inj hr)
    refine ⟨fun s hs => ⟨(hi s hs).1, (hi s hs).2, fun hne => ?_⟩, ?_⟩
    · have hm : s.map .bare ∈ words := by
        rw [← hw]
        exact List.mem_flatMap.2 ⟨s, hs, by rw [bareWords, if_neg hne]; exact List.mem_singleton_self _⟩
      rw [hE _ hm, value_bare]
    · rw [← hv, ← hw, words_value]
  · rintro ⟨hi, rfl⟩
    refine ⟨_, read_joined fun s hs => ⟨(hi s hs).ordinary, (hi s hs).head⟩, words_value _, fun w hw => ?_⟩
    obtain ⟨s, hs, hw⟩ := List.mem_flatMap.1 hw
    unfold bareWords at hw
    split at hw
    next => cases hw
    next hne =>
      rw [List.mem_singleton.1 hw, value_bare]
      exact (hi s hs).expand hne

/-- The same line, written with a blank before each text but the first. -/
theorem joined_of_blanks (s : List Char) (rest : List (List Char)) : ∃ texts last, s :: rest = texts ++ [last] ∧
    s ++ rest.flatMap (fun t => ' ' :: t) = joined texts last := by
  induction rest generalizing s with
  | nil => exact ⟨[], s, rfl, by simp [joined]⟩
  | cons t rest ih =>
    obtain ⟨texts, last, hl, hj⟩ := ih t
    refine ⟨s :: texts, last, by rw [hl]; rfl, ?_⟩
    have hj' : joined (s :: texts) last = s ++ ' ' :: joined texts last := by simp [joined]
    rw [hj', ← hj, List.flatMap_cons]
    rfl

theorem says_blanks_iff (E : Expansion) {s : List Char} {rest args : List (List Char)}
    (ha : args.flatten = (s :: rest).flatten) : Says E (s ++ rest.flatMap (fun t => ' ' :: t)) args ↔
      (∀ t ∈ s :: rest, Intact E t) ∧ args = (s :: rest).filter (fun s => decide (s ≠ [])) := by
  obtain ⟨texts, last, hl, hj⟩ := joined_of_blanks s rest
  rw [hl] at ha
  rw [hj, hl]
  exact says_iff E ha

end Shell
