import Mathlib.Algebra.Group.Int.Defs
import Mathlib.Data.Finset.Insert
import Mathlib.Data.List.TakeWhile
import OcppSimu.Removal
import OcppSimu.Shell
/-!
# CommandLine — how the launcher starts a charge point

The launcher writes the command line of a charge point and hands it to the shell; the process reads its options from the
arguments that the shell makes of it.  The directory, the identifier and the serial number are put between quote marks,
but the stream writes a path with quote marks of its own, which close those: the directory stands outside of them, like
the URLs and the type (`decodes_iff`).
-/
namespace Launcher

open Paths Shell

/-! ## The launcher -/

/-- `std::quoted`, as a path is streamed. -/
def quoted (text : List Char) : List Char :=
  quote :: (text.flatMap (fun c => if c = quote ∨ c = '\\' then ['\\', c] else [c]) ++ [quote])

/-- The command that `startChargePoints` runs, `m_chargepoints_dir` being `dir`. -/
def commandLine (dir : Path) (brokerUrl : String) (p : Parameters) : List Char :=
  "./chargepoint".toList ++
  " -w \"".toList ++ quoted (chargepointDir dir p.id) ++ "\"".toList ++
  " -t ".toList ++ p.centralSystem.toList ++
  " -c \"".toList ++ p.id.toList ++ "\"".toList ++
  " -s \"".toList ++ p.serial.toList ++ "\"".toList ++
  " -n ".toList ++ (toString p.nbConnectors).toList ++
  " -p ".toList ++ (toString p.nbPhases).toList ++
  " -b ".toList ++ brokerUrl.toList ++
  " -m ".toList ++ (toString p.maxSetpoint).toList ++
  " -i ".toList ++ (toString p.maxSetpointPerConnector).toList ++
  " -e ".toList ++ p.type.toList ++
  " &\n".toList

/-! ## The charge point -/

/-- The parameters of `main`, with their defaults. -/
structure Options where
  workingDir : String := ""
  connectionUrl : String := ""
  chargepointId : String := ""
  serialNumber : String := ""
  nbConnectors : Nat := 1
  nbPhases : Nat := 3
  mqttBrokerUrl : String := "tcp://localhost:1883"
  maxChargePointSetpoint : Nat := 32
  maxConnectorSetpoint : Nat := 32
  diagFiles : Finset String := {"ocpp.db"}
  chargepointType : String := "AC"
  vendorName : String := ""
  operatingVoltage : Nat := 0
  deriving DecidableEq

/-- The digits that a text starts with. -/
def leadingDigits (s : List Char) : ℤ := Nat.ofDigitChars 10 (s.takeWhile Char.isDigit) 0

/-- `strtol` in base ten: the nearest value that a `long` has. -/
def strtol (text : List Char) : ℤ :=
  let z :=
    match text.dropWhile [' ', '\t', '\n', '\x0b', '\x0c', '\r'].contains with
    | '-' :: s => -leadingDigits s
    | '+' :: s => leadingDigits s
    | s => leadingDigits s
  max (-2 ^ 63) (min z (2 ^ 63 - 1))

/-- `static_cast<unsigned int>(std::atoi(text))`. -/
def atoi (text : String) : Nat := (strtol text.toList % 2 ^ 32).toNat

/-- The options that take the argument after them. -/
def valued : List String := ["-w", "-t", "-c", "-s", "-n", "-p", "-b", "-m", "-i", "-f", "-e", "-v", "-o"]

def Options.set (o : Options) (name value : String) : Options :=
  match name with
  | "-w" => { o with workingDir := value }
  | "-t" => { o with connectionUrl := value }
  | "-c" => { o with chargepointId := value }
  | "-s" => { o with serialNumber := value }
  | "-n" => { o with nbConnectors := atoi value }
  | "-p" => { o with nbPhases := atoi value }
  | "-b" => { o with mqttBrokerUrl := value }
  | "-m" => { o with maxChargePointSetpoint := atoi value }
  | "-i" => { o with maxConnectorSetpoint := atoi value }
  | "-f" => { o with diagFiles := insert value o.diagFiles }
  | "-e" => { o with chargepointType := value }
  | "-v" => { o with vendorName := value }
  | "-o" => { o with operatingVoltage := atoi value }
  | _ => o

/-- One more value of `-f` or `-v`. -/
def Options.add (o : Options) (name value : String) : Options :=
  if name = "-f" then { o with diagFiles := insert value o.diagFiles }
  else { o with vendorName := o.vendorName ++ " " ++ value }

/-- What the next argument is: an option, the value of one, or one more value if it does not start with a dash. -/
inductive Expects
  | option
  | value (name : String)
  | more (name : String)

/-- Where the loop over the arguments is; `usage` is `bad_param`, with the parameter it names. -/
inductive Reading
  | reading (o : Options) (e : Expects)
  | usage (param : Option String)

def Reading.option (o : Options) (arg : String) : Reading :=
  if arg = "-h" then .usage none
  else if arg ∈ valued then .reading o (.value arg)
  else .usage (some arg)

def Reading.next : Reading → String → Reading
  | .usage param, _ => .usage param
  | .reading o .option, arg => option o arg
  | .reading o (.value name), arg =>
    .reading (o.set name arg) (if name = "-f" ∨ name = "-v" then .more name else .option)
  | .reading o (.more name), arg =>
    if arg.toList.head? = some '-' then option o arg else .reading (o.add name arg) (.more name)

inductive Outcome
  | options (o : Options)
  | usage (param : Option String)
  | undefined
  deriving DecidableEq

/-- **The loop of `main` over its arguments.**  An option that is the last argument takes the null pointer after it. -/
def checkParameters (args : List String) : Outcome :=
  match args.foldl Reading.next (.reading {} .option) with
  | .usage param => .usage param
  | .reading _ (.value _) => .undefined
  | .reading o _ => .options o

/-! ## The property -/

/-- The arguments that are meant. -/
def arguments (dir : Path) (brokerUrl : String) (p : Parameters) : List String :=
  ["./chargepoint", "-w", String.ofList (chargepointDir dir p.id), "-t", p.centralSystem, "-c", p.id, "-s", p.serial,
    "-n", toString p.nbConnectors, "-p", toString p.nbPhases, "-b", brokerUrl, "-m", toString p.maxSetpoint,
    "-i", toString p.maxSetpointPerConnector, "-e", p.type]

/-- The options that are meant. -/
def options (dir : Path) (brokerUrl : String) (p : Parameters) : Options where
  workingDir := String.ofList (chargepointDir dir p.id)
  connectionUrl := p.centralSystem
  chargepointId := p.id
  serialNumber := p.serial
  nbConnectors := p.nbConnectors
  nbPhases := p.nbPhases
  mqttBrokerUrl := brokerUrl
  maxChargePointSetpoint := p.maxSetpoint
  maxConnectorSetpoint := p.maxSetpointPerConnector
  chargepointType := p.type

/-- **The command line decodes to the arguments that are meant**: the shell reads one command, to be run in the background,
whose words say them and stay as they are, and the charge point reads its options from what it is then given. -/
def Decodes (E : Expansion) (dir : Path) (brokerUrl : String) (p : Parameters) : Prop :=
  ∃ words : List Word, read (commandLine dir brokerUrl p) = some (words.map .word ++ [.operator '&', .operator '\n']) ∧
    words.map value = (arguments dir brokerUrl p).map String.toList ∧ (∀ w ∈ words, E.expand w = [value w]) ∧
    checkParameters (((words.flatMap E.expand).tail).map String.ofList) = .options (options dir brokerUrl p)

/-- A printable character that means nothing to the shell between two quote marks. -/
def isAllowed (c : Char) : Bool :=
  ' ' ≤ c && c ≠ '\x7f' && c ≠ quote && c ≠ '\\' && c ≠ '$' && c ≠ '\x60'

/-- What the texts of a start are made of, and the numbers that an `int` holds. -/
structure Allowed (dir : Path) (brokerUrl : String) (p : Parameters) : Prop where
  dir : ∀ c ∈ dir, isAllowed c = true
  id : ∀ c ∈ p.id.toList, isAllowed c = true
  serial : ∀ c ∈ p.serial.toList, isAllowed c = true
  centralSystem : ∀ c ∈ p.centralSystem.toList, isAllowed c = true
  type : ∀ c ∈ p.type.toList, isAllowed c = true
  brokerUrl : ∀ c ∈ brokerUrl.toList, isAllowed c = true
  nbConnectors : p.nbConnectors < 2 ^ 31
  nbPhases : p.nbPhases < 2 ^ 31
  maxSetpoint : p.maxSetpoint < 2 ^ 31
  maxSetpointPerConnector : p.maxSetpointPerConnector < 2 ^ 31

instance (dir : Path) (brokerUrl : String) (p : Parameters) : Decidable (Allowed dir brokerUrl p) :=
  decidable_of_iff ((dir.all isAllowed = true ∧ p.id.toList.all isAllowed = true ∧ p.serial.toList.all isAllowed = true ∧
      p.centralSystem.toList.all isAllowed = true ∧ p.type.toList.all isAllowed = true ∧ brokerUrl.toList.all isAllowed = true) ∧
      p.nbConnectors < 2 ^ 31 ∧ p.nbPhases < 2 ^ 31 ∧ p.maxSetpoint < 2 ^ 31 ∧ p.maxSetpointPerConnector < 2 ^ 31) (by
    simp only [List.all_eq_true]
    exact ⟨fun ⟨⟨h₁, h₂, h₃, h₄, h₅, h₆⟩, h₇, h₈, h₉, h₁₀⟩ => ⟨h₁, h₂, h₃, h₄, h₅, h₆, h₇, h₈, h₉, h₁₀⟩,
      fun ⟨h₁, h₂, h₃, h₄, h₅, h₆, h₇, h₈, h₉, h₁₀⟩ => ⟨⟨h₁, h₂, h₃, h₄, h₅, h₆⟩, h₇, h₈, h₉, h₁₀⟩⟩)

/-- The shell reads a text without quote marks as one word, and leaves it. -/
def OneWord (E : Expansion) (s : List Char) : Prop :=
  s ≠ [] ∧ (∀ c ∈ s, isOrdinary c = true) ∧ s.head? ≠ some '#' ∧ E.expand (s.map .bare) = [s]

/-- The word that the path of a directory becomes, between two pairs of quote marks. -/
def dirWord (s : List Char) : Word := .quoted [] :: s.map .bare ++ [.quoted []]

/-! ## The text -/

theorem of_isAllowed {c : Char} (h : isAllowed c = true) : c ≠ quote ∧ c ≠ '\\' := by
  simp only [isAllowed, Bool.and_eq_true, decide_eq_true_eq] at h
  exact ⟨h.1.1.1.2, h.1.1.2⟩

theorem quote_notMem {s : List Char} (h : ∀ c ∈ s, isAllowed c = true) : quote ∉ s :=
  fun hq => (of_isAllowed (h quote hq)).1 rfl

theorem Allowed.chargepointDir {dir : Path} {brokerUrl : String} {p : Parameters} (h : Allowed dir brokerUrl p) :
    ∀ c ∈ chargepointDir dir p.id, isAllowed c = true := by
  intro c hc
  unfold Launcher.chargepointDir join at hc
  split at hc
  · exact h.id c hc
  · split at hc
    · rcases List.mem_append.1 hc with hc | hc
      · exact h.dir c hc
      · exact h.id c hc
    · rcases List.mem_append.1 hc with hc | hc
      · exact h.dir c hc
      · rcases List.mem_cons.1 hc with rfl | hc
        · decide
        · exact h.id c hc

theorem quoted_eq {s : List Char} (h : ∀ c ∈ s, isAllowed c = true) : quoted s = quote :: (s ++ [quote]) := by
  have hs : s.flatMap (fun c => if c = quote ∨ c = '\\' then ['\\', c] else [c]) = s := by
    induction s with
    | nil => rfl
    | cons c s ih =>
      obtain ⟨hq, hb⟩ := of_isAllowed (h c List.mem_cons_self)
      rw [List.flatMap_cons, ih (fun d hd => h d (List.mem_cons_of_mem c hd))]
      simp [hq, hb]
  rw [quoted, hs]

/-- A field that no quote mark protects, with the words it is read as. -/
def bareField (s : List Char) : List Char × List Word := (s, bareWords s)

def quotedField (s : List Char) : List Char × List Word := (quote :: (s ++ [quote]), [[.quoted s]])

def dirField (s : List Char) : List Char × List Word := (quote :: quote :: (s ++ [quote, quote]), [dirWord s])

/-- The fields of the command line. -/
def fields (dir : Path) (brokerUrl : String) (p : Parameters) : List (List Char × List Word) :=
  let path := chargepointDir dir p.id
  [bareField "./chargepoint".toList,
    bareField "-w".toList, dirField path,
    bareField "-t".toList, bareField p.centralSystem.toList,
    bareField "-c".toList, quotedField p.id.toList,
    bareField "-s".toList, quotedField p.serial.toList,
    bareField "-n".toList, bareField (toString p.nbConnectors).toList,
    bareField "-p".toList, bareField (toString p.nbPhases).toList,
    bareField "-b".toList, bareField brokerUrl.toList,
    bareField "-m".toList, bareField (toString p.maxSetpoint).toList,
    bareField "-i".toList, bareField (toString p.maxSetpointPerConnector).toList,
    bareField "-e".toList, bareField p.type.toList]

/-- The words that stand on every command line. -/
def fixedWords : List String := ["./chargepoint", "-w", "-t", "-c", "-s", "-n", "-p", "-b", "-m", "-i", "-e"]

/-- What follows the last quote mark. -/
def afterSerial (brokerUrl : String) (p : Parameters) : List Char :=
  " -n ".toList ++ (toString p.nbConnectors).toList ++ " -p ".toList ++ (toString p.nbPhases).toList ++
    " -b ".toList ++ brokerUrl.toList ++ " -m ".toList ++ (toString p.maxSetpoint).toList ++
    " -i ".toList ++ (toString p.maxSetpointPerConnector).toList ++ " -e ".toList ++ p.type.toList ++ " &\n".toList

section
variable {dir : Path} {brokerUrl : String} {p : Parameters}

theorem commandLine_eq_fields (h : Allowed dir brokerUrl p) :
    commandLine dir brokerUrl p = (fields dir brokerUrl p).flatMap (fun f => f.1 ++ [' ']) ++ ['&', '\n'] := by
  unfold commandLine
  rw [quoted_eq h.chargepointDir]
  simp [fields, bareField, dirField, quotedField, quote]

theorem commandLine_eq_sections (h : Allowed dir brokerUrl p) :
    commandLine dir brokerUrl p = sections
      [("./chargepoint -w ".toList, []), (chargepointDir dir p.id, []),
        (" -t ".toList ++ p.centralSystem.toList ++ " -c ".toList, p.id.toList), (" -s ".toList, p.serial.toList)]
      (afterSerial brokerUrl p) := by
  unfold commandLine afterSerial
  rw [quoted_eq h.chargepointDir]
  simp [sections, quote]

/-! ## The characters of the text -/

theorem toList_toString (n : Nat) : (toString n).toList = Nat.toDigits 10 n := by
  rw [Nat.toString_eq_ofList_toDigits, String.toList_ofList]

theorem isDigit_of_mem {n : Nat} {c : Char} (h : c ∈ Nat.toDigits 10 n) : c.isDigit = true :=
  Nat.isDigit_of_mem_toDigits (by decide) (by decide) h

/-- A digit is none of the characters that the shell or `atoi` knows. -/
theorem ne_of_isDigit {c d : Char} (h : c.isDigit = true) (hd : d.isDigit = false) : c ≠ d := by
  rintro rfl
  rw [h] at hd
  cases hd

theorem of_isDigit {c : Char} (h : c.isDigit = true) : isOrdinary c = true ∧ isMark c = false ∧ isBlank c = false := by
  have hne := fun d hd => ne_of_isDigit (d := d) h hd
  simp [isOrdinary, isMark, isBlank, isOperator, apostrophe, quote, hne]

theorem countP_toDigits {q : Char → Bool} (hq : ∀ c : Char, c.isDigit = true → q c = false) (n : Nat) :
    (Nat.toDigits 10 n).countP q = 0 := by
  rw [List.countP_eq_zero]
  intro c hc
  rw [hq c (isDigit_of_mem hc)]
  exact Bool.false_ne_true

/-- The characters of the arguments and of the command line that a test of its own characters does not see. -/
theorem countP_arguments {q : Char → Bool} (hl : "./chargepoint-wtcsnpbmie&\n".toList.all (!q ·) = true)
    (hd : ∀ c : Char, c.isDigit = true → q c = false) :
    (((arguments dir brokerUrl p).map String.toList).flatten ++ ['&', '\n']).countP q =
      (chargepointDir dir p.id).countP q + p.centralSystem.toList.countP q + p.id.toList.countP q +
        p.serial.toList.countP q + brokerUrl.toList.countP q + p.type.toList.countP q := by
  simp at hl
  simp [arguments, countP_toDigits hd, hl]
  omega

theorem countP_isMark_commandLine (h : Allowed dir brokerUrl p) :
    (commandLine dir brokerUrl p).countP isMark =
      (((arguments dir brokerUrl p).map String.toList).flatten ++ ['&', '\n']).countP isMark := by
  have hd : ∀ c : Char, c.isDigit = true → isMark c = false := fun c hc => (of_isDigit hc).2.1
  rw [countP_arguments (by decide +kernel) hd, commandLine_eq_fields h]
  have hm : " ./chargepoint-wtcsnpbmie&\n\"".toList.all (!isMark ·) = true := by decide +kernel
  simp at hm
  simp [fields, bareField, dirField, quotedField, countP_toDigits hd, hm, quote]
  omega

/-! ## A command line that decodes -/

theorem quote_notMem_afterSerial (h : Allowed dir brokerUrl p) : quote ∉ afterSerial brokerUrl p := by
  have hdigits : ∀ n, quote ∉ Nat.toDigits 10 n := fun n hn => absurd (isDigit_of_mem hn) (by decide)
  have hbroker := quote_notMem h.brokerUrl
  have htype := quote_notMem h.type
  unfold afterSerial
  simp only [List.mem_append, not_or, toList_toString]
  refine ⟨⟨⟨⟨⟨⟨⟨⟨⟨⟨⟨⟨?_, hdigits _⟩, ?_⟩, hdigits _⟩, ?_⟩, hbroker⟩, ?_⟩, hdigits _⟩, ?_⟩, hdigits _⟩, ?_⟩, htype⟩, ?_⟩
  all_goals decide +kernel

/-- A text without quote marks, blanks and operators has ordinary characters only. -/
theorem ordinary_of_counts {s : List Char} (hq : quote ∉ s) (ha : apostrophe ∉ s) (hb : s.countP isBlank = 0)
    (ho : s.countP isOperator = 0) : ∀ c ∈ s, isOrdinary c = true := by
  intro c hc
  have hcb := List.countP_eq_zero.1 hb c hc
  have hco := List.countP_eq_zero.1 ho c hc
  have hca : c ≠ apostrophe := fun he => ha (he ▸ hc)
  have hcq : c ≠ quote := fun he => hq (he ▸ hc)
  simp [isOrdinary, hcb, hco, hca, hcq]

/-- **Of a command line that says the arguments nothing is dropped but blanks and quote marks**, and none of the texts that
no quote mark protects has a character of the shell's own. -/
theorem ordinary_of_read (h : Allowed dir brokerUrl p) {words : List Word}
    (hr : read (commandLine dir brokerUrl p) = some (words.map .word ++ [.operator '&', .operator '\n']))
    (hv : words.map value = (arguments dir brokerUrl p).map String.toList) :
    Whole .blank (commandLine dir brokerUrl p) ∧
      ∀ s ∈ [chargepointDir dir p.id, p.centralSystem.toList, brokerUrl.toList, p.type.toList],
        ∀ c ∈ s, isOrdinary c = true := by
  have hkept : kept .blank (commandLine dir brokerUrl p) =
      ((arguments dir brokerUrl p).map String.toList).flatten ++ ['&', '\n'] := by
    rw [← text_read hr, ← hv, List.flatMap_append, List.flatMap_map, List.flatMap_def]
    rfl
  have hwhole : Whole .blank (commandLine dir brokerUrl p) := by
    unfold Whole
    rw [hkept, countP_isMark_commandLine h]
  have hops : (run .blank (commandLine dir brokerUrl p)).2.countP Token.isOperator = 2 := by
    rw [← countP_read hr, List.countP_append, List.countP_map]
    have hw : words.countP (Token.isOperator ∘ .word) = 0 := List.countP_eq_zero.2 (fun w _ => Bool.false_ne_true)
    rw [hw]
    rfl
  refine ⟨hwhole, ?_⟩
  have hblank : (kept .blank (commandLine dir brokerUrl p)).countP isBlank =
      (chargepointDir dir p.id).countP isBlank + p.centralSystem.toList.countP isBlank + p.id.toList.countP isBlank +
        p.serial.toList.countP isBlank + brokerUrl.toList.countP isBlank + p.type.toList.countP isBlank := by
    rw [hkept, countP_arguments (by decide +kernel) (fun c hc => (of_isDigit hc).2.2)]
  rw [commandLine_eq_sections h] at hwhole hops hblank
  have hpath := quote_notMem h.chargepointDir
  have hurl := quote_notMem h.centralSystem
  have hbroker := quote_notMem h.brokerUrl
  have htype := quote_notMem h.type
  obtain ⟨ha, har, hb, ho⟩ := run_sections Mode.outside_blank (by
    simp only [List.forall_mem_cons, List.mem_append, not_or]
    refine ⟨⟨by decide +kernel, by simp⟩, ⟨hpath, by simp⟩, ⟨⟨⟨by decide +kernel, hurl⟩, by decide +kernel⟩, quote_notMem h.id⟩,
      ⟨by decide +kernel, quote_notMem h.serial⟩, by simp⟩) (quote_notMem_afterSerial h) hwhole
  simp only [List.forall_mem_cons, List.mem_append, not_or] at ha
  unfold afterSerial at har
  simp only [List.mem_append, not_or] at har
  obtain ⟨⟨⟨⟨⟨⟨⟨⟨-, hab⟩, -⟩, -⟩, -⟩, -⟩, -⟩, hat⟩, -⟩ := har
  rw [hb] at hblank
  rw [ho] at hops
  unfold afterSerial at hops
  have hend : " &\n".toList.countP isOperator = 2 := by decide +kernel
  simp only [List.map_cons, List.map_nil, List.sum_cons, List.sum_nil, List.countP_append, List.countP_nil] at hblank hops
  simp only [List.forall_mem_cons]
  refine ⟨?_, ?_, ?_, ?_, by simp⟩
  · exact ordinary_of_counts hpath ha.2.1 (by omega) (by omega)
  · exact ordinary_of_counts hurl ha.2.2.1.1.2 (by omega) (by omega)
  · exact ordinary_of_counts hbroker hab (by omega) (by omega)
  · exact ordinary_of_counts htype hat (by omega) (by omega)

/-- A command line each of whose fields is read as its words is one command, to be run in the background. -/
theorem read_fields {fs : List (List Char × List Word)}
    (h : ∀ f ∈ fs, run .blank (f.1 ++ [' ']) = (.blank, f.2.map .word)) :
    read (fs.flatMap (fun f => f.1 ++ [' ']) ++ ['&', '\n']) =
      some ((fs.flatMap Prod.snd).map .word ++ [.operator '&', .operator '\n']) := by
  have he : run .blank ['&', '\n'] = (.blank, [.operator '&', .operator '\n']) := by decide
  unfold Shell.read
  rw [run_append, run_fields h, he]
  simp [finish]

theorem run_bareField {s : List Char} (h : ∀ c ∈ s, isOrdinary c = true) (hh : s.head? ≠ some '#') :
    run .blank ((bareField s).1 ++ [' ']) = (.blank, (bareField s).2.map .word) := run_bareWords h hh

theorem run_quotedField {s : List Char} (h : ∀ c ∈ s, isAllowed c = true) :
    run .blank ((quotedField s).1 ++ [' ']) = (.blank, (quotedField s).2.map .word) :=
  run_field_of_word (run_quoted (quote_notMem h))

theorem run_digitsField (n : Nat) : run .blank ((bareField (toString n).toList).1 ++ [' ']) =
    (.blank, (bareField (toString n).toList).2.map .word) := by
  rw [toList_toString]
  refine run_bareField (fun c hc => (of_isDigit (isDigit_of_mem hc)).1) ?_
  intro hh
  exact absurd (isDigit_of_mem (List.mem_of_mem_head? hh)) (by decide)

/-- **The path between its two pairs of quote marks** is one word if it has only ordinary characters. -/
theorem run_dirField {s : List Char} (h : ∀ c ∈ s, isOrdinary c = true) :
    run .blank ((dirField s).1 ++ [' ']) = (.blank, (dirField s).2.map .word) := by
  have hs : run .blank [quote, quote] = (.word [.quoted []], []) := by decide
  have he : ∀ w : Word, run (.word w) [quote, quote, ' '] = (.blank, [.word (w ++ [.quoted []])]) := fun w => rfl
  have ht : (dirField s).1 ++ [' '] = [quote, quote] ++ (s ++ [quote, quote, ' ']) := by simp [dirField]
  rw [ht, run_append, hs, run_append, run_word _ h, he]
  rfl

/-- Every field of the command line is read as its words, if those are that no quote mark protects. -/
theorem run_of_mem_fields (h : Allowed dir brokerUrl p) (hd : ∀ c ∈ chargepointDir dir p.id, isOrdinary c = true)
    {R : List Char × List Word → Prop} (hR : ∀ f, run .blank (f.1 ++ [' ']) = (.blank, f.2.map .word) → R f)
    (hu : R (bareField p.centralSystem.toList)) (hb : R (bareField brokerUrl.toList)) (ht : R (bareField p.type.toList)) :
    ∀ f ∈ fields dir brokerUrl p, R f := by
  simp only [fields, List.forall_mem_cons]
  refine ⟨hR _ ?_, hR _ ?_, hR _ (run_dirField hd), hR _ ?_, hu, hR _ ?_, hR _ (run_quotedField h.id), hR _ ?_,
    hR _ (run_quotedField h.serial), hR _ ?_, hR _ (run_digitsField _), hR _ ?_, hR _ (run_digitsField _), hR _ ?_, hb,
    hR _ ?_, hR _ (run_digitsField _), hR _ ?_, hR _ (run_digitsField _), hR _ ?_, ht, by simp⟩
  all_goals decide +kernel

/-! ## The arguments of the charge point -/

/-- **A number of digits**, leading zeros among them, is read as what it is worth. -/
theorem strtol_digits {l : List Char} (hl : l ≠ []) (hd : ∀ c ∈ l, c.isDigit = true) (h : Nat.ofDigitChars 10 l 0 < 2 ^ 63) :
    strtol l = Nat.ofDigitChars 10 l 0 := by
  have hv : leadingDigits l = Nat.ofDigitChars 10 l 0 := by
    rw [leadingDigits, List.takeWhile_eq_self_iff.2 hd]
  unfold strtol
  cases l with
  | nil => exact absurd rfl hl
  | cons c l =>
    have hne := fun d h => ne_of_isDigit (d := d) (hd c List.mem_cons_self) h
    rw [List.dropWhile_cons_of_neg (by simp [hne])]
    split
    · rename_i he
      exact absurd (List.cons.inj he).1 (hne '-' (by decide))
    · rename_i he
      exact absurd (List.cons.inj he).1 (hne '+' (by decide))
    · rw [hv]
      dsimp only
      omega

theorem strtol_toDigits {n : Nat} (h : n < 2 ^ 31) : strtol (Nat.toDigits 10 n) = n := by
  have hn : Nat.ofDigitChars 10 (Nat.toDigits 10 n) 0 = n := Nat.ofDigitChars_ten_toDigits
  rw [strtol_digits Nat.toDigits_ne_nil (fun c hc => isDigit_of_mem hc) (by rw [hn]; omega), hn]

theorem atoi_toString {n : Nat} (h : n < 2 ^ 31) : atoi (toString n) = n := by
  unfold atoi
  rw [toList_toString, strtol_toDigits h]
  omega

/-- **The charge point reads the options back from the arguments.** -/
theorem checkParameters_arguments (h : Allowed dir brokerUrl p) :
    checkParameters (arguments dir brokerUrl p).tail = .options (options dir brokerUrl p) := by
  have hatoi := And.intro (atoi_toString h.nbConnectors) (And.intro (atoi_toString h.nbPhases)
    (And.intro (atoi_toString h.maxSetpoint) (atoi_toString h.maxSetpointPerConnector)))
  simpa [checkParameters, arguments, options, Reading.next, Reading.option, valued, Options.set] using hatoi

/-! ## When the command line decodes -/

theorem value_dirWord (s : List Char) : value (dirWord s) = s := by
  have h : dirWord s = [.quoted []] ++ s.map .bare ++ [.quoted []] := rfl
  rw [h, value_append, value_append, value_bare, value_quoted, List.nil_append, List.append_nil]

theorem oneWord_of_mem {E : Expansion} {s : List Char} {words : List Word} (hs : s ≠ [])
    (ho : ∀ c ∈ s, isOrdinary c = true) (hrun : run .blank (s ++ [' ']) = (.blank, (bareWords s).map .word))
    (hE : ∀ w ∈ words, E.expand w = [value w]) (hw : ∀ w ∈ bareWords s, w ∈ words) : OneWord E s := by
  have hm : s.map .bare ∈ words := hw _ (by rw [bareWords, if_neg hs]; exact List.mem_singleton_self _)
  refine ⟨hs, ho, head?_ne_of_run ho hrun, ?_⟩
  rw [hE _ hm, value_bare]

theorem length_bareWords (s : List Char) : (bareWords s).length = if s = [] then 0 else 1 := by
  unfold bareWords
  split <;> rfl

/-- A word of characters that no expansion works on. -/
theorem plain_bare {s : List Char} (h : ∀ c ∈ s, c ∉ ['*', '?', '[', '~']) : Plain (s.map .bare) := by
  constructor
  · intro c hc hm
    obtain ⟨d, hd, he⟩ := List.mem_map.1 hm
    cases he
    exact h c hd (by simp at hc; rcases hc with rfl | rfl | rfl <;> decide)
  · intro hh
    obtain ⟨d, hd, he⟩ := List.mem_map.1 (List.mem_of_mem_head? hh)
    cases he
    exact h _ hd (by decide)

theorem expand_bareWords {E : Expansion} {s : List Char} (h : E.expand (s.map .bare) = [s]) :
    ∀ w ∈ bareWords s, E.expand w = [value w] := by
  intro w hw
  unfold bareWords at hw
  split at hw
  · cases hw
  · rw [List.mem_singleton.1 hw, value_bare, h]

theorem expand_plain {E : Expansion} {s : List Char} (h : ∀ c ∈ s, c ∉ ['*', '?', '[', '~']) :
    ∀ w ∈ bareWords s, E.expand w = [value w] := by
  apply expand_bareWords
  rw [E.expand_plain _ (plain_bare h), value_bare]

theorem expand_quoted {E : Expansion} (s : List Char) : ∀ w ∈ (quotedField s).2, E.expand w = [value w] := by
  intro w hw
  apply E.expand_plain
  rw [List.mem_singleton.1 hw]
  exact ⟨by simp, by simp⟩

theorem expand_digits {E : Expansion} (n : Nat) : ∀ w ∈ bareWords (toString n).toList, E.expand w = [value w] := by
  rw [toList_toString]
  apply expand_plain
  intro c hc hm
  have hne := fun d hd => ne_of_isDigit (d := d) (isDigit_of_mem hc) hd
  simp [hne] at hm

/-- Every word of the command line is left by the expansions, if those are that no quote mark protects. -/
theorem expand_of_mem_fields {E : Expansion} (hd : E.expand (dirWord (chargepointDir dir p.id)) = [chargepointDir dir p.id])
    (hu : OneWord E p.centralSystem.toList) (hb : OneWord E brokerUrl.toList) (ht : OneWord E p.type.toList) :
    ∀ w ∈ (fields dir brokerUrl p).flatMap Prod.snd, E.expand w = [value w] := by
  have hdir : ∀ w ∈ (dirField (chargepointDir dir p.id)).2, E.expand w = [value w] := by
    intro w hw
    rw [List.mem_singleton.1 hw, hd, value_dirWord]
  have hlit : ∀ s ∈ fixedWords, s.toList.all (fun c => decide (c ∉ ['*', '?', '[', '~'])) = true := by decide +kernel
  have hopt := fun s hs => expand_plain (E := E) (fun c hc => of_decide_eq_true (List.all_eq_true.1 (hlit s hs) c hc))
  simp only [fixedWords, List.forall_mem_cons] at hopt
  obtain ⟨h₀, hw, htt, hc, hs, hn, hp, hbb, hm, hi, he, -⟩ := hopt
  simp only [List.forall_mem_flatMap, fields, List.forall_mem_cons]
  exact ⟨h₀, hw, hdir, htt, expand_bareWords hu.2.2.2, hc, expand_quoted _, hs,
    expand_quoted _, hn, expand_digits _, hp, expand_digits _, hbb, expand_bareWords hb.2.2.2, hm,
    expand_digits _, hi, expand_digits _, he, expand_bareWords ht.2.2.2, by simp⟩

theorem map_value_bareWords {s : List Char} (h : s ≠ []) : (bareWords s).map value = [s] := by
  rw [bareWords, if_neg h, List.map_singleton, value_bare]

theorem digits_ne_nil (n : Nat) : (toString n).toList ≠ [] := by
  rw [toList_toString]
  exact Nat.toDigits_ne_nil

/-- The words say the arguments that are meant. -/
theorem map_value_fields (hu : p.centralSystem.toList ≠ []) (hb : brokerUrl.toList ≠ []) (ht : p.type.toList ≠ []) :
    ((fields dir brokerUrl p).flatMap Prod.snd).map value = (arguments dir brokerUrl p).map String.toList := by
  have hlit : ∀ s ∈ fixedWords, s.toList ≠ [] := by decide +kernel
  have hopt := fun s hs => map_value_bareWords (hlit s hs)
  simp only [fixedWords, List.forall_mem_cons] at hopt
  obtain ⟨h₀, hw, htt, hc, hs, hn, hp, hbb, hm, hi, he, -⟩ := hopt
  simp only [fields, bareField, dirField, quotedField, arguments, List.flatMap_cons, List.flatMap_nil, List.map_append, List.map_cons,
    List.map_nil, h₀, hw, htt, hc, hs, hn, hp, hbb, hm, hi, he, map_value_bareWords hu, map_value_bareWords hb,
    map_value_bareWords ht, map_value_bareWords (digits_ne_nil _), value_dirWord, value_quoted, String.toList_ofList]
  rfl

/-- Each text that no quote mark protects is a word where there are as many words as arguments. -/
theorem ne_nil_of_length (h : ((fields dir brokerUrl p).flatMap Prod.snd).length = 21) :
    p.centralSystem.toList ≠ [] ∧ brokerUrl.toList ≠ [] ∧ p.type.toList ≠ [] := by
  have hlit : ∀ s ∈ fixedWords, (bareWords s.toList).length = 1 := by decide +kernel
  simp only [fixedWords, List.forall_mem_cons] at hlit
  obtain ⟨h₀, hw, htt, hc, hs, hn, hp, hbb, hm, hi, he, -⟩ := hlit
  have hdig : ∀ n, (bareWords (toString n).toList).length = 1 := fun n => by
    rw [length_bareWords, if_neg (digits_ne_nil n)]
  simp only [fields, bareField, dirField, quotedField, List.flatMap_cons, List.flatMap_nil, List.length_append, List.length_cons,
    List.length_nil, h₀, hw, htt, hc, hs, hn, hp, hbb, hm, hi, he, hdig] at h
  have hu := length_bareWords p.centralSystem.toList
  have hb := length_bareWords brokerUrl.toList
  have ht := length_bareWords p.type.toList
  split at hu <;> split at hb <;> split at ht <;> first | omega | exact ⟨‹_›, ‹_›, ‹_›⟩

/-- **The command line decodes to the arguments that are meant exactly when** the path of the directory, which stands
outside quote marks, and the URLs and the type have only characters that a word goes on with, these three are not empty
and do not start with a hash, and pathname expansion and tilde expansion leave all four as they are. -/
theorem decodes_iff (E : Expansion) (h : Allowed dir brokerUrl p) : Decodes E dir brokerUrl p ↔
    ((∀ c ∈ chargepointDir dir p.id, isOrdinary c = true) ∧
      E.expand (dirWord (chargepointDir dir p.id)) = [chargepointDir dir p.id]) ∧
    OneWord E p.centralSystem.toList ∧ OneWord E brokerUrl.toList ∧ OneWord E p.type.toList := by
  constructor
  · rintro ⟨words, hr, hv, hE, -⟩
    obtain ⟨hwhole, hord⟩ := ordinary_of_read h hr hv
    simp only [List.forall_mem_cons] at hord
    obtain ⟨hd, hu, hb, ht, -⟩ := hord
    rw [commandLine_eq_fields h] at hwhole hr
    have hrun := run_fields_of_whole (run_of_mem_fields h hd (fun f hf => Or.inl hf) (Or.inr ⟨hu, rfl⟩) (Or.inr ⟨hb, rfl⟩)
      (Or.inr ⟨ht, rfl⟩)) hwhole
    rw [read_fields hrun, Option.some_inj, List.append_cancel_right_eq] at hr
    have hw : (fields dir brokerUrl p).flatMap Prod.snd = words :=
      List.map_injective_iff.2 (fun a b hab => Token.word.inj hab) hr
    have hlen : words.length = 21 := by
      rw [← List.length_map (f := value), hv]
      rfl
    subst hw
    obtain ⟨hune, hbne, htne⟩ := ne_nil_of_length hlen
    have hmem : ∀ f ∈ fields dir brokerUrl p, ∀ w ∈ f.2, w ∈ (fields dir brokerUrl p).flatMap Prod.snd :=
      fun f hf w hw => List.mem_flatMap.2 ⟨f, hf, hw⟩
    have hword : ∀ s, bareField s ∈ fields dir brokerUrl p → s ≠ [] → (∀ c ∈ s, isOrdinary c = true) → OneWord E s :=
      fun s hs hne ho => oneWord_of_mem hne ho (hrun _ hs) hE (hmem _ hs)
    have hdw := hE _ (hmem (dirField (chargepointDir dir p.id)) (by simp [fields]) _ (List.mem_singleton_self _))
    rw [value_dirWord] at hdw
    exact ⟨⟨hd, hdw⟩, hword _ (by simp [fields]) hune hu, hword _ (by simp [fields]) hbne hb, hword _ (by simp [fields]) htne ht⟩
  · rintro ⟨⟨hd, hde⟩, hu, hb, ht⟩
    have hrun := run_of_mem_fields h hd (fun f hf => hf) (run_bareField hu.2.1 hu.2.2.1) (run_bareField hb.2.1 hb.2.2.1)
      (run_bareField ht.2.1 ht.2.2.1)
    have hE := expand_of_mem_fields hde hu hb ht
    have hv : ((fields dir brokerUrl p).flatMap Prod.snd).map value = (arguments dir brokerUrl p).map String.toList :=
      map_value_fields hu.1 hb.1 ht.1
    have hargs : ((fields dir brokerUrl p).flatMap Prod.snd).flatMap E.expand = (arguments dir brokerUrl p).map String.toList := by
      rw [← hv, List.flatMap_congr hE, List.map_eq_flatMap]
    refine ⟨(fields dir brokerUrl p).flatMap Prod.snd, ?_, hv, hE, ?_⟩
    · rw [commandLine_eq_fields h]
      exact read_fields hrun
    · rw [hargs, ← List.map_tail, List.map_map, ← checkParameters_arguments h]
      exact congrArg checkParameters (List.map_id'' (fun a => String.ofList_toList) _)

end

/-- No file matches a word, and no user is named in one. -/
def bareExpansion : Expansion := ⟨fun w => [value w], fun _ _ => rfl⟩

/-- A charge point with that central system. -/
def Parameters.to (centralSystem : String) : Parameters where
  id := "CP1"
  type := "AC"
  vendor := "vendor"
  model := "model"
  serial := "S/N #1's"
  centralSystem := centralSystem
  nbConnectors := 2
  nbPhases := 3
  maxSetpoint := 32
  maxSetpointPerConnector := 16
  voltage := 230

theorem decodes_of_plain_texts : Decodes bareExpansion "chargepoints".toList "tcp://localhost:1883" (.to "ws://host/ocpp") :=
  (decodes_iff bareExpansion (by decide +kernel)).2
    ⟨⟨List.all_eq_true.1 (by decide +kernel), by decide +kernel⟩,
      ⟨by decide +kernel, List.all_eq_true.1 (by decide +kernel), by decide +kernel, by decide +kernel⟩,
      ⟨by decide +kernel, List.all_eq_true.1 (by decide +kernel), by decide +kernel, by decide +kernel⟩,
      ⟨by decide +kernel, List.all_eq_true.1 (by decide +kernel), by decide +kernel, by decide +kernel⟩⟩

/-- **A blank in the working directory splits it**, and what follows an `&` in the URL is a command of its own. -/
theorem not_decodes_of_blank_or_operator :
    Allowed "/srv/ocpp simu/chargepoints".toList "tcp://localhost:1883" (.to "ws://host/ocpp") ∧
    ¬Decodes bareExpansion "/srv/ocpp simu/chargepoints".toList "tcp://localhost:1883" (.to "ws://host/ocpp") ∧
    Allowed "chargepoints".toList "tcp://localhost:1883" (.to "ws://host?a=1&b=2") ∧
    ¬Decodes bareExpansion "chargepoints".toList "tcp://localhost:1883" (.to "ws://host?a=1&b=2") := by
  have h₁ : Allowed "/srv/ocpp simu/chargepoints".toList "tcp://localhost:1883" (.to "ws://host/ocpp") := by decide +kernel
  have h₂ : Allowed "chargepoints".toList "tcp://localhost:1883" (.to "ws://host?a=1&b=2") := by decide +kernel
  refine ⟨h₁, ?_, h₂, ?_⟩
  · rintro ⟨words, hr, hv, -⟩
    have ho := (ordinary_of_read h₁ hr hv).2 _ List.mem_cons_self ' ' (by decide +kernel)
    exact absurd ho (by decide)
  · rintro ⟨words, hr, hv, -⟩
    have ho := (ordinary_of_read h₂ hr hv).2 _ (List.mem_cons_of_mem _ List.mem_cons_self) '&' (by decide +kernel)
    exact absurd ho (by decide)

end Launcher
