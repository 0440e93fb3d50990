import Mathlib.Data.List.TakeWhile
import OcppSimu.Words
/-!
# Transfers — the command lines that `ChargePointEventsHandler` gives to a shell

A file is sent or fetched with `curl`, and the diagnostics are packed with `zip`, by one command line each, in which a
path or an URL stands as it is, without quote marks.  The URL comes from the central system.  The words that the shell
makes of the line are those that are meant exactly when the texts have nothing of the shell's own in them
(`curl_words`, `zip_words`); the result is what the exit status says.
-/
namespace Transfers

open Shell

/-- What is asked of the surroundings: the `replace` of the stack's helpers, whether a file exists, and the status that
`system` gives for a command line. -/
structure Surroundings where
  replace : (text pattern replacement : String) → Bool → String
  exist : String → Bool
  system : String → ℤ

def WEXITSTATUS (status : ℤ) : ℤ := status / 256 % 256

/-- What `c_str` hands over. -/
def cStr (line : String) : String := String.ofList (line.toList.takeWhile (fun c => decide (c ≠ Char.ofNat 0)))

def startsWith (text pattern : String) : Bool := pattern.toList.isPrefixOf text.toList

/-- `params` and `connection_url`, where the protocol is supported. -/
def connection (sys : Surroundings) (url : String) : Option (String × String) :=
  if startsWith url "ftp://" then some ("", url)
  else if startsWith url "ftps://" then some ("--insecure --ssl", sys.replace url "ftps://" "ftp://" false)
  else if startsWith url "http://" then some ("", url)
  else if startsWith url "https://" then some ("--insecure", url)
  else none

def curlLine (params option file connectionUrl : String) : String :=
  "curl --silent " ++ params ++ " " ++ option ++ " " ++ file ++ " " ++ connectionUrl

/-- What both directions do, and the command line they run, if any. -/
def curl (sys : Surroundings) (option file url : String) : Bool × Option String :=
  match connection sys url with
  | none => (false, none)
  | some (params, connectionUrl) =>
    let line := curlLine params option file connectionUrl
    (decide (WEXITSTATUS (sys.system (cStr line)) = 0), some (cStr line))

def uploadFile (sys : Surroundings) (file url : String) : Bool × Option String := curl sys "-T" file url

def downloadFile (sys : Surroundings) (url file : String) : Bool × Option String := curl sys "-o" file url

/-- The path of a diagnostic file. -/
def diagPath (workingDir filename : String) : String :=
  if filename.toList.head? ≠ some '/' ∧ workingDir ≠ "" then workingDir ++ "/" ++ filename else filename

def diagFile : String := "/tmp/diag.zip"

/-- The diagnostic files that are packed. -/
def packed (sys : Surroundings) (workingDir : String) (diagFiles : List String) : List String :=
  (diagFiles.map (diagPath workingDir)).filter sys.exist

def getDiagnostics (sys : Surroundings) (workingDir : String) (diagFiles : List String) : String × Option String :=
  let line := diagFiles.foldl (fun line filename =>
    let filepath := diagPath workingDir filename
    if sys.exist filepath then line ++ " " ++ filepath else line) ("zip " ++ diagFile)
  (diagFile, some (cStr line))

inductive LogType
  | diagnosticsLog | securityLog
  deriving DecidableEq

def getLog (type : LogType) (securityLogMaxEntriesCount : Nat) (databasePath : String) : String × Option String :=
  match type with
  | .securityLog => (if 0 < securityLogMaxEntriesCount then "/tmp/" else "", none)
  | .diagnosticsLog => (diagFile, some (cStr ("zip " ++ diagFile ++ " " ++ databasePath)))

/-! ## What the shell reads -/

/-- A character that a line has as itself: no null ends it, and no substitution starts with it. -/
def isLegible (c : Char) : Bool := decide (c ∉ [Char.ofNat 0, '\\', '$', '\x60'])

theorem cStr_of_legible {line : String} (h : ∀ c ∈ line.toList, isLegible c = true) : cStr line = line := by
  have ht : line.toList.takeWhile (fun c => decide (c ≠ Char.ofNat 0)) = line.toList :=
    List.takeWhile_eq_self_iff.2 fun c hc => by
      have hl := h c hc
      simp only [isLegible, List.mem_cons, not_or, decide_eq_true_eq] at hl
      exact decide_eq_true hl.1
  unfold cStr
  rw [ht, String.ofList_toList]

/-- The options that an URL asks for. -/
def options (url : String) : List String :=
  if startsWith url "ftp://" then []
  else if startsWith url "ftps://" then ["--insecure", "--ssl"]
  else if startsWith url "http://" then []
  else if startsWith url "https://" then ["--insecure"]
  else []

/-- The words that are meant. -/
def curlWords (url option file connectionUrl : String) : List (List Char) :=
  (["curl", "--silent"] ++ options url ++ [option, file, connectionUrl]).map String.toList

/-- What stands between two blanks of the line. -/
def curlTexts (url option file : String) : List (List Char) :=
  (["curl", "--silent"] ++ (if options url = [] then [""] else options url) ++ [option, file]).map String.toList

/-- The three ways of `params`. -/
def OptionsOf (params : String) (options : List String) : Prop :=
  (params = "" ∧ options = []) ∨ (params = "--insecure" ∧ options = ["--insecure"]) ∨
    (params = "--insecure --ssl" ∧ options = ["--insecure", "--ssl"])

theorem optionsOf_connection {sys : Surroundings} {url params connectionUrl : String}
    (h : connection sys url = some (params, connectionUrl)) : OptionsOf params (options url) := by
  unfold connection at h
  unfold options
  split at h
  next h₁ =>
    cases h
    exact .inl ⟨rfl, if_pos h₁⟩
  next h₁ =>
    rw [if_neg h₁]
    split at h
    next h₂ =>
      cases h
      exact .inr (.inr ⟨rfl, if_pos h₂⟩)
    next h₂ =>
      rw [if_neg h₂]
      split at h
      next h₃ =>
        cases h
        exact .inl ⟨rfl, if_pos h₃⟩
      next h₃ =>
        rw [if_neg h₃]
        split at h
        next h₄ =>
          cases h
          exact .inr (.inl ⟨rfl, if_pos h₄⟩)
        next => cases h

theorem toList_curlLine {url params option file connectionUrl : String} (h : OptionsOf params (options url)) :
    (curlLine params option file connectionUrl).toList = joined (curlTexts url option file) connectionUrl.toList := by
  unfold curlLine curlTexts
  rcases h with ⟨rfl, ho⟩ | ⟨rfl, ho⟩ | ⟨rfl, ho⟩ <;> rw [ho] <;> simp [joined, String.toList_append]

/-- The texts that the handler itself writes. -/
def ownTexts (url option : String) : List (List Char) :=
  (["curl", "--silent"] ++ (if options url = [] then [""] else options url) ++ [option]).map String.toList

theorem isPlain_ownTexts {url params option : String} (h : OptionsOf params (options url)) (ho : option = "-T" ∨ option = "-o") :
    ∀ s ∈ ownTexts url option, isPlain s = true := by
  unfold ownTexts
  rcases h with ⟨-, hp⟩ | ⟨-, hp⟩ | ⟨-, hp⟩ <;> rw [hp] <;> rcases ho with rfl | rfl <;> decide +kernel

theorem filter_ownTexts {url params option : String} (h : OptionsOf params (options url)) (ho : option = "-T" ∨ option = "-o") :
    (ownTexts url option).filter (fun s => decide (s ≠ [])) =
      (["curl", "--silent"] ++ options url ++ [option]).map String.toList := by
  unfold ownTexts
  rcases h with ⟨-, hp⟩ | ⟨-, hp⟩ | ⟨-, hp⟩ <;> rw [hp] <;> rcases ho with rfl | rfl <;> decide +kernel

theorem says_curl (E : Expansion) {url params option file connectionUrl : String} (h : OptionsOf params (options url))
    (ho : option = "-T" ∨ option = "-o") :
    Says E (curlLine params option file connectionUrl).toList (curlWords url option file connectionUrl) ↔
      (file ≠ "" ∧ Intact E file.toList) ∧ connectionUrl ≠ "" ∧ Intact E connectionUrl.toList := by
  have ht : curlTexts url option file ++ [connectionUrl.toList] =
      ownTexts url option ++ [file.toList, connectionUrl.toList] := by simp [curlTexts, ownTexts]
  have hw : curlWords url option file connectionUrl =
      (["curl", "--silent"] ++ options url ++ [option]).map String.toList ++ [file.toList, connectionUrl.toList] := by
    simp [curlWords]
  have ha : (curlWords url option file connectionUrl).flatten = (curlTexts url option file ++ [connectionUrl.toList]).flatten := by
    rw [ht, hw, ← filter_ownTexts h ho, List.flatten_append, List.flatten_append, List.flatten_filter_ne_nil]
  rw [toList_curlLine h, says_iff E ha, ht, hw, List.filter_append, filter_ownTexts h ho, List.append_cancel_left_eq,
    List.forall_mem_append]
  have hf : ([file.toList, connectionUrl.toList] = [file.toList, connectionUrl.toList].filter (fun s => decide (s ≠ []))) ↔
      file ≠ "" ∧ connectionUrl ≠ "" := by
    rw [eq_comm, List.filter_eq_self]
    simp
  have hown : ∀ s ∈ ownTexts url option, Intact E s := fun s hs => intact_of_isPlain E (isPlain_ownTexts h ho s hs)
  rw [hf, and_iff_right hown]
  simp only [List.forall_mem_cons, List.not_mem_nil, false_implies, implies_true, and_true]
  tauto

/-- **Each packed file is one more text of the line.** -/
theorem toList_zipLine (sys : Surroundings) (workingDir : String) (diagFiles : List String) (line : String) :
    (diagFiles.foldl (fun line filename =>
      let filepath := diagPath workingDir filename
      if sys.exist filepath then line ++ " " ++ filepath else line) line).toList =
      line.toList ++ ((packed sys workingDir diagFiles).map String.toList).flatMap (fun t => ' ' :: t) := by
  induction diagFiles generalizing line with
  | nil => simp [packed]
  | cons filename diagFiles ih =>
    rw [List.foldl_cons, ih]
    unfold packed
    rw [List.map_cons, List.filter_cons]
    split <;> simp [String.toList_append, *]

theorem says_zip (E : Expansion) (files : List String) :
    Says E (("zip " ++ diagFile).toList ++ (files.map String.toList).flatMap (fun t => ' ' :: t))
        (("zip" :: diagFile :: files).map String.toList) ↔ ∀ f ∈ files, f ≠ "" ∧ Intact E f.toList := by
  have hl : ("zip " ++ diagFile).toList ++ (files.map String.toList).flatMap (fun t => ' ' :: t) =
      "zip".toList ++ ((diagFile :: files).map String.toList).flatMap (fun t => ' ' :: t) := by
    simp [String.toList_append]
  have hown : ∀ s ∈ ["zip", diagFile], Intact E s.toList := fun s hs => intact_of_isPlain E (by
    revert s
    decide +kernel)
  have hw : ("zip" :: diagFile :: files).map String.toList = "zip".toList :: (diagFile :: files).map String.toList := rfl
  rw [hl, hw, says_blanks_iff E rfl]
  simp only [List.forall_mem_cons, List.not_mem_nil, false_implies, implies_true, and_true] at hown
  have he : ("zip".toList :: (diagFile :: files).map String.toList =
      ("zip".toList :: (diagFile :: files).map String.toList).filter (fun s => decide (s ≠ []))) ↔ ∀ f ∈ files, f ≠ "" := by
    rw [eq_comm, List.filter_eq_self]
    simp [diagFile]
  rw [he, List.forall_mem_cons, List.map_cons, List.forall_mem_cons, and_iff_right hown.1, and_iff_right hown.2]
  simp only [List.forall_mem_map]
  exact ⟨fun h f hf => ⟨h.2 f hf, h.1 f hf⟩, fun h => ⟨fun f hf => (h f hf).2, fun f hf => (h f hf).1⟩⟩

/-! ## Every command line -/

/-- What the stack asks for that runs a command. -/
inductive Task
  | upload (file url : String)
  | download (url file : String)
  | diagnostics (workingDir : String) (diagFiles : List String)
  | log (securityLogMaxEntriesCount : Nat) (databasePath : String)

namespace Task

def commandLine (sys : Surroundings) : Task → Option String
  | .upload file url => (uploadFile sys file url).2
  | .download url file => (downloadFile sys url file).2
  | .diagnostics workingDir diagFiles => (getDiagnostics sys workingDir diagFiles).2
  | .log n databasePath => (getLog .diagnosticsLog n databasePath).2

/-- The words that are meant. -/
def words (sys : Surroundings) : Task → Option (List String)
  | .upload file url => (connection sys url).map fun x => ["curl", "--silent"] ++ options url ++ ["-T", file, x.2]
  | .download url file => (connection sys url).map fun x => ["curl", "--silent"] ++ options url ++ ["-o", file, x.2]
  | .diagnostics workingDir diagFiles => some ("zip" :: diagFile :: packed sys workingDir diagFiles)
  | .log _ databasePath => some ["zip", diagFile, databasePath]

/-- The texts that come from outside. -/
def given (sys : Surroundings) : Task → List String
  | .upload file url | .download url file => file :: ((connection sys url).map Prod.snd).toList
  | .diagnostics workingDir diagFiles => packed sys workingDir diagFiles
  | .log _ databasePath => [databasePath]

end Task

theorem legible_append {s t : String} (hs : ∀ c ∈ s.toList, isLegible c = true) (ht : ∀ c ∈ t.toList, isLegible c = true) :
    ∀ c ∈ (s ++ t).toList, isLegible c = true := by
  rw [String.toList_append, List.forall_mem_append]
  exact ⟨hs, ht⟩

theorem legible_of_all {s : String} (h : s.toList.all isLegible = true) : ∀ c ∈ s.toList, isLegible c = true :=
  List.all_eq_true.1 h

theorem cStr_curlLine {url params option file connectionUrl : String} (h : OptionsOf params (options url))
    (ho : option = "-T" ∨ option = "-o") (hf : ∀ c ∈ file.toList, isLegible c = true)
    (hu : ∀ c ∈ connectionUrl.toList, isLegible c = true) :
    cStr (curlLine params option file connectionUrl) = curlLine params option file connectionUrl := by
  have hp : ∀ c ∈ params.toList, isLegible c = true := legible_of_all (by
    rcases h with ⟨rfl, -⟩ | ⟨rfl, -⟩ | ⟨rfl, -⟩ <;> decide +kernel)
  have hopt : ∀ c ∈ option.toList, isLegible c = true := legible_of_all (by
    rcases ho with rfl | rfl <;> decide +kernel)
  have hb : ∀ c ∈ " ".toList, isLegible c = true := legible_of_all (by decide +kernel)
  have hc : ∀ c ∈ "curl --silent ".toList, isLegible c = true := legible_of_all (by decide +kernel)
  exact cStr_of_legible (legible_append (legible_append (legible_append (legible_append (legible_append
    (legible_append hc hp) hb) hopt) hb) hf |> (legible_append · hb)) hu)

theorem curl_says (E : Expansion) (sys : Surroundings) {option : String} (ho : option = "-T" ∨ option = "-o") (file url : String)
    (hl : ∀ t ∈ file :: ((connection sys url).map Prod.snd).toList, ∀ c ∈ t.toList, isLegible c = true) :
    ((curl sys option file url).2 = none ↔ connection sys url = none) ∧
    ∀ line ∈ (curl sys option file url).2, ∀ x ∈ connection sys url,
      (Says E line.toList (curlWords url option file x.2) ↔
        ∀ t ∈ file :: ((connection sys url).map Prod.snd).toList, t ≠ "" ∧ Intact E t.toList) := by
  unfold curl
  cases hc : connection sys url with
  | none => simp
  | some x =>
    obtain ⟨params, u⟩ := x
    rw [hc] at hl
    simp only [Option.map_some, Option.toList_some, List.forall_mem_cons] at hl
    have hp := optionsOf_connection hc
    simp only [cStr_curlLine hp ho hl.1 hl.2.1, Option.map_some, Option.toList_some, List.forall_mem_cons, List.not_mem_nil,
      false_implies, implies_true, and_true, reduceCtorEq, iff_self, true_and, Option.mem_some, forall_eq']
    exact says_curl E hp ho

theorem zip_says (E : Expansion) {files : List String} (hl : ∀ t ∈ files, ∀ c ∈ t.toList, isLegible c = true) {line : String}
    (hline : line.toList = ("zip " ++ diagFile).toList ++ (files.map String.toList).flatMap (fun t => ' ' :: t)) :
    Says E (cStr line).toList (("zip" :: diagFile :: files).map String.toList) ↔
      ∀ t ∈ files, t ≠ "" ∧ Intact E t.toList := by
  have hc : cStr line = line := cStr_of_legible (by
    rw [hline, List.forall_mem_append]
    refine ⟨legible_of_all (by decide +kernel), fun c hm => ?_⟩
    obtain ⟨t, ht, hm⟩ := List.mem_flatMap.1 hm
    obtain ⟨f, hf, rfl⟩ := List.mem_map.1 ht
    rcases List.mem_cons.1 hm with rfl | hm
    · decide
    · exact hl f hf c hm)
  rw [hc, hline]
  exact says_zip E files

/-- **The shell makes of every command line the words that are meant exactly when** each text that comes from outside is
there, has only characters that a word goes on with, starts no comment and is left as it is by the expansions. -/
theorem command_words (E : Expansion) (sys : Surroundings) (task : Task)
    (hl : ∀ t ∈ task.given sys, ∀ c ∈ t.toList, isLegible c = true) :
    (task.commandLine sys = none ↔ task.words sys = none) ∧
    ∀ line ∈ task.commandLine sys, ∀ words ∈ task.words sys,
      (Says E line.toList (words.map String.toList) ↔ ∀ t ∈ task.given sys, t ≠ "" ∧ Intact E t.toList) := by
  cases task with
  | upload file url =>
    obtain ⟨hn, hs⟩ := curl_says E sys (.inl rfl) file url hl
    refine ⟨hn.trans Option.map_eq_none_iff.symm, fun line hline words hw => ?_⟩
    obtain ⟨x, hx, rfl⟩ := Option.map_eq_some_iff.1 hw
    exact hs line hline x hx
  | download url file =>
    obtain ⟨hn, hs⟩ := curl_says E sys (.inr rfl) file url hl
    refine ⟨hn.trans Option.map_eq_none_iff.symm, fun line hline words hw => ?_⟩
    obtain ⟨x, hx, rfl⟩ := Option.map_eq_some_iff.1 hw
    exact hs line hline x hx
  | diagnostics workingDir diagFiles =>
    refine ⟨iff_of_false nofun nofun, fun line hline words hw => ?_⟩
    cases hline
    cases hw
    exact zip_says E hl (toList_zipLine sys workingDir diagFiles _)
  | log n databasePath =>
    refine ⟨iff_of_false nofun nofun, fun line hline words hw => ?_⟩
    cases hline
    cases hw
    exact zip_says E hl (by simp [Task.given, String.toList_append])

/-- An URL with two parameters in its query: the ampersand ends the command. -/
theorem command_words_query :
    let line := "curl --silent --insecure -T /tmp/diag.zip https://host/up?a=1&b=2"
    (Task.upload diagFile "https://host/up?a=1&b=2").commandLine ⟨fun text _ _ _ => text, fun _ => true, fun _ => 0⟩ = some line ∧
      ¬ Says ⟨fun w => [value w], fun _ _ => rfl⟩ line.toList
        (["curl", "--silent", "--insecure", "-T", diagFile, "https://host/up?a=1&b=2"].map String.toList) := by
  have hline : (Task.upload diagFile "https://host/up?a=1&b=2").commandLine
      ⟨fun text _ _ _ => text, fun _ => true, fun _ => 0⟩ =
        some "curl --silent --insecure -T /tmp/diag.zip https://host/up?a=1&b=2" := by decide +kernel
  have hl : [diagFile, "https://host/up?a=1&b=2"].all (fun t => t.toList.all isLegible) = true := by decide +kernel
  refine ⟨hline, fun hs => ?_⟩
  have h := (command_words ⟨fun w => [value w], fun _ _ => rfl⟩ ⟨fun text _ _ _ => text, fun _ => true, fun _ => 0⟩
    (.upload diagFile "https://host/up?a=1&b=2") (fun t ht => legible_of_all (List.all_eq_true.1 hl t ht))).2 _ hline
      ["curl", "--silent", "--insecure", "-T", diagFile, "https://host/up?a=1&b=2"] (by decide +kernel)
  have hi := (h.1 hs "https://host/up?a=1&b=2" (by decide +kernel)).2
  exact absurd (hi.ordinary '&' (by decide +kernel)) (by decide)

end Transfers
