import OcppSimu.Configuration
import OcppSimu.Wire
/-!
# Secrecy — what is told of the configuration

The configuration is told to who asks for its keys, and published on a topic for all.  Both are made of what can be read
(`getConfiguration_congr`), and so the keys that can only be written, of which there is one (`secret_iff`), are told in
neither (`secrets_kept`).
-/
namespace OcppConfig

open Guarded Wire

variable {assign : Nat → String → String} {config config' : IniFile} {key : String}

/-! ## The message -/

/-- What `publish` is called with. -/
structure Published where
  topic : String
  payload : Json
  qos : Nat
  retained : Bool

/-- `c_str`, as far as it is read. -/
def cStr (text : String) : String := String.ofList (text.toList.takeWhile (fun c => decide (c ≠ Char.ofNat 0)))

/-- The topic is made when the connection is. -/
def ocppConfigTopic (config : IniFile) : String :=
  "cp_simu/cps/" ++ config.get stackParams "ChargePointIdentifier" ++ "/" ++ "ocpp_config"

/-- **`publishOcppConfig`**. -/
def publishOcppConfig (assign : Nat → String → String) (isConnected : Bool) (topic : String) (config : IniFile) :
    Option Published :=
  if isConnected then
    let values := (getConfiguration assign config [] [] []).1
    let msg := values.foldl (fun msg keyValue =>
      -- an unset value is an empty one
      let value := keyValue.value.getD ""
      if value ≠ "" then msg ++ [(cStr keyValue.key, Json.str (cStr value))] else msg) []
    some { topic := topic, payload := .obj msg, qos := 0, retained := true }
  else none

/-! ## What it is made of -/

/-- **The answers are made of what can be read.** -/
theorem getConfiguration_congr (assign : Nat → String → String) (h : rights.read config.values = rights.read config'.values) :
    getConfiguration assign config = getConfiguration assign config' := by
  have he : entry assign config = entry assign config' := by
    funext key
    unfold entry
    rw [h]
  funext keys values unknownValues
  by_cases hk : keys = []
  · subst hk
    rw [getConfiguration_nil, getConfiguration_nil, he]
  · rw [getConfiguration_of_ne_nil assign config hk, getConfiguration_of_ne_nil assign config' hk, he]

theorem publishOcppConfig_congr (assign : Nat → String → String) (isConnected : Bool) (topic : String)
    (h : rights.read config.values = rights.read config'.values) :
    publishOcppConfig assign isConnected topic config = publishOcppConfig assign isConnected topic config' := by
  unfold publishOcppConfig
  rw [getConfiguration_congr assign h]

/-- The answer to a call depends on its key alone. -/
theorem status_congr (config config' : IniFile) (key value value' : String) :
    (setConfiguration config key value).1 = (setConfiguration config' key value').1 := by
  rw [setConfiguration, setConfiguration]
  cases configurationValues[key]? with
  | none => rfl
  | some attributes =>
    dsimp only
    split
    · split <;> rfl
    · rfl

/-! ## Two runs -/

/-- **Two files that differ in the values of keys that can be written and not read**, and in nothing else. -/
def SameButSecrets (config config' : IniFile) : Prop :=
  ∀ params key, ¬rights.Secret key → config.content (params, key) = config'.content (params, key)

/-- **The same calls**, but for the values of such keys. -/
def SameCalls (calls calls' : List (String × String)) : Prop :=
  List.Forall₂ (fun call call' => call.1 = call'.1 ∧ (¬rights.Secret call.1 → call.2 = call'.2)) calls calls'

theorem not_secret_of_readable (h : rights.readable key = true) : ¬rights.Secret key := fun hs => by
  rw [hs.2] at h
  cases h

/-- **The key that can only be written** is one. -/
theorem secret_iff : rights.Secret key ↔ key = "AuthorizationKey" := by
  have hall : ∀ param ∈ parameters, decide (param.2 &&& paramWrite ≠ 0) = true →
      decide (param.2 &&& paramRead ≠ 0) = false → param.1 = "AuthorizationKey" := by decide +kernel
  have hkey : parameters.lookup "AuthorizationKey" = some (paramWrite ||| paramOcpp) := by decide +kernel
  constructor
  · rintro ⟨hw, hr⟩
    cases h : configurationValues[key]? with
    | none =>
      rw [writable_of_none h] at hw
      cases hw
    | some attributes =>
      rw [writable_of_some h] at hw
      rw [readable_of_some h] at hr
      rw [getElem?_configurationValues] at h
      obtain ⟨l, l', hl, -⟩ := List.lookup_eq_some_iff.1 h
      have hm : (key, attributes) ∈ parameters := by
        rw [hl]
        exact List.mem_append_right l List.mem_cons_self
      exact hall _ hm hw hr
  · rintro rfl
    have h := (getElem?_configurationValues "AuthorizationKey").trans hkey
    constructor
    · rw [writable_of_some h]
      decide
    · rw [readable_of_some h]
      decide

theorem SameButSecrets.alike (h : SameButSecrets config config') : rights.Alike config.values config'.values := by
  intro key hr
  unfold IniFile.values IniFile.get
  rw [h _ _ (not_secret_of_readable hr)]

theorem SameCalls.alike {calls calls' : List (String × String)} (h : SameCalls calls calls') :
    List.Forall₂ rights.AlikeCalls calls calls' :=
  h.imp fun _ _ hc => ⟨hc.1, fun hr => hc.2 (not_secret_of_readable hr)⟩

theorem SameButSecrets.topic (h : SameButSecrets config config') : ocppConfigTopic config = ocppConfigTopic config' := by
  have hid : ¬rights.Secret "ChargePointIdentifier" := by
    rw [secret_iff]
    decide
  unfold ocppConfigTopic IniFile.get
  rw [h _ _ hid]

theorem Session.status_answered (s : Session) (call : String × String) (r : ConfigurationStatus × IniFile) :
    (s.answered call r).calls.map Answered.status = r.1 :: s.calls.map Answered.status := rfl

theorem status_foldl {s s' : Session} (hs : s.calls.map Answered.status = s'.calls.map Answered.status)
    {calls calls' : List (String × String)} (h : SameCalls calls calls') :
    (calls.foldl Session.setConfiguration s).calls.map Answered.status =
      (calls'.foldl Session.setConfiguration s').calls.map Answered.status := by
  induction h generalizing s s' with
  | nil => exact hs
  | @cons call call' _ _ hc _ ih =>
    apply ih
    rw [Session.setConfiguration, Session.setConfiguration, Session.status_answered, Session.status_answered,
      status_congr s.config s'.config call.1 call.2 call'.2, hs, hc.1]

/-- **Keys that can only be written do not leak**: neither an answer nor the message tells two runs apart that differ in
their values, in the file and in the calls. -/
theorem secrets_kept (assign : Nat → String → String) (h : SameButSecrets config config')
    {calls calls' : List (String × String)} (hc : SameCalls calls calls') :
    (∀ keys values unknownValues, getConfiguration assign (run config calls).config keys values unknownValues =
        getConfiguration assign (run config' calls').config keys values unknownValues) ∧
      (∀ isConnected, publishOcppConfig assign isConnected (ocppConfigTopic config) (run config calls).config =
        publishOcppConfig assign isConnected (ocppConfigTopic config') (run config' calls').config) ∧
      (run config calls).calls.map Answered.status = (run config' calls').calls.map Answered.status := by
  have hread : rights.read (run config calls).config.values = rights.read (run config' calls').config.values := by
    rw [values_run, values_run]
    exact Rights.read_run_congr h.alike hc.alike
  refine ⟨fun keys values unknownValues => ?_, fun isConnected => ?_, ?_⟩
  · rw [getConfiguration_congr assign hread]
  · rw [h.topic]
    exact publishOcppConfig_congr assign isConnected _ hread
  · have hnil : (⟨config, []⟩ : Session).calls.map Answered.status = (⟨config', []⟩ : Session).calls.map Answered.status :=
      rfl
    exact status_foldl hnil hc

/-- A file with nothing but that key. -/
def withKey (secret : String) : IniFile :=
  ⟨fun cell => if cell = (ocppParams, "AuthorizationKey") then some secret else none⟩

theorem secrets_kept_sample :
    (∀ keys values unknownValues,
        getConfiguration refuse (run (withKey "a") [("AuthorizationKey", "b"), ("CpoName", "c")]).config keys values
            unknownValues =
          getConfiguration refuse (run (withKey "d") [("AuthorizationKey", "e"), ("CpoName", "c")]).config keys values
            unknownValues) ∧
      (∀ isConnected,
        publishOcppConfig refuse isConnected (ocppConfigTopic (withKey "a"))
            (run (withKey "a") [("AuthorizationKey", "b"), ("CpoName", "c")]).config =
          publishOcppConfig refuse isConnected (ocppConfigTopic (withKey "d"))
            (run (withKey "d") [("AuthorizationKey", "e"), ("CpoName", "c")]).config) ∧
      (run (withKey "a") [("AuthorizationKey", "b"), ("CpoName", "c")]).calls.map Answered.status =
        (run (withKey "d") [("AuthorizationKey", "e"), ("CpoName", "c")]).calls.map Answered.status := by
  have hfiles : SameButSecrets (withKey "a") (withKey "d") := fun params key hs => by
    have hne : (params, key) ≠ (ocppParams, "AuthorizationKey") := fun he => hs (secret_iff.2 (congrArg Prod.snd he))
    exact (if_neg hne).trans (if_neg hne).symm
  have hkey : rights.Secret "AuthorizationKey" := secret_iff.2 rfl
  exact secrets_kept refuse hfiles (.cons ⟨rfl, fun h => absurd hkey h⟩ (.cons ⟨rfl, fun _ => rfl⟩ .nil))

end OcppConfig
