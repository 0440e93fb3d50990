import OcppSimu.Guarded
/-!
# Configuration — `OcppConfig`

The keys of the OCPP configuration are in a table, with the bits of their attributes: which of them can be read, which
can be written, and which of the two sections of the file has them.  `setConfiguration` and the two paths of
`getConfiguration` look a key up there, each for itself; together they are a store with rights on its keys
(`values_setConfiguration`, `getConfiguration_of_ne_nil`).  A value of any length can be set, but is handed out in a text
of 500 characters, so the store is the one its users are promised as long as every value that can be read fits there
(`configuration_controlled_iff`).
-/
namespace OcppConfig

open Guarded

/-! ## The table -/

def paramRead : Nat := 1
def paramWrite : Nat := 2
def paramReadWrite : Nat := 3
def paramReboot : Nat := 4
def paramOcpp : Nat := 8

/-- The initializer of `CONFIGURATION_VALUES`, in which one key stands twice. -/
def parameters : List (String × Nat) := [
  ("AllowOfflineTxForUnknownId", paramReadWrite ||| paramOcpp),
  ("AuthorizationCacheEnabled", paramReadWrite ||| paramOcpp),
  ("AuthorizeRemoteTxRequests", paramReadWrite ||| paramOcpp),
  ("BlinkRepeat", paramReadWrite ||| paramOcpp),
  ("ClockAlignedDataInterval", paramReadWrite ||| paramOcpp),
  ("ConnectionTimeOut", paramReadWrite ||| paramOcpp),
  ("ConnectorPhaseRotation", paramReadWrite ||| paramOcpp),
  ("ConnectorPhaseRotationMaxLength", paramRead ||| paramOcpp),
  ("GetConfigurationMaxKeys", paramRead ||| paramOcpp),
  ("HeartbeatInterval", paramReadWrite ||| paramOcpp),
  ("LightIntensity", paramReadWrite ||| paramOcpp),
  ("LocalAuthorizeOffline", paramReadWrite ||| paramOcpp),
  ("LocalPreAuthorize", paramReadWrite ||| paramOcpp),
  ("MaxEnergyOnInvalidId", paramReadWrite ||| paramOcpp),
  ("MeterValuesAlignedData", paramReadWrite ||| paramOcpp),
  ("MeterValuesAlignedDataMaxLength", paramRead ||| paramOcpp),
  ("MeterValuesSampledData", paramReadWrite ||| paramOcpp),
  ("MeterValuesSampledDataMaxLength", paramRead ||| paramOcpp),
  ("MeterValueSampleInterval", paramReadWrite ||| paramOcpp),
  ("MinimumStatusDuration", paramReadWrite ||| paramOcpp),
  ("NumberOfConnectors", paramRead ||| paramOcpp),
  ("ResetRetries", paramReadWrite ||| paramOcpp),
  ("StopTransactionOnEVSideDisconnect", paramReadWrite ||| paramOcpp),
  ("StopTransactionOnInvalidId", paramReadWrite ||| paramOcpp),
  ("StopTxnAlignedData", paramReadWrite ||| paramOcpp),
  ("StopTxnAlignedDataMaxLength", paramRead ||| paramOcpp),
  ("StopTxnSampledData", paramReadWrite ||| paramOcpp),
  ("StopTxnSampledDataMaxLength", paramRead ||| paramOcpp),
  ("SupportedFeatureProfiles", paramRead ||| paramOcpp),
  ("SupportedFeatureProfilesMaxLength", paramRead ||| paramOcpp),
  ("TransactionMessageAttempts", paramReadWrite ||| paramOcpp),
  ("TransactionMessageRetryInterval", paramReadWrite ||| paramOcpp),
  ("UnlockConnectorOnEVSideDisconnect", paramReadWrite ||| paramOcpp),
  ("WebSocketPingInterval", paramReadWrite ||| paramReboot ||| paramOcpp),
  ("LocalAuthListEnabled", paramReadWrite ||| paramOcpp),
  ("LocalAuthListMaxLength", paramRead ||| paramOcpp),
  ("SendLocalListMaxLength", paramRead ||| paramOcpp),
  ("ReserveConnectorZeroSupported", paramRead ||| paramOcpp),
  ("ChargeProfileMaxStackLevel", paramRead ||| paramOcpp),
  ("ChargingScheduleAllowedChargingRateUnit", paramRead ||| paramOcpp),
  ("ChargingScheduleMaxPeriods", paramRead ||| paramOcpp),
  ("ConnectorSwitch3to1PhaseSupported", paramRead ||| paramOcpp),
  ("MaxChargingProfilesInstalled", paramRead ||| paramOcpp),
  ("MaxChargingProfilesInstalled", paramRead ||| paramOcpp),
  ("AdditionalRootCertificateCheck", paramRead ||| paramOcpp),
  ("AuthorizationKey", paramWrite ||| paramOcpp),
  ("CertificateSignedMaxChainSize", paramRead ||| paramOcpp),
  ("CertificateStoreMaxLength", paramRead ||| paramOcpp),
  ("CpoName", paramRead ||| paramWrite ||| paramOcpp),
  ("SecurityProfile", paramReadWrite ||| paramOcpp),
  ("SupportedFileTransferProtocols", paramRead ||| paramOcpp),
  ("ConnexionUrl", paramReadWrite ||| paramReboot),
  ("ChargePointIdentifier", paramReadWrite ||| paramReboot),
  ("FirmwareVersion", paramRead)]

/-- `CONFIGURATION_VALUES`: a map keeps the first of two entries with one key, and is read in the order of the keys. -/
@[irreducible] def configurationValues : Std.TreeMap String Nat :=
  parameters.foldl (fun values param => values.insertIfNew param.1 param.2) ∅

/-! ## The file -/

def ocppParams : String := "Ocpp"
def stackParams : String := "ChargePoint"

/-- The values of the file, each in a section and under a key. -/
structure IniFile where
  content : String × String → Option String

def IniFile.get (config : IniFile) (params key : String) : String := (config.content (params, key)).getD ""

def IniFile.set (config : IniFile) (params key value : String) : IniFile :=
  ⟨Function.update config.content (params, key) (some value)⟩

/-! ## The methods -/

/-- The entry of a key, of which the value is unset unless it can be read. -/
structure KeyValue where
  key : String
  readonly : Bool
  value : Option String
  deriving DecidableEq

inductive ConfigurationStatus
  | accepted | rejected | rebootRequired | notSupported
  deriving DecidableEq

section

-- what a `CiStringType` of that many characters has after a text is assigned to it
variable (assign : Nat → String → String)

/-- **`getConfiguration`**, with what it adds to the two lists. -/
def getConfiguration (config : IniFile) (keys : List String) (values : List KeyValue) (unknownValues : List String) :
    List KeyValue × List String :=
  if keys = [] then
    -- "Return all available parameters"
    configurationValues.toList.foldl (fun acc param =>
      let keyValue : KeyValue :=
        { key := assign 50 param.1
          readonly := decide (param.2 &&& paramWrite = 0)
          value := none }
      let keyValue : KeyValue :=
        if param.2 &&& paramRead ≠ 0 then
          let value :=
            if param.2 &&& paramOcpp ≠ 0 then config.get ocppParams param.1
            else config.get stackParams param.1
          { keyValue with value := some (assign 500 value) }
        else keyValue
      (acc.1 ++ [keyValue], acc.2)) (values, unknownValues)
  else
    -- "Look for each requested parameter"
    keys.foldl (fun acc key =>
      match configurationValues[key]? with
      | some attributes =>
        let keyValue : KeyValue :=
          { key := assign 50 key
            readonly := decide (attributes &&& paramWrite = 0)
            value := none }
        let keyValue : KeyValue :=
          if attributes &&& paramRead ≠ 0 then
            let value :=
              if attributes &&& paramOcpp ≠ 0 then config.get ocppParams key
              else config.get stackParams key
            { keyValue with value := some (assign 500 value) }
          else keyValue
        (acc.1 ++ [keyValue], acc.2)
      | none => (acc.1, acc.2 ++ [key])) (values, unknownValues)

end

def setConfiguration (config : IniFile) (key value : String) : ConfigurationStatus × IniFile :=
  match configurationValues[key]? with
  | some attributes =>
    if attributes &&& paramWrite ≠ 0 then
      let config :=
        if attributes &&& paramOcpp ≠ 0 then config.set ocppParams key value
        else config.set stackParams key value
      if attributes &&& paramReboot ≠ 0 then (.rebootRequired, config) else (.accepted, config)
    else (.rejected, config)
  | none => (.notSupported, config)

/-! ## A store with rights on its keys -/

def known (key : String) : Bool := configurationValues.contains key

def hasAttribute (param : Nat) (key : String) : Bool :=
  configurationValues[key]?.any (fun attributes => decide (attributes &&& param ≠ 0))

def rights : Rights String where
  readable := hasAttribute paramRead
  writable := hasAttribute paramWrite

/-- The section of a key. -/
def paramsOf (key : String) : String := if hasAttribute paramOcpp key then ocppParams else stackParams

/-- What the file has for each key. -/
def IniFile.values (config : IniFile) (key : String) : String := config.get (paramsOf key) key

/-- The entry a key should have. -/
def entry (assign : Nat → String → String) (config : IniFile) (key : String) : KeyValue where
  key := assign 50 key
  readonly := !rights.writable key
  value := (rights.read config.values key).map (assign 500)

variable {assign : Nat → String → String} {config : IniFile} {key : String}

/-- A map keeps what it has, and of the entries put into it the first of each key. -/
theorem getElem?_foldl_insertIfNew (l : List (String × Nat)) (values : Std.TreeMap String Nat) (key : String) :
    (l.foldl (fun values param => values.insertIfNew param.1 param.2) values)[key]? = values[key]?.or (l.lookup key) := by
  induction l generalizing values with
  | nil => exact (Option.or_none).symm
  | cons param l ih =>
    rw [List.foldl_cons, ih, Std.TreeMap.getElem?_insertIfNew]
    simp only [Std.LawfulEqCmp.compare_eq_iff_eq]
    by_cases hk : param.1 = key
    · subst hk
      have hl : (param :: l).lookup param.1 = some param.2 := List.lookup_cons_self
      rw [hl]
      by_cases hm : param.1 ∈ values
      · obtain ⟨attributes, h⟩ := Option.isSome_iff_exists.1 (Std.TreeMap.mem_iff_isSome_getElem?.1 hm)
        rw [if_neg (fun hn => hn.2 hm), h]
        rfl
      · rw [if_pos ⟨rfl, hm⟩, Std.TreeMap.getElem?_eq_none hm]
        rfl
    · have hl : (param :: l).lookup key = l.lookup key := by
        have hne : (key == param.1) = false := beq_false_of_ne (Ne.symm hk)
        rw [List.lookup_cons, hne]
      rw [hl, if_neg (fun hn => hk hn.1)]

/-- **The table has the first entry of each key.** -/
theorem getElem?_configurationValues (key : String) : configurationValues[key]? = parameters.lookup key := by
  unfold configurationValues
  rw [getElem?_foldl_insertIfNew]
  simp

theorem hasAttribute_of_some {attributes : Nat} (h : configurationValues[key]? = some attributes) (param : Nat) :
    hasAttribute param key = decide (attributes &&& param ≠ 0) := by
  unfold hasAttribute
  rw [h]
  rfl

theorem hasAttribute_of_none (h : configurationValues[key]? = none) (param : Nat) : hasAttribute param key = false := by
  unfold hasAttribute
  rw [h]
  rfl

theorem writable_of_some {attributes : Nat} (h : configurationValues[key]? = some attributes) :
    rights.writable key = decide (attributes &&& paramWrite ≠ 0) := hasAttribute_of_some h paramWrite

theorem readable_of_some {attributes : Nat} (h : configurationValues[key]? = some attributes) :
    rights.readable key = decide (attributes &&& paramRead ≠ 0) := hasAttribute_of_some h paramRead

theorem writable_of_none (h : configurationValues[key]? = none) : rights.writable key = false :=
  hasAttribute_of_none h paramWrite

theorem paramsOf_of_some {attributes : Nat} (h : configurationValues[key]? = some attributes) :
    paramsOf key = if attributes &&& paramOcpp ≠ 0 then ocppParams else stackParams := by
  unfold paramsOf
  rw [hasAttribute_of_some h]
  simp only [decide_eq_true_eq]

/-! ### Writing -/

/-- **A writable key is set, and no other.** -/
theorem setConfiguration_snd (config : IniFile) (key value : String) :
    (setConfiguration config key value).2 =
      if rights.writable key then config.set (paramsOf key) key value else config := by
  -- by its equation: to unfold it makes the kernel evaluate the table
  rw [setConfiguration]
  cases h : configurationValues[key]? with
  | none =>
    rw [writable_of_none h]
    rfl
  | some attributes =>
    rw [writable_of_some h, paramsOf_of_some h]
    dsimp only
    by_cases hw : attributes &&& paramWrite ≠ 0
    · have hset := apply_ite (fun params => config.set params key value) (attributes &&& paramOcpp ≠ 0) ocppParams
        stackParams
      rw [if_pos hw, if_pos (decide_eq_true hw), hset]
      by_cases hr : attributes &&& paramReboot ≠ 0
      · rw [if_pos hr]
      · rw [if_neg hr]
    · rw [if_neg hw, if_neg (fun hd => hw (of_decide_eq_true hd))]

/-- The answers of a call that is granted. -/
def ConfigurationStatus.Granted (status : ConfigurationStatus) : Prop := status = .accepted ∨ status = .rebootRequired

instance (status : ConfigurationStatus) : Decidable status.Granted :=
  inferInstanceAs (Decidable (status = .accepted ∨ status = .rebootRequired))

/-- **The answer says whether the key was set.** -/
theorem granted_setConfiguration (config : IniFile) (key value : String) :
    (setConfiguration config key value).1.Granted ↔ rights.writable key = true := by
  unfold ConfigurationStatus.Granted
  rw [setConfiguration]
  cases h : configurationValues[key]? with
  | none =>
    rw [writable_of_none h]
    simp
  | some attributes =>
    rw [writable_of_some h, decide_eq_true_iff]
    dsimp only
    by_cases hw : attributes &&& paramWrite ≠ 0
    · rw [if_pos hw]
      refine iff_of_true ?_ hw
      split
      · exact .inr rfl
      · exact .inl rfl
    · rw [if_neg hw]
      exact iff_of_false (by simp) hw

theorem values_set (config : IniFile) (key value : String) :
    (config.set (paramsOf key) key value).values = Function.update config.values key value := by
  funext k
  unfold IniFile.values IniFile.get IniFile.set
  dsimp only
  by_cases hk : k = key
  · subst hk
    rw [Function.update_self, Function.update_self]
    rfl
  · have hne : (paramsOf k, k) ≠ (paramsOf key, key) := fun h => hk (congrArg Prod.snd h)
    rw [Function.update_of_ne hk, Function.update_of_ne hne]

/-- **`setConfiguration` sets a key of the store.** -/
theorem values_setConfiguration (config : IniFile) (call : String × String) :
    (setConfiguration config call.1 call.2).2.values = rights.set config.values call := by
  rw [setConfiguration_snd]
  unfold Rights.set
  split
  · exact values_set config call.1 call.2
  · rfl

/-! ### Reading -/

theorem entry_eq {attributes : Nat} (h : configurationValues[key]? = some attributes) : entry assign config key =
    if attributes &&& paramRead ≠ 0 then
      { key := assign 50 key
        readonly := decide (attributes &&& paramWrite = 0)
        value := some (assign 500 (if attributes &&& paramOcpp ≠ 0 then config.get ocppParams key
          else config.get stackParams key)) }
    else
      { key := assign 50 key
        readonly := decide (attributes &&& paramWrite = 0)
        value := none } := by
  have hw : (!rights.writable key) = decide (attributes &&& paramWrite = 0) := by
    rw [writable_of_some h]
    simp
  unfold entry Rights.read IniFile.values
  rw [hw, readable_of_some h, paramsOf_of_some h]
  by_cases hread : attributes &&& paramRead ≠ 0
  · rw [if_pos hread, if_pos (decide_eq_true hread)]
    split <;> rfl
  · rw [if_neg hread, if_neg (fun hd => hread (of_decide_eq_true hd))]
    rfl

theorem known_of_some {attributes : Nat} (h : configurationValues[key]? = some attributes) : known key = true := by
  unfold known
  rw [← Std.TreeMap.isSome_getElem?_eq_contains, h]
  rfl

theorem known_of_none (h : configurationValues[key]? = none) : known key = false := by
  unfold known
  rw [← Std.TreeMap.isSome_getElem?_eq_contains, h]
  rfl

/-- **Each requested key** gives an entry where it is known, and is unknown else. -/
theorem getConfiguration_of_ne_nil (assign : Nat → String → String) (config : IniFile) {keys : List String}
    (hne : keys ≠ []) (values : List KeyValue) (unknownValues : List String) :
    getConfiguration assign config keys values unknownValues =
      (values ++ (keys.filter known).map (entry assign config), unknownValues ++ keys.filter (!known ·)) := by
  unfold getConfiguration
  rw [if_neg hne]
  clear hne
  induction keys generalizing values unknownValues with
  | nil => simp
  | cons key keys ih =>
    rw [List.foldl_cons]
    cases h : configurationValues[key]? with
    | none =>
      have hk := known_of_none h
      rw [List.filter_cons_of_neg (by simp [hk]), List.filter_cons_of_pos (by simp [hk]),
        List.append_cons unknownValues key (keys.filter (!known ·))]
      exact ih values (unknownValues ++ [key])
    | some attributes =>
      have hk := known_of_some h
      rw [List.filter_cons_of_pos hk, List.filter_cons_of_neg (by simp [hk]), List.map_cons,
        List.append_cons values (entry assign config key)]
      refine Eq.trans ?_ (ih (values ++ [entry assign config key]) unknownValues)
      rw [entry_eq h]

/-- **Every known key**, in the order of the table. -/
theorem getConfiguration_nil (assign : Nat → String → String) (config : IniFile) (values : List KeyValue)
    (unknownValues : List String) : getConfiguration assign config [] values unknownValues =
      (values ++ configurationValues.keys.map (entry assign config), unknownValues) := by
  unfold getConfiguration
  rw [if_pos rfl, ← Std.TreeMap.map_fst_toList_eq_keys]
  have hmem : ∀ param ∈ configurationValues.toList, configurationValues[param.1]? = some param.2 := fun param hm =>
    Std.TreeMap.mem_toList_iff_getElem?_eq_some.1 hm
  generalize configurationValues.toList = params at hmem
  induction params generalizing values with
  | nil => simp
  | cons param params ih =>
    have h := hmem param List.mem_cons_self
    rw [List.foldl_cons, List.map_cons, List.map_cons, List.append_cons values (entry assign config param.1)]
    have hmem' : ∀ param ∈ params, configurationValues[param.1]? = some param.2 := fun param hm =>
      hmem param (List.mem_cons_of_mem _ hm)
    refine Eq.trans ?_ (ih (values ++ [entry assign config param.1]) hmem')
    rw [entry_eq h]

/-! ## Runs -/

/-- A call of `setConfiguration`, with its answer. -/
structure Answered where
  key : String
  value : String
  status : ConfigurationStatus

/-- The file, and the calls so far, the newest first. -/
structure Session where
  config : IniFile
  calls : List Answered

def Session.answered (s : Session) (call : String × String) (r : ConfigurationStatus × IniFile) : Session :=
  ⟨r.2, ⟨call.1, call.2, r.1⟩ :: s.calls⟩

def Session.setConfiguration (s : Session) (call : String × String) : Session :=
  s.answered call (OcppConfig.setConfiguration s.config call.1 call.2)

def run (config : IniFile) (calls : List (String × String)) : Session :=
  calls.foldl Session.setConfiguration ⟨config, []⟩

/-- The value, where it is a set of the key that was answered `Accepted` or `RebootRequired`. -/
def Answered.granted (key : String) (call : Answered) : Option String :=
  if call.key = key ∧ call.status.Granted then some call.value else none

def Session.lastSet (s : Session) (key : String) : Option String := Hist.last (Answered.granted key) s.calls

/-- **What the store should have for a key**: the value of its last set, or the one of the file at first. -/
def Session.expected (s : Session) (config : IniFile) (key : String) : String := (s.lastSet key).getD (config.values key)

theorem Session.config_answered (s : Session) (call : String × String) (r : ConfigurationStatus × IniFile) :
    (s.answered call r).config = r.2 := rfl

theorem Session.lastSet_answered (s : Session) (call : String × String) (r : ConfigurationStatus × IniFile) (key : String) :
    (s.answered call r).lastSet key = (Answered.granted key ⟨call.1, call.2, r.1⟩).or (s.lastSet key) := rfl

theorem run_concat (config : IniFile) (calls : List (String × String)) (call : String × String) :
    run config (calls ++ [call]) = (run config calls).setConfiguration call := by
  unfold run
  rw [List.foldl_append]
  rfl

/-- **A run of the methods is one of the store.** -/
theorem values_run (config : IniFile) (calls : List (String × String)) :
    (run config calls).config.values = rights.run config.values calls := by
  induction calls using List.reverseRecOn with
  | nil => rfl
  | append_singleton calls call ih =>
    unfold Rights.run at ih ⊢
    rw [run_concat, Session.setConfiguration, Session.config_answered, values_setConfiguration, ih, List.foldl_append,
      List.foldl_cons, List.foldl_nil]

theorem granted_answered {call : String × String} {status : ConfigurationStatus}
    (h : status.Granted ↔ rights.writable call.1 = true) (key : String) :
    Answered.granted key ⟨call.1, call.2, status⟩ = rights.granted key call := by
  by_cases hk : call.1 = key
  · subst hk
    rw [Answered.granted, Rights.granted]
    exact if_congr (and_congr_right fun _ => h) rfl rfl
  · have h₁ : ¬(call.1 = key ∧ status.Granted) := fun hg => hk hg.1
    have h₂ : ¬(call.1 = key ∧ rights.writable key = true) := fun hg => hk hg.1
    exact (if_neg h₁).trans (if_neg h₂).symm

theorem lastSet_run (config : IniFile) (calls : List (String × String)) (key : String) :
    (run config calls).lastSet key = Hist.last (rights.granted key) calls.reverse := by
  induction calls using List.reverseRecOn with
  | nil => rfl
  | append_singleton calls call ih =>
    rw [run_concat, Session.setConfiguration, Session.lastSet_answered,
      granted_answered (granted_setConfiguration _ _ _), ih, List.reverse_append]
    rfl

/-- **The file has what the store should have.** -/
theorem values_run_eq (config : IniFile) (calls : List (String × String)) (key : String) :
    (run config calls).config.values key = (run config calls).expected config key := by
  rw [values_run, Rights.run_apply]
  unfold Session.expected
  rw [lastSet_run]

/-- **Nothing else in the file is changed.** -/
theorem content_run (config : IniFile) (calls : List (String × String)) {params : String}
    (h : params ≠ paramsOf key ∨ rights.writable key = false) :
    (run config calls).config.content (params, key) = config.content (params, key) := by
  induction calls using List.reverseRecOn with
  | nil => rfl
  | append_singleton calls call ih =>
    rw [run_concat, ← ih, Session.setConfiguration, Session.config_answered, setConfiguration_snd]
    split
    · rename_i hw
      refine Function.update_of_ne (fun he => ?_) _ _
      obtain ⟨hp, rfl⟩ := Prod.mk.inj he
      rcases h with h | h
      · exact h hp
      · rw [h] at hw
        cases hw
    · rfl

/-! ## The promise -/

/-- **A `CiStringType`** has no more characters than it may, and keeps a text that fits. -/
structure CiString (assign : Nat → String → String) : Prop where
  size_le : ∀ max text, (assign max text).utf8ByteSize ≤ max
  keeps : ∀ max text, text.utf8ByteSize ≤ max → assign max text = text

theorem CiString.eq_iff (h : CiString assign) {max : Nat} {text : String} :
    assign max text = text ↔ text.utf8ByteSize ≤ max :=
  ⟨fun he => he ▸ h.size_le max text, h.keeps max text⟩

/-- **The entry of a key**: its name and its rights, and its value where it can be read. -/
structure Answers (config : IniFile) (s : Session) (k : String) (e : KeyValue) : Prop where
  key : e.key = k
  readonly : e.readonly = !rights.writable k
  value : rights.readable k = true → e.value = some (s.expected config k)
  unset : rights.readable k = false → e.value = none

/-- **An access-controlled store**, of which the file was `config` at first. -/
structure Controlled (assign : Nat → String → String) (config : IniFile) (s : Session) : Prop where
  split : ∀ keys, keys ≠ [] → ∀ values unknownValues, ∃ entries,
    getConfiguration assign s.config keys values unknownValues =
        (values ++ entries, unknownValues ++ keys.filter (!known ·)) ∧
      List.Forall₂ (Answers config s) (keys.filter known) entries
  all : getConfiguration assign s.config [] = getConfiguration assign s.config configurationValues.keys
  anyOrder : ∀ keys, keys.Perm configurationValues.keys →
    (getConfiguration assign s.config keys [] []).1.Perm (getConfiguration assign s.config [] [] []).1
  kept : ∀ params key, params ≠ paramsOf key ∨ rights.writable key = false →
    s.config.content (params, key) = config.content (params, key)

theorem mem_keys_iff : key ∈ configurationValues.keys ↔ known key = true := by
  rw [Std.TreeMap.mem_keys, known, Std.TreeMap.contains_iff_mem]

theorem known_iff : known key = true ↔ ∃ param ∈ parameters, key = param.1 := by
  unfold known
  rw [← Std.TreeMap.isSome_getElem?_eq_contains, getElem?_configurationValues, List.lookup_isSome_iff]
  simp only [beq_iff_eq]

theorem size_le_of_known (h : known key = true) : key.utf8ByteSize ≤ 50 := by
  obtain ⟨param, hm, rfl⟩ := known_iff.1 h
  have hall : ∀ param ∈ parameters, param.1.utf8ByteSize ≤ 50 := by decide +kernel
  exact hall param hm

theorem keys_ne_nil : configurationValues.keys ≠ [] :=
  List.ne_nil_of_mem (mem_keys_iff.2 (known_iff.2 ⟨_, List.mem_cons_self, rfl⟩))

theorem known_of_readable (h : rights.readable key = true) : known key = true := by
  cases hk : configurationValues[key]? with
  | none =>
    rw [show rights.readable key = false from hasAttribute_of_none hk paramRead] at h
    cases h
  | some attributes => exact known_of_some hk

theorem value_entry (config : IniFile) (calls : List (String × String)) (hr : rights.readable key = true) :
    (entry assign (run config calls).config key).value = some (assign 500 ((run config calls).expected config key)) := by
  unfold entry Rights.read
  rw [if_pos hr, values_run_eq]
  rfl

/-- **The entry of a key is as it should be** after a run exactly where its value fits, if it can be read. -/
theorem answers_entry_iff (h : CiString assign) (config : IniFile) (calls : List (String × String))
    (hk : known key = true) : Answers config (run config calls) key (entry assign (run config calls).config key) ↔
      (rights.readable key = true → ((run config calls).expected config key).utf8ByteSize ≤ 500) := by
  constructor
  · intro ha hr
    have hv := ha.value hr
    rw [value_entry config calls hr] at hv
    exact h.eq_iff.1 (Option.some.inj hv)
  · intro hs
    refine ⟨h.keeps 50 key (size_le_of_known hk), rfl, fun hr => ?_, fun hr => ?_⟩
    · rw [value_entry config calls hr, h.eq_iff.2 (hs hr)]
    · unfold entry Rights.read
      rw [hr]
      rfl

theorem getConfiguration_keys (assign : Nat → String → String) (config : IniFile) :
    getConfiguration assign config [] = getConfiguration assign config configurationValues.keys := by
  have hall : ∀ key ∈ configurationValues.keys, known key = true := fun key hm => mem_keys_iff.1 hm
  have hnone : configurationValues.keys.filter (!known ·) = [] :=
    List.filter_eq_nil_iff.2 fun key hm => by simp [hall key hm]
  funext values unknownValues
  rw [getConfiguration_nil, getConfiguration_of_ne_nil assign config keys_ne_nil, List.filter_eq_self.2 hall, hnone,
    List.append_nil]

/-- Every value that can be read fits in what it is handed out in. -/
def Fits (config : IniFile) (s : Session) : Prop :=
  ∀ key, rights.readable key = true → (s.expected config key).utf8ByteSize ≤ 500

/-- **What an access-controlled store hands out fits.** -/
theorem Controlled.fits (h : CiString assign) {calls : List (String × String)}
    (hc : Controlled assign config (run config calls)) : Fits config (run config calls) := by
  intro key hr
  have hk := known_of_readable hr
  obtain ⟨entries, he, ha⟩ := hc.split [key] (List.cons_ne_nil _ _) [] []
  rw [getConfiguration_of_ne_nil assign _ (List.cons_ne_nil _ _), List.filter_cons_of_pos hk, List.filter_nil,
    List.map_cons, List.map_nil] at he
  have hentries : entries = [entry assign (run config calls).config key] := (Prod.mk.inj he).1.symm
  rw [List.filter_cons_of_pos hk, List.filter_nil, hentries, List.forall₂_cons] at ha
  exact (answers_entry_iff h config calls hk).1 ha.1 hr

/-- **The configuration is an access-controlled store** exactly where every value that can be read fits in 500
characters, whatever the file and the calls. -/
theorem configuration_controlled_iff (h : CiString assign) (config : IniFile) (calls : List (String × String)) :
    Controlled assign config (run config calls) ↔ Fits config (run config calls) := by
  refine ⟨Controlled.fits h, fun hs => ⟨fun keys hne values unknownValues => ?_, getConfiguration_keys assign _,
    fun keys hp => ?_, fun params key hk => content_run config calls hk⟩⟩
  · refine ⟨_, getConfiguration_of_ne_nil assign _ hne values unknownValues, ?_⟩
    rw [List.forall₂_map_right_iff, List.forall₂_same]
    exact fun key hm => (answers_entry_iff h config calls (List.mem_filter.1 hm).2).2 (hs key)
  · have hne : keys ≠ [] := fun hnil => keys_ne_nil (List.nil_perm.1 (hnil ▸ hp))
    rw [getConfiguration_keys, getConfiguration_of_ne_nil assign _ hne,
      getConfiguration_of_ne_nil assign _ keys_ne_nil]
    exact ((hp.filter known).map _).append_left []

/-- A `CiStringType` that does not take what does not fit. -/
def refuse (max : Nat) (text : String) : String := if text.utf8ByteSize ≤ max then text else ""

theorem refuse_ciString : CiString refuse := by
  refine ⟨fun max text => ?_, fun max text h => if_pos h⟩
  unfold refuse
  split
  · assumption
  · exact Nat.zero_le max

/-- A file with one key. -/
def sampleFile : IniFile := ⟨fun cell => if cell = (ocppParams, "NumberOfConnectors") then some "2" else none⟩

/-- A call for each kind of answer. -/
theorem configuration_controlled_sample :
    let calls := [("HeartbeatInterval", "300"), ("ConnexionUrl", "wss://"), ("NumberOfConnectors", "3"), ("Foo", "1")]
    Controlled refuse sampleFile (run sampleFile calls) ↔ Fits sampleFile (run sampleFile calls) :=
  configuration_controlled_iff refuse_ciString sampleFile _

def longUrl : String := String.ofList (List.replicate 501 'u')

/-- **An URL of 501 characters is accepted**, and cannot be read back. -/
theorem long_url_not_read_back :
    (setConfiguration sampleFile "ConnexionUrl" longUrl).1 = .rebootRequired ∧
      (setConfiguration sampleFile "ConnexionUrl" longUrl).2.get stackParams "ConnexionUrl" = longUrl ∧
      (getConfiguration refuse (setConfiguration sampleFile "ConnexionUrl" longUrl).2 ["ConnexionUrl"] [] []).1 =
        [⟨"ConnexionUrl", false, some ""⟩] ∧
      ¬Controlled refuse sampleFile (run sampleFile [("ConnexionUrl", longUrl)]) := by
  have hk : configurationValues["ConnexionUrl"]? = some (paramReadWrite ||| paramReboot) := by
    rw [getElem?_configurationValues]
    decide +kernel
  have hr : rights.readable "ConnexionUrl" = true := by
    rw [readable_of_some hk]
    decide
  have hw : rights.writable "ConnexionUrl" = true := by
    rw [writable_of_some hk]
    decide
  have hs : ¬longUrl.utf8ByteSize ≤ 500 := by decide +kernel
  have hset : (setConfiguration sampleFile "ConnexionUrl" longUrl).2 = sampleFile.set stackParams "ConnexionUrl" longUrl := by
    rw [setConfiguration_snd, if_pos hw, paramsOf_of_some hk]
    rfl
  have hget : (sampleFile.set stackParams "ConnexionUrl" longUrl).get stackParams "ConnexionUrl" = longUrl := by
    unfold IniFile.set IniFile.get
    dsimp only
    rw [Function.update_self]
    rfl
  refine ⟨?_, by rw [hset, hget], ?_, fun hc => hs ?_⟩
  · rw [setConfiguration, hk]
    rfl
  · have hu : refuse 500 longUrl = "" := if_neg hs
    rw [hset, getConfiguration_of_ne_nil _ _ (List.cons_ne_nil _ _), List.filter_cons_of_pos (known_of_some hk), List.filter_nil,
      List.map_cons, List.map_nil, List.nil_append, entry_eq hk, hget, if_pos (by decide), if_neg (by decide), hu]
    decide
  · have hf := hc.fits refuse_ciString "ConnexionUrl" hr
    rwa [← values_run_eq, values_run, Rights.run, List.foldl_cons, List.foldl_nil, Rights.set, if_pos hw,
      Function.update_self] at hf

end OcppConfig
