import OcppSimu.Configuration
import OcppSimu.Independence
import OcppSimu.Wire
/-!
# Startup — the configuration a charge point starts with

`main` writes its options into the configuration file before the charge point starts, over whatever the central system
has set there.  A setting so survives the starts that follow exactly where they write nothing for its key, or the last of
them the same (`setting_survives_iff`), and the phase rotations that are written are read back as one for each connector
(`rotations_read_back`).
-/
namespace Startup

open OcppConfig
open Hist (last)
open Launcher (Options)
open Simu (ConnectorType)

/-! ## What `main` writes -/

def mqttParams : String := "Mqtt"

section

-- `ConnectorTypeHelper.fromString`
variable (fromString : String → ConnectorType)

def rotation (o : Options) : String :=
  if fromString o.chargepointType = .dc ∨ o.nbPhases = 1 then "NotApplicable" else "RST"

/-- The text of `connector_phase_rotation`.  With `2 ^ 32 - 1` connectors the loop of the source does not end. -/
def connectorPhaseRotation (o : Options) : String :=
  (List.range' 1 o.nbConnectors).foldl (fun text i =>
    text ++ (toString i ++ "." ++ rotation fromString o) ++ if i ≠ o.nbConnectors then "," else "") ""

def meterValuesSampledData (o : Options) : String :=
  if fromString o.chargepointType = .ac then "Current.Import,Energy.Active.Import.Register,Current.Offered"
  else "Energy.Active.Import.Register,Power.Active.Import,Power.Factor,Voltage,Power.Offered"

def allowedChargingRateUnit (o : Options) : String := if fromString o.chargepointType = .ac then "Current" else "Power"

/-- "Update configuration file". -/
def configure (config : IniFile) (o : Options) : IniFile :=
  let config := config.set stackParams "DatabasePath" (String.ofList (Paths.join o.workingDir.toList "ocpp.db".toList))
  let config := config.set stackParams "ConnexionUrl" o.connectionUrl
  let config := config.set stackParams "ChargePointIdentifier" o.chargepointId
  let config := config.set stackParams "ChargePointSerialNumber" o.serialNumber
  let config := config.set ocppParams "NumberOfConnectors" (toString o.nbConnectors)
  -- in both branches the same two keys
  let config := config.set ocppParams "MeterValuesSampledData" (meterValuesSampledData fromString o)
  let config := config.set ocppParams "ChargingScheduleAllowedChargingRateUnit" (allowedChargingRateUnit fromString o)
  let config := config.set ocppParams "ConnectorPhaseRotationMaxLength" (toString o.nbConnectors)
  let config := config.set ocppParams "ConnectorPhaseRotation" (connectorPhaseRotation fromString o)
  let config := config.set mqttParams "BrokerUrl" o.mqttBrokerUrl
  let config := if o.vendorName ≠ "" then config.set stackParams "ChargePointVendor" o.vendorName else config
  if o.operatingVoltage ≠ 0 then config.set stackParams "OperatingVoltage" (toString o.operatingVoltage) else config

/-- What a start writes for a key of the OCPP configuration. -/
def pinned (o : Options) (key : String) : Option String :=
  if key = "ConnectorPhaseRotation" then some (connectorPhaseRotation fromString o)
  else if key = "ConnectorPhaseRotationMaxLength" then some (toString o.nbConnectors)
  else if key = "ChargingScheduleAllowedChargingRateUnit" then some (allowedChargingRateUnit fromString o)
  else if key = "MeterValuesSampledData" then some (meterValuesSampledData fromString o)
  else if key = "NumberOfConnectors" then some (toString o.nbConnectors)
  else if key = "ChargePointIdentifier" then some o.chargepointId
  else if key = "ConnexionUrl" then some o.connectionUrl
  else none

/-! ## What writes the file -/

/-- The program is started, the central system sets a key, or a certificate handler says which certificates to use. -/
inductive Event
  | start (o : Options)
  | setConfiguration (key value : String)
  | useServerCa (filename : String)
  | useClientCertificate (filename : String)

def step (config : IniFile) : Event → IniFile
  | .start o => configure fromString config o
  | .setConfiguration key value => (OcppConfig.setConfiguration config key value).2
  | .useServerCa filename => config.set stackParams "TlsServerCertificateCa" filename
  | .useClientCertificate filename =>
    (config.set stackParams "TlsClientCertificate" filename).set stackParams "TlsClientCertificatePrivateKey"
      (filename ++ ".key")

def run (config : IniFile) (events : List Event) : IniFile := events.foldl (step fromString) config

/-- What an event writes for a key. -/
def assigns (key : String) : Event → Option String
  | .start o => pinned fromString o key
  | .setConfiguration k value => rights.granted key (k, value)
  | .useServerCa _ | .useClientCertificate _ => none

end

/-- The options of a start. -/
def Event.options : Event → Option Options
  | .start o => some o
  | _ => none

variable {fromString : String → ConnectorType} {config : IniFile} {key : String}

/-! ## The values -/

theorem known_eq (key : String) : known key = (parameters.lookup key).isSome := by
  rw [← getElem?_configurationValues, known]
  exact Std.TreeMap.contains_eq_isSome_getElem?

theorem paramsOf_eq (key : String) : paramsOf key =
    if (parameters.lookup key).any (fun attributes => decide (attributes &&& paramOcpp ≠ 0)) then ocppParams else stackParams := by
  unfold paramsOf hasAttribute
  rw [getElem?_configurationValues]

theorem values_set_known {params k : String} (hp : paramsOf k = params) (value : String) :
    (config.set params k value).values key = if key = k then value else config.values key := by
  rw [← hp, values_set, Function.update_apply]

/-- A key that is not in the table. -/
theorem values_set_unknown {k : String} (hk : known key = true) (hn : known k = false) (params value : String) :
    (config.set params k value).values key = config.values key := by
  unfold IniFile.values IniFile.get IniFile.set
  dsimp only
  rw [Function.update_of_ne]
  intro he
  have hkey : key = k := congrArg Prod.snd he
  rw [hkey, hn] at hk
  cases hk

/-- **A start writes what is pinned**, and no other key of the OCPP configuration. -/
theorem values_configure (hk : known key = true) (o : Options) :
    (configure fromString config o).values key = (pinned fromString o key).getD (config.values key) := by
  have stack : ∀ {k}, (parameters.lookup k).any (fun attributes => decide (attributes &&& paramOcpp ≠ 0)) = false →
      paramsOf k = stackParams := fun {k} h => by rw [paramsOf_eq, h, if_neg Bool.false_ne_true]
  have ocpp : ∀ {k}, (parameters.lookup k).any (fun attributes => decide (attributes &&& paramOcpp ≠ 0)) = true →
      paramsOf k = ocppParams := fun {k} h => by rw [paramsOf_eq, h, if_pos rfl]
  have other : ∀ {k}, (parameters.lookup k).isSome = false → ∀ (config : IniFile) (params value : String),
      (config.set params k value).values key = config.values key := fun {k} h config =>
    values_set_unknown hk ((known_eq k).trans h)
  have hv : ∀ config : IniFile,
      (if o.vendorName ≠ "" then config.set stackParams "ChargePointVendor" o.vendorName else config).values key =
        config.values key := by
    intro config
    split
    · exact other (by decide +kernel) _ _ _
    · rfl
  have ho : ∀ config : IniFile,
      (if o.operatingVoltage ≠ 0 then config.set stackParams "OperatingVoltage" (toString o.operatingVoltage)
        else config).values key = config.values key := by
    intro config
    split
    · exact other (by decide +kernel) _ _ _
    · rfl
  unfold configure
  dsimp only
  rw [ho, hv, other (k := "BrokerUrl") (by decide +kernel), values_set_known (ocpp (by decide +kernel)),
    values_set_known (ocpp (by decide +kernel)), values_set_known (ocpp (by decide +kernel)),
    values_set_known (ocpp (by decide +kernel)), values_set_known (ocpp (by decide +kernel)),
    other (k := "ChargePointSerialNumber") (by decide +kernel), values_set_known (stack (by decide +kernel)),
    values_set_known (stack (by decide +kernel)), other (k := "DatabasePath") (by decide +kernel)]
  unfold pinned
  simp only [apply_ite (fun x : Option String => x.getD (config.values key)), Option.getD_some, Option.getD_none]

/-- **An event writes what it assigns.** -/
theorem values_step (hk : known key = true) (config : IniFile) (e : Event) :
    (step fromString config e).values key = (assigns fromString key e).getD (config.values key) := by
  cases e with
  | start o => exact values_configure hk o
  | setConfiguration k value =>
    -- by equations: what unfolds the table is slow
    rw [step, assigns, ← Guarded.Rights.set_apply]
    exact congrFun (values_setConfiguration config (k, value)) key
  | useServerCa filename =>
    exact values_set_unknown hk ((known_eq "TlsServerCertificateCa").trans (by decide +kernel)) _ _
  | useClientCertificate filename =>
    refine (values_set_unknown hk ((known_eq "TlsClientCertificatePrivateKey").trans (by decide +kernel)) _ _).trans ?_
    exact values_set_unknown hk ((known_eq "TlsClientCertificate").trans (by decide +kernel)) _ _

/-- **The file has the last value that was written.** -/
theorem values_run (hk : known key = true) (events : List Event) (config : IniFile) :
    (run fromString config events).values key = (last (assigns fromString key) events.reverse).getD (config.values key) := by
  induction events using List.reverseRecOn with
  | nil => rfl
  | append_singleton events e ih =>
    unfold run at ih ⊢
    rw [List.foldl_append, List.foldl_cons, List.foldl_nil, values_step hk, ih, List.reverse_append]
    show _ = ((assigns fromString key e).or (last (assigns fromString key) events.reverse)).getD _
    cases assigns fromString key e <;> rfl

/-! ## Settings and starts -/

/-- Whether a key is pinned does not depend on the options. -/
theorem pinned_eq_none (o o' : Options) (h : pinned fromString o key = none) : pinned fromString o' key = none := by
  unfold pinned at h ⊢
  split_ifs at h
  simp_all

/-- **Where nobody sets the key, the last start is the last to write it.** -/
theorem last_assigns : ∀ {events : List Event}, (∀ v, Event.setConfiguration key v ∉ events) →
    last (assigns fromString key) events = (last Event.options events).bind (fun o => pinned fromString o key)
  | [], _ => rfl
  | e :: events, h => by
    have ih := @last_assigns events (fun v hm => h v (List.mem_cons_of_mem e hm))
    rw [Hist.last_cons, Hist.last_cons, ih]
    cases e with
    | start o =>
      show (pinned fromString o key).or _ = pinned fromString o key
      cases hp : pinned fromString o key with
      | some v => rfl
      | none =>
        cases last Event.options events with
        | none => rfl
        | some o' => exact pinned_eq_none o o' hp
    | setConfiguration k value =>
      have hk : rights.granted key (k, value) = none := by
        refine if_neg (fun hg => ?_)
        have hk : k = key := hg.1
        exact h value (hk ▸ List.mem_cons_self)
      show (rights.granted key (k, value)).or _ = _
      rw [hk]
      rfl
    | useServerCa filename => rfl
    | useClientCertificate filename => rfl

theorem known_of_writable (h : rights.writable key = true) : known key = true := by
  cases hl : configurationValues[key]? with
  | none =>
    rw [writable_of_none hl] at h
    cases h
  | some attributes => exact Std.TreeMap.contains_eq_isSome_getElem?.trans (by rw [hl]; rfl)

theorem writable_eq (key : String) : rights.writable key =
    (parameters.lookup key).any (fun attributes => decide (attributes &&& paramWrite ≠ 0)) := by
  show hasAttribute paramWrite key = _
  unfold hasAttribute
  rw [getElem?_configurationValues]

/-- The keys that can be set and are pinned. -/
theorem pinned_of_writable (hw : rights.writable key = true)
    (hn : key ∉ ["ConnexionUrl", "ChargePointIdentifier", "MeterValuesSampledData", "ConnectorPhaseRotation"]) (o : Options) :
    pinned fromString o key = none := by
  have readOnly : ∀ k, (parameters.lookup k).any (fun attributes => decide (attributes &&& paramWrite ≠ 0)) = false →
      key ≠ k := by
    rintro k hk rfl
    rw [writable_eq, hk] at hw
    cases hw
  simp only [List.mem_cons, List.not_mem_nil, or_false, not_or] at hn
  obtain ⟨h₁, h₂, h₃, h₄⟩ := hn
  unfold pinned
  rw [if_neg h₄, if_neg (readOnly _ (by decide +kernel)), if_neg (readOnly _ (by decide +kernel)), if_neg h₃,
    if_neg (readOnly _ (by decide +kernel)), if_neg h₂, if_neg h₁]

/-- **A setting survives the starts that follow** exactly where they do not write its key or the last of them writes the
same, whatever else is set; and so always but for four keys. -/
theorem setting_survives_iff (fromString : String → ConnectorType) (config : IniFile) (key value : String) (later : List Event)
    (hset : (setConfiguration config key value).1.Granted) (hother : ∀ v, Event.setConfiguration key v ∉ later) :
    ((run fromString (setConfiguration config key value).2 later).values key = value ↔
      ∀ o, last Event.options later.reverse = some o → ∀ v, pinned fromString o key = some v → v = value) ∧
    (key ∉ ["ConnexionUrl", "ChargePointIdentifier", "MeterValuesSampledData", "ConnectorPhaseRotation"] →
      (run fromString (setConfiguration config key value).2 later).values key = value) := by
  have hw := (granted_setConfiguration config key value).1 hset
  have hnow : (setConfiguration config key value).2.values key = value := by
    rw [values_setConfiguration config (key, value), Guarded.Rights.set_apply]
    have hg : rights.granted key (key, value) = some value := if_pos ⟨rfl, hw⟩
    rw [hg]
    rfl
  have hrun : (run fromString (setConfiguration config key value).2 later).values key =
      ((last Event.options later.reverse).bind (fun o => pinned fromString o key)).getD value := by
    rw [values_run (known_of_writable hw), hnow, last_assigns (fun v hm => hother v (List.mem_reverse.1 hm))]
  rw [hrun]
  refine ⟨?_, fun hn => ?_⟩
  · cases last Event.options later.reverse with
    | none => simp
    | some o =>
      rw [Option.bind_some]
      cases hp : pinned fromString o key with
      | none => simp [hp]
      | some v => simp [hp]
  · cases last Event.options later.reverse with
    | none => rfl
    | some o => rw [Option.bind_some, pinned_of_writable hw hn]; rfl

/-- A setting of the central system, and a start after it. -/
theorem setting_survives_sample :
    (run (fun _ => .ac) (setConfiguration ⟨fun _ => none⟩ "ConnexionUrl" "ws://new").2
      [.start { connectionUrl := "ws://old" }, .setConfiguration "HeartbeatInterval" "60"]).values "ConnexionUrl" ≠ "ws://new" := by
  have hset : (setConfiguration ⟨fun _ => none⟩ "ConnexionUrl" "ws://new").1.Granted :=
    (granted_setConfiguration _ _ _).2 ((writable_eq _).trans (by decide +kernel))
  intro h
  have hv := (setting_survives_iff (fun _ => .ac) ⟨fun _ => none⟩ "ConnexionUrl" "ws://new"
    [.start { connectionUrl := "ws://old" }, .setConfiguration "HeartbeatInterval" "60"] hset (by simp)).1.1 h
    { connectionUrl := "ws://old" } rfl "ws://old" (by decide +kernel)
  exact absurd hv (by decide)

/-! ## The phase rotations -/

/-- What is said of each connector, read as the standard has it: the items between the commas, each a number, a dot and a
rotation. -/
def readRotations (text : String) : List (Nat × List Char) :=
  ((text.toList.splitOn ',').filter (fun item => !item.isEmpty)).map (fun item =>
    (Nat.ofDigitChars 10 (item.takeWhile (fun c => c ≠ '.')) 0, (item.dropWhile (fun c => c ≠ '.')).tail))

/-- The item of a connector. -/
def item (rot : String) (i : Nat) : List Char := (toString i ++ "." ++ rot).toList

/-- **The loop puts commas between the items.** -/
theorem toList_foldl_items (rot : String) : ∀ (k i : Nat) (text : String),
    ((List.range' i (k + 1)).foldl (fun text j =>
      text ++ (toString j ++ "." ++ rot) ++ if j ≠ i + k then "," else "") text).toList =
      text.toList ++ [','].intercalate ((List.range' i (k + 1)).map (item rot))
  | 0, i, text => by simp [item, List.range'_succ]
  | k + 1, i, text => by
    have ih := toList_foldl_items rot k (i + 1)
    rw [List.range'_succ, List.foldl_cons, if_pos (by omega), List.map_cons]
    have hl : i + (k + 1) = i + 1 + k := by omega
    rw [hl, ih, List.range'_succ, List.map_cons, List.intercalate_cons_cons]
    simp [item]

theorem toList_connectorPhaseRotation (o : Options) : (connectorPhaseRotation fromString o).toList =
    [','].intercalate ((List.range' 1 o.nbConnectors).map (item (rotation fromString o))) := by
  unfold connectorPhaseRotation
  cases hn : o.nbConnectors with
  | zero => rfl
  | succ k =>
    have h := toList_foldl_items (rotation fromString o) k 1 ""
    rw [Nat.add_comm 1 k] at h
    exact h

theorem rotation_cases (o : Options) : rotation fromString o = "NotApplicable" ∨ rotation fromString o = "RST" := by
  unfold rotation
  split
  · exact .inl rfl
  · exact .inr rfl

theorem comma_not_mem_item (o : Options) (i : Nat) : ',' ∉ item (rotation fromString o) i := by
  have hr : ',' ∉ (rotation fromString o).toList := by
    rcases @rotation_cases fromString o with h | h <;> rw [h] <;> decide
  have hd : ',' ∉ Nat.toDigits 10 i := fun hm => by
    have := Launcher.isDigit_of_mem hm
    revert this
    decide
  unfold item
  rw [String.toList_append, String.toList_append, Launcher.toList_toString]
  simp [hr, hd]

theorem read_item (rot : String) (i : Nat) :
    (Nat.ofDigitChars 10 ((item rot i).takeWhile (fun c => c ≠ '.')) 0, ((item rot i).dropWhile (fun c => c ≠ '.')).tail) =
      (i, rot.toList) := by
  have hd : ∀ c ∈ Nat.toDigits 10 i, (fun c => decide (c ≠ '.')) c = true := by
    intro c hc
    exact decide_eq_true (Launcher.ne_of_isDigit (Launcher.isDigit_of_mem hc) (by decide))
  have hitem : item rot i = Nat.toDigits 10 i ++ '.' :: rot.toList := by
    unfold item
    rw [String.toList_append, String.toList_append, Launcher.toList_toString, List.append_assoc]
    rfl
  rw [hitem, List.takeWhile_append_of_pos hd, List.dropWhile_append_of_pos hd]
  simp [Nat.ofDigitChars_ten_toDigits]

/-- **What is written is read back**: one rotation for each connector, in their order. -/
theorem readRotations_connectorPhaseRotation (o : Options) : readRotations (connectorPhaseRotation fromString o) =
    (List.range' 1 o.nbConnectors).map (fun i => (i, (rotation fromString o).toList)) := by
  unfold readRotations
  rw [toList_connectorPhaseRotation]
  cases hn : o.nbConnectors with
  | zero => rfl
  | succ k =>
    rw [List.splitOn_intercalate]
    · rw [List.filter_eq_self.2, List.map_map]
      · exact List.map_congr_left (fun i _ => read_item _ i)
      · intro l hl
        obtain ⟨i, -, rfl⟩ := List.mem_map.1 hl
        simp [item]
    · intro l hl
      obtain ⟨i, -, rfl⟩ := List.mem_map.1 hl
      exact comma_not_mem_item o i
    · simp

/-- **The phase rotations are read back after a start**, one for each of the connectors that the configuration counts,
whatever was written before and is set since, but for the rotations themselves. -/
theorem rotations_read_back (fromString : String → ConnectorType) (config : IniFile) (before after : List Event) (o : Options)
    (hstart : ∀ e ∈ after, e.options = none)
    (hset : ∀ value, Event.setConfiguration "ConnectorPhaseRotation" value ∉ after) :
    readRotations ((run fromString config (before ++ .start o :: after)).values "ConnectorPhaseRotation") =
      (List.range' 1 o.nbConnectors).map (fun i => (i, (rotation fromString o).toList)) ∧
    (run fromString config (before ++ .start o :: after)).values "NumberOfConnectors" = toString o.nbConnectors ∧
    (run fromString config (before ++ .start o :: after)).values "ConnectorPhaseRotationMaxLength" =
      toString o.nbConnectors := by
  have written : ∀ {key value}, known key = true → (∀ e ∈ after, assigns fromString key e = none) →
      pinned fromString o key = some value →
      (run fromString config (before ++ .start o :: after)).values key = value := by
    intro key value hk ha hp
    have hassigns : assigns fromString key (.start o) = some value := hp
    rw [values_run hk, List.reverse_append, List.reverse_cons, Hist.last_append, Hist.last_append,
      Hist.last_eq_none_iff.2 (fun e he => ha e (List.mem_reverse.1 he)), Option.none_or, Hist.last_cons, hassigns]
    rfl
  have silent : ∀ {key}, (rights.writable key = false ∨ ∀ value, Event.setConfiguration key value ∉ after) →
      ∀ e ∈ after, assigns fromString key e = none := by
    intro key h e he
    cases e with
    | start o' => exact absurd (hstart _ he) nofun
    | setConfiguration k value =>
      refine if_neg (fun hg => ?_)
      obtain ⟨hk, hw⟩ := hg
      rcases h with h | h
      · rw [h] at hw
        cases hw
      · have hk : k = key := hk
        exact h value (hk ▸ he)
    | useServerCa filename => rfl
    | useClientCertificate filename => rfl
  have readOnly : ∀ {key}, (parameters.lookup key).any (fun attributes => decide (attributes &&& paramWrite ≠ 0)) = false →
      ∀ e ∈ after, assigns fromString key e = none := fun {key} h => silent (.inl ((writable_eq key).trans h))
  refine ⟨?_, ?_, ?_⟩
  · rw [written ((known_eq _).trans (by decide +kernel)) (silent (.inr hset)) rfl]
    exact readRotations_connectorPhaseRotation o
  · exact written ((known_eq _).trans (by decide +kernel)) (readOnly (by decide +kernel)) rfl
  · exact written ((known_eq _).trans (by decide +kernel)) (readOnly (by decide +kernel)) rfl

/-- Two connectors with three phases, and a setting that is refused. -/
theorem rotations_read_back_sample :
    readRotations ((run (fun _ => .ac) ⟨fun _ => none⟩ [.start { nbConnectors := 2 },
      .setConfiguration "NumberOfConnectors" "7"]).values "ConnectorPhaseRotation") =
      [(1, ['R', 'S', 'T']), (2, ['R', 'S', 'T'])] :=
  (rotations_read_back (fun _ => .ac) ⟨fun _ => none⟩ [] [.setConfiguration "NumberOfConnectors" "7"] { nbConnectors := 2 }
    (by simp [Event.options]) (by simp)).1

end Startup
