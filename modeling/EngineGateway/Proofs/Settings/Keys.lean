import EngineGateway.Proofs.Text.Blank
import EngineGateway.Proofs.Text.Numeral
import EngineGateway.Settings.Key
import Mathlib.Data.List.Nodup

/-!
# What settings hold

Settings are what they hold under each key.  An assignment changes what is held under its key
and nothing else.  The text of an environment variable stands for at most one content, and it is
refused if it stands for none.  So does a value in a settings file.
-/

namespace EngineGateway.Settings

/-- Contents for some of the keys. -/
abbrev Layer := (key : Key) → Option key.Content

/-- What the settings hold.  Only the port file may be unset. -/
def held (settings : Settings) : Layer
  | .bindAddress => some settings.bindAddress
  | .port => some settings.port
  | .maxClients => some settings.maxClients
  | .discoveryFile => settings.discoveryFile
  | .engineHost => some settings.engineHost
  | .connectTimeout => some settings.connectTimeout
  | .receiveTimeout => some settings.receiveTimeout
  | .pollInterval => some settings.pollInterval
  | .retryInterval => some settings.retryInterval
  | .attachSettle => some settings.attachSettle
  | .probeCommand => some settings.probeCommand
  | .trustForwardedTls => some settings.trustForwardedTls

theorem held_injective : Function.Injective held := by
  intro settings other same
  have alike (key : Key) : settings.held key = other.held key := congrFun same key
  cases settings
  cases other
  rw [Settings.mk.injEq]
  exact ⟨Option.some.inj (alike .bindAddress), Option.some.inj (alike .port),
    Option.some.inj (alike .maxClients), alike .discoveryFile,
    Option.some.inj (alike .engineHost), Option.some.inj (alike .connectTimeout),
    Option.some.inj (alike .receiveTimeout), Option.some.inj (alike .pollInterval),
    Option.some.inj (alike .retryInterval), Option.some.inj (alike .attachSettle),
    Option.some.inj (alike .probeCommand), Option.some.inj (alike .trustForwardedTls)⟩

theorem held_assign (settings : Settings) (key : Key) (content : key.Content) :
    (settings.assign key content).held key = some content := by
  cases key <;> rfl

theorem held_assign_of_ne (settings : Settings) {key other : Key} (content : key.Content)
    (differs : other ≠ key) : (settings.assign key content).held other = settings.held other := by
  cases key <;> cases other <;> first | rfl | exact absurd rfl differs

/-! ## Keys -/

theorem Key.mem_all (key : Key) : key ∈ Key.all := by
  cases key <;> decide

theorem Key.names_and_variables : Key.all.map (fun key => (key.name, key.variable)) =
    [("bind_addr", "BRIDGE_BIND_ADDR"), ("port", "BRIDGE_PORT"),
      ("max_clients", "BRIDGE_MAX_CLIENTS"), ("discovery_file", "BRIDGE_DISCOVERY_FILE"),
      ("engine_host", "BRIDGE_ENGINE_HOST"),
      ("connect_timeout_ms", "BRIDGE_CONNECT_TIMEOUT_MS"),
      ("receive_timeout_ms", "BRIDGE_RECEIVE_TIMEOUT_MS"),
      ("poll_interval_ms", "BRIDGE_POLL_INTERVAL_MS"),
      ("retry_interval_ms", "BRIDGE_RETRY_INTERVAL_MS"),
      ("attach_settle_ms", "BRIDGE_ATTACH_SETTLE_MS"),
      ("probe_command", "BRIDGE_PROBE_COMMAND"),
      ("trust_forwarded_tls", "BRIDGE_TRUST_FORWARDED_TLS")] := by
  decide +kernel

/-- Every setting has a variable of its own. -/
theorem Key.variable_injective : Function.Injective Key.variable := by
  have distinct : (Key.all.map Key.variable).Nodup := by decide +kernel
  exact fun key other => List.inj_on_of_nodup_map distinct key.mem_all other.mem_all

/-! ## Texts -/

/-- The text writes a number up to `limit` in decimal, with blanks around it. -/
def WritesNumber (limit : Nat) (text : String) (number : Nat) : Prop :=
  ∃ digits, Text.Pads text digits ∧ Text.Decimal digits number ∧ number ≤ limit

/-- The text writes an address, with blanks around it. -/
def WritesAddress (text : String) (address : Net.Address) : Prop :=
  ∃ part, Text.Pads text part ∧ Net.Address.parse? (String.ofList part) = some address

/-- The text says `true` or `false`, with blanks around it. -/
def WritesTruth (text : String) (truth : Bool) : Prop :=
  Text.Pads text (if truth then "true" else "false").toList

/-- The text of an environment variable stands for a content.  Only where a setting holds text
the blanks at its ends belong to it. -/
def Key.Denotes : (key : Key) → String → key.Content → Prop
  | .bindAddress, text, content | .discoveryFile, text, content
  | .probeCommand, text, content => text = content
  | .port, text, content => WritesNumber 65535 text content
  | .engineHost, text, content => WritesAddress text content
  | .trustForwardedTls, text, content => WritesTruth text content
  | .maxClients, text, content | .connectTimeout, text, content
  | .receiveTimeout, text, content | .pollInterval, text, content
  | .retryInterval, text, content | .attachSettle, text, content =>
      WritesNumber 18446744073709551615 text content

variable {text : String}

theorem readNumber_eq_ok_iff {limit number : Nat} :
    readNumber limit text = .ok number ↔ WritesNumber limit text number := by
  simp only [WritesNumber, Text.pads_iff, exists_eq_left', ← Text.readNat_eq_ok_iff, readNumber]
  cases Text.readNat limit (Text.trim text).toList <;> simp [Except.mapError]

theorem readAddress_eq_ok_iff {address : Net.Address} :
    readAddress text = .ok address ↔ WritesAddress text address := by
  simp only [WritesAddress, Text.pads_iff, exists_eq_left', String.ofList_toList]
  unfold readAddress
  cases Net.Address.parse? (Text.trim text) <;> simp

theorem readTruthValue_eq_ok_iff {truth : Bool} :
    readTruthValue text = .ok truth ↔ WritesTruth text truth := by
  rw [WritesTruth, Text.pads_iff, String.toList_inj]
  unfold readTruthValue
  split
  · next affirms => cases truth <;> simp [affirms]
  · next denies => cases truth <;> simp [denies]
  · next other another =>
    refine iff_of_false nofun ?_
    cases truth
    · simpa using another
    · simpa using other

/-- A text is read exactly as what it stands for. -/
theorem Key.read_eq_ok_iff {key : Key} {content : key.Content} :
    key.read text = .ok content ↔ key.Denotes text content := by
  cases key with
  | bindAddress | discoveryFile | probeCommand => exact ⟨Except.ok.inj, congrArg Except.ok⟩
  | engineHost => exact @readAddress_eq_ok_iff text content
  | trustForwardedTls => exact @readTruthValue_eq_ok_iff text content
  | port | maxClients | connectTimeout | receiveTimeout | pollInterval | retryInterval
  | attachSettle => exact readNumber_eq_ok_iff

theorem Key.Denotes.unique {key : Key} {one other : key.Content} (first : key.Denotes text one)
    (second : key.Denotes text other) : one = other := by
  have read := Key.read_eq_ok_iff.mpr first
  rw [Key.read_eq_ok_iff.mpr second] at read
  exact (Except.ok.inj read).symm

/-- A text is refused exactly if it stands for nothing. -/
theorem Key.refuses_iff {key : Key} :
    (∃ reason, key.read text = .error reason) ↔ ¬ ∃ content, key.Denotes text content := by
  simp only [← Key.read_eq_ok_iff]
  cases key.read text <;> simp

/-! ## Values -/

/-- The value is a number up to `limit`. -/
def IsNumber (limit : Nat) (value : Toml.Value) (number : Nat) : Prop :=
  value = .integer number ∧ number ≤ limit

/-- A value in a settings file stands for a content. -/
def Key.StandsFor : (key : Key) → Toml.Value → key.Content → Prop
  | .bindAddress, value, content | .discoveryFile, value, content
  | .probeCommand, value, content => value = .text content
  | .port, value, content => IsNumber 65535 value content
  | .engineHost, value, content =>
      ∃ text, value = .text text ∧ Net.Address.parse? text = some content
  | .trustForwardedTls, value, content => value = .boolean content
  | .maxClients, value, content | .connectTimeout, value, content
  | .receiveTimeout, value, content | .pollInterval, value, content
  | .retryInterval, value, content | .attachSettle, value, content =>
      IsNumber 18446744073709551615 value content

variable {value : Toml.Value}

theorem textOf?_eq_some_iff : textOf? value = some text ↔ value = .text text := by
  cases value <;> simp [textOf?]

theorem truthValueOf?_eq_some_iff {truth : Bool} :
    truthValueOf? value = some truth ↔ value = .boolean truth := by
  cases value <;> simp [truthValueOf?]

theorem addressOf?_eq_some_iff {address : Net.Address} :
    addressOf? value = some address ↔
      ∃ text, value = .text text ∧ Net.Address.parse? text = some address := by
  simp only [addressOf?, Option.bind_eq_bind, Option.bind_eq_some_iff, textOf?_eq_some_iff]

theorem numberOf?_eq_some_iff {limit number : Nat} :
    numberOf? limit value = some number ↔ IsNumber limit value number := by
  unfold numberOf? IsNumber
  split
  · next other =>
    rw [Toml.Value.integer.injEq, Int.ofNat_eq_natCast, Int.natCast_inj]
    split_ifs with fits
    · rw [Option.some.injEq]
      exact ⟨fun same => ⟨same, same ▸ fits⟩, And.left⟩
    · exact iff_of_false nofun fun ⟨same, small⟩ => fits (same ▸ small)
  · next unlike => exact iff_of_false nofun fun ⟨same, _⟩ => unlike number same

/-- A value is read exactly as what it stands for. -/
theorem Key.ofValue?_eq_some_iff {key : Key} {content : key.Content} :
    key.ofValue? value = some content ↔ key.StandsFor value content := by
  cases key with
  | bindAddress | discoveryFile | probeCommand => exact textOf?_eq_some_iff
  | engineHost => exact @addressOf?_eq_some_iff value content
  | trustForwardedTls => exact @truthValueOf?_eq_some_iff value content
  | port | maxClients | connectTimeout | receiveTimeout | pollInterval | retryInterval
  | attachSettle => exact numberOf?_eq_some_iff

end EngineGateway.Settings
