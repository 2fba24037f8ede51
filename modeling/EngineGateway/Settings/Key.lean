import EngineGateway.Settings.Basic
import EngineGateway.Text.Quoted
import EngineGateway.Toml.Value

/-!
# Setting one setting

Each setting has a key, under which it is found in a settings file and in the
environment.  What is found becomes an assignment to exactly that setting, or
it is refused with a reason.
-/

namespace EngineGateway.Settings

/-- The settings, in the order in which the environment is consulted. -/
inductive Key where
  | bindAddress
  | port
  | maxClients
  | discoveryFile
  | engineHost
  | connectTimeout
  | receiveTimeout
  | pollInterval
  | retryInterval
  | attachSettle
  | probeCommand
  | trustForwardedTls
  deriving Repr, DecidableEq

/-- All keys in order. -/
def Key.all : List Key :=
  [.bindAddress, .port, .maxClients, .discoveryFile, .engineHost, .connectTimeout,
   .receiveTimeout, .pollInterval, .retryInterval, .attachSettle, .probeCommand,
   .trustForwardedTls]

/-- The name of a setting in a settings file. -/
def Key.name : Key → String
  | .bindAddress => "bind_addr"
  | .port => "port"
  | .maxClients => "max_clients"
  | .discoveryFile => "discovery_file"
  | .engineHost => "engine_host"
  | .connectTimeout => "connect_timeout_ms"
  | .receiveTimeout => "receive_timeout_ms"
  | .pollInterval => "poll_interval_ms"
  | .retryInterval => "retry_interval_ms"
  | .attachSettle => "attach_settle_ms"
  | .probeCommand => "probe_command"
  | .trustForwardedTls => "trust_forwarded_tls"

def Key.variable (key : Key) : String :=
  "BRIDGE_" ++ key.name.map Char.toUpper

/-! ## Assignments -/

def Key.Content : Key → Type
  | .bindAddress | .discoveryFile | .probeCommand => String
  | .engineHost => Net.Address
  | .trustForwardedTls => Bool
  | .port | .maxClients | .connectTimeout | .receiveTimeout | .pollInterval
  | .retryInterval | .attachSettle => Nat

def assign (settings : Settings) : (key : Key) → key.Content → Settings
  | .bindAddress, address => { settings with bindAddress := address }
  | .port, port => { settings with port := port }
  | .maxClients, count => { settings with maxClients := count }
  | .discoveryFile, file => { settings with discoveryFile := some file }
  | .engineHost, host => { settings with engineHost := host }
  | .connectTimeout, time => { settings with connectTimeout := time }
  | .receiveTimeout, time => { settings with receiveTimeout := time }
  | .pollInterval, time => { settings with pollInterval := time }
  | .retryInterval, time => { settings with retryInterval := time }
  | .attachSettle, time => { settings with attachSettle := time }
  | .probeCommand, command => { settings with probeCommand := command }
  | .trustForwardedTls, trust => { settings with trustForwardedTls := trust }

/-! ## Reading text -/

/-- Why text does not fit a setting. -/
inductive Mismatch where
  | numeral (error : Text.NumeralError)
  | address
  | truthValue
  deriving Repr, DecidableEq

def Mismatch.message : Mismatch → String
  | .numeral error => error.message
  | .address => Net.Address.invalidSyntax
  | .truthValue => "provided string was not \x60true\x60 or \x60false\x60"

/-- A number up to `limit`, with blanks around it. -/
def readNumber (limit : Nat) (text : String) : Except Mismatch Nat :=
  (Text.readNat limit (Text.trim text).toList).mapError .numeral

def readAddress (text : String) : Except Mismatch Net.Address :=
  match Net.Address.parse? (Text.trim text) with
  | none => .error .address
  | some address => .ok address

/-- A truth value with blanks around it. -/
def readTruthValue (text : String) : Except Mismatch Bool :=
  match Text.trim text with
  | "true" => .ok true
  | "false" => .ok false
  | _ => .error .truthValue

/-- The content that the text of an environment variable stands for.  Settings
that hold text take it as it is. -/
def Key.read : (key : Key) → String → Except Mismatch key.Content
  | .bindAddress, text | .discoveryFile, text | .probeCommand, text => .ok text
  | .port, text => readNumber Text.maxWord16 text
  | .engineHost, text => readAddress text
  | .trustForwardedTls, text => readTruthValue text
  | .maxClients, text | .connectTimeout, text | .receiveTimeout, text
  | .pollInterval, text | .retryInterval, text | .attachSettle, text =>
      readNumber Text.maxWord64 text

/-! ## Reading values -/

/-- A number up to `limit`. -/
def numberOf? (limit : Nat) : Toml.Value → Option Nat
  | .integer (.ofNat number) => if number ≤ limit then some number else none
  | _ => none

def textOf? : Toml.Value → Option String
  | .text content => some content
  | _ => none

def addressOf? (value : Toml.Value) : Option Net.Address := do
  Net.Address.parse? (← textOf? value)

def truthValueOf? : Toml.Value → Option Bool
  | .boolean truth => some truth
  | _ => none

/-- The content that a value in a settings file stands for, none if the value
is of another kind or out of range. -/
def Key.ofValue? : (key : Key) → Toml.Value → Option key.Content
  | .bindAddress, value | .discoveryFile, value | .probeCommand, value => textOf? value
  | .port, value => numberOf? Text.maxWord16 value
  | .engineHost, value => addressOf? value
  | .trustForwardedTls, value => truthValueOf? value
  | .maxClients, value | .connectTimeout, value | .receiveTimeout, value
  | .pollInterval, value | .retryInterval, value | .attachSettle, value =>
      numberOf? Text.maxWord64 value

end EngineGateway.Settings
