import EngineGateway.Settings.Key

/-!
# Sources of settings

Settings come from the defaults, a settings file, the environment and the
command line.  A later source overrides what an earlier one has set.  A source
that is refused names what is wrong with it; the overrides before the refused
one have then been made.
-/

namespace EngineGateway.Settings

open Engine

/-- Why settings cannot be had. -/
inductive Failure where
  | invalidValue (key : Key) (value : String) (reason : Mismatch)
  | unreadable (error : SystemError)
  | malformed
  deriving Repr, DecidableEq

/-- The wording of a failure, with the path of the settings file. -/
def Failure.message (path : String) : Failure → String
  | .invalidValue key value reason =>
      "invalid value " ++ Text.quote value ++ " for " ++ key.variable ++ ": " ++ reason.message
  | .unreadable error => "failed to read config file " ++ path ++ ": " ++ error.message
  | .malformed => "failed to parse config file " ++ path

/-! ## The environment -/

/-- The values of variables. -/
abbrev Lookup := String → Option String

def override (lookup : Lookup) (settings : Settings) (key : Key) :
    Except Failure Settings :=
  match lookup key.variable with
  | none => .ok settings
  | some value =>
      match key.read value with
      | .error reason => .error (.invalidValue key value reason)
      | .ok content => .ok (settings.assign key content)

/-- Override settings in order up to the first value that is refused. -/
def overrideEach (lookup : Lookup) (settings : Settings) :
    List Key → Option Failure × Settings
  | [] => (none, settings)
  | key :: rest =>
      match override lookup settings key with
      | .error failure => (some failure, settings)
      | .ok settings => overrideEach lookup settings rest

def overrideAll (lookup : Lookup) (settings : Settings) : Option Failure × Settings :=
  overrideEach lookup settings Key.all

def withOverrides (lookup : Lookup) (settings : Settings) : Except Failure Settings :=
  match overrideAll lookup settings with
  | (some failure, _) => .error failure
  | (none, settings) => .ok settings

/-! ## The settings file -/

/-- Take one setting from the entries of a file. -/
def adopt (entries : Toml.Entries) (settings : Settings) (key : Key) : Option Settings :=
  match entries.lookup key.name with
  | none => some settings
  | some value => (key.ofValue? value).map (settings.assign key)

/-- The settings of a file over the defaults.  Entries with other names are
passed over. -/
def ofEntries? (entries : Toml.Entries) : Option Settings :=
  Key.all.foldlM (adopt entries) {}

/-- The settings that the content of a file describes. -/
def ofContent (read : Toml.Reading) : Except SystemError Bytes → Except Failure Settings
  | .error error => .error (.unreadable error)
  | .ok content =>
      match Text.Utf8.text? content with
      | none => .error (.unreadable .notText)
      | some text =>
          match (read text).bind ofEntries? with
          | none => .error .malformed
          | some settings => .ok settings

/-! ## All sources -/

/-- The settings of a file, if there is one, and of the environment. -/
def load (read : Toml.Reading) (file : Option (Except SystemError Bytes))
    (environment : Lookup) : Except Failure Settings := do
  let settings ← file.elim (.ok {}) (ofContent read)
  settings.withOverrides environment

end EngineGateway.Settings
