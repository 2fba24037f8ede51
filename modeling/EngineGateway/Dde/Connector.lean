import EngineGateway.Dde.Conversation
import EngineGateway.Discovery.Connector

/-!
# Finding a first-generation engine

The version macro is run.  Whatever keeps it from yielding a version means that
there is no engine to connect to.
-/

namespace EngineGateway.Dde

open Engine Discovery

/-- Digits at the start of a text, after an optional minus sign. -/
def leadingInteger : List Char → List Char
  | '-' :: rest => '-' :: rest.takeWhile Char.isDigit
  | text => text.takeWhile Char.isDigit

/-- The integer at the start of a reply, after any blanks. -/
def parseMajor? (reply : Bytes) : Option Int :=
  let text := Text.trimStart (Text.Utf8.repair reply).toList
  (Text.readInt Text.maxInt32 (leadingInteger text)).toOption

/-- Looks for an engine through one client. -/
structure Finder (γ : Type) where
  client : γ
  deriving Repr

/-- Ask for the version and attach to the engine that tells it. -/
def attach {γ ω : Type} [Client γ ω] (client : γ) :
    StateM ω (Attempt (Link γ)) := do
  match ← Client.runMacro client versionMacro with
  | .error _ | .ok none => return .ok none
  | .ok (some reply) =>
      match parseMajor? reply with
      | none => return .ok none
      | some major =>
          let link ← Link.connect client major
          return (← Session.attach link).map some

instance {γ ω : Type} [Client γ ω] : Connector (Finder γ) (Link γ) ω where
  discover finder policy := do
    let attempt ← attach finder.client
    return (attempt, finder, policy)

end EngineGateway.Dde
