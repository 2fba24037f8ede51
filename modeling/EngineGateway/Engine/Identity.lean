import EngineGateway.Text.CodePage
import EngineGateway.Text.Numeral
import EngineGateway.Text.Quoted
import EngineGateway.Engine.Fault

/-!
# Identity of an engine

An engine tells its version and its name once, in the reply to the version
query.  The reply has the form `major minor "name"`.  Peers are told about the
engine in status lines made from its identity.
-/

namespace EngineGateway.Engine

/-- The command whose output is the version reply. -/
def versionQuery : String :=
  "outv vmjr outs \" \" outv vmnr outs \" \" outx gnam"

/-- Highest major version of a first-generation engine. -/
def firstGenerationMaxMajor : Int := 20

/-- How an engine is reached. -/
inductive Family where
  /-- Over its scripting socket. -/
  | socket
  /-- Through a buffer in shared memory. -/
  | sharedBuffer
  /-- Through a DDE conversation. -/
  | dde
  deriving Repr, DecidableEq

/-- The name of a family in status lines. -/
def Family.label : Family → String
  | .socket | .sharedBuffer => "C2E"
  | .dde => "Vivarium"

/-- What happened to an engine. -/
inductive StatusEvent where
  | opened
  | closed
  deriving Repr, DecidableEq

/-- The first word of a status line. -/
def StatusEvent.word : StatusEvent → String
  | .opened => "OnGameOpened"
  | .closed => "OnGameClosed"

/-- What is known about an attached engine. -/
structure Identity where
  family : Family
  major : Int
  minor : Int
  name : String
  workingDirectory : Option String
  deriving Repr, DecidableEq

/-- Why no session came out of a discovery although an engine seemed present. -/
inductive DiscoveryError where
  | discoveryFile (reason : String)
  | handshake (reason : String)
  | transport (fault : Fault)
  deriving Repr, DecidableEq

/-- The wording of a discovery error about the discovery file at `path`. -/
def DiscoveryError.message (path : String) : DiscoveryError → String
  | .discoveryFile reason =>
      "failed to read discovery file " ++ path ++ ": " ++ reason
  | .handshake reason => "engine handshake failed: " ++ reason
  | .transport fault =>
      "engine transport failed during handshake: " ++ fault.message

/-- Read an optional sign and digits after any blanks, as an integer of 32
bits.  What follows the digits is returned apart. -/
def takeInt? (text : List Char) : Option (Int × List Char) :=
  let text := Text.trimStart text
  let (sign, unsigned) :=
    match text with
    | '-' :: rest => (['-'], rest)
    | '+' :: rest => (['+'], rest)
    | rest => ([], rest)
  let digits := unsigned.takeWhile Char.isDigit
  if digits.isEmpty then none
  else
    match Text.readInt Text.maxInt32 (sign ++ digits) with
    | .ok value => some (value, unsigned.dropWhile Char.isDigit)
    | .error _ => none

/-- Read a name after any blanks and at least one quotation mark.  It runs to
the next quotation mark or to the end and is not empty. -/
def takeName? (text : List Char) : Option String :=
  match Text.trimStart text with
  | '"' :: rest =>
      let name := (rest.dropWhile (· == '"')).takeWhile (· != '"')
      if name.isEmpty then none else some (String.ofList name)
  | _ => none

/-- Read a version reply: major and minor version and the name. -/
def parseVersionReply? (reply : String) : Option (Int × Int × String) := do
  let (major, rest) ← takeInt? reply.toList
  let (minor, rest) ← takeInt? rest
  let name ← takeName? rest
  return (major, minor, name)

namespace Identity

/-- The identity that a version reply tells. -/
def ofVersionReply (family : Family) (reply : String)
    (workingDirectory : Option String) : Except DiscoveryError Identity :=
  match parseVersionReply? reply with
  | some (major, minor, name) =>
      .ok ⟨family, major, minor, name, workingDirectory⟩
  | none =>
      .error (.handshake ("unexpected version reply: " ++ Text.quote reply))

/-- The engine is reached through a DDE conversation. -/
def isDde (identity : Identity) : Bool :=
  identity.family == .dde

/-- The engine has bracketed strings and takes no repeated white space. -/
def isFirstGeneration (identity : Identity) : Bool :=
  identity.isDde && identity.major ≤ firstGenerationMaxMajor

/-- What peers are told when something happens to the engine. -/
def statusLine (identity : Identity) (event : StatusEvent) : String :=
  event.word ++ " " ++ identity.family.label ++ " " ++
    toString identity.major ++ "." ++ toString identity.minor ++ " " ++
    identity.name

end Identity
end EngineGateway.Engine
