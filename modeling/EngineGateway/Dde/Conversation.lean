import EngineGateway.Engine.Transport

/-!
# First-generation engines

The engines of the first generation are reached through a DDE conversation.  A
script is run as a macro, and its output is the reply.  There is no version
query: the major version is the output of a macro, and the name follows from
it.
-/

namespace EngineGateway.Dde

open Engine

def service : String := "Vivarium"

def topic : String := "NornSockets"

/-- The item that holds the output of a macro. -/
def macroItem : String := "Macro"

/-- The item that holds the activity of a creature's brain. -/
def brainItem : String := "BrainActivity"

/-- The macro whose output is the major version: `dde: putv vrsn`. -/
def versionMacro : Bytes :=
  [0x64, 0x64, 0x65, 0x3A, 0x20, 0x70, 0x75, 0x74, 0x76, 0x20, 0x76, 0x72,
   0x73, 0x6E]

/-- The message that asks for the brain activity instead of running a macro:
`BRAIN DUMP`. -/
def brainDump : Bytes :=
  [0x42, 0x52, 0x41, 0x49, 0x4E, 0x20, 0x44, 0x55, 0x4D, 0x50]

/-- One side of the conversation.  An operation yields nothing when there is
no engine to talk to. -/
class Client (γ ω : Type) where
  /-- Run a script and fetch its output. -/
  runMacro : γ → Bytes → StateM ω (Except Fault (Option Bytes))
  /-- Fetch the brain activity. -/
  brainActivity : γ → StateM ω (Except Fault (Option Bytes))
  /-- The process on the other side. -/
  partner : γ → StateM ω (Option Nat)
  processRunning : γ → Nat → StateM ω Bool
  /-- Whether a conversation can be had at all. -/
  available : γ → StateM ω Bool
  workingDirectory : γ → Nat → StateM ω (Option String)

/-- A connection to a first-generation engine. -/
structure Link (γ : Type) where
  client : γ
  major : Int
  partner : Option Nat
  directory : Option String
  closed : Bool
  deriving Repr, DecidableEq

namespace Link

variable {γ ω : Type}

/-- Connect to an engine of the given major version. -/
def connect [Client γ ω] (client : γ) (major : Int) : StateM ω (Link γ) := do
  let partner ← Client.partner client
  let directory ←
    match partner with
    | none => pure none
    | some process => Client.workingDirectory client process
  return ⟨client, major, partner, directory, false⟩

/-- Send units one after another and join the outputs after `joined`.  Brain
activity is a reply of its own, whatever came before it. -/
def sendOnto [Client γ ω] (link : Link γ) (joined : Bytes) :
    List Bytes → StateM ω (Except Fault Reply × Link γ)
  | [] => return (.ok (.text joined), link)
  | unit :: rest => do
      let isDump := unit == brainDump
      let result ←
        if isDump then Client.brainActivity link.client
        else Client.runMacro link.client unit
      match result with
      | .error fault => return (.error fault, link)
      | .ok none => return (.error .engineExited, { link with closed := true })
      | .ok (some output) =>
          if isDump then return (.ok (.binary (stripNuls output)), link)
          else sendOnto link (joined ++ stripNuls output) rest

/-- Send units.  A closed connection sends nothing. -/
def sendUnits [Client γ ω] (link : Link γ) (units : List Bytes) :
    StateM ω (Except Fault Reply × Link γ) :=
  if link.closed then return (.error .engineExited, link)
  else link.sendOnto [] units

/-- Whether the engine is gone: its process has ended or, where the process is
unknown, no conversation can be had. -/
def isClosed [Client γ ω] (link : Link γ) : StateM ω (Bool × Link γ) := do
  if link.closed then
    return (true, link)
  else
    let alive ←
      match link.partner with
      | some process => Client.processRunning link.client process
      | none => Client.available link.client
    return (!alive, { link with closed := !alive })

/-- The name of an engine of the given major version. -/
def engineName (major : Int) : String :=
  if firstGenerationMaxMajor < major then "Creatures 2" else "Creatures"

/-- The identity of the engine, for which it need not be asked. -/
def identity (link : Link γ) : Identity :=
  ⟨.dde, link.major, 0, engineName link.major, link.directory⟩

instance [Client γ ω] : Transport (Link γ) ω where
  family _ := .dde
  unitLimit _ := return none
  sendUnits := sendUnits
  isClosed := isClosed
  workingDirectory link := return link.directory
  handshake link := return (.ok link.identity, link)

end Link
end EngineGateway.Dde
