import EngineGateway.Socket.Connector

/-!
# A machine with a scripted engine behind a socket

The engine listens on one port.  It reads a request up to its end and does what
stands next in its script; when nothing is left, it answers the version query
with its version and everything else with an echo.  Beside the engine the
machine has a port file and a list of the processes that listen.
-/

namespace EngineGateway.Rehearsal

open Engine Socket

/-- What the engine does with a request. -/
inductive Reaction where
  /-- Answer as if there were no script. -/
  | usual
  /-- Answer, and then close the connection or leave it open. -/
  | answer (content : Bytes) (staysOpen : Bool)
  | close
  /-- Never answer. -/
  | hang
  /-- Reset the connection without reading the request. -/
  | reset
  deriving Repr, DecidableEq

/-- What becomes of a connection. -/
inductive Line where
  | sound
  /-- The far end is gone before anything is written. -/
  | broken
  /-- The far end never reads. -/
  | stalled
  deriving Repr, DecidableEq

/-- The port file. -/
inductive PortFile where
  | missing
  /-- What should be its directory is a file. -/
  | misplaced
  | directory (modified : Discovery.Stamp)
  | content (modified : Discovery.Stamp) (octets : Bytes)
  deriving Repr, DecidableEq

/-- The engine and what is around it. -/
structure Machine where
  port : Nat
  version : Bytes
  isListening : Bool := true
  script : List Reaction := []
  /-- What becomes of the next connections. -/
  lines : List Line := []
  portFile : PortFile := .missing
  /-- What the list of listening processes says, if it can be had. -/
  listing : Option Bytes := none
  /-- The one process that exists, and its working directory. -/
  process : Nat := 0
  directory : String := ""
  /-- What has been written on the present connection. -/
  written : Bytes := []
  /-- The requests that the engine has read. -/
  requests : List Bytes := []
  deriving Repr

namespace Machine

/-- How much a stalled connection takes before it would block. -/
def stalledRoom : Nat := 4096

def connect (endpoint : Endpoint) (patience : Patience) :
    StateM Machine (Except SystemError Line) := do
  let machine ← get
  if patience.connect = 0 then
    return .error (.kinded .invalidInput none)
  else if endpoint = ⟨.localhost, machine.port⟩ ∧ machine.isListening then
    set { machine with lines := machine.lines.drop 1, written := [] }
    return .ok (machine.lines.headD .sound)
  else
    return .error (.numbered 111)

def write (line : Line) (octets : Bytes) : StateM Machine (Except SystemError Nat) := do
  let machine ← get
  let taken :=
    match line with
    | .sound => octets
    | .broken => []
    | .stalled => octets.take (stalledRoom - machine.written.length)
  set { machine with written := machine.written ++ taken }
  match line with
  | .broken => return .error (.numbered 32)
  | .sound | .stalled =>
      return if taken.isEmpty then .error (.numbered 11) else .ok taken.length

/-- A request without the mark at its end. -/
def bodyOf (request : Bytes) : Bytes :=
  request.take (request.length - Script.flushMark.length)

/-- The answer to a request for which there is no script. -/
def usualAnswer (machine : Machine) (request : Bytes) : Bytes :=
  let body := bodyOf request
  if body = Text.CodePage.ofText versionQuery then machine.version
  else Text.Utf8.encode "ok: " ++ body

/-- Up to so many reads of content that comes in one go. -/
def readsWithin : Nat → Bytes → List ReadOutcome
  | 0, _ => []
  | more + 1, content =>
      if content.isEmpty then []
      else
        .data (content.take Script.receiveSize) ::
          readsWithin more (content.drop Script.receiveSize)

def readsOf (content : Bytes) : List ReadOutcome :=
  readsWithin content.length content

def vainReads : List ReadOutcome :=
  List.replicate 2 (.failed (.numbered 11))

def deliver (machine : Machine) : Reaction → List ReadOutcome
  | .usual => readsOf (machine.usualAnswer machine.written)
  | .answer content staysOpen => readsOf content ++ if staysOpen then vainReads else []
  | .close => []
  | .hang => vainReads
  | .reset => [.failed (.numbered 104)]

def incoming (line : Line) : StateM Machine (List ReadOutcome) := do
  let machine ← get
  match line with
  | .broken | .stalled => return vainReads
  | .sound =>
      let reaction := machine.script.headD .usual
      let read := if reaction = .reset then [] else [machine.written]
      set { machine with
        script := machine.script.drop 1
        requests := machine.requests ++ read }
      return machine.deliver reaction

instance : Network Line Machine where
  connect := connect
  write := write
  incoming := incoming

/-- When the port file was last modified. -/
def fileStamp (machine : Machine) : Except SystemError Discovery.Stamp :=
  match machine.portFile with
  | .missing => .error (.numbered 2)
  | .misplaced => .error (.numbered 20)
  | .directory modified | .content modified _ => .ok modified

def fileContent (machine : Machine) : Except SystemError Bytes :=
  match machine.portFile with
  | .missing => .error (.numbered 2)
  | .misplaced => .error (.numbered 20)
  | .directory _ => .error (.numbered 21)
  | .content _ octets => .ok octets

instance : Host Machine where
  fileStamp _ := return (← get).fileStamp
  fileContent _ := return (← get).fileContent
  listeners _ := return (← get).listing
  processDirectory process := do
    let machine ← get
    return if process = machine.process then some machine.directory else none

end Machine

/-- A host name or address of the machine itself, in brackets or without. -/
def isOwnHost (host : String) : Bool :=
  let bare := host.toList.filter fun character => character != '[' && character != ']'
  match Net.Address.parse? (String.ofList bare) with
  | some (.v4 127 _ _ _) | some (.v4 0 0 0 0)
  | some (.v6 0 0 0 0 0 0 0 0) | some (.v6 0 0 0 0 0 0 0 1) => true
  | some _ => false
  | none => host == "localhost"

end EngineGateway.Rehearsal
