import EngineGateway.Discovery.Connector
import EngineGateway.Socket.Link

/-!
# Finding an engine by its port file

An engine writes the port of its scripting socket to a file.  The modification
time of the file tells whether the file has to be read again; one further
attempt at the known port may be due without that.
-/

namespace EngineGateway.Socket

open Engine Discovery

/-- Files and processes of the machine that the engine runs on. -/
class Host (ω : Type) where
  /-- When a file was last modified. -/
  fileStamp : String → StateM ω (Except SystemError Stamp)
  fileContent : String → StateM ω (Except SystemError Bytes)
  /-- The list of processes that listen on a port, if it can be had. -/
  listeners : Nat → StateM ω (Option Bytes)
  processDirectory : Nat → StateM ω (Option String)

/-- The file or directory does not exist. -/
def isMissing : SystemError → Bool
  | .numbered code => code == 2
  | .kinded kind _ => kind == .notFound

/-- The port that a port file names: its first word, a number above zero. -/
def portOf (text : String) : Except DiscoveryError Nat :=
  match Text.readNat Text.maxWord16 (Text.firstWord text) with
  | .ok (port + 1) => .ok (port + 1)
  | .ok 0 | .error _ => .error (.discoveryFile ("no port number in " ++ Text.quote text))

/-- The port that the content of a port file names. -/
def portOfContent : Except SystemError Bytes → Except DiscoveryError Nat
  | .error error => .error (.discoveryFile error.message)
  | .ok content =>
      match Text.Utf8.text? content with
      | none => .error (.discoveryFile SystemError.notText.message)
      | some text => portOf text

variable {κ ω : Type}

/-- The working directory of the first process that listens on a port. -/
def directoryOf [Host ω] (port : Nat) : StateM ω (Option String) := do
  match ← Host.listeners port with
  | none => return none
  | some listing =>
      match Text.readNat Text.maxWord32 (Text.firstWord (Text.Utf8.repair listing)) with
      | .error _ => return none
      | .ok process => Host.processDirectory process

/-- Looks for an engine through its port file. -/
structure Finder where
  file : String
  host : Net.Address
  patience : Patience
  /-- The port that was read last. -/
  knownPort : Option Nat
  deriving Repr, DecidableEq

namespace Finder

/-- The port to try, and the finder that remembers it. -/
def choosePort [Host ω] (finder : Finder) (decision : Decision) :
    StateM ω (Except DiscoveryError (Option Nat) × Finder) := do
  match decision, finder.knownPort with
  | .skip, _ => return (.ok none, finder)
  | .forcedReconnect, some port => return (.ok (some port), finder)
  | _, _ =>
      match portOfContent (← Host.fileContent finder.file) with
      | .error error => return (.error error, finder)
      | .ok port => return (.ok (some port), { finder with knownPort := some port })

/-- Attach to the engine behind a port.  An engine that refuses or does not
answer in time is not there. -/
def attach [Network κ ω] [Host ω] (finder : Finder) (port : Nat) :
    StateM ω (Attempt Link) := do
  let directory ← directoryOf port
  let link : Link := ⟨⟨finder.host, port⟩, finder.patience, directory, false⟩
  match ← Session.attach link with
  | .ok session => return .ok (some session)
  | .error (.transport .refused) | .error (.transport .timeout) => return .ok none
  | .error error => return .error error

/-- Make one attempt.  Only a success makes the policy remember the
modification time. -/
def discover [Network κ ω] [Host ω] (finder : Finder) (policy : Policy) :
    StateM ω (Attempt Link × Finder × Policy) := do
  match ← Host.fileStamp finder.file with
  | .error error =>
      let attempt :=
        if isMissing error then .ok none
        else .error (.discoveryFile error.message)
      return (attempt, finder, policy)
  | .ok stamp =>
      let (decision, policy) := policy.judge stamp
      let (chosen, finder) ← finder.choosePort decision
      match chosen with
      | .error error => return (.error error, finder, policy)
      | .ok none => return (.ok none, finder, policy)
      | .ok (some port) =>
          match ← finder.attach port with
          | .ok (some session) =>
              return (.ok (some session), finder, policy.recordSuccess stamp)
          | other => return (other, finder, policy)

instance [Network κ ω] [Host ω] : Connector Finder Link ω where
  discover := discover

end Finder
end EngineGateway.Socket
