import EngineGateway.CommandLine.Launch
import EngineGateway.Toml.Document
import Std.Async.DNS
import Std.Async.Signal
import Std.Async.TCP

/-!
# The program

Collects what the command line, the environment and the settings file say,
opens the listener, and writes down what is to be reported.
-/

namespace EngineGateway

open CommandLine

/-- The values that the variables of the program have now. -/
def readEnvironment : IO Settings.Lookup := do
  let names := filterVariable :: Settings.Key.all.map Settings.Key.variable
  let values ← names.mapM fun name => do return (name, ← IO.getEnv name)
  return fun name => (values.lookup name).join

/-- The number of an error, zero if it has none. -/
def codeOf : IO.Error → UInt32
  | .alreadyExists _ code _ | .otherError code _ | .resourceBusy code _
  | .resourceVanished code _ | .unsupportedOperation code _ | .hardwareFault code _
  | .unsatisfiedConstraints code _ | .illegalOperation code _ | .protocolError code _
  | .timeExpired code _ | .interrupted _ code _ | .noFileOrDirectory _ code _
  | .invalidArgument _ code _ | .permissionDenied _ code _
  | .resourceExhausted _ code _ | .inappropriateType _ code _
  | .noSuchThing _ code _ => code
  | .unexpectedEof | .userError _ => 0

/-- The content of a file, or why it cannot be had. -/
def readContent (path : String) : IO (Except Engine.SystemError Bytes) := do
  try
    return .ok (← IO.FS.readBinFile path).toList
  catch error =>
    -- The number may come with its sign changed.
    let code := codeOf error
    return .error (.numbered (min code (0 - code)).toNat)

/-- The form in which the network takes an address. -/
def Net.Address.onNetwork : Net.Address → Std.Net.IPAddr
  | .v4 first second third fourth => .v4 (.ofParts first second third fourth)
  | .v6 first second third fourth fifth sixth seventh eighth =>
      .v6 (.ofParts first second third fourth fifth sixth seventh eighth)

/-- The addresses of a host name, or the address that the text itself is. -/
def addressesOf (host : String) : IO (List Std.Net.IPAddr) := do
  let bare := String.ofList (host.toList.filter fun character =>
    character != '[' && character != ']')
  match Net.Address.parse? bare with
  | some address => return [address.onNetwork]
  | none => return (← (Std.Async.DNS.getAddrInfo host "").block).toList

def endpointAt (port : UInt16) : Std.Net.IPAddr → Std.Net.SocketAddress
  | .v4 address => .v4 ⟨address, port⟩
  | .v6 address => .v6 ⟨address, port⟩

/-- How many connections may wait to be accepted. -/
def backlog : UInt32 := 1024

/-- Open a listener at one of the addresses of a host. -/
def listenAt (port : UInt16) : List Std.Net.IPAddr → IO (Option Std.Async.TCP.Socket.Server)
  | [] => return none
  | address :: others => do
      let listener ← Std.Async.TCP.Socket.Server.mk
      try
        listener.bind (endpointAt port address)
        listener.listen backlog
        return some listener
      catch _ => listenAt port others

/-- Open the listener that settings ask for, if it can be opened. -/
def openListener (settings : Settings) : IO (Option Std.Async.TCP.Socket.Server) := do
  try
    listenAt (UInt16.ofNat settings.port) (← addressesOf settings.bindAddress)
  catch _ => return none

def awaitInterrupt : IO Unit := do
  let waiter ← Std.Async.Signal.Waiter.mk .sigint false
  let _ ← (← waiter.wait).block

def usage : String :=
  let lines := Flag.all.map fun flag =>
    "  -" ++ flag.letter.toString ++ ", --" ++ flag.name ++ "  " ++ flag.purpose
  "Usage: bridge-server [OPTIONS]\n\nOptions:\n" ++ "\n".intercalate lines

/-- Write a report down.  What follows an open listener waits for an
interrupt. -/
def writeReport (report : Report) (isListening : Bool) : IO UInt32 := do
  let (before, after) := report.log.span (· != endingLine.text)
  before.forM (IO.println ·)
  (← IO.getStdout).flush
  if isListening then awaitInterrupt
  after.forM (IO.println ·)
  report.error.forM (IO.eprintln ·)
  return UInt32.ofNat report.exitCode

/-- A run with arguments that could be read. -/
def runWith (texts : List String) (arguments : Arguments) : IO UInt32 := do
  let environment ← readEnvironment
  let content ← readContent (arguments.config.getD "")
  let surroundings (canListen : Bool) : Surroundings :=
    ⟨fun _ => content, environment, fun _ _ => canListen⟩
  let listener ←
    match settingsFor Toml.parse? (surroundings true) arguments with
    | .error _ => pure none
    | .ok settings => openListener settings
  let report := launch Toml.parse? (surroundings listener.isSome) texts
  writeReport report listener.isSome

/-- Read the arguments and act on them. -/
def run (texts : List String) : IO UInt32 := do
  match CommandLine.read texts with
  | .misuse =>
      IO.eprintln usage
      return 2
  | .help =>
      IO.println usage
      return 0
  | .run arguments => runWith texts arguments

end EngineGateway

def main (texts : List String) : IO UInt32 :=
  EngineGateway.run texts
