import EngineGateway.BinaryFrame
import EngineGateway.Discovery.Policy
import EngineGateway.Engine.Identity
import EngineGateway.Engine.SystemError
import EngineGateway.Net.Address
import EngineGateway.Peer.Registry

/-!
# Names in scripts and reports

Scripts say what scripted engines do, and reports say what came of it.  Both
use one word for each kind of engine, fault or decision.
-/

namespace EngineGateway

namespace Rehearsal

def named? {α : Type} (names : List (String × α)) (name : String) : Option α :=
  names.lookup name

/-- The name of a value, empty if it has none. -/
def nameIn {α : Type} [BEq α] (names : List (String × α)) (value : α) : String :=
  ((names.find? (·.2 == value)).map Prod.fst).getD ""

end Rehearsal

open Rehearsal

namespace Engine

def Family.names : List (String × Family) :=
  [("Socket", .socket), ("SharedMemory", .sharedBuffer), ("Dde", .dde)]

def Family.name (family : Family) : String :=
  nameIn Family.names family

/-- Faults without a detail, by name. -/
def Fault.names : List (String × Fault) :=
  [("WouldBlock", .wouldBlock), ("ConnectionReset", .connectionReset),
   ("BrokenPipe", .brokenPipe), ("Interrupted", .interrupted),
   ("Timeout", .timeout), ("Refused", .refused), ("InvalidInput", .invalidInput),
   ("InvalidHandle", .invalidHandle), ("NotASocket", .notASocket),
   ("NotConnected", .notConnected), ("UnsupportedFlag", .unsupportedFlag),
   ("NotOpen", .notOpen), ("EngineExited", .engineExited)]

def Fault.name : Fault → String
  | .lock _ => "Lock"
  | .tooLong _ _ => "TooLong"
  | .other _ => "Other"
  | fault => nameIn Fault.names fault

def FaultClass.name : FaultClass → String
  | .transient => "Transient"
  | .timeout => "Timeout"
  | .rejected => "Rejected"
  | .fatal false => "Fatal"
  | .fatal true => "FatalReconnect"
  | .invariant => "Invariant"

def ErrorKind.names : List (String × ErrorKind) :=
  [("AddrInUse", .addressInUse), ("AddrNotAvailable", .addressNotAvailable),
   ("AlreadyExists", .alreadyExists), ("ArgumentListTooLong", .argumentListTooLong),
   ("BrokenPipe", .brokenPipe), ("ConnectionAborted", .connectionAborted),
   ("ConnectionRefused", .connectionRefused), ("ConnectionReset", .connectionReset),
   ("Deadlock", .deadlock), ("DirectoryNotEmpty", .directoryNotEmpty),
   ("ExecutableFileBusy", .executableFileBusy), ("FileTooLarge", .fileTooLarge),
   ("HostUnreachable", .hostUnreachable), ("Interrupted", .interrupted),
   ("InvalidData", .invalidData), ("InvalidInput", .invalidInput),
   ("IsADirectory", .isADirectory), ("NetworkDown", .networkDown),
   ("NetworkUnreachable", .networkUnreachable), ("NotADirectory", .notADirectory),
   ("NotConnected", .notConnected), ("NotFound", .notFound),
   ("NotSeekable", .notSeekable), ("Other", .other), ("OutOfMemory", .outOfMemory),
   ("PermissionDenied", .permissionDenied), ("QuotaExceeded", .quotaExceeded),
   ("ReadOnlyFilesystem", .readOnlyFilesystem), ("ResourceBusy", .resourceBusy),
   ("StaleNetworkFileHandle", .staleNetworkFileHandle), ("StorageFull", .storageFull),
   ("TimedOut", .timedOut), ("TooManyLinks", .tooManyLinks),
   ("UnexpectedEof", .unexpectedEnd), ("Unsupported", .unsupported),
   ("WouldBlock", .wouldBlock), ("WriteZero", .writeZero)]

def DiscoveryError.name : DiscoveryError → String
  | .discoveryFile _ => "DiscoveryFile"
  | .handshake _ => "Handshake"
  | .transport _ => "Transport"

end Engine

def FrameError.name : FrameError → String
  | .truncated _ => "Truncated"
  | .lengthMismatch _ _ => "LengthMismatch"
  | .invalidText => "InvalidText"
  | .payloadTooLarge _ => "PayloadTooLarge"

def Discovery.Decision.name : Discovery.Decision → String
  | .skip => "Skip"
  | .fresh => "Fresh"
  | .forcedReconnect => "ForcedReconnect"

def Net.Origin.name : Net.Origin → String
  | .localHost => "LocalHost"
  | .privateNetwork => "PrivateNetwork"
  | .linkLocal => "LinkLocal"
  | .uniqueLocal => "UniqueLocal"
  | .publicNetwork => "PublicNetwork"

def Peer.Refusal.name : Peer.Refusal → String
  | .originRejected _ => "OriginRejected"
  | .full _ => "Full"

end EngineGateway
