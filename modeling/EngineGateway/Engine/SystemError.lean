import EngineGateway.Engine.Fault

/-!
# Errors of the operating system

What the system reports when a socket or a file fails: a numbered error, or a
kind of error without a number.  Socket code turns these into faults; the
discovery file reports their wording.
-/

namespace EngineGateway.Engine

/-- Kinds of system errors. -/
inductive ErrorKind where
  | addressInUse
  | addressNotAvailable
  | alreadyExists
  | argumentListTooLong
  | brokenPipe
  | connectionAborted
  | connectionRefused
  | connectionReset
  | deadlock
  | directoryNotEmpty
  | executableFileBusy
  | fileTooLarge
  | hostUnreachable
  | interrupted
  | invalidData
  | invalidInput
  | isADirectory
  | networkDown
  | networkUnreachable
  | notADirectory
  | notConnected
  | notFound
  | notSeekable
  | other
  | outOfMemory
  | permissionDenied
  | quotaExceeded
  | readOnlyFilesystem
  | resourceBusy
  | staleNetworkFileHandle
  | storageFull
  | timedOut
  | tooManyLinks
  | unexpectedEnd
  | unsupported
  | wouldBlock
  | writeZero
  deriving Repr, DecidableEq

/-- The wording of a kind of error that comes without any text. -/
def ErrorKind.description : ErrorKind → String
  | addressInUse => "address in use"
  | addressNotAvailable => "address not available"
  | alreadyExists => "entity already exists"
  | argumentListTooLong => "argument list too long"
  | brokenPipe => "broken pipe"
  | connectionAborted => "connection aborted"
  | connectionRefused => "connection refused"
  | connectionReset => "connection reset"
  | deadlock => "deadlock"
  | directoryNotEmpty => "directory not empty"
  | executableFileBusy => "executable file busy"
  | fileTooLarge => "file too large"
  | hostUnreachable => "host unreachable"
  | interrupted => "operation interrupted"
  | invalidData => "invalid data"
  | invalidInput => "invalid input parameter"
  | isADirectory => "is a directory"
  | networkDown => "network down"
  | networkUnreachable => "network unreachable"
  | notADirectory => "not a directory"
  | notConnected => "not connected"
  | notFound => "entity not found"
  | notSeekable => "seek on unseekable file"
  | other => "other error"
  | outOfMemory => "out of memory"
  | permissionDenied => "permission denied"
  | quotaExceeded => "quota exceeded"
  | readOnlyFilesystem => "read-only filesystem or storage medium"
  | resourceBusy => "resource busy"
  | staleNetworkFileHandle => "stale network file handle"
  | storageFull => "no storage space"
  | timedOut => "timed out"
  | tooManyLinks => "too many links"
  | unexpectedEnd => "unexpected end of file"
  | unsupported => "unsupported"
  | wouldBlock => "operation would block"
  | writeZero => "write zero"

/-- A failed system call. -/
inductive SystemError where
  /-- An error number of the system. -/
  | numbered (code : Nat)
  /-- A kind of error, with a text of its own or without. -/
  | kinded (kind : ErrorKind) (text : Option String)
  deriving Repr, DecidableEq

namespace SystemError

/-- The system's text for an error number. -/
def numberText : Nat → String
  | 1 => "Operation not permitted"
  | 2 => "No such file or directory"
  | 3 => "No such process"
  | 4 => "Interrupted system call"
  | 5 => "Input/output error"
  | 6 => "No such device or address"
  | 7 => "Argument list too long"
  | 8 => "Exec format error"
  | 9 => "Bad file descriptor"
  | 10 => "No child processes"
  | 11 => "Resource temporarily unavailable"
  | 12 => "Cannot allocate memory"
  | 13 => "Permission denied"
  | 14 => "Bad address"
  | 16 => "Device or resource busy"
  | 17 => "File exists"
  | 18 => "Invalid cross-device link"
  | 19 => "No such device"
  | 20 => "Not a directory"
  | 21 => "Is a directory"
  | 22 => "Invalid argument"
  | 23 => "Too many open files in system"
  | 24 => "Too many open files"
  | 27 => "File too large"
  | 28 => "No space left on device"
  | 29 => "Illegal seek"
  | 30 => "Read-only file system"
  | 31 => "Too many links"
  | 32 => "Broken pipe"
  | 36 => "File name too long"
  | 39 => "Directory not empty"
  | 40 => "Too many levels of symbolic links"
  | 71 => "Protocol error"
  | 88 => "Socket operation on non-socket"
  | 90 => "Message too long"
  | 91 => "Protocol wrong type for socket"
  | 92 => "Protocol not available"
  | 93 => "Protocol not supported"
  | 94 => "Socket type not supported"
  | 95 => "Operation not supported"
  | 97 => "Address family not supported by protocol"
  | 98 => "Address already in use"
  | 99 => "Cannot assign requested address"
  | 100 => "Network is down"
  | 101 => "Network is unreachable"
  | 102 => "Network dropped connection on reset"
  | 103 => "Software caused connection abort"
  | 104 => "Connection reset by peer"
  | 105 => "No buffer space available"
  | 106 => "Transport endpoint is already connected"
  | 107 => "Transport endpoint is not connected"
  | 108 => "Cannot send after transport endpoint shutdown"
  | 110 => "Connection timed out"
  | 111 => "Connection refused"
  | 112 => "Host is down"
  | 113 => "No route to host"
  | 114 => "Operation already in progress"
  | 115 => "Operation now in progress"
  | code => "Unknown error " ++ toString code

def message : SystemError → String
  | numbered code => numberText code ++ " (os error " ++ toString code ++ ")"
  | kinded kind none => kind.description
  | kinded _ (some text) => text

def noSuchFile : SystemError := .numbered 2

/-- A file whose content is not text. -/
def notText : SystemError :=
  .kinded .invalidData (some "stream did not contain valid UTF-8")

end SystemError

namespace Fault

/-- The fault of a kind of error, if it has one of its own. -/
def ofKind? : ErrorKind → Option Fault
  | .wouldBlock => some .wouldBlock
  | .timedOut => some .timeout
  | .connectionReset | .connectionAborted => some .connectionReset
  | .brokenPipe => some .brokenPipe
  | .interrupted => some .interrupted
  | .connectionRefused => some .refused
  | .notConnected => some .notConnected
  | .invalidInput => some .invalidInput
  | _ => none

/-- The fault of an error number, if it has one of its own. -/
def ofNumber? : Nat → Option Fault
  | 4 => some .interrupted
  | 9 => some .invalidHandle
  | 11 => some .wouldBlock
  | 22 => some .invalidInput
  | 32 => some .brokenPipe
  | 88 => some .notASocket
  | 95 => some .unsupportedFlag
  | 103 | 104 => some .connectionReset
  | 107 => some .notConnected
  | 110 => some .timeout
  | 111 => some .refused
  | _ => none

/-- The fault that a system error amounts to. -/
def ofSystemError (error : SystemError) : Fault :=
  match error with
  | .numbered code => (ofNumber? code).getD (.other error.message)
  | .kinded kind _ => (ofKind? kind).getD (.other error.message)

end Fault
end EngineGateway.Engine
