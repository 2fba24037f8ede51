/-!
# Faults of an exchange with an engine

Every way in which one exchange can fail, how each failure is worded, and what
it means for the connection: try again, give up on this request, or give up on
the engine.
-/

namespace EngineGateway.Engine

/-- Why an exchange failed. -/
inductive Fault where
  | wouldBlock
  | connectionReset
  /-- The far end went away while it was being written to. -/
  | brokenPipe
  | interrupted
  | timeout
  | refused
  | invalidInput
  | invalidHandle
  | notASocket
  | notConnected
  | unsupportedFlag
  /-- An earlier failure has closed the connection. -/
  | notOpen
  | engineExited
  | lock (reason : String)
  | tooLong (length limit : Nat)
  | other (reason : String)
  deriving Repr, DecidableEq

/-- What a fault means for the connection. -/
inductive FaultClass where
  /-- Try the same operation again, a bounded number of times. -/
  | transient
  /-- Try to receive once more, then give up on the request. -/
  | timeout
  /-- The request fails and the connection stays usable. -/
  | rejected
  /-- The connection is dead; `reconnect` asks for one immediate new attempt. -/
  | fatal (reconnect : Bool)
  /-- The connection is in a state that should not occur. -/
  | invariant
  deriving Repr, DecidableEq

namespace Fault

def message : Fault → String
  | wouldBlock => "operation would block"
  | connectionReset => "Connection reset by host"
  | brokenPipe => "Connection reset by peer"
  | interrupted => "Caught signal"
  | timeout => "timed out waiting for the engine"
  | refused => "Connection refused"
  | invalidInput => "No out of band data available"
  | invalidHandle => "socket not a valid file descriptor"
  | notASocket => "socket not a socket"
  | notConnected => "socket not connected"
  | unsupportedFlag => "flags not supported"
  | notOpen => "Port is not open."
  | engineExited => "Engine is closed."
  | lock reason => "Failed to lock engine mutex. (" ++ reason ++ ")"
  | tooLong length limit =>
      "message is too long! " ++ toString length ++ " vs " ++ toString limit
  | other reason => reason

/-- The class of a fault.  Only a broken pipe asks for a new attempt. -/
def faultClass : Fault → FaultClass
  | wouldBlock => .transient
  | timeout => .timeout
  | lock _ | tooLong _ _ => .rejected
  | brokenPipe => .fatal true
  | connectionReset | interrupted | refused | invalidInput | notOpen
  | engineExited | other _ => .fatal false
  | invalidHandle | notASocket | notConnected | unsupportedFlag => .invariant

theorem faultClass_eq_transient {fault : Fault} :
    fault.faultClass = .transient ↔ fault = .wouldBlock := by
  cases fault <;> simp [faultClass]

def isFatal (fault : Fault) : Bool :=
  match fault.faultClass with
  | .fatal _ | .invariant => true
  | .transient | .timeout | .rejected => false

/-- The fault asks for one immediate new attempt. -/
def wantsReconnect (fault : Fault) : Bool :=
  fault.faultClass == .fatal true

end Fault
end EngineGateway.Engine
