import EngineGateway.Engine.Retry
import EngineGateway.Engine.SystemError
import EngineGateway.Net.Address
import EngineGateway.Script.Wire

/-!
# One exchange over a scripting socket

A connection carries one unit.  The unit is written with the flush mark behind
it, and then the reply is read until a read comes back shorter than it could
have been.

Writes may take less than they are offered or may stall.  What a connection
delivers is a list of read outcomes; behind its end the far side has closed,
and reads deliver nothing.
-/

namespace EngineGateway.Socket

open Engine

/-- Where a scripting socket listens. -/
structure Endpoint where
  host : Net.Address
  port : Nat
  deriving Repr, DecidableEq

/-- How long to wait for a connection and for a single read or write, in
milliseconds. -/
structure Patience where
  connect : Nat
  transfer : Nat
  deriving Repr, DecidableEq

/-- What a single read comes to. -/
inductive ReadOutcome where
  | data (content : Bytes)
  | failed (error : SystemError)
  deriving Repr, DecidableEq

/-- Connections to scripting sockets. -/
class Network (κ : outParam Type) (ω : Type) where
  connect : Endpoint → Patience → StateM ω (Except SystemError κ)
  /-- Offer octets; the answer is how many of them were taken. -/
  write : κ → Bytes → StateM ω (Except SystemError Nat)
  /-- What the reads to come deliver, once everything is written. -/
  incoming : κ → StateM ω (List ReadOutcome)

variable {κ ω : Type}

/-! ## Writing -/

/-- Write octets to the end.  Stalls are waited out while `retries` last, and a
write that takes nothing means that the far side is gone. -/
def writeAll [Network κ ω] (connection : κ) (retries : Nat) (remaining : Bytes) :
    StateM ω (Except Fault Unit) :=
  if remaining.isEmpty then
    return .ok ()
  else do
    match ← Network.write connection remaining with
    | .ok 0 => return .error .brokenPipe
    | .ok (taken + 1) => writeAll connection retries (remaining.drop (taken + 1))
    | .error error =>
        let fault := Fault.ofSystemError error
        match fault.faultClass, retries with
        | .transient, left + 1 => writeAll connection left remaining
        | _, _ => return .error fault
  termination_by retries + remaining.length
  decreasing_by
    · simp only [List.length_drop]
      have : remaining.length ≠ 0 := by simp_all
      omega
    · omega

def framed (unit : Bytes) : Bytes :=
  unit ++ Script.flushMark

/-! ## Reading -/

/-- The fault of a failed read.  Some systems report a timeout as an operation
that would block. -/
def readFault (error : SystemError) : Fault :=
  match Fault.ofSystemError error with
  | .wouldBlock => .timeout
  | fault => fault

def readOnce : StateM (List ReadOutcome) (Except Fault Bytes) := fun incoming =>
  match incoming with
  | [] => (.ok [], [])
  | .data content :: rest => (.ok content, rest)
  | .failed error :: rest => (.error (readFault error), rest)

theorem retryWithin_readOnce_length (budget : Budget)
    (incoming : List ReadOutcome) (content : Bytes) (rest : List ReadOutcome)
    (read : retryWithin budget readOnce incoming = (.ok content, rest))
    (found : content ≠ []) : rest.length < incoming.length := by
  induction incoming generalizing budget with
  | nil =>
      unfold retryWithin readOnce at read
      simp only [Prod.mk.injEq, Except.ok.injEq] at read
      exact absurd read.1.symm found
  | cons outcome later ih =>
      cases outcome with
      | data delivered =>
          unfold retryWithin readOnce at read
          simp only [Prod.mk.injEq] at read
          simp [← read.2]
      | failed error =>
          unfold retryWithin readOnce at read
          simp only at read
          split at read
          · simp at read
          · have shorter := ih _ read
            simp only [List.length_cons]
            omega

/-- Read a reply to its end after the octets already read. -/
def readReply (reply : Bytes) (incoming : List ReadOutcome) :
    Except Fault Bytes :=
  match read : withRetries readOnce incoming with
  | (.error fault, _) => .error fault
  | (.ok content, rest) =>
      if full : content.length < Script.receiveSize then .ok (reply ++ content)
      else
        have := retryWithin_readOnce_length Budget.full incoming content rest read
          fun nothing => by simp [nothing, Script.receiveSize] at full
        readReply (reply ++ content) rest
  termination_by incoming.length

/-! ## The exchange -/

/-- Send one unit over a connection of its own and read the reply.  Waiting for
no time at all is refused by the system. -/
def exchange [Network κ ω] (endpoint : Endpoint) (patience : Patience)
    (unit : Bytes) : StateM ω (Except Fault Bytes) := do
  match ← Network.connect endpoint patience with
  | .error error => return .error (.ofSystemError error)
  | .ok connection =>
      if patience.transfer = 0 then
        return .error (.ofSystemError (.kinded .invalidInput none))
      else
        match ← writeAll connection maxTransientRetries (framed unit) with
        | .error fault => return .error fault
        | .ok () => return readReply [] (← Network.incoming connection)

end EngineGateway.Socket
