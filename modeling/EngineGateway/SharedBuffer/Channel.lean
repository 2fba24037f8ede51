import EngineGateway.Engine.Transport
import EngineGateway.Script.Wire

/-!
# Engines behind a shared buffer

Some engines publish a buffer in shared memory together with a mutex.  A
request is written and the reply awaited while the mutex is held.  One request
is made for each unit of a message, and the mutex is held over all of them.
-/

namespace EngineGateway.SharedBuffer

open Engine

/-- Access to the buffer of one engine and to what guards it. -/
class Channel (γ ω : Type) where
  /-- Take the mutex. -/
  lock : γ → StateM ω (Except Fault Unit)
  /-- Give the mutex back. -/
  unlock : γ → StateM ω Unit
  /-- Octets that the buffer has room for. -/
  capacity : γ → ω → Nat
  /-- Write a request, signal the engine and wait for its reply. -/
  transact : γ → Bytes → StateM ω (Except Fault Bytes)
  /-- Whether the process that made the buffer is still running. -/
  creatorAlive : γ → StateM ω Bool
  workingDirectory : γ → StateM ω (Option String)

/-- A connection through a shared buffer. -/
structure Link (γ : Type) where
  channel : γ
  closed : Bool
  deriving Repr, DecidableEq

/-- White space at the start of a unit: space, tab, line feed, carriage return
or form feed. -/
def isLeadingSpace (octet : UInt8) : Bool :=
  octet == 0x20 || octet == 0x09 || octet == 0x0A || octet == 0x0D ||
    octet == 0x0C

/-- The unit installs a script instead of running one. -/
def isInstall (unit : Bytes) : Bool :=
  Script.installMark.isPrefixOf (unit.dropWhile isLeadingSpace)

def request (unit : Bytes) : Bytes :=
  if isInstall unit then unit else Script.executeMark ++ unit

namespace Link

variable {γ ω : Type}

def ofChannel (channel : γ) : Link γ :=
  ⟨channel, false⟩

/-- Room for a unit beside the mark in front of it and the NUL behind it. -/
def unitLimit [Channel γ ω] (link : Link γ) (world : ω) : Nat :=
  Channel.capacity link.channel world - (Script.executeMark.length + 1)

/-- Whether the connection is over, which it is once the engine has exited. -/
def isClosed [Channel γ ω] (link : Link γ) : StateM ω (Bool × Link γ) := do
  if link.closed then
    return (true, link)
  else
    let alive ← Channel.creatorAlive link.channel
    return (!alive, { link with closed := !alive })

/-- Make one request for each unit and join the replies. -/
def exchangeAll [Channel γ ω] (channel : γ) :
    List Bytes → StateM ω (Except Fault Bytes)
  | [] => return .ok []
  | unit :: rest => do
      match ← Channel.transact channel (request unit) with
      | .error fault => return .error fault
      | .ok first =>
          let others ← exchangeAll channel rest
          return others.map fun replies => first ++ replies

/-- Send units under the mutex.  A fatal fault of an exchange closes the
connection; a mutex that cannot be taken does not. -/
def sendUnits [Channel γ ω] (link : Link γ) (units : List Bytes) :
    StateM ω (Except Fault Reply × Link γ) := do
  let (gone, link) ← link.isClosed
  if gone then
    return (.error .engineExited, link)
  else if units.all List.isEmpty then
    return (.ok (.text []), link)
  else
    match ← Channel.lock link.channel with
    | .error fault => return (.error fault, link)
    | .ok () =>
        let result ← exchangeAll link.channel units
        Channel.unlock link.channel
        match result with
        | .ok reply => return (.ok (.text reply), link)
        | .error fault =>
            return (.error fault, { link with closed := link.closed || fault.isFatal })

instance [Channel γ ω] : Transport (Link γ) ω where
  family _ := .sharedBuffer
  unitLimit link := return some (link.unitLimit (← get))
  sendUnits := sendUnits
  isClosed := isClosed
  workingDirectory link := Channel.workingDirectory link.channel
  handshake link :=
    askVersion .sharedBuffer link.sendUnits fun link =>
      Channel.workingDirectory link.channel

end Link
end EngineGateway.SharedBuffer
