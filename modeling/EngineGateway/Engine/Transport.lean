import EngineGateway.Engine.Identity

/-!
# Transports

A transport carries the units of a message to an engine and brings back the
reply.  What a transport does may depend on, and change, the world `ω` around
it: the network, the shared memory, the other programs.  Its own state `σ` is
passed from call to call.
-/

namespace EngineGateway.Engine

/-- The reply to one message, in the code page of the engine. -/
inductive Reply where
  | text (content : Bytes)
  | binary (content : Bytes)
  deriving Repr, DecidableEq

def Reply.content : Reply → Bytes
  | .text content | .binary content => content

/-- Octets without the NULs with which an engine may have ended them. -/
def stripNuls (octets : Bytes) : Bytes :=
  (octets.reverse.dropWhile (· == 0)).reverse

/-- A way to reach an engine. -/
class Transport (σ ω : Type) where
  family : σ → Family
  /-- Largest unit taken in one exchange; without a limit messages are sent
  whole. -/
  unitLimit : σ → StateM ω (Option Nat)
  /-- Send the units of one message in order and join the replies. -/
  sendUnits : σ → List Bytes → StateM ω (Except Fault Reply × σ)
  /-- Whether the engine is known to be gone. -/
  isClosed : σ → StateM ω (Bool × σ)
  workingDirectory : σ → StateM ω (Option String)
  /-- Identify the engine right after connecting. -/
  handshake : σ → StateM ω (Except DiscoveryError Identity × σ)

/-- What a way of sending and a working directory make of the version query. -/
def askVersion {σ ω : Type} (family : Family)
    (sendUnits : List Bytes → StateM ω (Except Fault Reply × σ))
    (workingDirectory : σ → StateM ω (Option String)) :
    StateM ω (Except DiscoveryError Identity × σ) := do
  let (reply, transport) ← sendUnits [Text.CodePage.ofText versionQuery]
  match reply with
  | .error fault => return (.error (.transport fault), transport)
  | .ok reply =>
      let directory ← workingDirectory transport
      let text := Text.CodePage.toText reply.content
      return (Identity.ofVersionReply family text directory, transport)

end EngineGateway.Engine
