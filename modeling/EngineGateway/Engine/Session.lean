import EngineGateway.Engine.Response
import EngineGateway.Engine.Transport
import EngineGateway.Script.Spacing
import EngineGateway.Script.Unit

/-!
# Sessions

A session is a transport together with the identity of the engine behind it.
It turns a script into units and the reply into a response.  Failures come back
as error responses; a fatal one closes the session for good, and a broken pipe
leaves the wish to connect again.
-/

namespace EngineGateway.Engine

/-- An attached engine. -/
structure Session (σ : Type) where
  transport : σ
  identity : Identity
  closed : Bool
  /-- The session ended in a way that asks for one immediate new attempt. -/
  reconnect : Bool
  deriving Repr

/-- The octets that a script is sent as. -/
def scriptBytes (identity : Identity) (text : String) : Bytes :=
  let octets := Text.CodePage.ofText text
  if identity.isDde then Script.normalizeSpacing .bracketed octets else octets

/-- The units that octets are sent as.  A unit over the limit is refused. -/
def planUnits (limit : Option Nat) (octets : Bytes) :
    Except Fault (List Bytes) :=
  match limit with
  | none => .ok [octets]
  | some limit =>
      let units := Script.units limit octets
      match units.find? fun unit => limit < unit.length with
      | some unit => .error (.tooLong unit.length limit)
      | none => .ok units

namespace Session

variable {σ ω : Type}

def attach [Transport σ ω] (transport : σ) :
    StateM ω (Except DiscoveryError (Session σ)) := do
  let (identity, transport) ← Transport.handshake transport
  return identity.map fun identity => ⟨transport, identity, false, false⟩

/-- Whether the session is over.  An open session asks its transport. -/
def isClosed [Transport σ ω] (session : Session σ) :
    StateM ω (Bool × Session σ) := do
  if session.closed then
    return (true, session)
  else
    let (gone, transport) ← Transport.isClosed session.transport
    return (gone, { session with transport := transport, closed := gone })

/-- The response to a fault, and what the fault does to the session. -/
def fail (session : Session σ) (fault : Fault) : Response × Session σ :=
  let session :=
    match fault.faultClass with
    | .fatal reconnect => { session with closed := true, reconnect := reconnect }
    | .invariant => { session with closed := true }
    | .transient | .timeout | .rejected => session
  (.error fault.message, session)

def respond : Reply → Response
  | .binary content => .binary content
  | .text content => .text (Text.CodePage.readReply content)

def send [Transport σ ω] (session : Session σ) (text : String) :
    StateM ω (Response × Session σ) := do
  let octets := scriptBytes session.identity text
  if session.closed then
    return (.error Fault.notOpen.message, session)
  else if octets.isEmpty then
    return (.empty, session)
  else
    let limit ← Transport.unitLimit session.transport
    match planUnits limit octets with
    | .error fault => return session.fail fault
    | .ok units =>
        let (reply, transport) ← Transport.sendUnits session.transport units
        let session := { session with transport := transport }
        match reply with
        | .error fault => return session.fail fault
        | .ok reply => return (respond reply, session)

end Session
end EngineGateway.Engine
