import EngineGateway.Engine.Session

/-!
# Questions to a connection

A subject is a connection by itself or a session over it.  Whatever can be
asked of either is a question; a question that a subject does not know is
answered with nothing.
-/

namespace EngineGateway.Rehearsal

open Engine

/-- A connection by itself, or a session over it. -/
inductive Subject (σ : Type) where
  | link (transport : σ)
  | session (attached : Session σ)

/-- What can be asked. -/
inductive Question where
  | sendUnits (units : List Bytes)
  | send (text : String)
  | isClosed
  | wantsReconnect
  | unitLimit
  | family
  | workingDirectory
  | handshake
  deriving Repr, DecidableEq

/-- What is told. -/
inductive Told where
  | nothing
  | reply (reply : Except Fault Reply)
  | response (response : Response)
  | truth (value : Bool)
  | limit (limit : Option Nat)
  | family (family : Family)
  | directory (directory : Option String)
  | identity (result : Except DiscoveryError Identity)
  deriving Repr

namespace Subject

variable {σ ω : Type} [Transport σ ω]

def askLink (transport : σ) : Question → StateM ω (Told × σ)
  | .sendUnits units => do
      let (reply, transport) ← Transport.sendUnits transport units
      return (.reply reply, transport)
  | .isClosed => do
      let (gone, transport) ← Transport.isClosed transport
      return (.truth gone, transport)
  | .unitLimit => return (.limit (← Transport.unitLimit transport), transport)
  | .family => return (.family (Transport.family ω transport), transport)
  | .workingDirectory =>
      return (.directory (← Transport.workingDirectory transport), transport)
  | .handshake => do
      let (result, transport) ← Transport.handshake transport
      return (.identity result, transport)
  | .send _ | .wantsReconnect => return (.nothing, transport)

def askSession (session : Session σ) : Question → StateM ω (Told × Session σ)
  | .send text => do
      let (response, session) ← session.send text
      return (.response response, session)
  | .isClosed => do
      let (gone, session) ← session.isClosed
      return (.truth gone, session)
  | .wantsReconnect => return (.truth session.reconnect, session)
  | _ => return (.nothing, session)

def ask (subject : Subject σ) (question : Question) : StateM ω (Told × Subject σ) := do
  match subject with
  | .link transport =>
      let (told, transport) ← askLink transport question
      return (told, .link transport)
  | .session attached =>
      let (told, attached) ← askSession attached question
      return (told, .session attached)

end Subject
end EngineGateway.Rehearsal
