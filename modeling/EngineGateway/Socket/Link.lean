import EngineGateway.Engine.Transport
import EngineGateway.Socket.Network

/-!
# Engines behind a scripting socket

Each unit of a message goes over a connection of its own.  The first unit that
fails ends the message, and a fatal fault closes the link for good.
-/

namespace EngineGateway.Socket

open Engine

/-- A way to a scripting socket. -/
structure Link where
  endpoint : Endpoint
  patience : Patience
  directory : Option String
  closed : Bool
  deriving Repr, DecidableEq

namespace Link

variable {κ ω : Type}

/-- Exchange units in order and join the replies after `joined`. -/
def exchangeOnto [Network κ ω] (link : Link) (joined : Bytes) :
    List Bytes → StateM ω (Except Fault Reply × Link)
  | [] => return (.ok (.text joined), link)
  | unit :: rest => do
      match ← exchange link.endpoint link.patience unit with
      | .error fault =>
          return (.error fault, { link with closed := link.closed || fault.isFatal })
      | .ok reply => exchangeOnto link (joined ++ reply) rest

/-- Send units.  A closed link sends nothing. -/
def sendUnits [Network κ ω] (link : Link) (units : List Bytes) :
    StateM ω (Except Fault Reply × Link) :=
  if link.closed then return (.error .notOpen, link)
  else link.exchangeOnto [] units

instance [Network κ ω] : Transport Link ω where
  family _ := .socket
  unitLimit _ := return some Script.socketUnitLimit
  sendUnits := sendUnits
  isClosed link := return (link.closed, link)
  workingDirectory link := return link.directory
  handshake link :=
    askVersion .socket link.sendUnits fun link => return link.directory

end Link
end EngineGateway.Socket
