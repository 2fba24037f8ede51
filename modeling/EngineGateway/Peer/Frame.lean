import EngineGateway.Engine.Response

/-!
# Frames for peers

What is queued for a peer and written to its websocket in the order of
queueing.  A close frame is the last one that is written.
-/

namespace EngineGateway.Peer

/-- Identifies a peer for the life of the gateway. -/
abbrev PeerId := Nat

/-- A frame for a peer. -/
inductive Frame where
  | text (content : String)
  | binary (content : Bytes)
  | close (code : UInt16) (reason : String)
  deriving Repr, DecidableEq

/-- Close code that reports an error of the engine. -/
def protocolErrorCode : UInt16 := 1002

namespace Frame

def isClose : Frame → Bool
  | close _ _ => true
  | text _ | binary _ => false

/-- The frame that passes a response on.  An error closes the connection, and
an empty response is not passed on. -/
def ofResponse? : Engine.Response → Option Frame
  | .error reason => some (.close protocolErrorCode reason)
  | .text content => if content.isEmpty then none else some (.text content)
  | .binary content => if content.isEmpty then none else some (.binary content)

end Frame

/-- A frame queued for a peer. -/
structure Delivery where
  peer : PeerId
  frame : Frame
  deriving Repr, DecidableEq

end EngineGateway.Peer
