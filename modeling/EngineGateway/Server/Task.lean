import EngineGateway.Engine.Mailbox
import EngineGateway.Peer.Registry

/-!
# The task of a peer

Every client and every relay has a task, which starts with the handshake and
then does two things side by side.  The reader takes the frames of the far end
one at a time and finishes with one before it takes the next.  The writer takes
the frames that are queued for the peer and puts them on the wire in order; a
close frame is the last one.
-/

namespace EngineGateway.Server

open Peer

/-- What the reader of a peer is about. -/
inductive Reading where
  /-- It waits for a frame of the far end. -/
  | ready
  /-- It is about to hand a script to the session with a given number. -/
  | holding (session : Nat) (text : String)
  /-- It waits for the answer with a given ticket. -/
  | waiting (ticket : Nat)
  /-- It is about to queue the answer to a frame, if there is one. -/
  | replying (frame : Option Frame)
  | ended
  deriving Repr, DecidableEq

/-- What the writer of a peer is about. -/
inductive Writing where
  | running
  /-- Nothing more is written. -/
  | finishing
  /-- The frames that are queued are no longer taken. -/
  | ended
  deriving Repr, DecidableEq

/-- The task of a client or a relay that has not finished. -/
structure Task where
  peer : PeerId
  /-- What is to be connected, if this is a relay. -/
  relay : Option RelayRequest
  /-- The handshake is over. -/
  isOpen : Bool
  reading : Reading
  writing : Writing
  /-- Frames that are queued and not yet written. -/
  queue : List Frame
  deriving Repr, DecidableEq

namespace Task

/-- A task that starts with the handshake. -/
def start (peer : PeerId) (relay : Option RelayRequest) : Task :=
  ⟨peer, relay, false, .ready, .running, []⟩

/-- Queue the frames that are meant for the peer, while they are taken. -/
def enqueue (sent : List Delivery) (task : Task) : Task :=
  if task.writing = .ended then task
  else
    let own := (sent.filter (·.peer == task.peer)).map Delivery.frame
    { task with queue := task.queue ++ own }

/-- Take the answer with a ticket if the reader waits for it. -/
def accept (answers : List Engine.Ticketed) (task : Task) : Task :=
  match task.reading with
  | .waiting ticket =>
      match answers.find? (·.ticket == ticket) with
      | some ⟨_, .response response⟩ =>
          { task with reading := .replying (Frame.ofResponse? response) }
      | some ⟨_, .outcome _⟩ | none => task
  | .ready | .holding _ _ | .replying _ | .ended => task

end Task
end EngineGateway.Server
