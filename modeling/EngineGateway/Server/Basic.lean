import EngineGateway.Gateway.Basic
import EngineGateway.Server.Handshake
import EngineGateway.Server.Task

/-!
# The server

The server runs the tasks of all peers beside each other and beside the engine.
What each of them does is cut into events, and between any two events of one
task anything else may happen.  An event that cannot happen now changes
nothing, so every list of events is a possible history.

No event takes both the slot of the session and the registry, nor the registry
twice.  So an engine comes and goes in two events each, its output is followed
line by line, and the peers behind a relay that failed are collected later.

An attached session has a number, the number of sessions before it.  Sessions
that have been withdrawn stay where they are, because readers may still hold
scripts for them.
-/

namespace EngineGateway.Server

open Engine Peer Gateway

/-- One thing that happens. -/
inductive Event (σ : Type) where
  /-- The request of a client arrives. -/
  | knocks (knock : Knock)
  /-- The handshake of a peer is over: it is answered, or the relay is
  connected. -/
  | opens (peer : PeerId)
  /-- The handshake of a peer fails after it was admitted. -/
  | fails (peer : PeerId)
  /-- A text frame of the far end arrives. -/
  | receivesText (peer : PeerId) (text : String)
  /-- A binary frame of the far end arrives. -/
  | receivesBinary (peer : PeerId) (octets : Bytes)
  /-- The reader hands the script that it holds to the session. -/
  | submits (peer : PeerId)
  /-- The reader queues the answer to a frame. -/
  | replies (peer : PeerId)
  /-- The far end closes or breaks off. -/
  | hearsEnd (peer : PeerId)
  /-- The first queued frame is put on the wire. -/
  | writes (peer : PeerId)
  /-- Writing a frame fails. -/
  | failsToWrite (peer : PeerId)
  /-- The writer ends, because it has written a close frame, has failed, or has
  nothing left to write for a peer that is no longer tracked. -/
  | stopsWriting (peer : PeerId)
  /-- The task no longer waits for its writer. -/
  | abandonsWriter (peer : PeerId)
  /-- The task of a peer whose reader and writer have ended is over. -/
  | finishes (peer : PeerId)
  /-- The first letter to a session is worked off. -/
  | works (session : Nat)
  /-- An errand for a session comes from elsewhere than a reader. -/
  | asks (session : Nat) (errand : Errand)
  /-- A session is told to stop. -/
  | shutsDown (session : Nat)
  /-- A session is published in place of the one before it. -/
  | publishes (session : Session σ)
  /-- The registry is told of an engine. -/
  | announces (engine : Identity)
  /-- The session that is published is withdrawn. -/
  | withdraws
  /-- The registry is told that the engine is gone. -/
  | parts
  /-- A line of the engine's output is followed. -/
  | follows (line : String)
  /-- Peers whose lineage has ended are collected. -/
  | collects
  deriving Repr

/-- What an event shows outside the tasks. -/
structure Trace where
  reception : Option Reception := none
  /-- Frames that were queued. -/
  queued : List Delivery := []
  /-- Frames that were put on the wire. -/
  written : List Delivery := []
  /-- Peers whose connection was closed without a close frame. -/
  hungUp : List PeerId := []
  /-- Answers of sessions to letters that came from elsewhere or from
  readers. -/
  answers : List Ticketed := []
  log : List LogLine := []
  deriving Repr, DecidableEq

/-- Traces of two events one after the other; the later reception is kept. -/
def Trace.append (first second : Trace) : Trace :=
  ⟨second.reception <|> first.reception, first.queued ++ second.queued,
   first.written ++ second.written, first.hungUp ++ second.hungUp,
   first.answers ++ second.answers, first.log ++ second.log⟩

instance : Append Trace := ⟨Trace.append⟩

end EngineGateway.Server

namespace EngineGateway

open Engine Peer Gateway Server

/-- The gateway with the tasks of its peers. -/
structure Server (σ : Type) where
  gateway : Gateway σ
  /-- Sessions that have been withdrawn, the first one first. -/
  retired : List (Mailbox σ)
  tasks : List Server.Task
  /-- The ticket that the next errand gets. -/
  nextTicket : Nat
  /-- Headers that name the scheme of the client are believed. -/
  trustsForwarded : Bool
  deriving Repr

namespace Server

variable {σ ω : Type}

/-- A server without peers and without an engine. -/
def empty (maxPeers : Nat) (trustsForwarded : Bool) : Server σ :=
  ⟨Gateway.empty maxPeers, [], [], 0, trustsForwarded⟩

def registry (server : Server σ) : Registry :=
  server.gateway.registry

def withRegistry (server : Server σ) (registry : Registry) : Server σ :=
  { server with gateway := { server.gateway with registry := registry } }

def task? (server : Server σ) (peer : PeerId) : Option Task :=
  server.tasks.find? (·.peer == peer)

def updateTask (server : Server σ) (peer : PeerId) (change : Task → Task) : Server σ :=
  { server with
    tasks := server.tasks.map fun task =>
      if task.peer = peer then change task else task }

/-- The task of a peer is over. -/
def dropTask (server : Server σ) (peer : PeerId) : Server σ :=
  { server with tasks := server.tasks.filter (·.peer != peer) }

def mailbox? (server : Server σ) (session : Nat) : Option (Mailbox σ) :=
  if session = server.retired.length then server.gateway.session
  else server.retired[session]?

/-- Change the session with a given number. -/
def setMailbox (server : Server σ) (session : Nat) (mailbox : Mailbox σ) : Server σ :=
  if session = server.retired.length then
    { server with gateway := { server.gateway with session := some mailbox } }
  else
    { server with retired := server.retired.set session mailbox }

/-- Let effects reach the tasks: frames are queued, and relays start tasks of
their own.  A relay has its task before the first frame is queued for it. -/
def spread (server : Server σ) (effects : Effects) : Trace × Server σ :=
  let started := effects.relays.map fun request => Task.start request.id (some request)
  let tasks := (server.tasks ++ started).map (Task.enqueue effects.sent)
  ({ queued := effects.sent, log := effects.log }, { server with tasks := tasks })

/-- Let answers reach the readers that wait for them. -/
def hand (server : Server σ) (answers : List Ticketed) : Trace × Server σ :=
  ({ answers := answers },
   { server with tasks := server.tasks.map (Task.accept answers) })

/-! ## Handshakes -/

def answerKnock (server : Server σ) (knock : Knock) : Trace × Server σ :=
  let (reception, registry) := receive server.registry server.trustsForwarded knock
  let started :=
    match reception with
    | .admitted id _ => [Task.start id none]
    | .refused _ => []
  ({ reception := some reception },
   { server.withRegistry registry with tasks := server.tasks ++ started })

/-- The handshake of a peer is over. -/
def openPeer (server : Server σ) (task : Task) : Trace × Server σ :=
  let (sent, registry) := server.registry.markOpen task.peer
  let opened := (server.withRegistry registry).updateTask task.peer fun task =>
    { task with isOpen := true }
  opened.spread { sent := sent }

/-- The handshake of a peer fails, and the registry forgets the peer. -/
def failPeer (server : Server σ) (peer : PeerId) : Server σ :=
  (server.withRegistry (server.registry.release peer)).dropTask peer

/-! ## Letters -/

/-- Put a letter into the mailbox of a session. -/
def post (server : Server σ) (session : Nat) (mailbox : Mailbox σ) (letter : Letter) :
    Trace × Server σ :=
  let (turnedAway, mailbox) := mailbox.post letter
  (server.setMailbox session mailbox).hand turnedAway

/-- Put an errand into the mailbox of a session, under a ticket of its own. -/
def postErrand (server : Server σ) (session : Nat) (mailbox : Mailbox σ)
    (errand : Errand) : Trace × Server σ :=
  let ticket := server.nextTicket
  { server with nextTicket := ticket + 1 }.post session mailbox (.errand ticket errand)

/-! ## Readers -/

/-- What the reader does with a text frame. -/
def takeText (server : Server σ) (text : String) : Reading :=
  match server.gateway.session with
  | none => .replying (Frame.ofResponse? (.error noEngine))
  | some _ => .holding server.retired.length text

/-- The reader deals with a binary frame on the spot. -/
def takeBinary (server : Server σ) (peer : PeerId) (octets : Bytes) : Trace × Server σ :=
  let (reply, effects, registry) := handleBinary server.registry peer octets
  let taken := (server.withRegistry registry).updateTask peer fun task =>
    { task with reading := .replying reply }
  taken.spread effects

/-- The reader hands its script to the session. -/
def submit (server : Server σ) (peer : PeerId) (session : Nat) (text : String) :
    Trace × Server σ :=
  match server.mailbox? session with
  | none => ({}, server)
  | some mailbox =>
      let ticket := server.nextTicket
      let waiting := server.updateTask peer fun task =>
        { task with reading := .waiting ticket }
      waiting.postErrand session mailbox (.send text)

/-- The reader queues the answer to a frame. -/
def reply (server : Server σ) (peer : PeerId) (frame : Option Frame) : Trace × Server σ :=
  let sent := frame.elim [] (server.registry.send peer)
  let ready := server.updateTask peer fun task => { task with reading := .ready }
  ready.spread { sent := sent }

/-- The reader ends and the registry forgets the peer. -/
def endReading (server : Server σ) (peer : PeerId) : Server σ :=
  (server.withRegistry (server.registry.release peer)).updateTask peer fun task =>
    { task with reading := .ended }

/-! ## Writers -/

/-- The writer puts the first queued frame on the wire. -/
def write (server : Server σ) (peer : PeerId) (frame : Frame) : Trace × Server σ :=
  ({ written := [⟨peer, frame⟩] },
   server.updateTask peer fun task =>
     { task with
       queue := task.queue.drop 1
       writing := if frame.isClose then .finishing else task.writing })

/-- The writer ends, and frames for the peer are no longer taken. -/
def endWriting (server : Server σ) (peer : PeerId) : Server σ :=
  (server.withRegistry (server.registry.hangUp peer)).updateTask peer fun task =>
    { task with writing := .ended, queue := [] }

/-- The writer has nothing left to do. -/
def mayStopWriting (server : Server σ) (task : Task) : Bool :=
  match task.writing with
  | .finishing => true
  | .running => task.queue.isEmpty && !server.registry.contains task.peer
  | .ended => false

/-- Collect the peers whose lineage has ended. -/
def collect (server : Server σ) : Server σ :=
  server.withRegistry server.registry.collect.2

/-- The task of a peer is over. -/
def finish (server : Server σ) (peer : PeerId) : Server σ :=
  server.collect.dropTask peer

/-! ## Sessions -/

/-- Publish a session in place of the one before it. -/
def publish (server : Server σ) (session : Session σ) : Server σ :=
  { server with
    gateway := { server.gateway with session := some (.ofSession session) }
    retired := server.retired ++ server.gateway.session.toList }

/-- Tell the registry of an engine. -/
def announce (server : Server σ) (engine : Identity) : Trace × Server σ :=
  let told := server.registry.attach engine
  (server.withRegistry told.2).spread { sent := told.1 }

/-- Withdraw the session that is published. -/
def withdraw (server : Server σ) : Server σ :=
  { server with
    gateway := { server.gateway with session := none }
    retired := server.retired ++ server.gateway.session.toList }

/-- Tell the registry that the engine is gone. -/
def farewell (server : Server σ) : Trace × Server σ :=
  let told := server.registry.detach
  (server.withRegistry told.2.2).spread { sent := told.2.1 }

/-- Follow a line of the engine's output. -/
def follow (server : Server σ) (line : String) : Trace × Server σ :=
  let routed := routeLine server.registry line
  (server.withRegistry routed.2).spread routed.1

/-- An errand comes from elsewhere than a reader. -/
def ask (server : Server σ) (session : Nat) (errand : Errand) : Trace × Server σ :=
  match server.mailbox? session with
  | none => ({}, server)
  | some mailbox => server.postErrand session mailbox errand

def shutDown (server : Server σ) (session : Nat) : Trace × Server σ :=
  match server.mailbox? session with
  | none => ({}, server)
  | some mailbox => server.post session mailbox .shutdown

/-- The first letter to a session is worked off. -/
def work [Transport σ ω] (server : Server σ) (session : Nat) :
    StateM ω (Trace × Server σ) := do
  match server.mailbox? session with
  | none => return ({}, server)
  | some mailbox =>
      let (answers, mailbox) ← mailbox.work
      return (server.setMailbox session mailbox).hand answers

/-! ## Histories -/

/-- What happens to the task of a peer. -/
def stepTask (server : Server σ) (task : Task) : Event σ → Trace × Server σ
  | .opens _ =>
      if task.isOpen then ({}, server) else server.openPeer task
  | .fails _ =>
      if task.isOpen then ({}, server) else ({}, server.failPeer task.peer)
  | .receivesText _ text =>
      if task.isOpen && task.reading == .ready then
        ({}, server.updateTask task.peer fun task =>
          { task with reading := server.takeText text })
      else ({}, server)
  | .receivesBinary _ octets =>
      if task.isOpen && task.reading == .ready then server.takeBinary task.peer octets
      else ({}, server)
  | .submits _ =>
      match task.reading with
      | .holding session text => server.submit task.peer session text
      | .ready | .waiting _ | .replying _ | .ended => ({}, server)
  | .replies _ =>
      match task.reading with
      | .replying frame => server.reply task.peer frame
      | .ready | .holding _ _ | .waiting _ | .ended => ({}, server)
  | .hearsEnd _ =>
      if task.isOpen && task.reading == .ready then ({}, server.endReading task.peer)
      else ({}, server)
  | .writes _ =>
      match task.queue with
      | frame :: _ =>
          if task.isOpen && task.writing == .running then server.write task.peer frame
          else ({}, server)
      | [] => ({}, server)
  | .failsToWrite _ =>
      if task.isOpen && task.writing == .running && !task.queue.isEmpty then
        ({}, server.updateTask task.peer fun task => { task with writing := .finishing })
      else ({}, server)
  | .stopsWriting _ =>
      if task.isOpen && server.mayStopWriting task then
        let hungUp := if task.writing == .running then [task.peer] else []
        ({ hungUp := hungUp }, server.endWriting task.peer)
      else ({}, server)
  | .abandonsWriter _ =>
      if task.reading == .ended && task.writing != .ended then
        ({}, server.endWriting task.peer)
      else ({}, server)
  | .finishes _ =>
      if task.reading == .ended && task.writing == .ended then
        ({}, server.finish task.peer)
      else ({}, server)
  | .knocks _ | .works _ | .asks _ _ | .shutsDown _ | .publishes _ | .announces _
  | .withdraws | .parts | .follows _ | .collects => ({}, server)

/-- The peer to whose task an event happens. -/
def Event.peer? : Event σ → Option PeerId
  | .opens peer | .fails peer | .receivesText peer _ | .receivesBinary peer _
  | .submits peer | .replies peer | .hearsEnd peer | .writes peer
  | .failsToWrite peer | .stopsWriting peer | .abandonsWriter peer
  | .finishes peer => some peer
  | .knocks _ | .works _ | .asks _ _ | .shutsDown _ | .publishes _ | .announces _
  | .withdraws | .parts | .follows _ | .collects => none

def step [Transport σ ω] (server : Server σ) (event : Event σ) :
    StateM ω (Trace × Server σ) :=
  match event with
  | .knocks knock => return server.answerKnock knock
  | .works session => server.work session
  | .asks session errand => return server.ask session errand
  | .shutsDown session => return server.shutDown session
  | .publishes session => return ({}, server.publish session)
  | .announces engine => return server.announce engine
  | .withdraws => return ({}, server.withdraw)
  | .parts => return server.farewell
  | .follows line => return server.follow line
  | .collects => return ({}, server.collect)
  | event =>
      match event.peer?.bind server.task? with
      | none => return ({}, server)
      | some task => return server.stepTask task event

def run [Transport σ ω] (server : Server σ) :
    List (Event σ) → StateM ω (List Trace × Server σ)
  | [] => return ([], server)
  | event :: rest => do
      let (trace, server) ← server.step event
      let (traces, server) ← run server rest
      return (trace :: traces, server)

end Server
end EngineGateway
