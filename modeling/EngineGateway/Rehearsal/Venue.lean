import EngineGateway.Server.Basic

/-!
# Far ends of a server

A venue is a server in some world and with the far ends of its peers:
the clients, named `c1`, `c2` and so on in the order in which they were
admitted, and the remote ends of relays, named `r1`, `r2` and so on.  After
each cue everything that can happen by itself happens.
-/

namespace EngineGateway.Rehearsal

open Engine Peer Server

/-- What a far end notices. -/
inductive Heard where
  | frame (frame : Frame)
  /-- The connection was closed without a close frame. -/
  | ending
  deriving Repr, DecidableEq

/-- The far end of a peer. -/
structure FarEnd where
  name : String
  peer : PeerId
  isClient : Bool
  isGone : Bool
  heard : List Heard
  deriving Repr, DecidableEq

/-- A relay that has been connected. -/
structure Arrival where
  remote : String
  url : String
  isGameOriginated : Bool
  /-- The client whose directive opened the relay. -/
  parent : Option String
  protocol : String
  deriving Repr, DecidableEq

/-- A server and what is around it. -/
structure Venue (σ ω : Type) where
  server : Server σ
  world : ω
  /-- Where the remote ends of relays listen. -/
  remotePort : Nat
  ends : List FarEnd := []
  arrivals : List Arrival := []
  log : List Gateway.LogLine := []

/-- Something that is done to the server from outside. -/
inductive Cue (σ : Type) where
  | connect (knock : Knock)
  /-- A client is gone before its handshake is answered. -/
  | abort (knock : Knock)
  /-- A connection that never becomes a handshake. -/
  | intrude
  | send (name : String) (frame : Frame)
  | close (name : String)
  /-- A far end is gone, and the engine writes something before the server has
  noticed. -/
  | drop (name : String) (output : Option String)
  | output (text : String)
  | attach (engine : σ)
  | detach
  deriving Repr

/-- What a cue leads to at once. -/
inductive CueAnswer where
  | done
  | received (reception : Reception) (name : String)
  | turnedAway
  | attached (result : Except DiscoveryError Unit)
  deriving Repr

namespace Venue

variable {σ ω : Type}

/-- The protocol can be offered and is the one that comes back: headers come
without blanks at their ends, and a comma separates two offers. -/
def isOfferable (protocol : String) : Bool :=
  protocol.toList.all (fun character =>
    character == '\t' || (' ' ≤ character && character < '\x7F' && character != ',')) &&
    Text.trim protocol == protocol

def reaches (venue : Venue σ ω) (request : RelayRequest) : Bool :=
  request.url == "ws://127.0.0.1:" ++ toString venue.remotePort &&
    isOfferable request.protocol

def named? (venue : Venue σ ω) (name : String) : Option FarEnd :=
  venue.ends.find? fun farEnd => farEnd.name == name && !farEnd.isGone

def farEnd? (venue : Venue σ ω) (peer : PeerId) : Option FarEnd :=
  venue.ends.find? (·.peer == peer)

def updateEnd (venue : Venue σ ω) (peer : PeerId) (change : FarEnd → FarEnd) : Venue σ ω :=
  { venue with
    ends := venue.ends.map fun farEnd =>
      if farEnd.peer = peer then change farEnd else farEnd }

/-- A far end notices something, unless it is gone.  It is gone after a
close. -/
def FarEnd.notice (heard : Heard) (farEnd : FarEnd) : FarEnd :=
  if farEnd.isGone then farEnd
  else
    let isGone :=
      match heard with
      | .frame frame => frame.isClose
      | .ending => true
    { farEnd with heard := farEnd.heard ++ [heard], isGone := isGone }

def notice (venue : Venue σ ω) (trace : Trace) : Venue σ ω :=
  let written := trace.written.foldl (fun venue delivery =>
    venue.updateEnd delivery.peer (FarEnd.notice (.frame delivery.frame))) venue
  let closed := trace.hungUp.foldl (fun venue peer =>
    venue.updateEnd peer (FarEnd.notice .ending)) written
  { closed with log := closed.log ++ trace.log }

def happen [Transport σ ω] (venue : Venue σ ω) (event : Event σ) : Trace × Venue σ ω :=
  let ((trace, server), world) := (venue.server.step event).run venue.world
  (trace, { venue with server := server, world := world }.notice trace)

def happenAll [Transport σ ω] (venue : Venue σ ω) (events : List (Event σ)) : Venue σ ω :=
  events.foldl (fun venue event => (venue.happen event).2) venue

/-- The lines of what an engine has written are followed. -/
def hear [Transport σ ω] (venue : Venue σ ω) (output : String) : Venue σ ω :=
  venue.happenAll ((Gateway.lines output).map .follows)

def addEnd (venue : Venue σ ω) (peer : PeerId) (isClient : Bool) : String × Venue σ ω :=
  let count := (venue.ends.filter (·.isClient == isClient)).length + 1
  let name := (if isClient then "c" else "r") ++ toString count
  (name, { venue with ends := venue.ends ++ [⟨name, peer, isClient, false, []⟩] })

def welcome (venue : Venue σ ω) (request : RelayRequest) : Venue σ ω :=
  let entry := venue.server.registry.find? request.id
  let parent := (entry.bind Entry.parent).bind venue.farEnd?
  let (name, venue) := venue.addEnd request.id false
  let arrival : Arrival :=
    { remote := name
      url := request.url
      isGameOriginated := entry.any Entry.isGameOriginated
      parent := (parent.filter FarEnd.isClient).map FarEnd.name
      protocol := request.protocol }
  { venue with arrivals := venue.arrivals ++ [arrival] }

/-! ## Coming to rest -/

/-- What the task of a peer can do by itself. -/
def ownEvent? (venue : Venue σ ω) (task : Server.Task) : Option (Event σ) :=
  let peer := task.peer
  let isGone := (venue.farEnd? peer).any FarEnd.isGone
  if !task.isOpen then
    task.relay.map fun request =>
      if venue.reaches request then .opens peer else .fails peer
  else
    match task.reading, task.writing, task.queue with
    | .holding _ _, _, _ => some (.submits peer)
    | .replying _, _, _ => some (.replies peer)
    | _, .running, _ :: _ => some (.writes peer)
    | reading, writing, _ =>
        if venue.server.mayStopWriting task then some (.stopsWriting peer)
        else if reading == .ready && isGone then some (.hearsEnd peer)
        else if reading == .ended && writing == .ended then some (.finishes peer)
        else none

def hasLetters (venue : Venue σ ω) (session : Nat) : Bool :=
  (venue.server.mailbox? session).any fun mailbox => !mailbox.waiting.isEmpty

def nextEvent? (venue : Venue σ ω) : Option (Event σ) :=
  let sessions := List.range (venue.server.retired.length + 1)
  match sessions.find? venue.hasLetters with
  | some session => some (.works session)
  | none => venue.server.tasks.findSome? venue.ownEvent?

/-- Let an event happen.  The remote end of a relay arrives when the relay
opens, and after a relay that failed peers are collected. -/
def advance [Transport σ ω] (venue : Venue σ ω) (event : Event σ) : Venue σ ω :=
  let relay := (event.peer?.bind venue.server.task?).bind Task.relay
  match event, relay with
  | .opens _, some request => ((venue.welcome request).happen event).2
  | .fails _, some _ => venue.happenAll [event, .collects]
  | _, _ => (venue.happen event).2

def settleWithin [Transport σ ω] : Nat → Venue σ ω → Venue σ ω
  | 0, venue => venue
  | more + 1, venue =>
      match venue.nextEvent? with
      | none => venue
      | some event => settleWithin more (venue.advance event)

/-- More events than can happen before the venue is at rest: each queued frame
is written once, and of all else a task does each thing at most once. -/
def patience (venue : Venue σ ω) : Nat :=
  let tasks := venue.server.tasks.map fun task => 16 + task.queue.length
  let sessions := venue.server.gateway.session.toList ++ venue.server.retired
  let letters := sessions.map fun mailbox => mailbox.waiting.length
  (tasks ++ letters).foldl (· + ·) 0

def settle [Transport σ ω] (venue : Venue σ ω) : Venue σ ω :=
  settleWithin venue.patience venue

/-! ## Cues -/

def knock [Transport σ ω] (venue : Venue σ ω) (request : Knock) : CueAnswer × Venue σ ω :=
  match venue.happen (.knocks request) with
  | ({ reception := some (.admitted id protocol), .. }, venue) =>
      let (name, venue) := venue.addEnd id true
      (.received (.admitted id protocol) name, (venue.happen (.opens id)).2)
  | ({ reception := some refused, .. }, venue) => (.received refused "", venue)
  | (_, venue) => (.done, venue)

def knockInVain [Transport σ ω] (venue : Venue σ ω) (request : Knock) : Venue σ ω :=
  match venue.happen (.knocks request) with
  | ({ reception := some (.admitted id _), .. }, venue) => (venue.happen (.fails id)).2
  | (_, venue) => venue

/-- What a frame of a far end is to the server. -/
def arrivalOf (peer : PeerId) : Frame → Event σ
  | .text content => .receivesText peer content
  | .binary content => .receivesBinary peer content
  | .close _ _ => .hearsEnd peer

def leave (venue : Venue σ ω) (peer : PeerId) : Venue σ ω :=
  venue.updateEnd peer fun farEnd => { farEnd with isGone := true }

def perform [Transport σ ω] (venue : Venue σ ω) : Cue σ → CueAnswer × Venue σ ω
  | .connect request => venue.knock request
  | .abort request => (.done, venue.knockInVain request)
  | .intrude => (.turnedAway, venue)
  | .send name frame =>
      match venue.named? name with
      | none => (.done, venue)
      | some farEnd => (.done, (venue.happen (arrivalOf farEnd.peer frame)).2)
  | .close name =>
      match venue.named? name with
      | none => (.done, venue)
      | some farEnd => (.done, venue.leave farEnd.peer)
  | .drop name output =>
      let venue := (venue.named? name).elim venue fun farEnd => venue.leave farEnd.peer
      (.done, output.elim venue venue.hear)
  | .output text => (.done, venue.hear text)
  | .attach engine =>
      match (Session.attach engine).run venue.world with
      | (.error error, world) => (.attached (.error error), { venue with world := world })
      | (.ok session, world) =>
          (.attached (.ok ()), { venue with world := world }.happenAll
            [.publishes session, .announces session.identity])
  | .detach =>
      let session := venue.server.retired.length
      (.done, venue.happenAll [.withdraws, .parts, .shutsDown session])

/-- Do what a cue says and let everything happen that follows. -/
def play [Transport σ ω] (venue : Venue σ ω) (cue : Cue σ) : CueAnswer × Venue σ ω :=
  let (answer, venue) := venue.perform cue
  (answer, venue.settle)

/-- What the far end with a given name has noticed. -/
def heardBy (venue : Venue σ ω) (name : String) : List Heard :=
  (venue.ends.filter (·.name == name)).flatMap FarEnd.heard

def cleared (venue : Venue σ ω) : Venue σ ω :=
  { venue with
    ends := venue.ends.map fun farEnd => { farEnd with heard := [] }
    arrivals := []
    log := [] }

end Venue
end EngineGateway.Rehearsal
