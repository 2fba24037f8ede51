import EngineGateway.Directive
import EngineGateway.Engine.Identity
import EngineGateway.Net.Address
import EngineGateway.Peer.Index

/-!
# Registry of peers

The registry knows every peer: the clients that have connected and the relays
that directives have opened.  Two lists of ids serve to find peers quickly, the
subscribers of each protocol and the peers that hear status lines.  Both may
name peers that are gone, so every use of them checks the peer itself.

A peer listens as long as something takes the frames that are queued for it.
It is live when it listens and is tracked, and when the peer whose directive
opened it, if there is one, is live as well.

Each operation is a function that returns the registry after it and, where it
queues frames, the frames in the order of queueing.
-/

namespace EngineGateway.Peer

/-- Why a peer is not admitted. -/
inductive Refusal where
  | originRejected (address : Net.Address)
  | full (limit : Nat)
  deriving Repr, DecidableEq

def Refusal.message : Refusal → String
  | .originRejected address =>
      "connection from " ++ address.render ++
        " not allowed: clients must be in a private IP range (client traffic is unencrypted)"
  | .full limit => "max_clients (" ++ toString limit ++ ") reached"

/-- A tracked peer. -/
structure Entry where
  id : PeerId
  /-- The peer whose directive opened this relay. -/
  parent : Option PeerId
  /-- Address of the remote end of a relay. -/
  url : Option String
  /-- The subprotocols that the peer speaks, each once. -/
  protocols : List String
  /-- The engine opened this relay, which ends when the engine goes. -/
  isGameOriginated : Bool
  /-- The connection is established. -/
  isOpen : Bool
  /-- Frames queued for the peer are still taken. -/
  isListening : Bool
  deriving Repr, DecidableEq

/-- A relay that has to be connected. -/
structure RelayRequest where
  id : PeerId
  url : String
  protocol : String
  deriving Repr, DecidableEq

/-- Everything known about the peers and the attached engine. -/
structure Registry where
  maxPeers : Nat
  /-- The id that the next peer gets. -/
  nextId : PeerId
  /-- The tracked peers in the order in which they came. -/
  entries : List Entry
  /-- Subscribers of each protocol. -/
  index : Index
  /-- Peers that hear status lines, in the order in which they opened. -/
  audience : List PeerId
  engine : Option Engine.Identity
  deriving Repr, DecidableEq

namespace Registry

/-- A registry without peers and without an engine. -/
def empty (maxPeers : Nat) : Registry :=
  ⟨maxPeers, 1, [], [], [], none⟩

/-- The tracked peer with a given id. -/
def find? (registry : Registry) (id : PeerId) : Option Entry :=
  registry.entries.find? (·.id == id)

def contains (registry : Registry) (id : PeerId) : Bool :=
  (registry.find? id).isSome

/-- Follow parents from a peer to one without a parent, over at most `steps`
peers that are all tracked and listening. -/
def reachesRoot (registry : Registry) : Nat → PeerId → Bool
  | 0, _ => false
  | steps + 1, id =>
      match registry.find? id with
      | none => false
      | some entry =>
          entry.isListening &&
            match entry.parent with
            | none => true
            | some parent => registry.reachesRoot steps parent

/-- The peer and all peers above it are tracked and listening.  No chain of
different peers is longer than there are peers. -/
def isLive (registry : Registry) (id : PeerId) : Bool :=
  registry.reachesRoot (registry.entries.length + 1) id

/-- The tracked peer with a given id, if it is live. -/
def findLive? (registry : Registry) (id : PeerId) : Option Entry :=
  (registry.find? id).filter fun _ => registry.isLive id

/-- Queue a frame for a tracked peer that listens. -/
def post (entry : Entry) (frame : Frame) : List Delivery :=
  if entry.isListening then [⟨entry.id, frame⟩] else []

/-- Track a new peer and list it under its protocols. -/
def insert (registry : Registry) (entry : Entry) : Registry :=
  { registry with
    nextId := registry.nextId + 1
    entries := registry.entries ++ [entry]
    index := registry.index.addAll entry.protocols entry.id }

/-- Admit a client.  A public origin is refused unless the client comes over a
trusted encrypted connection, and nobody is admitted when all places are
taken. -/
def connect (registry : Registry) (address : Net.Address) (trusted : Bool)
    (protocols : List String) : Except Refusal PeerId × Registry :=
  if !trusted && !address.isPrivate then
    (.error (.originRejected address), registry)
  else if registry.maxPeers ≤ registry.entries.length then
    (.error (.full registry.maxPeers), registry)
  else
    let entry : Entry :=
      { id := registry.nextId
        parent := none
        url := none
        protocols := (protocols.filter fun protocol => !protocol.isEmpty).eraseDups
        isGameOriginated := false
        isOpen := false
        isListening := true }
    (.ok entry.id, registry.insert entry)

/-- Change the tracked peer with a given id. -/
def update (registry : Registry) (id : PeerId) (change : Entry → Entry) :
    Registry :=
  { registry with
    entries := registry.entries.map fun entry =>
      if entry.id = id then change entry else entry }

/-- The connection of a peer is established.  The peer joins the audience and
is told about an engine that is already attached. -/
def markOpen (registry : Registry) (id : PeerId) : List Delivery × Registry :=
  match registry.find? id with
  | none => ([], registry)
  | some entry =>
      let sent :=
        match registry.engine with
        | none => []
        | some engine => post entry (.text (engine.statusLine .opened))
      let opened := registry.update id fun entry => { entry with isOpen := true }
      let audience :=
        if registry.audience.contains id then registry.audience
        else registry.audience ++ [id]
      (sent, { opened with audience := audience })

/-- Forget a peer at once.  Where it is still listed by id it is passed over
from now on. -/
def release (registry : Registry) (id : PeerId) : Registry :=
  { registry with entries := registry.entries.filter (·.id != id) }

/-- Nothing takes the frames of a peer any more. -/
def hangUp (registry : Registry) (id : PeerId) : Registry :=
  registry.update id fun entry => { entry with isListening := false }

/-- Queue a text for every live peer of the audience. -/
def announce (registry : Registry) (text : String) : List Delivery :=
  (registry.audience.filterMap registry.findLive?).flatMap fun entry =>
    post entry (.text text)

/-- An engine is attached: the audience is told. -/
def attach (registry : Registry) (engine : Engine.Identity) :
    List Delivery × Registry :=
  let registry := { registry with engine := some engine }
  (registry.announce (engine.statusLine .opened), registry)

/-- Forget the peers that are not live, and strike the ids of peers that are
not tracked from all lists.  Returns how many peers were forgotten. -/
def collect (registry : Registry) : Nat × Registry :=
  let live := registry.entries.filter fun entry => registry.isLive entry.id
  let kept := { registry with entries := live }
  (registry.entries.length - live.length,
   { kept with
     audience := registry.audience.filter kept.contains
     index := registry.index.keep kept.contains })

/-- The engine is gone: the audience is told, and the relays that the engine
opened are forgotten with everything that hangs on them. -/
def detach (registry : Registry) :
    Option Engine.Identity × List Delivery × Registry :=
  match registry.engine with
  | none => (none, [], registry)
  | some engine =>
      let registry := { registry with engine := none }
      let sent := registry.announce (engine.statusLine .closed)
      let remaining :=
        { registry with
          entries := registry.entries.filter fun entry => !entry.isGameOriginated }
      (some engine, sent, remaining.collect.2)

def liveSubscribers (registry : Registry) (protocol : String) : List PeerId :=
  (registry.index.subscribers protocol).filter registry.isLive

/-- Strike the subscribers of a protocol that are not live. -/
def prune (registry : Registry) (protocol : String) : Registry :=
  { registry with index := registry.index.keepUnder protocol registry.isLive }

/-- One of the peers is a relay to the given address. -/
def isConnected (registry : Registry) (peers : List PeerId) (url : String) : Bool :=
  peers.any fun id =>
    match registry.find? id with
    | none => false
    | some entry => entry.url == some url

/-- Open a relay to the address that a directive names, unless a live
subscriber of the protocol already leads there or all places are taken. -/
def openRelay (registry : Registry) (directive : Directive)
    (parent : Option PeerId) (subscribers : List PeerId) :
    List RelayRequest × Registry :=
  match directive.url with
  | none => ([], registry)
  | some url =>
      if registry.isConnected subscribers url ||
          registry.maxPeers ≤ registry.entries.length then ([], registry)
      else
        let entry : Entry :=
          { id := registry.nextId
            parent := parent
            url := some url
            protocols := [directive.protocol]
            isGameOriginated := parent.isNone
            isOpen := false
            isListening := true }
        ([⟨entry.id, url, directive.protocol⟩], registry.insert entry)

/-- Queue the message of a directive for those of the peers that are live and,
if the directive names an address, lead there. -/
def forward (registry : Registry) (directive : Directive)
    (targets : List PeerId) : List Delivery :=
  match directive.message with
  | none => []
  | some message =>
      (targets.filterMap registry.findLive?).flatMap fun entry =>
        if directive.url.isNone || entry.url == directive.url then
          post entry (.text message)
        else
          []

/-- Follow a directive from a peer, or from the engine if there is no parent.
Returns the relays that have to be connected. -/
def route (registry : Registry) (directive : Directive)
    (parent : Option PeerId) : List RelayRequest × List Delivery × Registry :=
  if directive.isRoutable then
    let subscribers := registry.liveSubscribers directive.protocol
    let pruned := registry.prune directive.protocol
    let (relays, routed) := pruned.openRelay directive parent subscribers
    let targets := subscribers ++ relays.map RelayRequest.id
    (relays, routed.forward directive targets, routed)
  else
    ([], [], registry)

/-- Queue a frame for one peer, if it is live. -/
def send (registry : Registry) (id : PeerId) (frame : Frame) : List Delivery :=
  match registry.findLive? id with
  | none => []
  | some entry => post entry frame

end Registry
end EngineGateway.Peer
