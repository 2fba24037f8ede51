import EngineGateway.Gateway.Poller
import EngineGateway.Peer.Operation
import EngineGateway.Rehearsal.Stage

/-!
# A gateway whose peers are held by hand

A hub is a gateway without a server.  The receiving ends of its peers are kept
in a list, with the frames that have come in for each of them.
-/

namespace EngineGateway.Rehearsal

open Engine Peer

/-- The receiving ends that are held, with the frames that have come in. -/
abbrev Ends := List (PeerId × List Frame)

namespace Ends

def deliver (ends : Ends) (sent : List Delivery) : Ends :=
  ends.map fun (peer, frames) =>
    (peer, frames ++ (sent.filter (·.peer == peer)).map Delivery.frame)

def emptied (ends : Ends) : Ends :=
  ends.map fun (peer, _) => (peer, [])

def hold (ends : Ends) (peers : List PeerId) : Ends :=
  ends ++ peers.map fun peer => (peer, [])

def admitted : Peer.Answer → List PeerId
  | .admitted peer => [peer]
  | .relays requests => requests.map RelayRequest.id
  | _ => []

end Ends

/-- A registry whose receiving ends are held. -/
structure Holding where
  registry : Registry
  ends : Ends := []

namespace Holding

/-- Something that is done with the registry. -/
inductive Cue where
  /-- A client comes, and its connection opens at once or later. -/
  | connect (address : Net.Address) (trusted : Bool) (protocols : List String)
      (opens : Bool)
  | route (line : String) (parent : Option PeerId)
  | contains (peer : PeerId)
  | operate (operation : Operation)

/-- What comes of it. -/
inductive Answer where
  | peers (answer : Peer.Answer)
  | truth (value : Bool)
  | notDirective

/-- Carry out an operation.  Whoever hangs up lets go of the end. -/
def operate (holding : Holding) (operation : Operation) : Peer.Answer × Holding :=
  let (outcome, registry) := holding.registry.apply operation
  let ends := (holding.ends.hold (Ends.admitted outcome.answer)).deliver outcome.sent
  let ends :=
    match operation with
    | .hangUp peer => ends.filter (·.1 != peer)
    | _ => ends
  (outcome.answer, ⟨registry, ends⟩)

def perform (holding : Holding) : Cue → Answer × Holding
  | .connect address trusted protocols opens =>
      match holding.operate (.connect address trusted protocols) with
      | (.admitted peer, holding) =>
          let holding := if opens then (holding.operate (.markOpen peer)).2 else holding
          (.peers (.admitted peer), holding)
      | (answer, holding) => (.peers answer, holding)
  | .route line parent =>
      match Directive.parse? line with
      | none => (.notDirective, holding)
      | some directive =>
          let (answer, holding) := holding.operate (.route directive parent)
          (.peers answer, holding)
  | .contains peer => (.truth (holding.registry.contains peer), holding)
  | .operate (.hangUp peer) =>
      (.truth (holding.ends.any (·.1 == peer)), (holding.operate (.hangUp peer)).2)
  | .operate operation =>
      let (answer, holding) := holding.operate operation
      (.peers answer, holding)

end Holding

/-- A gateway on a stage. -/
structure Hub where
  gateway : Gateway StageLink
  poller : Poller StageFinder
  ends : Ends
  stage : Stage

namespace Hub

/-- Something that a hub is asked to do. -/
inductive Cue where
  | attach (engine : EngineAt)
  | detach
  | text (content : String)
  | binary (peer : PeerId) (content : Bytes)
  | output (content : String)
  | poll
  /-- Something is done with the registry. -/
  | peers (cue : Holding.Cue)
  /-- Something happens to a scripted engine. -/
  | change (change : Stage.Change)

/-- What comes of it. -/
inductive Answer where
  | done
  | failed (error : DiscoveryError)
  | attached
  | detached (name : Option String)
  | reply (frame : Option Frame)
  | delay (milliseconds : Nat)
  | peers (answer : Holding.Answer)

def engineName (hub : Hub) : Option String :=
  hub.gateway.session.map fun mailbox => mailbox.session.identity.name

/-- Put another registry in place and let frames come in. -/
def settle (hub : Hub) (effects : Gateway.Effects) (registry : Registry) : Hub :=
  { hub with
    gateway := { hub.gateway with registry := registry }
    ends := hub.ends.deliver effects.sent }

def perform (hub : Hub) : Cue → Answer × Gateway.Effects × Hub
  | .attach engine =>
      match (Session.attach (.inl engine : StageLink)).run hub.stage with
      | (.error error, stage) => (.failed error, {}, { hub with stage := stage })
      | (.ok session, stage) =>
          let (effects, gateway) := hub.gateway.attach (.ofSession session)
          (.attached, effects,
            { hub with gateway := gateway, stage := stage }.settle effects gateway.registry)
  | .detach =>
      let (_, effects, gateway) := hub.gateway.detach
      (.detached hub.engineName, effects,
        { hub with gateway := gateway }.settle effects gateway.registry)
  | .text content =>
      let ((frame, gateway), stage) := (hub.gateway.handleText content).run hub.stage
      (.reply frame, {}, { hub with gateway := gateway, stage := stage })
  | .binary peer content =>
      let (frame, effects, registry) :=
        Gateway.handleBinary hub.gateway.registry peer content
      (.reply frame, effects, hub.settle effects registry)
  | .output content =>
      let (effects, registry) := Gateway.routeOutput hub.gateway.registry content
      (.done, effects, hub.settle effects registry)
  | .poll =>
      let (turn, stage) := (hub.poller.turn hub.gateway).run hub.stage
      (.delay turn.delay, turn.effects,
        { hub with gateway := turn.gateway, poller := turn.poller, stage := stage }.settle
          turn.effects turn.gateway.registry)
  | .peers cue =>
      let (answer, holding) := Holding.perform ⟨hub.gateway.registry, hub.ends⟩ cue
      (.peers answer, {}, { hub with ends := holding.ends }.settle {} holding.registry)
  | .change change => (.done, {}, { hub with stage := hub.stage.apply change })

/-- The registry after all relays have failed to connect, if there are any. -/
def withoutRelays? (registry : Registry) : Option Registry :=
  let relays := registry.entries.filter fun entry => entry.url.isSome
  if relays.isEmpty then none
  else
    let released := relays.foldl (fun registry entry => registry.release entry.id) registry
    some released.collect.2

/-- What a turn of a hub shows. -/
structure Turn where
  answer : Answer
  log : List Gateway.LogLine
  /-- The units that each engine has received. -/
  received : List (List Bytes)
  attempts : List Call
  engine : Option String
  state : Holding
  /-- What is left when the relays have failed to connect, if there are any. -/
  settled : Option Holding

/-- Do something, show what came of it, and let the relays fail. -/
def play (hub : Hub) (cue : Cue) : Turn × Hub :=
  let (answer, effects, hub) := hub.perform cue
  let (received, stage) := hub.stage.takeReceived
  let (calls, stage) := stage.takeCalls
  let registry := hub.gateway.registry
  let settled := withoutRelays? registry
  let turn : Turn :=
    { answer := answer
      log := effects.log
      received := received
      attempts := calls.filter Call.isAttempt
      engine := hub.engineName
      state := ⟨registry, hub.ends⟩
      settled := settled.map fun registry => ⟨registry, []⟩ }
  let hub := { hub with ends := hub.ends.emptied, stage := stage }
  (turn, hub.settle {} (settled.getD registry))

end Hub
end EngineGateway.Rehearsal
