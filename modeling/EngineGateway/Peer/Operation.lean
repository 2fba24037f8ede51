import EngineGateway.Peer.Registry

/-!
# Histories of the registry

Everything that can happen to the registry as one type of operations, so that
whole histories can be run and spoken about.
-/

namespace EngineGateway.Peer

/-- One thing that happens to the registry. -/
inductive Operation where
  | connect (address : Net.Address) (trusted : Bool) (protocols : List String)
  | markOpen (id : PeerId)
  | release (id : PeerId)
  | attach (engine : Engine.Identity)
  | detach
  | collect
  | route (directive : Directive) (parent : Option PeerId)
  | send (id : PeerId) (frame : Frame)
  /-- The frames of a peer are no longer taken. -/
  | hangUp (id : PeerId)
  deriving Repr, DecidableEq

/-- What an operation answers. -/
inductive Answer where
  | done
  | admitted (id : PeerId)
  | refused (refusal : Refusal)
  | detached (engine : Option Engine.Identity)
  | collected (count : Nat)
  | relays (requests : List RelayRequest)
  | sent (accepted : Bool)
  deriving Repr, DecidableEq

/-- The answer of an operation and the frames that it queued. -/
structure Outcome where
  answer : Answer
  sent : List Delivery
  deriving Repr, DecidableEq

namespace Registry

def apply (registry : Registry) : Operation → Outcome × Registry
  | .connect address trusted protocols =>
      match registry.connect address trusted protocols with
      | (.ok id, registry) => (⟨.admitted id, []⟩, registry)
      | (.error refusal, registry) => (⟨.refused refusal, []⟩, registry)
  | .markOpen id =>
      let (sent, registry) := registry.markOpen id
      (⟨.done, sent⟩, registry)
  | .release id => (⟨.done, []⟩, registry.release id)
  | .attach engine =>
      let (sent, registry) := registry.attach engine
      (⟨.done, sent⟩, registry)
  | .detach =>
      let (engine, sent, registry) := registry.detach
      (⟨.detached engine, sent⟩, registry)
  | .collect =>
      let (count, registry) := registry.collect
      (⟨.collected count, []⟩, registry)
  | .route directive parent =>
      let (requests, sent, registry) := registry.route directive parent
      (⟨.relays requests, sent⟩, registry)
  | .send id frame =>
      let sent := registry.send id frame
      (⟨.sent !sent.isEmpty, sent⟩, registry)
  | .hangUp id => (⟨.done, []⟩, registry.hangUp id)

def run (registry : Registry) : List Operation → List Outcome × Registry
  | [] => ([], registry)
  | operation :: rest =>
      let (outcome, registry) := registry.apply operation
      let (outcomes, registry) := registry.run rest
      (outcome :: outcomes, registry)

end Registry
end EngineGateway.Peer
