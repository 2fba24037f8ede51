import EngineGateway.Engine.Mailbox
import EngineGateway.Gateway.Local

/-!
# The gateway

The gateway stands between the peers and the engine.  Text frames are scripts
for the engine, whose answer goes back to the sender; everything else the
gateway does by itself.  It knows the attached engine twice: as the session
that scripts are sent to and as the identity that the registry announces.
-/

namespace EngineGateway

open Engine Peer

/-- The peers and the session of the attached engine. -/
structure Gateway (σ : Type) where
  registry : Registry
  session : Option (Mailbox σ)
  deriving Repr

namespace Gateway

variable {σ ω : Type}

/-- The answer to a script while no engine is attached. -/
def noEngine : String := "no engine attached"

/-- A gateway without peers and without an engine. -/
def empty (maxPeers : Nat) : Gateway σ :=
  ⟨Registry.empty maxPeers, none⟩

def attach (gateway : Gateway σ) (mailbox : Mailbox σ) : Effects × Gateway σ :=
  let (sent, registry) := gateway.registry.attach mailbox.session.identity
  ({ sent := sent }, ⟨registry, some mailbox⟩)

/-- Withdraw the session, which is returned with its letters. -/
def detach (gateway : Gateway σ) : Option (Mailbox σ) × Effects × Gateway σ :=
  let (_, sent, registry) := gateway.registry.detach
  (gateway.session, { sent := sent }, ⟨registry, none⟩)

/-- Send the script of a peer to the engine and wait for the answer. -/
def handleText [Transport σ ω] (gateway : Gateway σ) (text : String) :
    StateM ω (Option Frame × Gateway σ) := do
  match gateway.session with
  | none => return (Frame.ofResponse? (.error noEngine), gateway)
  | some mailbox =>
      let (response, mailbox) ← mailbox.askSend text
      return (Frame.ofResponse? response, { gateway with session := some mailbox })

end Gateway
end EngineGateway
