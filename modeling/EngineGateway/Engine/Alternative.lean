import EngineGateway.Discovery.Connector

/-!
# One of several transports

A gateway that can reach engines in several ways holds one transport of either
kind.  Whatever is asked of the sum is asked of the transport that is there.
-/

namespace EngineGateway.Engine

/-- The same session over a transport of another type. -/
def Session.map {σ τ : Type} (convert : σ → τ) (session : Session σ) : Session τ :=
  ⟨convert session.transport, session.identity, session.closed, session.reconnect⟩

/-- Convert the state that comes with a result. -/
def withState {σ τ α ω : Type} (convert : σ → τ) (action : StateM ω (α × σ)) :
    StateM ω (α × τ) := do
  let (result, state) ← action
  return (result, convert state)

instance {σ τ ω : Type} [Transport σ ω] [Transport τ ω] :
    Transport (σ ⊕ τ) ω where
  family
    | .inl transport => Transport.family ω transport
    | .inr transport => Transport.family ω transport
  unitLimit
    | .inl transport => Transport.unitLimit transport
    | .inr transport => Transport.unitLimit transport
  sendUnits
    | .inl transport => fun units => withState .inl (Transport.sendUnits transport units)
    | .inr transport => fun units => withState .inr (Transport.sendUnits transport units)
  isClosed
    | .inl transport => withState .inl (Transport.isClosed transport)
    | .inr transport => withState .inr (Transport.isClosed transport)
  workingDirectory
    | .inl transport => Transport.workingDirectory transport
    | .inr transport => Transport.workingDirectory transport
  handshake
    | .inl transport => withState .inl (Transport.handshake transport)
    | .inr transport => withState .inr (Transport.handshake transport)

open Discovery

/-- The same attempt over a transport of another type. -/
def mapAttempt {σ τ : Type} (convert : σ → τ) (attempt : Attempt σ) : Attempt τ :=
  attempt.map fun found => found.map (Session.map convert)

instance {κ χ σ τ ω : Type} [Connector κ σ ω] [Connector χ τ ω] :
    Connector (κ ⊕ χ) (σ ⊕ τ) ω where
  discover
    | .inl connector, policy => do
        let (attempt, connector, policy) ← Connector.discover connector policy
        return (mapAttempt .inl attempt, .inl connector, policy)
    | .inr connector, policy => do
        let (attempt, connector, policy) ← Connector.discover connector policy
        return (mapAttempt .inr attempt, .inr connector, policy)

end EngineGateway.Engine
