import EngineGateway.Discovery.Policy
import EngineGateway.Engine.Session

/-!
# Looking for an engine

A connector knows one way to find a running engine.  Connectors are tried in
order, and the first one that finds an engine wins; a failure of one connector
does not keep the next one from trying.
-/

namespace EngineGateway.Discovery

open Engine

/-- What one attempt of a connector leads to: a session, nothing to connect to,
or an error. -/
abbrev Attempt (σ : Type) := Except DiscoveryError (Option (Session σ))

/-- A way to find an engine. -/
class Connector (κ : Type) (σ : outParam Type) (ω : Type) where
  /-- Make one attempt.  The connector may remember something for the next one,
  and it may consult and change the policy. -/
  discover : κ → Policy → StateM ω (Attempt σ × κ × Policy)

/-- Make one attempt with each connector in order until a session is found.
Returns the connectors as the attempts have left them. -/
def discoverAny {κ σ ω : Type} [Connector κ σ ω] (policy : Policy) :
    List κ → StateM ω (Option (Session σ) × List κ × Policy)
  | [] => return (none, [], policy)
  | connector :: rest => do
      let (attempt, connector, policy) ← Connector.discover connector policy
      match attempt with
      | .ok (some session) => return (some session, connector :: rest, policy)
      | .ok none | .error _ =>
          let (found, rest, policy) ← discoverAny policy rest
          return (found, connector :: rest, policy)

end EngineGateway.Discovery
