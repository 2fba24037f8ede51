import EngineGateway.Discovery.Connector
import EngineGateway.SharedBuffer.Channel

/-!
# Finding an engine by its buffer

Buffers are named after the engine.  The known names are tried in order.
-/

namespace EngineGateway.SharedBuffer

open Engine Discovery

/-- The names of the known engines, in the order in which they are tried. -/
def engineNames : List String :=
  ["Creatures Village", "Creatures Playground", "Creatures 3",
   "Docking Station", "Edynn", "Sea Monkeys", "Creatures Evolution Engine"]

/-- Opens the channels of engines by name. -/
class Opener (ο : Type) (γ : outParam Type) (ω : Type) where
  /-- Open the channel of an engine, none if no engine of that name runs. -/
  openChannel : ο → String → StateM ω (Except Fault (Option γ))

/-- Looks for engines under a list of names. -/
structure Finder (ο : Type) where
  opener : ο
  names : List String
  deriving Repr

/-- Attach to the first of the named engines whose channel can be opened.  A
name that cannot be opened is passed over. -/
def attachFirst {ο γ ω : Type} [Opener ο γ ω] [Channel γ ω] (opener : ο) :
    List String → StateM ω (Attempt (Link γ))
  | [] => return .ok none
  | name :: rest => do
      match ← Opener.openChannel opener name with
      | .ok (some channel) =>
          return (← Session.attach (Link.ofChannel channel)).map some
      | .ok none | .error _ => attachFirst opener rest

instance {ο γ ω : Type} [Opener ο γ ω] [Channel γ ω] :
    Connector (Finder ο) (Link γ) ω where
  discover finder policy := do
    let attempt ← attachFirst finder.opener finder.names
    return (attempt, finder, policy)

end EngineGateway.SharedBuffer
