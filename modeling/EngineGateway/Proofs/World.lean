/-!
# Running programs in a world

A program with a world is a function from the world to its value and the world
afterwards.  These equations take a program apart along its steps.
-/

namespace EngineGateway

variable {α β ω : Type}

theorem run_bind (program : StateM ω α) (next : α → StateM ω β) (world : ω) :
    (program >>= next).run world =
      (next (program.run world).1).run (program.run world).2 := rfl

theorem run_pure (value : α) (world : ω) :
    (pure value : StateM ω α).run world = (value, world) := rfl

theorem run_get (world : ω) : (get : StateM ω ω).run world = (world, world) := rfl

end EngineGateway
