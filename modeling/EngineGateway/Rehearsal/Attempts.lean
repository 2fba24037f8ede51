import EngineGateway.Engine.Retry

/-!
# Scripted attempts

An operation whose outcomes follow a script, of which the last one comes again
and again.
-/

namespace EngineGateway.Rehearsal

open Engine

/-- The outcomes to come, and the number of attempts so far. -/
structure AttemptScript (α : Type) where
  outcomes : List (Except Fault α)
  count : Nat := 0

/-- Make one attempt.  Without any outcome there is nothing to do the operation
with. -/
def AttemptScript.next {α : Type} : StateM (AttemptScript α) (Except Fault α) :=
  fun script =>
    let rest :=
      match script.outcomes with
      | _ :: next :: rest => next :: rest
      | outcomes => outcomes
    (script.outcomes.headD (.error .notOpen), ⟨rest, script.count + 1⟩)

/-- The result of an operation that is tried again as long as it makes sense,
and the number of attempts. -/
def rehearseRetries {α : Type} (outcomes : List (Except Fault α)) :
    Except Fault α × Nat :=
  let (result, script) := withRetries AttemptScript.next ⟨outcomes, 0⟩
  (result, script.count)

end EngineGateway.Rehearsal
