/-!
# When to look for an engine again

The discovery file is read again only when its modification time has changed
since the last success.  A session that ended with a broken pipe arms one
further attempt, because the engine is then usually still there.
-/

namespace EngineGateway.Discovery

/-- A point in time: whole seconds, which may be negative, and nanoseconds. -/
structure Stamp where
  seconds : Int
  nanoseconds : Nat
  deriving Repr, DecidableEq

/-- What to do about the present modification time. -/
inductive Decision where
  /-- Nothing has changed. -/
  | skip
  /-- Read the file and connect. -/
  | fresh
  /-- Nothing has changed, but try the known port once more. -/
  | forcedReconnect
  deriving Repr, DecidableEq

/-- What is remembered between attempts. -/
structure Policy where
  /-- Modification time at the last success. -/
  last : Option Stamp
  /-- One further attempt is due. -/
  armed : Bool
  deriving Repr, DecidableEq

namespace Policy

/-- Before the first attempt. -/
def start : Policy :=
  ⟨none, false⟩

/-- Decide about a modification time.  The due attempt is used up whatever is
decided. -/
def judge (policy : Policy) (stamp : Stamp) : Decision × Policy :=
  let decision :=
    if policy.last ≠ some stamp then .fresh
    else if policy.armed then .forcedReconnect
    else .skip
  (decision, { policy with armed := false })

/-- Remember the modification time of a discovery that found an engine. -/
def recordSuccess (policy : Policy) (stamp : Stamp) : Policy :=
  { policy with last := some stamp }

def arm (policy : Policy) : Policy :=
  { policy with armed := true }

end Policy

section Judge

variable {policy : Policy} {stamp : Stamp}

theorem judge_of_changed (changed : policy.last ≠ some stamp) :
    (policy.judge stamp).1 = .fresh := by
  simp [Policy.judge, changed]

theorem judge_of_same (same : policy.last = some stamp) :
    (policy.judge stamp).1 = if policy.armed then .forcedReconnect else .skip := by
  simp [Policy.judge, same]

end Judge
end EngineGateway.Discovery
