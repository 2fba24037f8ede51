import EngineGateway.Engine.Fault

/-!
# Repeated attempts

An operation that would block is tried again a bounded number of times, and one
that timed out is tried again once.  The two budgets are separate, and a spent
budget is never restored.
-/

namespace EngineGateway.Engine

/-- How often an operation that would block is tried again. -/
def maxTransientRetries : Nat := 5

/-- What is left to spend on further attempts. -/
structure Budget where
  transient : Nat
  timeouts : Nat
  deriving Repr, DecidableEq

namespace Budget

/-- Before the first attempt. -/
def full : Budget :=
  ⟨maxTransientRetries, 1⟩

/-- Pay for another attempt after a fault, if the fault allows one and the
budget does. -/
def spend? (budget : Budget) (fault : Fault) : Option Budget :=
  match fault.faultClass, budget with
  | .transient, ⟨transient + 1, timeouts⟩ => some ⟨transient, timeouts⟩
  | .timeout, ⟨transient, timeouts + 1⟩ => some ⟨transient, timeouts⟩
  | _, _ => none

/-- Attempts that can still be paid for. -/
def size (budget : Budget) : Nat :=
  budget.transient + budget.timeouts

theorem size_lt_of_spend? {budget rest : Budget} {fault : Fault}
    (spent : budget.spend? fault = some rest) : rest.size < budget.size := by
  unfold spend? at spent
  split at spent
  · cases spent
    simp only [size]
    omega
  · cases spent
    simp only [size]
    omega
  · cases spent

end Budget

/-- Attempt an operation until it succeeds, fails for good, or the budget is
spent.  The state `world` passes from each attempt to the next. -/
def retryWithin {ω α : Type} (budget : Budget)
    (attempt : StateM ω (Except Fault α)) (world : ω) : Except Fault α × ω :=
  match attempt world with
  | (.ok value, world) => (.ok value, world)
  | (.error fault, world) =>
      match spent : budget.spend? fault with
      | none => (.error fault, world)
      | some rest =>
          have := Budget.size_lt_of_spend? spent
          retryWithin rest attempt world
  termination_by budget.size

section Attempts

variable {ω α : Type} {budget : Budget} {attempt : StateM ω (Except Fault α)} {world after : ω}

theorem retryWithin_of_ok {value : α} (attempted : attempt world = (.ok value, after)) :
    retryWithin budget attempt world = (.ok value, after) := by
  rw [retryWithin, attempted]

/-- After a fault another attempt is made if it can be paid for. -/
theorem retryWithin_of_error {fault : Fault} (attempted : attempt world = (.error fault, after)) :
    retryWithin budget attempt world =
      match budget.spend? fault with
      | none => (.error fault, after)
      | some rest => retryWithin rest attempt after := by
  rw [retryWithin, attempted]
  split
  · rename_i same
    cases same
  · rename_i same
    cases same
    split <;> simp_all

end Attempts

/-- Attempt an operation with the full budget. -/
def withRetries {ω α : Type} (attempt : StateM ω (Except Fault α)) :
    StateM ω (Except Fault α) :=
  retryWithin Budget.full attempt

end EngineGateway.Engine
