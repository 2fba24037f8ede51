import EngineGateway.Engine.Retry
import EngineGateway.Proofs.World
import Mathlib.Data.Nat.Count

/-!
# When attempts stop

An operation can be imagined to be attempted for ever, and each of these attempts has an
outcome.  Which of them is the last one that is really made can be told from the outcomes
alone: it is the first one that succeeds, or that fails in a way that is not worth another
attempt, or with which one of the two budgets is overdrawn.  What is left of a budget tells
how many faults of its kind there have been, and only the faults of both kinds together
have been answered by another attempt.
-/

namespace EngineGateway.Engine

variable {ω α : Type}

/-! ## Outcomes -/

/-- The outcome is a fault of a class. -/
def failsAs (kind : FaultClass) : Except Fault α → Bool
  | .ok _ => false
  | .error fault => fault.faultClass == kind

/-- How many of the outcomes before one are faults of a class. -/
def failures (outcomes : Nat → Except Fault α) (kind : FaultClass) (number : Nat) : Nat :=
  Nat.count (fun earlier => failsAs kind (outcomes earlier) = true) number

/-- The outcome leaves nothing to attempt again. -/
inductive Settles (outcomes : Nat → Except Fault α) (number : Nat) : Prop where
  | succeeded {value : α} : outcomes number = .ok value → Settles outcomes number
  | hopeless {fault : Fault} : outcomes number = .error fault →
      fault.faultClass ≠ .transient → fault.faultClass ≠ .timeout → Settles outcomes number
  | stalled {fault : Fault} : outcomes number = .error fault →
      fault.faultClass = .transient → 5 ≤ failures outcomes .transient number →
      Settles outcomes number
  | late {fault : Fault} : outcomes number = .error fault →
      fault.faultClass = .timeout → 1 ≤ failures outcomes .timeout number →
      Settles outcomes number

section Failures

variable {outcomes : Nat → Except Fault α} {number : Nat} {fault : Fault}

theorem failures_zero (kind : FaultClass) : failures outcomes kind 0 = 0 :=
  Nat.count_zero _

theorem failures_succ (failed : outcomes number = .error fault) (kind : FaultClass) :
    failures outcomes kind (number + 1) =
      failures outcomes kind number + if fault.faultClass = kind then 1 else 0 := by
  rw [failures, Nat.count_succ, failed]
  simp only [failsAs, beq_iff_eq, failures]

theorem settles_of_error (failed : outcomes number = .error fault) :
    Settles outcomes number ↔
      (fault.faultClass ≠ .transient ∧ fault.faultClass ≠ .timeout) ∨
      (fault.faultClass = .transient ∧ 5 ≤ failures outcomes .transient number) ∨
      (fault.faultClass = .timeout ∧ 1 ≤ failures outcomes .timeout number) := by
  constructor
  · rintro (success | ⟨met, untransient, untimely⟩ | ⟨met, transient, often⟩ |
      ⟨met, timeout, before⟩)
    · cases failed.symm.trans success
    all_goals obtain rfl := Except.error.inj (failed.symm.trans met)
    · exact .inl ⟨untransient, untimely⟩
    · exact .inr (.inl ⟨transient, often⟩)
    · exact .inr (.inr ⟨timeout, before⟩)
  · rintro (⟨untransient, untimely⟩ | ⟨transient, often⟩ | ⟨timeout, before⟩)
    · exact .hopeless failed untransient untimely
    · exact .stalled failed transient often
    · exact .late failed timeout before

end Failures

/-! ## Budgets -/

section Budgets

variable {budget rest : Budget} {fault : Fault}

theorem Budget.spend?_eq_none_iff :
    budget.spend? fault = none ↔
      (fault.faultClass ≠ .transient ∧ fault.faultClass ≠ .timeout) ∨
      (fault.faultClass = .transient ∧ budget.transient = 0) ∨
      (fault.faultClass = .timeout ∧ budget.timeouts = 0) := by
  rcases budget with ⟨_ | transient, _ | timeouts⟩ <;>
    cases met : fault.faultClass <;> simp [spend?, met]

/-- Another attempt is paid for out of the budget for faults of its class. -/
theorem Budget.eq_of_spend? (spent : budget.spend? fault = some rest) :
    (fault.faultClass = .transient ∧ budget.transient = rest.transient + 1 ∧
      budget.timeouts = rest.timeouts) ∨
    (fault.faultClass = .timeout ∧ budget.transient = rest.transient ∧
      budget.timeouts = rest.timeouts + 1) := by
  unfold spend? at spent
  split at spent
  · next transient timeouts met =>
      cases spent
      exact .inl ⟨met, rfl, rfl⟩
  · next transient timeouts met =>
      cases spent
      exact .inr ⟨met, rfl, rfl⟩
  · cases spent

end Budgets

/-- What is left of the budgets after the outcomes before one, each of which has been
answered by another attempt. -/
structure Leaves (outcomes : Nat → Except Fault α) (number : Nat) (budget : Budget) : Prop where
  transient : budget.transient + failures outcomes .transient number = 5
  timeouts : budget.timeouts + failures outcomes .timeout number = 1
  answered : failures outcomes .transient number + failures outcomes .timeout number = number
  unsettled : ∀ earlier < number, ¬ Settles outcomes earlier

namespace Leaves

variable {outcomes : Nat → Except Fault α} {number : Nat} {budget rest : Budget} {fault : Fault}

theorem full (outcomes : Nat → Except Fault α) : Leaves outcomes 0 Budget.full where
  transient := by rw [failures_zero]; rfl
  timeouts := by rw [failures_zero]; rfl
  answered := by rw [failures_zero, failures_zero]
  unsettled := nofun

/-- The budgets cannot pay for more. -/
theorem number_lt (leaves : Leaves outcomes number budget) : number < 7 := by
  have transient := leaves.transient
  have timeouts := leaves.timeouts
  have answered := leaves.answered
  omega

/-- A fault settles the matter exactly if no other attempt can be paid for. -/
theorem settles_iff (leaves : Leaves outcomes number budget)
    (failed : outcomes number = .error fault) :
    Settles outcomes number ↔ budget.spend? fault = none := by
  have transient : 5 ≤ failures outcomes .transient number ↔ budget.transient = 0 := by
    have left := leaves.transient
    omega
  have timeouts : 1 ≤ failures outcomes .timeout number ↔ budget.timeouts = 0 := by
    have left := leaves.timeouts
    omega
  rw [settles_of_error failed, Budget.spend?_eq_none_iff, transient, timeouts]

theorem spend (leaves : Leaves outcomes number budget)
    (failed : outcomes number = .error fault) (spent : budget.spend? fault = some rest) :
    Leaves outcomes (number + 1) rest := by
  have transient := leaves.transient
  have timeouts := leaves.timeouts
  have answered := leaves.answered
  have unsettled : ∀ earlier < number + 1, ¬ Settles outcomes earlier := by
    intro earlier before settles
    rcases Nat.lt_succ_iff_lt_or_eq.mp before with sooner | rfl
    · exact leaves.unsettled earlier sooner settles
    · cases spent.symm.trans ((leaves.settles_iff failed).mp settles)
  have stalls := failures_succ failed .transient
  have delays := failures_succ failed .timeout
  rcases Budget.eq_of_spend? spent with ⟨met, paid, same⟩ | ⟨met, same, paid⟩
  · rw [met, if_pos rfl] at stalls
    rw [met, if_neg nofun] at delays
    exact ⟨by omega, by omega, by omega, unsettled⟩
  · rw [met, if_neg nofun] at stalls
    rw [met, if_pos rfl] at delays
    exact ⟨by omega, by omega, by omega, unsettled⟩

end Leaves

/-! ## Attempts -/

section Attempts

variable (attempt : StateM ω (Except Fault α)) (world : ω)

/-- The world after so many attempts. -/
def worldAfter : Nat → ω
  | 0 => world
  | number + 1 => (attempt.run (worldAfter number)).2

/-- What the attempt with a number comes to, the first one having the number zero. -/
def outcomes (number : Nat) : Except Fault α :=
  (attempt.run (worldAfter attempt world number)).1

/-- The attempts that are made with what is left go on to the first outcome that settles
the matter, and no further. -/
theorem retryWithin_settles {number : Nat} {budget : Budget}
    (leaves : Leaves (outcomes attempt world) number budget) :
    ∃ last < 7, Settles (outcomes attempt world) last ∧
      (∀ earlier < last, ¬ Settles (outcomes attempt world) earlier) ∧
      retryWithin budget attempt (worldAfter attempt world number) =
        (outcomes attempt world last, worldAfter attempt world (last + 1)) := by
  -- On what the budgets can still pay for, which `Leaves` ties to the outcomes so far.
  induction size : budget.size using Nat.strong_induction_on generalizing number budget with
  | _ left ih =>
      have attempted : attempt (worldAfter attempt world number) =
          (outcomes attempt world number, worldAfter attempt world (number + 1)) := rfl
      cases came : outcomes attempt world number with
      | ok value =>
          refine ⟨number, leaves.number_lt, .succeeded came, leaves.unsettled, ?_⟩
          rw [came] at attempted ⊢
          exact retryWithin_of_ok attempted
      | error fault =>
          rw [came] at attempted
          have made : retryWithin budget attempt (worldAfter attempt world number) = _ :=
            retryWithin_of_error attempted
          cases spent : budget.spend? fault with
          | none =>
              refine ⟨number, leaves.number_lt, (leaves.settles_iff came).mpr spent,
                leaves.unsettled, ?_⟩
              rw [spent] at made
              rw [came]
              exact made
          | some rest =>
              rw [spent] at made
              have less : rest.size < left := size ▸ Budget.size_lt_of_spend? spent
              obtain ⟨last, few, settles, first, same⟩ := ih _ less (leaves.spend came spent) rfl
              exact ⟨last, few, settles, first, made.trans same⟩

end Attempts

/-- An operation whose outcomes are written down beforehand, in a world that counts its
attempts. -/
def scripted (script : Nat → Except Fault α) : StateM Nat (Except Fault α) :=
  fun number => (script number, number + 1)

theorem worldAfter_scripted (script : Nat → Except Fault α) (number : Nat) :
    worldAfter (scripted script) 0 number = number := by
  induction number with
  | zero => rfl
  | succ number ih => exact congrArg (· + 1) ih

theorem outcomes_scripted (script : Nat → Except Fault α) :
    outcomes (scripted script) 0 = script := by
  funext number
  exact congrArg script (worldAfter_scripted script number)

/-- Attempts stop at the first outcome that is a success, a fault that is neither worth
waiting for nor a timeout, a sixth fault that is, or a second timeout, whatever other
faults stand between them.  That outcome is what they come to, no attempt is made after it,
and it is one of the first seven.  This is so for every operation in every world, where the
outcomes are those that the operation would have if it were attempted for ever, and so for
every sequence of outcomes. -/
theorem attempts_stop_at_first :
    (∀ {ω α : Type} (attempt : StateM ω (Except Fault α)) (world : ω),
      ∃ last < 7, Settles (outcomes attempt world) last ∧
        (∀ earlier < last, ¬ Settles (outcomes attempt world) earlier) ∧
        (withRetries attempt).run world =
          (outcomes attempt world last, worldAfter attempt world (last + 1))) ∧
    ∀ {α : Type} (script : Nat → Except Fault α),
      ∃ last < 7, Settles script last ∧ (∀ earlier < last, ¬ Settles script earlier) ∧
        (withRetries (scripted script)).run 0 = (script last, last + 1) := by
  have general : ∀ {ω α : Type} (attempt : StateM ω (Except Fault α)) (world : ω),
      ∃ last < 7, Settles (outcomes attempt world) last ∧
        (∀ earlier < last, ¬ Settles (outcomes attempt world) earlier) ∧
        (withRetries attempt).run world =
          (outcomes attempt world last, worldAfter attempt world (last + 1)) :=
    fun attempt world => retryWithin_settles attempt world (.full _)
  refine ⟨general, ?_⟩
  intro α script
  have particular := general (scripted script) 0
  simpa only [outcomes_scripted, worldAfter_scripted] using particular

/-- A timeout among faults that are worth waiting for takes nothing from their budget. -/
example : withRetries (α := Unit) (scripted fun number =>
    if number = 3 then .error .timeout else .error .wouldBlock) 0 = (.error .wouldBlock, 7) := by
  cbv

end EngineGateway.Engine
