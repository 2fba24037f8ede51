import EngineGateway.Discovery.Policy
import Mathlib.Data.List.Induction

/-!
# Decisions and what came before them

What a policy decides follows from its history alone, in which engines have been found and
further attempts have been asked for.  A modification time is only compared with that of the
last success, and an attempt that was asked for is used up by the next decision, whichever
it is.  So every forced attempt has a request of its own, and a request forces one attempt
at the most.
-/

namespace EngineGateway.Discovery

/-- One thing that is done to a policy. -/
inductive Event where
  | judge (stamp : Stamp)
  | success (stamp : Stamp)
  | arm
  deriving Repr, DecidableEq

def Event.IsJudgement : Event → Prop
  | .judge _ => True
  | .success _ | .arm => False

def Event.IsSuccess : Event → Prop
  | .success _ => True
  | .judge _ | .arm => False

namespace Policy

/-- What an event makes of a policy. -/
def after (policy : Policy) : Event → Policy
  | .judge stamp => (policy.judge stamp).2
  | .success stamp => policy.recordSuccess stamp
  | .arm => policy.arm

def run (policy : Policy) (events : List Event) : Policy :=
  events.foldl after policy

/-- The decision that an event asks for, if it does. -/
def decision? (policy : Policy) : Event → Option Decision
  | .judge stamp => some (policy.judge stamp).1
  | .success _ | .arm => none

/-- All decisions of a run, in order. -/
def decisions (policy : Policy) : List Event → List Decision
  | [] => []
  | event :: rest => (policy.decision? event).toList ++ (policy.after event).decisions rest

theorem run_append (policy : Policy) (first second : List Event) :
    policy.run (first ++ second) = (policy.run first).run second :=
  List.foldl_append

theorem run_concat (policy : Policy) (events : List Event) (event : Event) :
    policy.run (events ++ [event]) = (policy.run events).after event :=
  policy.run_append events [event]

theorem decisions_append (policy : Policy) (first second : List Event) :
    policy.decisions (first ++ second) =
      policy.decisions first ++ (policy.run first).decisions second := by
  induction first generalizing policy with
  | nil => rfl
  | cons event rest ih =>
      rw [List.cons_append, decisions, decisions, ih, List.append_assoc]
      rfl

end Policy

/-! ## Histories -/

/-- An event of a history after which nothing of an excluded kind has come. -/
def Stands (event : Event) (excluded : Event → Prop) (history : List Event) : Prop :=
  ∃ earlier later, history = earlier ++ event :: later ∧ ∀ other ∈ later, ¬ excluded other

/-- The last success was that of a modification time. -/
def LastSuccess (history : List Event) (stamp : Stamp) : Prop :=
  Stands (.success stamp) Event.IsSuccess history

/-- A further attempt has been asked for since the last decision. -/
def Due (history : List Event) : Prop :=
  Stands .arm Event.IsJudgement history

/-- What is decided about a modification time after a history. -/
def verdict (history : List Event) (stamp : Stamp) : Decision :=
  ((Policy.start.run history).judge stamp).1

section Stands

variable {event last : Event} {excluded : Event → Prop} {history : List Event}

theorem not_stands_nil : ¬ Stands event excluded [] := by
  rintro ⟨earlier, later, parts, _⟩
  cases earlier <;> cases parts

theorem stands_concat :
    Stands event excluded (history ++ [last]) ↔
      last = event ∨ (¬ excluded last ∧ Stands event excluded history) := by
  constructor
  · rintro ⟨earlier, later, parts, clear⟩
    induction later using List.reverseRecOn with
    | nil => exact .inl (List.head_eq_of_cons_eq (List.append_inj' parts rfl).2)
    | append_singleton middle final =>
        rw [← List.cons_append, ← List.append_assoc] at parts
        obtain ⟨rfl, same⟩ := List.append_inj' parts rfl
        obtain rfl := List.head_eq_of_cons_eq same
        rw [List.forall_mem_append, List.forall_mem_singleton] at clear
        exact .inr ⟨clear.2, earlier, middle, rfl, clear.1⟩
  · rintro (rfl | ⟨kept, earlier, later, rfl, clear⟩)
    · exact ⟨history, [], rfl, List.forall_mem_nil _⟩
    · refine ⟨earlier, later ++ [last], by simp, ?_⟩
      exact List.forall_mem_append.mpr ⟨clear, List.forall_mem_singleton.mpr kept⟩

end Stands

/-- A policy remembers the last success. -/
theorem last_run {history : List Event} {stamp : Stamp} :
    (Policy.start.run history).last = some stamp ↔ LastSuccess history stamp := by
  induction history using List.reverseRecOn with
  | nil => exact iff_of_false nofun not_stands_nil
  | append_singleton history event ih =>
      rw [Policy.run_concat, LastSuccess, stands_concat]
      cases event with
      | judge other => exact ih.trans (by simp [LastSuccess, Event.IsSuccess])
      | success other => simp [Policy.after, Policy.recordSuccess, Event.IsSuccess]
      | arm => exact ih.trans (by simp [LastSuccess, Event.IsSuccess])

/-- A policy is armed while an attempt is due. -/
theorem armed_run {history : List Event} :
    (Policy.start.run history).armed = true ↔ Due history := by
  induction history using List.reverseRecOn with
  | nil => exact iff_of_false nofun not_stands_nil
  | append_singleton history event ih =>
      rw [Policy.run_concat, Due, stands_concat]
      cases event with
      | judge other => simp [Policy.after, Policy.judge, Event.IsJudgement]
      | success other => exact ih.trans (by simp [Due, Event.IsJudgement])
      | arm => simp [Policy.after, Policy.arm]

/-! ## Decisions -/

section Verdict

variable {history : List Event} {stamp : Stamp}

theorem verdict_of_changed (changed : ¬ LastSuccess history stamp) :
    verdict history stamp = .fresh :=
  judge_of_changed (mt last_run.mp changed)

theorem verdict_of_same (same : LastSuccess history stamp) :
    verdict history stamp = .forcedReconnect ∧ Due history ∨
      verdict history stamp = .skip ∧ ¬ Due history := by
  rw [verdict, judge_of_same (last_run.mpr same), ← armed_run]
  cases (Policy.start.run history).armed <;> simp

theorem verdict_iffs :
    (verdict history stamp = .fresh ↔ ¬ LastSuccess history stamp) ∧
    (verdict history stamp = .forcedReconnect ↔ LastSuccess history stamp ∧ Due history) ∧
    (verdict history stamp = .skip ↔ LastSuccess history stamp ∧ ¬ Due history) := by
  by_cases same : LastSuccess history stamp
  · rcases verdict_of_same same with ⟨decided, due⟩ | ⟨decided, due⟩ <;>
      simp [decided, same, due]
  · simp [verdict_of_changed same, same]

end Verdict

/-- A forced attempt uses up a request, and so does any other decision. -/
theorem count_forced_add_le (policy : Policy) (events : List Event) :
    (policy.decisions events).count .forcedReconnect + (policy.run events).armed.toNat ≤
      events.count .arm + policy.armed.toNat := by
  induction events generalizing policy with
  | nil => simp [Policy.decisions, Policy.run]
  | cons event rest ih =>
      have later := ih (policy.after event)
      have spent : (policy.decision? event).toList.count .forcedReconnect +
          (policy.after event).armed.toNat ≤ [event].count .arm + policy.armed.toNat := by
        cases event with
        | judge stamp =>
            by_cases same : policy.last = some stamp
            · cases armed : policy.armed <;>
                simp [Policy.decision?, Policy.after, Policy.judge, same, armed]
            · simp [Policy.decision?, Policy.after, Policy.judge, same]
        | success stamp => simp [Policy.decision?, Policy.after, Policy.recordSuccess]
        | arm => simp [Policy.decision?, Policy.after, Policy.arm]
      have whole : policy.run (event :: rest) = (policy.after event).run rest := rfl
      rw [whole, Policy.decisions, List.count_append, ← List.singleton_append,
        List.count_append]
      omega

theorem count_forced_le_one {policy : Policy} {later : List Event} (unasked : .arm ∉ later) :
    (policy.decisions later).count .forcedReconnect ≤ 1 := by
  have spent := count_forced_add_le policy later
  have once := Bool.toNat_le policy.armed
  rw [List.count_eq_zero.mpr unasked] at spent
  omega

/-- After a decision, an attempt is due only if it has been asked for again. -/
theorem arm_mem_of_due {history later : List Event} {stamp : Stamp}
    (due : Due (history ++ .judge stamp :: later)) : .arm ∈ later := by
  obtain ⟨earlier, since, parts, clear⟩ := due
  rcases List.append_eq_append_iff.mp parts with ⟨middle, _, rest⟩ | ⟨middle, _, rest⟩
  · cases middle with
    | nil => cases rest
    | cons first middle =>
        rw [List.tail_eq_of_cons_eq rest]
        exact List.mem_append_right _ (.head _)
  · cases middle with
    | nil => cases rest
    | cons first middle =>
        have judged : .judge stamp ∈ since := by
          rw [List.tail_eq_of_cons_eq rest]
          exact List.mem_append_right _ (.head _)
        exact absurd trivial (clear _ judged)

/-- Asking again for an attempt that is due changes nothing. -/
theorem run_arm_of_due {history : List Event} (due : Due history) :
    Policy.start.run (history ++ [.arm]) = Policy.start.run history := by
  have armed := armed_run.mpr due
  rw [Policy.run_concat, Policy.after, Policy.arm, ← armed]

/-- Decisions are determined by what came before them.  Whatever is done to a policy, a
modification time is new exactly if it is not that of the last success; otherwise a
connection is forced if that has been asked for since the previous decision, and nothing is
done if it has not.  Hence a connection is forced after another decision only if it has been
asked for in between, asking twice is the same as asking once and forces one attempt at the
most, and there are no more forced attempts than requests. -/
theorem decisions_follow_history :
    (∀ (history later : List Event) (stamp : Stamp),
      Policy.start.decisions (history ++ .judge stamp :: later) =
        Policy.start.decisions history ++ verdict history stamp ::
          (Policy.start.run (history ++ [.judge stamp])).decisions later) ∧
    (∀ (history : List Event) (stamp : Stamp),
      (verdict history stamp = .fresh ↔ ¬ LastSuccess history stamp) ∧
      (verdict history stamp = .forcedReconnect ↔ LastSuccess history stamp ∧ Due history) ∧
      (verdict history stamp = .skip ↔ LastSuccess history stamp ∧ ¬ Due history)) ∧
    (∀ (history between : List Event) (first second : Stamp),
      verdict (history ++ .judge first :: between) second = .forcedReconnect →
        .arm ∈ between) ∧
    (∀ history quiet : List Event, (∀ event ∈ quiet, ¬ event.IsJudgement) →
      Policy.start.run (history ++ .arm :: quiet ++ [.arm]) =
        Policy.start.run (history ++ .arm :: quiet)) ∧
    (∀ history later : List Event, .arm ∉ later →
      ((Policy.start.run history).decisions later).count .forcedReconnect ≤ 1) ∧
    (∀ events : List Event,
      (Policy.start.decisions events).count .forcedReconnect ≤ events.count .arm) := by
  refine ⟨?order, fun _ _ => verdict_iffs, ?between, ?again, ?once, ?all⟩
  case order =>
    intro history later stamp
    rw [Policy.decisions_append, Policy.run_concat]
    rfl
  case between =>
    intro history between first second forced
    exact arm_mem_of_due (verdict_iffs.2.1.mp forced).2
  case again =>
    intro history quiet undecided
    exact run_arm_of_due ⟨history, quiet, rfl, undecided⟩
  case once =>
    intro history later unasked
    exact count_forced_le_one unasked
  case all =>
    intro events
    exact Nat.le_of_add_right_le (count_forced_add_le Policy.start events)

/-- A time at which an engine is found. -/
def noon : Stamp := ⟨43200, 0⟩

/-- An engine is found at noon, and two attempts are asked for. -/
def twiceAsked : List Event :=
  [.judge noon, .success noon, .arm, .arm]

/-- Of the two attempts that are asked for, one is made; the next one is made when it is
asked for again. -/
theorem decisions_follow_history_twiceAsked :
    Policy.start.run twiceAsked = Policy.start.run twiceAsked.dropLast ∧
    (Policy.start.run twiceAsked).decisions [.judge noon, .judge noon] =
      [.forcedReconnect, .skip] ∧
    ((Policy.start.run twiceAsked).decisions [.judge noon, .judge noon]).count
      .forcedReconnect ≤ 1 ∧
    verdict (twiceAsked ++ .judge noon :: [.arm]) noon = .forcedReconnect ∧
    Event.arm ∈ [Event.arm] := by
  obtain ⟨_, _, between, again, once, _⟩ := decisions_follow_history
  have forced : verdict (twiceAsked ++ .judge noon :: [.arm]) noon = .forcedReconnect := by
    decide
  refine ⟨?_, by decide, once twiceAsked _ (by decide), forced, ?_⟩
  · exact again [.judge noon, .success noon] [] (List.forall_mem_nil _)
  · exact between twiceAsked [.arm] noon noon forced

end EngineGateway.Discovery
