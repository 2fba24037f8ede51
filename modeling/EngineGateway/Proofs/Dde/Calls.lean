import EngineGateway.Dde.Conversation
import EngineGateway.Proofs.Transport.Uses

/-!
# The calls of a DDE conversation

Units are sent one after another, as macros or as the question for brain activity.
The first one that fails ends the message.  A lost engine closes the link, and any
other fault is handed on as it is.
-/

namespace EngineGateway.Dde

open Engine Logged

/-- A call to a client, with what it came to. -/
inductive Call where
  | runMacro (script : Bytes) (outcome : Except Fault (Option Bytes))
  | brainActivity (outcome : Except Fault (Option Bytes))
  | partner (found : Option Nat)
  | running (process : Nat) (running : Bool)
  | available (available : Bool)
  | directory (process : Nat) (found : Option String)

variable {γ ω : Type}

instance [Client γ ω] : Client γ (Logged Call ω) where
  runMacro client script :=
    noting (Client.runMacro client script) fun outcome => [.runMacro script outcome]
  brainActivity client :=
    noting (Client.brainActivity client) fun outcome => [.brainActivity outcome]
  partner client := noting (Client.partner client) fun found => [.partner found]
  processRunning client process :=
    noting (Client.processRunning client process) fun running => [.running process running]
  available client := noting (Client.available client) fun available => [.available available]
  workingDirectory client process :=
    noting (Client.workingDirectory client process) fun found => [.directory process found]

/-- The client could not carry out a unit, because of a fault. -/
def Call.Fails (call : Call) (fault : Fault) : Prop :=
  (∃ script, call = .runMacro script (.error fault)) ∨ call = .brainActivity (.error fault)

/-- A question whether the engine is there. -/
def Call.IsQuestion (call : Call) : Prop :=
  (∃ process running, call = .running process running) ∨ ∃ available, call = .available available

theorem Call.IsQuestion.not_fails {call : Call} (asks : call.IsQuestion) (fault : Fault) :
    ¬ call.Fails fault := by
  rintro (⟨_, rfl⟩ | rfl) <;> rcases asks with ⟨_, _, other⟩ | ⟨_, other⟩ <;> cases other

namespace Link

/-- What checking a link comes to, and which calls it makes. -/
inductive Checks (link : Link γ) : Bool × Link γ → List Call → Prop where
  | closed : link.closed = true → Checks link (true, link) []
  | running {call : Call} :
      link.closed = false → call.IsQuestion → Checks link (false, link) [call]
  | exited {call : Call} :
      link.closed = false → call.IsQuestion →
      Checks link (true, { link with closed := true }) [call]

/-- What sending units over an open link comes to, and which calls it makes. -/
inductive Runs (link : Link γ) : Except Fault Reply × Link γ → List Call → Prop where
  | replied {reply : Reply} {calls : List Call} :
      (∀ call ∈ calls, ∀ fault, ¬ call.Fails fault) → Runs link (.ok reply, link) calls
  | lost {calls : List Call} :
      (∀ call ∈ calls, ∀ fault, ¬ call.Fails fault) →
      Runs link (.error .engineExited, { link with closed := true }) calls
  | failed {call : Call} {calls : List Call} {fault : Fault} :
      call ∈ calls → call.Fails fault → Runs link (.error fault, link) calls

/-- What sending units comes to, and which calls it makes. -/
inductive Sends (link : Link γ) : Except Fault Reply × Link γ → List Call → Prop where
  | closed : link.closed = true → Sends link (.error .engineExited, link) []
  | open {result : Except Fault Reply × Link γ} {calls : List Call} :
      link.closed = false → link.Runs result calls → Sends link result calls

variable [Client γ ω]

theorem makes_isClosed (link : Link γ) : Makes (ω := ω) link.isClosed link.Checks := by
  rcases link with ⟨client, major, partner, directory, closed⟩
  cases closed with
  | true => exact .pure (.closed rfl)
  | false =>
      cases partner with
      | some process =>
          refine Makes.noting_bind fun running => ?_
          cases running with
          | true => exact .pure (.running rfl (.inl ⟨_, _, rfl⟩))
          | false => exact .pure (.exited rfl (.inl ⟨_, _, rfl⟩))
      | none =>
          refine Makes.noting_bind fun available => ?_
          cases available with
          | true => exact .pure (.running rfl (.inr ⟨_, rfl⟩))
          | false => exact .pure (.exited rfl (.inr ⟨_, rfl⟩))

/-- A call that does not fail, before more calls. -/
theorem Runs.after {link : Link γ} {result : Except Fault Reply × Link γ} {call : Call}
    {more : List Call} (runs : link.Runs result more) (works : ∀ fault, ¬ call.Fails fault) :
    link.Runs result (call :: more) := by
  cases runs with
  | replied others => exact .replied (List.forall_mem_cons.mpr ⟨works, others⟩)
  | lost others => exact .lost (List.forall_mem_cons.mpr ⟨works, others⟩)
  | failed member fails => exact .failed (.tail _ member) fails

theorem makes_sendOnto (link : Link γ) (joined : Bytes) (units : List Bytes) :
    Makes (ω := ω) (link.sendOnto joined units) link.Runs := by
  induction units generalizing joined with
  | nil => exact .pure (.replied (List.forall_mem_nil _))
  | cons unit rest ih =>
      by_cases dump : (unit == brainDump) = true
      · simp only [sendOnto, dump, if_true]
        refine Makes.noting_bind fun outcome => ?_
        cases outcome with
        | error fault => exact .pure (.failed (.head _) (.inr rfl))
        | ok found =>
            have works : ∀ fault, ¬ Call.Fails (.brainActivity (.ok found)) fault := by
              rintro fault (⟨_, other⟩ | other) <;> cases other
            cases found with
            | none => exact .pure (.lost (List.forall_mem_singleton.mpr works))
            | some output => exact .pure (.replied (List.forall_mem_singleton.mpr works))
      · simp only [sendOnto, dump, if_false, Bool.false_eq_true]
        refine Makes.noting_bind fun outcome => ?_
        cases outcome with
        | error fault => exact .pure (.failed (.head _) (.inl ⟨unit, rfl⟩))
        | ok found =>
            have works : ∀ fault, ¬ Call.Fails (.runMacro unit (.ok found)) fault := by
              rintro fault (⟨_, other⟩ | other) <;> cases other
            cases found with
            | none => exact .pure (.lost (List.forall_mem_singleton.mpr works))
            | some output => exact (ih _).weaken fun _ _ runs => runs.after works

theorem makes_sendUnits (link : Link γ) (units : List Bytes) :
    Makes (ω := ω) (link.sendUnits units) link.Sends := by
  unfold sendUnits
  split_ifs with closed
  · exact .pure (.closed closed)
  · have going : link.closed = false := by simpa using closed
    exact (link.makes_sendOnto [] units).weaken fun _ _ runs => .open going runs

end Link

/-- A use of a link to a first-generation engine. -/
abbrev LinkUsage (γ ω : Type) : Type :=
  Usage (Link γ) Call ω

section Usage

variable [Client γ ω] (link : Link γ) (world : ω)

theorem usage_send (units : List Bytes) :
    ∃ reply, (Usage.of link world (.send units) : LinkUsage γ ω).outcome = .reply reply ∧
      link.Sends (reply, (Usage.of link world (.send units) : LinkUsage γ ω).after)
        (Usage.of link world (.send units) : LinkUsage γ ω).calls := by
  have makes : Makes (Transport.sendUnits (ω := Logged Call ω) link units) link.Sends :=
    link.makes_sendUnits units
  exact Usage.send_fits makes world

theorem usage_check :
    ∃ gone, (Usage.of link world .check : LinkUsage γ ω).outcome = .gone gone ∧
      link.Checks (gone, (Usage.of link world .check : LinkUsage γ ω).after)
        (Usage.of link world .check : LinkUsage γ ω).calls := by
  have makes : Makes (Transport.isClosed (ω := Logged Call ω) link) link.Checks :=
    link.makes_isClosed
  exact Usage.check_fits makes world

end Usage
end EngineGateway.Dde
