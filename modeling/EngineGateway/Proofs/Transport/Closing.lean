import EngineGateway.Proofs.Dde.Calls
import EngineGateway.Proofs.SharedBuffer.Calls
import EngineGateway.Proofs.Socket.Calls
import EngineGateway.Proofs.Socket.Session

/-!
# Fatal faults close a transport

A transport that meets a fatal fault is to be closed from then on.  A socket always is.
A shared buffer is, unless it is the mutex that cannot be taken, and a DDE conversation
is, if it is lost.  In the other cases the fault is only handed on: the transport is
left as it was, and is used again as if nothing had happened.
-/

namespace EngineGateway

open Engine Logged

variable {γ δ κ ω : Type}

/-! ## Sockets -/

namespace Socket

/-- A use of a link over a network. -/
abbrev LinkUsage (κ ω : Type) : Type :=
  Usage Link (NetworkCall κ) ω

variable [Network κ ω]

theorem refuses_of_closed {link : Link} (closed : link.closed = true) :
    Refuses (NetworkCall κ) ω link := by
  rcases link with ⟨endpoint, patience, directory, _⟩
  cases closed
  exact ⟨⟨.notOpen, fun _ => rfl⟩, rfl⟩

theorem closed_of_fatal (link : Link) (world : ω) (use : Use)
    (fatal : (Usage.of link world use : LinkUsage κ ω).Fatal) :
    (Usage.of link world use : LinkUsage κ ω).after.closed = true := by
  rcases fatal with ⟨fault, met, ends⟩
  cases use with
  | send units =>
      let start : Logged (NetworkCall κ) ω := ⟨world, []⟩
      have after := link.sendUnits_snd units start
      have reply : ((link.sendUnits units).run start).1.1 = .error fault := Outcome.reply.inj met
      rw [reply, endsLink, (Fault.isFatal_iff fault).mpr ends, Bool.or_true] at after
      show ((link.sendUnits units).run start).1.2.closed = true
      rw [after]
  | check => cases met

end Socket

/-! ## Shared buffers -/

namespace SharedBuffer

/-- The mutex could not be taken. -/
def Refused (usage : LinkUsage γ ω) : Prop :=
  ∃ fault, .lock (.error fault) ∈ usage.calls

section Sends

variable {link after : Link γ} {units : List Bytes} {calls : List Call} {fault : Fault}

theorem Link.Sends.closed_of_ends (sends : link.Sends units (.error fault, after) calls)
    (ends : fault.Ends) (taken : ∀ other, .lock (.error other) ∉ calls) :
    after.closed = true := by
  cases sends with
  | closed closed => exact closed
  | exited _ => rfl
  | refused _ _ => exact absurd (.tail _ (.head _)) (taken fault)
  | failed _ _ _ =>
      show (link.closed || fault.isFatal) = true
      rw [(Fault.isFatal_iff fault).mpr ends, Bool.or_true]

/-- After a mutex that has been taken no other one is refused. -/
theorem not_refused {exchanges : List Call}
    (requests : ∀ call ∈ exchanges, call.IsExchange) :
    .lock (.error fault) ∉ .alive true :: .lock (.ok ()) :: exchanges ++ [.unlock] := by
  intro member
  rcases mem_exchange requests member with other | other | ⟨_, _, other⟩ | other <;> cases other

theorem Link.Sends.kept_of_refused {reply : Except Fault Reply}
    (sends : link.Sends units (reply, after) calls) (refused : .lock (.error fault) ∈ calls) :
    after = link ∧ after.closed = false := by
  cases sends with
  | closed _ => cases refused
  | exited _ => cases List.mem_singleton.mp refused
  | nothing _ _ => cases List.mem_singleton.mp refused
  | refused going _ => exact ⟨rfl, going⟩
  | replied _ _ requests => exact absurd refused (not_refused requests)
  | failed _ _ requests => exact absurd refused (not_refused requests)

theorem Link.Checks.not_refused {gone : Bool} (checks : link.Checks (gone, after) calls) :
    .lock (.error fault) ∉ calls := by
  intro member
  cases checks with
  | closed _ => cases member
  | running _ => cases List.mem_singleton.mp member
  | exited _ => cases List.mem_singleton.mp member

end Sends

variable [Channel γ ω]

theorem refuses_of_closed {link : Link γ} (closed : link.closed = true) :
    Refuses Call ω link := by
  rcases link with ⟨channel, _⟩
  cases closed
  exact ⟨⟨.engineExited, fun _ => rfl⟩, rfl⟩

theorem closed_of_fatal (link : Link γ) (world : ω) (use : Use)
    (fatal : (Usage.of link world use : LinkUsage γ ω).Fatal)
    (taken : ¬ Refused (Usage.of link world use : LinkUsage γ ω)) :
    (Usage.of link world use : LinkUsage γ ω).after.closed = true := by
  rcases fatal with ⟨fault, met, ends⟩
  cases use with
  | check => cases met
  | send units =>
      rcases usage_send link world units with ⟨reply, outcome, sends⟩
      cases met.symm.trans outcome
      exact sends.closed_of_ends ends fun other member => taken ⟨other, member⟩

theorem kept_of_refused (link : Link γ) (world : ω) (use : Use)
    (refused : Refused (Usage.of link world use : LinkUsage γ ω)) :
    (Usage.of link world use : LinkUsage γ ω).after = link ∧
      (Usage.of link world use : LinkUsage γ ω).after.closed = false := by
  rcases refused with ⟨fault, member⟩
  cases use with
  | send units =>
      rcases usage_send link world units with ⟨reply, _, sends⟩
      exact sends.kept_of_refused member
  | check =>
      rcases usage_check link world with ⟨gone, _, checks⟩
      exact absurd member checks.not_refused

end SharedBuffer

/-! ## DDE conversations -/

namespace Dde

/-- The client could not carry out a unit. -/
def Failed (usage : LinkUsage δ ω) : Prop :=
  ∃ call ∈ usage.calls, ∃ fault, call.Fails fault

section Sends

variable {link after : Link δ} {calls : List Call} {fault : Fault}

theorem Link.Sends.closed_of_carried (sends : link.Sends (.error fault, after) calls)
    (carried : ¬ ∃ call ∈ calls, ∃ fault, call.Fails fault) : after.closed = true := by
  cases sends with
  | closed closed => exact closed
  | «open» _ runs =>
      cases runs with
      | lost _ => rfl
      | failed member fails => exact absurd ⟨_, member, _, fails⟩ carried

theorem Link.Sends.kept_of_failed {reply : Except Fault Reply}
    (sends : link.Sends (reply, after) calls)
    (failed : ∃ call ∈ calls, ∃ fault, call.Fails fault) :
    after = link ∧ after.closed = false := by
  rcases failed with ⟨call, member, fault, fails⟩
  cases sends with
  | closed _ => cases member
  | «open» going runs =>
      cases runs with
      | replied works => exact absurd fails (works call member fault)
      | lost works => exact absurd fails (works call member fault)
      | failed _ _ => exact ⟨rfl, going⟩

theorem Link.Checks.not_failed {gone : Bool} (checks : link.Checks (gone, after) calls) :
    ¬ ∃ call ∈ calls, ∃ fault, call.Fails fault := by
  rintro ⟨call, member, fault, fails⟩
  cases checks with
  | closed _ => cases member
  | running _ asks =>
      cases List.mem_singleton.mp member
      exact asks.not_fails fault fails
  | exited _ asks =>
      cases List.mem_singleton.mp member
      exact asks.not_fails fault fails

end Sends

variable [Client δ ω]

theorem refuses_of_closed {link : Link δ} (closed : link.closed = true) :
    Refuses Call ω link := by
  rcases link with ⟨client, major, partner, directory, _⟩
  cases closed
  exact ⟨⟨.engineExited, fun _ => rfl⟩, rfl⟩

theorem closed_of_fatal (link : Link δ) (world : ω) (use : Use)
    (fatal : (Usage.of link world use : LinkUsage δ ω).Fatal)
    (carried : ¬ Failed (Usage.of link world use : LinkUsage δ ω)) :
    (Usage.of link world use : LinkUsage δ ω).after.closed = true := by
  rcases fatal with ⟨fault, met, _⟩
  cases use with
  | check => cases met
  | send units =>
      rcases usage_send link world units with ⟨reply, outcome, sends⟩
      cases met.symm.trans outcome
      exact sends.closed_of_carried carried

theorem kept_of_failed (link : Link δ) (world : ω) (use : Use)
    (failed : Failed (Usage.of link world use : LinkUsage δ ω)) :
    (Usage.of link world use : LinkUsage δ ω).after = link ∧
      (Usage.of link world use : LinkUsage δ ω).after.closed = false := by
  cases use with
  | send units =>
      rcases usage_send link world units with ⟨reply, _, sends⟩
      exact sends.kept_of_failed failed
  | check =>
      rcases usage_check link world with ⟨gone, _, checks⟩
      exact absurd failed checks.not_failed

end Dde

/-- A fatal fault shuts a transport for all later uses, whatever lies beneath it, unless
the fault was that the mutex of a shared buffer could not be taken or that the client of
a DDE conversation could not carry out a unit.  Those leave the transport open, and as it
was. -/
theorem fatal_faults_shut [Socket.Network κ ω] [SharedBuffer.Channel γ ω] [Dde.Client δ ω]
    (world : ω) (uses : List ((ω → ω) × Use)) :
    (∀ link : Socket.Link,
      (usages link world uses : List (Socket.LinkUsage κ ω)).Pairwise fun earlier later =>
        earlier.Fatal → later.Shut) ∧
    (∀ link : SharedBuffer.Link γ,
      let uses : List (SharedBuffer.LinkUsage γ ω) := usages link world uses
      uses.Pairwise (fun earlier later =>
        earlier.Fatal ∧ ¬ SharedBuffer.Refused earlier → later.Shut) ∧
      ∀ usage ∈ uses, SharedBuffer.Refused usage →
        usage.after = usage.before ∧ usage.after.closed = false) ∧
    (∀ link : Dde.Link δ,
      let uses : List (Dde.LinkUsage δ ω) := usages link world uses
      uses.Pairwise (fun earlier later =>
        earlier.Fatal ∧ ¬ Dde.Failed earlier → later.Shut) ∧
      ∀ usage ∈ uses, Dde.Failed usage →
        usage.after = usage.before ∧ usage.after.closed = false) := by
  refine ⟨?_, ?_, ?_⟩
  · intro link
    refine shut_after ?_ link world uses
    intro link world use fatal
    exact Socket.refuses_of_closed (Socket.closed_of_fatal link world use fatal)
  · intro link record
    refine ⟨shut_after ?_ link world uses, ?_⟩
    · rintro link world use ⟨fatal, taken⟩
      exact SharedBuffer.refuses_of_closed
        (SharedBuffer.closed_of_fatal link world use fatal taken)
    · intro usage member refused
      rcases eq_of_mem_usages member with ⟨earlier, world, same⟩
      rw [same] at refused ⊢
      exact SharedBuffer.kept_of_refused earlier world usage.use refused
  · intro link record
    refine ⟨shut_after ?_ link world uses, ?_⟩
    · rintro link world use ⟨fatal, carried⟩
      exact Dde.refuses_of_closed (Dde.closed_of_fatal link world use fatal carried)
    · intro usage member failed
      rcases eq_of_mem_usages member with ⟨earlier, world, same⟩
      rw [same] at failed ⊢
      exact Dde.kept_of_failed earlier world usage.use failed

/-- An engine that runs, but through which nothing can be done. -/
structure Jammed where
  fault : Fault

instance : SharedBuffer.Channel Jammed Unit where
  lock jammed := return .error jammed.fault
  unlock _ := return ()
  capacity _ _ := 0
  transact jammed _ := return .error jammed.fault
  creatorAlive _ := return true
  workingDirectory _ := return none

instance : Dde.Client Jammed Unit where
  runMacro jammed _ := return .error jammed.fault
  brainActivity jammed := return .error jammed.fault
  partner _ := return none
  processRunning _ _ := return true
  available _ := return true
  workingDirectory _ _ := return none

/-- A macro or a mutex may fail with a fatal fault, and the transport does not take
itself for closed. -/
theorem not_every_fatal_fault_shuts :
    let jammed : Jammed := ⟨.other "engine lost"⟩
    let uses : List ((Unit → Unit) × Use) := [(id, .send [[0x61]]), (id, .check)]
    let macros : Dde.Link Jammed := ⟨jammed, 1, none, none, false⟩
    let buffer : SharedBuffer.Link Jammed := .ofChannel jammed
    (¬ (usages macros () uses : List (Dde.LinkUsage Jammed Unit)).Pairwise
      fun earlier later => earlier.Fatal → later.Shut) ∧
    (¬ (usages buffer () uses : List (SharedBuffer.LinkUsage Jammed Unit)).Pairwise
      fun earlier later => earlier.Fatal → later.Shut) := by
  intro jammed uses macros buffer
  refine ⟨?_, ?_⟩
  · intro shuts
    have first := (List.pairwise_cons.mp shuts).1 _ (.head _) ⟨jammed.fault, rfl, .inl ⟨false, rfl⟩⟩
    have gone : Outcome.gone false = .gone true := first.2
    cases gone
  · intro shuts
    have first := (List.pairwise_cons.mp shuts).1 _ (.head _) ⟨jammed.fault, rfl, .inl ⟨false, rfl⟩⟩
    have gone : Outcome.gone false = .gone true := first.2
    cases gone

end EngineGateway
