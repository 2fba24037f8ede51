import EngineGateway.Engine.Session
import EngineGateway.Proofs.Script.Units
import EngineGateway.Proofs.World

/-!
# The calls that a session makes

In an overheard world the calls that reach a transport are kept beside the world
itself.  Sessions run there as anywhere else, and listening changes nothing of
what they do.  A script makes no calls when the session is over or when there is
nothing to send.  Otherwise the limit is asked for, and the script is sent in one
call unless a unit is over the limit.
-/

namespace EngineGateway.Engine

variable {α β σ ω : Type}

/-- A call that reaches a transport, with what it came to. -/
inductive TransportCall where
  | limit (limit : Option Nat)
  | send (units : List Bytes) (outcome : Except Fault Reply)
  | check (gone : Bool)
  | directory (found : Option String)
  | handshake (outcome : Except DiscoveryError Identity)

/-- A world and the calls to a transport that have been overheard in it. -/
structure Overheard (ω : Type) where
  world : ω
  calls : List TransportCall

namespace Overheard

/-- Act on the world and keep the call. -/
def noting (action : StateM ω α) (call : α → TransportCall) : StateM (Overheard ω) α :=
  fun overheard =>
    let (value, world) := action overheard.world
    (value, ⟨world, overheard.calls ++ [call value]⟩)

theorem noting_run (action : StateM ω α) (call : α → TransportCall)
    (overheard : Overheard ω) :
    (noting action call).run overheard =
      ((action.run overheard.world).1, ⟨(action.run overheard.world).2,
        overheard.calls ++ [call (action.run overheard.world).1]⟩) := rfl

end Overheard

instance [Transport σ ω] : Transport σ (Overheard ω) where
  family transport := Transport.family ω transport
  unitLimit transport :=
    Overheard.noting (Transport.unitLimit transport) .limit
  sendUnits transport units :=
    Overheard.noting (Transport.sendUnits transport units) fun sent => .send units sent.1
  isClosed transport :=
    Overheard.noting (Transport.isClosed transport) fun answer => .check answer.1
  workingDirectory transport :=
    Overheard.noting (Transport.workingDirectory transport) .directory
  handshake transport :=
    Overheard.noting (Transport.handshake transport) fun shaken => .handshake shaken.1

/-- The calls that a program makes in a world. -/
def heard (program : StateM (Overheard ω) α) (world : ω) : List TransportCall :=
  (program.run ⟨world, []⟩).2.calls

/-! ## Listening -/

/-- The program does the same whether or not somebody listens. -/
def Transparent (listened : StateM (Overheard ω) α) (plain : StateM ω α) : Prop :=
  ∀ world calls, listened.run ⟨world, calls⟩ =
    ((plain.run world).1, ⟨(plain.run world).2, calls ++ heard listened world⟩)

namespace Transparent

variable {listened : StateM (Overheard ω) α} {plain : StateM ω α}

theorem pure (value : α) :
    Transparent (Pure.pure value : StateM (Overheard ω) α) (Pure.pure value) := by
  intro world calls
  simp only [heard, run_pure, List.append_nil]

theorem noting (action : StateM ω α) (call : α → TransportCall) :
    Transparent (Overheard.noting action call) action := by
  intro world calls
  simp [heard, Overheard.noting_run]

theorem bind (first : Transparent listened plain)
    {listenedNext : α → StateM (Overheard ω) β} {plainNext : α → StateM ω β}
    (next : ∀ value, Transparent (listenedNext value) (plainNext value)) :
    Transparent (listened >>= listenedNext) (plain >>= plainNext) := by
  intro world calls
  have made : heard (listened >>= listenedNext) world = heard listened world ++
      heard (listenedNext (plain.run world).1) (plain.run world).2 := by
    rw [heard, run_bind, first world [], next]
    rfl
  rw [run_bind, first world calls, next, made, run_bind, List.append_assoc]

end Transparent

theorem Session.send_transparent [Transport σ ω] (session : Session σ) (text : String) :
    Transparent (session.send text : StateM (Overheard ω) _) (session.send text) := by
  simp only [Session.send]
  split_ifs
  · exact .pure _
  · exact .pure _
  · apply Transparent.bind (.noting _ _)
    intro limit
    cases planUnits limit (scriptBytes session.identity text) with
    | error fault => exact .pure _
    | ok units =>
        apply Transparent.bind (.noting _ _)
        intro sent
        rcases sent with ⟨outcome, transport⟩
        cases outcome with
        | error fault => exact .pure _
        | ok reply => exact .pure _

theorem Session.isClosed_transparent [Transport σ ω] (session : Session σ) :
    Transparent (session.isClosed : StateM (Overheard ω) _) session.isClosed := by
  unfold Session.isClosed
  split
  · exact .pure _
  · exact .bind (.noting _ _) fun _ => .pure _

/-! ## Faults -/

/-- The fault ends the session that meets it. -/
def Fault.Ends (fault : Fault) : Prop :=
  (∃ reconnect, fault.faultClass = .fatal reconnect) ∨ fault.faultClass = .invariant

theorem Fault.isFatal_iff (fault : Fault) : fault.isFatal = true ↔ fault.Ends := by
  unfold Fault.Ends
  cases fault <;> simp [Fault.isFatal, Fault.faultClass]

theorem Session.fail_closed (session : Session σ) (fault : Fault) :
    (session.fail fault).2.closed = (session.closed || fault.isFatal) := by
  cases fault <;> simp [Session.fail, Fault.faultClass, Fault.isFatal]

/-- Of the faults that end an open session only a broken pipe asks for a new
attempt. -/
theorem Session.fail_reconnect {session : Session σ} {fault : Fault}
    (waits : session.reconnect = false) :
    (session.fail fault).2.reconnect = true ↔ fault = .brokenPipe := by
  cases fault <;> simp [Session.fail, Fault.faultClass, waits]

theorem Session.fail_transport (session : Session σ) (fault : Fault) :
    (session.fail fault).2.transport = session.transport := by
  cases fault <;> rfl

/-- A fault that does not end the session leaves it as it was. -/
theorem Session.fail_of_harmless {session : Session σ} {fault : Fault}
    (harmless : fault.isFatal = false) :
    session.fail fault = (.error fault.message, session) := by
  cases fault <;> simp [Fault.isFatal, Fault.faultClass] at harmless <;> rfl

/-! ## Planning -/

/-- What the octets of a script are sent as under a limit: nothing at all, the whole
script, units within the limit, or not at all because of the first unit that is
over the limit. -/
inductive Planned : Option Nat → Bytes → Except Fault (List Bytes) → Prop where
  | nothing {limit : Option Nat} : Planned limit [] (.ok [])
  | whole {octets : Bytes} : octets ≠ [] → Planned none octets (.ok [octets])
  | units {bound : Nat} {octets : Bytes} : octets ≠ [] →
      (∀ unit ∈ Script.units bound octets, unit.length ≤ bound) →
      Planned (some bound) octets (.ok (Script.units bound octets))
  | oversized {bound : Nat} {octets unit : Bytes} {earlier later : List Bytes} :
      Script.units bound octets = earlier ++ unit :: later →
      (∀ other ∈ earlier, other.length ≤ bound) → bound < unit.length →
      Planned (some bound) octets (.error (.tooLong unit.length bound))

theorem planUnits_planned (limit : Option Nat) {octets : Bytes} (something : octets ≠ []) :
    Planned limit octets (planUnits limit octets) := by
  cases limit with
  | none =>
      simp only [planUnits]
      exact .whole something
  | some bound =>
      simp only [planUnits]
      cases found : (Script.units bound octets).find?
          fun unit => decide (bound < unit.length) with
      | none =>
          rw [List.find?_eq_none] at found
          apply Planned.units something
          intro unit member
          simpa using found unit member
      | some unit =>
          obtain ⟨longer, earlier, later, parts, before⟩ :=
            List.find?_eq_some_iff_append.mp found
          apply Planned.oversized parts
          · intro other member
            simpa using before other member
          · simpa using longer

/-- Nothing but an empty message is sent as no units. -/
theorem Planned.eq_nil_iff {limit : Option Nat} {octets : Bytes} {units : List Bytes}
    (planned : Planned limit octets (.ok units)) : units = [] ↔ octets = [] := by
  cases planned with
  | nothing => exact iff_of_true rfl rfl
  | whole filled => simp [filled]
  | @units bound _ filled _ =>
      have joined := Script.flatten_units bound octets
      refine iff_of_false (fun none => filled ?_) filled
      rw [← joined, none, List.flatten_nil]

/-- A script is refused exactly if one of its units is over the limit. -/
theorem Planned.refused_iff {limit : Option Nat} {octets : Bytes}
    {plan : Except Fault (List Bytes)} (planned : Planned limit octets plan) :
    (∃ fault, plan = .error fault) ↔
      ∃ bound, limit = some bound ∧
        ∃ unit ∈ Script.units bound octets, bound < unit.length := by
  cases planned with
  | nothing =>
      constructor
      · intro refused
        rcases refused with ⟨fault, contradictory⟩
        cases contradictory
      · intro oversized
        rcases oversized with ⟨bound, _, unit, member, _⟩
        cases member
  | whole _ =>
      constructor
      · intro refused
        rcases refused with ⟨fault, contradictory⟩
        cases contradictory
      · intro oversized
        rcases oversized with ⟨bound, contradictory, _⟩
        cases contradictory
  | @units bound octets _ within =>
      constructor
      · intro refused
        rcases refused with ⟨fault, contradictory⟩
        cases contradictory
      · intro oversized
        rcases oversized with ⟨other, same, unit, member, longer⟩
        obtain rfl := Option.some.inj same
        exact absurd (within unit member) (Nat.not_le.mpr longer)
  | @oversized bound octets unit earlier later parts _ longer =>
      constructor
      · intro _
        exact ⟨bound, rfl, unit, by simp [parts], longer⟩
      · intro _
        exact ⟨_, rfl⟩

/-- Refusing a script does not end the session. -/
theorem Planned.harmless {limit : Option Nat} {octets : Bytes} {fault : Fault}
    (planned : Planned limit octets (.error fault)) : fault.isFatal = false := by
  cases planned with
  | oversized _ _ _ => rfl

section Plan

variable [Transport σ ω]

/-- The limit that the transport of a session tells when it is asked. -/
def Session.limit (session : Session σ) (world : ω) : Option Nat :=
  ((Transport.unitLimit session.transport).run world).1

/-- The world in which the transport has told its limit. -/
def Session.limited (session : Session σ) (world : ω) : ω :=
  ((Transport.unitLimit session.transport).run world).2

/-- The units that a script is sent as, none at all for an empty one, or why it is
refused. -/
def Session.plan (session : Session σ) (text : String) (world : ω) :
    Except Fault (List Bytes) :=
  let octets := scriptBytes session.identity text
  if octets.isEmpty then .ok [] else planUnits (session.limit world) octets

theorem Session.planned (session : Session σ) (text : String) (world : ω) :
    Planned (session.limit world) (scriptBytes session.identity text)
      (session.plan text world) := by
  simp only [plan]
  split_ifs with nothing
  · rw [List.isEmpty_iff.mp nothing]
    exact .nothing
  · exact planUnits_planned _ fun empty => nothing (List.isEmpty_iff.mpr empty)

/-- A unit of the script is over the limit. -/
def Session.Oversized (session : Session σ) (text : String) (world : ω) : Prop :=
  ∃ bound, session.limit world = some bound ∧
    ∃ unit ∈ Script.units bound (scriptBytes session.identity text), bound < unit.length

theorem Session.oversized_iff (session : Session σ) (text : String) (world : ω) :
    (∃ fault, session.plan text world = .error fault) ↔ session.Oversized text world :=
  (session.planned text world).refused_iff

end Plan

/-! ## Sending -/

/-- What a session makes of the outcome of a call. -/
def Session.settle (session : Session σ) : Except Fault Reply → Response × Session σ
  | .error fault => session.fail fault
  | .ok reply => (Session.respond reply, session)

section Sending

variable [Transport σ ω] {session : Session σ} {text : String} {world : ω}

theorem Session.send_of_ended (ended : session.closed = true) :
    heard (session.send text) world = [] ∧
      (session.send text).run world = ((.error Fault.notOpen.message, session), world) := by
  simp only [heard, Session.send, ended, if_true, run_pure]
  exact ⟨trivial, trivial⟩

theorem Session.send_of_nothing (going : session.closed = false)
    (plan : session.plan text world = .ok []) :
    heard (session.send text) world = [] ∧
      (session.send text).run world = ((.empty, session), world) := by
  have planned := session.planned text world
  rw [plan] at planned
  have nothing : (scriptBytes session.identity text).isEmpty = true :=
    List.isEmpty_iff.mpr (planned.eq_nil_iff.mp rfl)
  simp only [heard, Session.send, going, nothing, Bool.false_eq_true, if_false, if_true, run_pure]
  exact ⟨trivial, trivial⟩

theorem Session.send_of_refused (going : session.closed = false) {fault : Fault}
    (plan : session.plan text world = .error fault) :
    heard (session.send text) world = [.limit (session.limit world)] ∧
      (session.send text).run world =
        ((.error fault.message, session), session.limited world) := by
  have harmless : fault.isFatal = false := by
    have planned := session.planned text world
    rw [plan] at planned
    exact planned.harmless
  simp only [Session.plan] at plan
  split_ifs at plan with nothing
  unfold Session.limit at plan
  simp only [heard, Session.send, going, nothing, Bool.false_eq_true, if_false, run_bind,
    Transport.unitLimit, Overheard.noting_run, plan, Session.fail_of_harmless harmless, run_pure]
  exact ⟨rfl, rfl⟩

/-- A script with something in it is sent in one call. -/
theorem Session.send_of_units (going : session.closed = false) {units : List Bytes}
    (plan : session.plan text world = .ok units) (filled : units ≠ []) :
    let sent := (Transport.sendUnits session.transport units).run (session.limited world)
    heard (session.send text) world = [.limit (session.limit world), .send units sent.1.1] ∧
      (session.send text).run world =
        ({ session with transport := sent.1.2 }.settle sent.1.1, sent.2) := by
  simp only [Session.plan] at plan
  split_ifs at plan with nothing
  · cases plan
    exact absurd rfl filled
  · unfold Session.limit at plan
    simp only [heard, Session.send, going, nothing, Bool.false_eq_true, if_false, run_bind,
      Transport.unitLimit, Transport.sendUnits, Overheard.noting_run, plan, Session.limited]
    cases ((Transport.sendUnits session.transport units).run
        ((Transport.unitLimit session.transport).run world).2).1.1 with
    | error fault => exact ⟨rfl, rfl⟩
    | ok reply => exact ⟨rfl, rfl⟩

end Sending

/-- What becomes of a script: the calls that are made, the response, and the
session afterwards. -/
inductive Session.Sends [Transport σ ω] (session : Session σ) (text : String) (world : ω) :
    List TransportCall → Response → Session σ → Prop where
  /-- The session is over. -/
  | ended :
      session.closed = true →
      Sends session text world [] (.error Fault.notOpen.message) session
  /-- A unit is over the limit. -/
  | refused {fault : Fault} :
      session.closed = false → session.plan text world = .error fault →
      Sends session text world [.limit (session.limit world)] (.error fault.message) session
  /-- There is nothing to send. -/
  | nothing :
      session.closed = false → session.plan text world = .ok [] →
      Sends session text world [] .empty session
  /-- The transport fails. -/
  | failed {units : List Bytes} {fault : Fault} {transport : σ} :
      session.closed = false → session.plan text world = .ok units → units ≠ [] →
      ((Transport.sendUnits session.transport units).run (session.limited world)).1 =
        (.error fault, transport) →
      Sends session text world [.limit (session.limit world), .send units (.error fault)]
        (.error fault.message) ({ session with transport := transport }.fail fault).2
  /-- The engine replies. -/
  | answered {units : List Bytes} {reply : Reply} {transport : σ} :
      session.closed = false → session.plan text world = .ok units → units ≠ [] →
      ((Transport.sendUnits session.transport units).run (session.limited world)).1 =
        (.ok reply, transport) →
      Sends session text world [.limit (session.limit world), .send units (.ok reply)]
        (Session.respond reply) { session with transport := transport }

theorem Session.send_sends [Transport σ ω] (session : Session σ) (text : String)
    (world : ω) :
    session.Sends text world (heard (session.send text) world)
      ((session.send text).run world).1.1 ((session.send text).run world).1.2 := by
  cases state : session.closed with
  | true =>
      rw [(Session.send_of_ended state).1, (Session.send_of_ended state).2]
      exact .ended state
  | false =>
      cases plan : session.plan text world with
      | error fault =>
          rw [(Session.send_of_refused state plan).1, (Session.send_of_refused state plan).2]
          exact .refused state plan
      | ok units =>
          by_cases filled : units = []
          · subst filled
            rw [(Session.send_of_nothing state plan).1, (Session.send_of_nothing state plan).2]
            exact .nothing state plan
          · rw [(Session.send_of_units state plan filled).1,
              (Session.send_of_units state plan filled).2]
            cases sent : ((Transport.sendUnits session.transport units).run
                (session.limited world)).1 with
            | mk outcome after =>
                cases outcome with
                | error fault => exact .failed state plan filled sent
                | ok reply => exact .answered state plan filled sent

/-! ## Checking -/

/-- An open session is over from now on if its transport says so. -/
theorem Session.isClosed_of_going [Transport σ ω] {session : Session σ}
    (going : session.closed = false) (world : ω) :
    ∃ gone transport,
      heard session.isClosed world = [.check gone] ∧
      (session.isClosed.run world).1 =
        (gone, { session with transport := transport, closed := gone }) := by
  cases asked : ((Transport.isClosed session.transport).run world).1 with
  | mk gone transport =>
      refine ⟨gone, transport, ?_, ?_⟩
      · simp only [heard, Session.isClosed, going, Bool.false_eq_true, if_false, run_bind,
          run_pure, Transport.isClosed, Overheard.noting_run, asked]
        rfl
      · simp only [Session.isClosed, going, Bool.false_eq_true, if_false, run_bind,
          run_pure, asked]

/-! ## Foretold transports -/

/-- A transport whose outcomes are known in advance. -/
structure Foretold where
  limit : Option Nat
  outcomes : List (Except Fault Reply)

instance : Transport Foretold Unit where
  family _ := .socket
  unitLimit transport := pure transport.limit
  sendUnits transport _ :=
    match transport.outcomes with
    | [] => pure (.error .engineExited, transport)
    | outcome :: rest => pure (outcome, { transport with outcomes := rest })
  isClosed transport := pure (false, transport)
  workingDirectory _ := pure none
  handshake transport := pure (.ok ⟨.socket, 2, 286, "Docking Station", none⟩, transport)

/-- A session over a foretold transport that has just been attached. -/
def Session.foretold (limit : Option Nat) (outcomes : List (Except Fault Reply)) :
    Session Foretold where
  transport := ⟨limit, outcomes⟩
  identity := ⟨.socket, 2, 286, "Docking Station", none⟩
  closed := false
  reconnect := false

end EngineGateway.Engine
