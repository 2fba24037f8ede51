import EngineGateway.Engine.Mailbox
import EngineGateway.Proofs.Engine.Calls
import EngineGateway.Socket.Link

/-!
# Sessions over a scripting socket

A session over a scripting socket ends with the first fatal fault that one of its
scripts meets, and that fault alone decides whether one more attempt is made to
reach the engine.  Checking the session never ends it, because its link is closed
only together with the session.
-/

namespace EngineGateway.Engine

variable {σ ω : Type}

/-- The fault that a script meets when it is sent, if it meets one. -/
def Session.faultOf [Transport σ ω] (session : Session σ) (text : String) (world : ω) :
    Option Fault :=
  if session.closed then none
  else
    match session.plan text world with
    | .error fault => some fault
    | .ok [] => none
    | .ok units =>
        match ((Transport.sendUnits session.transport units).run
            (session.limited world)).1.1 with
        | .error fault => some fault
        | .ok _ => none

/-- The script that an errand sends. -/
def Errand.script? : Errand → Option String
  | .send text => some text
  | .probe none => none
  | .probe (some command) => if command.isEmpty then none else some command

/-- The fault that an errand meets. -/
def Session.faultOn [Transport σ ω] (session : Session σ) (errand : Errand)
    (world : ω) : Option Fault :=
  errand.script?.bind fun text => session.faultOf text world

end EngineGateway.Engine

namespace EngineGateway.Socket

open Engine

variable {κ ω : Type} [Network κ ω]

/-! ## Links -/

/-- The reply is a fault that ends the connection. -/
def endsLink : Except Fault Reply → Bool
  | .error fault => fault.isFatal
  | .ok _ => false

theorem Link.exchangeOnto_snd (link : Link) (joined : Bytes) (units : List Bytes)
    (world : ω) :
    ((link.exchangeOnto joined units).run world).1.2 =
      { link with
        closed := link.closed ||
          endsLink ((link.exchangeOnto joined units).run world).1.1 } := by
  induction units generalizing joined world with
  | nil => simp only [exchangeOnto, run_pure, endsLink, Bool.or_false]
  | cons unit rest ih =>
      simp only [exchangeOnto, run_bind]
      cases ((exchange link.endpoint link.patience unit).run world).1 with
      | error fault => rfl
      | ok reply => exact ih _ _

/-- Sending leaves the link as it was, except that a fault may close it. -/
theorem Link.sendUnits_snd (link : Link) (units : List Bytes) (world : ω) :
    ((link.sendUnits units).run world).1.2 =
      { link with
        closed := link.closed || endsLink ((link.sendUnits units).run world).1.1 } := by
  unfold sendUnits
  split
  · rename_i closed
    have same : (link.closed || endsLink (.error .notOpen)) = link.closed := by
      simp [closed, endsLink, Fault.isFatal, Fault.faultClass]
    show link = { link with closed := link.closed || endsLink (.error .notOpen) }
    rw [same]
  · exact link.exchangeOnto_snd [] units world

/-! ## Sessions -/

/-- The link is closed only together with the session. -/
def Coherent (session : Session Link) : Prop :=
  session.transport.closed = true → session.closed = true

variable {session : Session Link}

theorem isClosed_run (coherent : Coherent session) (world : ω) :
    (session.isClosed).run world = ((session.closed, session), world) := by
  rcases session with ⟨link, identity, closed, reconnect⟩
  cases closed with
  | true => rfl
  | false =>
      have still : link.closed = false :=
        Bool.eq_false_iff.mpr fun gone => by simpa using coherent gone
      show ((link.closed, (⟨link, identity, link.closed, reconnect⟩ : Session Link)), world) = _
      rw [still]

/-- What becomes of a session whose script meets a fault or none. -/
structure Sent (before after : Session Link) (fault : Option Fault) : Prop where
  coherent : Coherent after
  endpoint : after.transport.endpoint = before.transport.endpoint
  unharmed : fault = none →
    after.closed = before.closed ∧ after.reconnect = before.reconnect
  harmed : ∀ met, fault = some met →
    before.closed = false ∧ after.closed = met.isFatal ∧
      (before.reconnect = false → (after.reconnect = true ↔ met = .brokenPipe))

theorem Sent.same (coherent : Coherent session) : Sent session session none :=
  ⟨coherent, rfl, fun _ => ⟨rfl, rfl⟩, by simp⟩

/-- A fault that is reported once the link has been closed if it is fatal. -/
theorem Sent.fail {link : Link} {fault : Fault} (going : session.closed = false)
    (endpoint : link.endpoint = session.transport.endpoint)
    (closes : link.closed = true → fault.isFatal = true) :
    Sent session ({ session with transport := link }.fail fault).2 (some fault) where
  coherent gone := by
    rw [Session.fail_transport] at gone
    rw [Session.fail_closed, closes gone, Bool.or_true]
  endpoint := by rw [Session.fail_transport, endpoint]
  unharmed := by simp
  harmed met same := by
    obtain rfl := Option.some.inj same
    refine ⟨going, ?_, fun waits => Session.fail_reconnect waits⟩
    rw [Session.fail_closed, going, Bool.false_or]

/-- A session that is over stays as it is. -/
theorem Sent.ended {after : Session Link} {fault : Option Fault}
    (sent : Sent session after fault) (closed : session.closed = true) :
    after.closed = true ∧ after.reconnect = session.reconnect := by
  cases fault with
  | none =>
      rcases sent.unharmed rfl with ⟨same, reconnect⟩
      exact ⟨same.trans closed, reconnect⟩
  | some met =>
      rcases sent.harmed met rfl with ⟨going, _⟩
      rw [closed] at going
      cases going

theorem sent_send (coherent : Coherent session) (text : String) (world : ω) :
    Sent session ((session.send text).run world).1.2 (session.faultOf text world) := by
  cases state : session.closed with
  | true =>
      rw [(Session.send_of_ended state).2, Session.faultOf, if_pos state]
      exact .same coherent
  | false =>
      have going : session.transport.closed = false :=
        Bool.eq_false_iff.mpr fun gone => by simp [coherent gone] at state
      simp only [Session.faultOf, state, Bool.false_eq_true, if_false]
      cases plan : session.plan text world with
      | error fault =>
          have planned := session.planned text world
          rw [plan] at planned
          have failed : Sent session (session.fail fault).2 (some fault) :=
            .fail state rfl (by simp [going])
          rw [Session.fail_of_harmless planned.harmless] at failed
          rw [(Session.send_of_refused state plan).2]
          exact failed
      | ok units =>
          cases units with
          | nil =>
              rw [(Session.send_of_nothing state plan).2]
              exact .same coherent
          | cons unit rest =>
              have after := session.transport.sendUnits_snd (unit :: rest)
                (session.limited world)
              rw [going, Bool.false_or] at after
              rw [(Session.send_of_units state plan (List.cons_ne_nil _ _)).2]
              simp only [Transport.sendUnits]
              rw [after]
              cases ((session.transport.sendUnits (unit :: rest)).run
                  (session.limited world)).1.1 with
              | error fault => exact .fail state rfl fun fatal => fatal
              | ok reply =>
                  exact ⟨(nomatch ·), rfl, fun _ => ⟨rfl, rfl⟩, by simp⟩

/-- A probe sends at most one script, and reports how that leaves the session. -/
theorem sent_probe (coherent : Coherent session) (command : Option String) (world : ω) :
    let probed := (session.probe command).run world
    Sent session probed.1.2 (session.faultOn (.probe command) world) ∧
      probed.1.1.closed = probed.1.2.closed ∧
      probed.1.1.reconnect = probed.1.2.reconnect := by
  cases command with
  | none =>
      simp only [Session.probe, run_bind, run_pure, isClosed_run coherent]
      exact ⟨.same coherent, trivial, trivial⟩
  | some command =>
      by_cases blank : command.isEmpty = true
      · simp only [Session.probe, Session.faultOn, Errand.script?, blank, if_true,
          run_bind, run_pure, isClosed_run coherent]
        exact ⟨.same coherent, trivial, trivial⟩
      · simp only [Session.probe, Session.faultOn, Errand.script?, blank,
          Bool.false_eq_true, if_false, run_bind, isClosed_run coherent]
        cases going : session.closed with
        | true =>
            simp only [if_true, run_bind, run_pure, isClosed_run coherent,
              Option.bind_some, Session.faultOf, going]
            exact ⟨.same coherent, trivial, trivial⟩
        | false =>
            have sent := sent_send coherent command world
            simp only [Bool.false_eq_true, if_false, run_bind, run_pure,
              isClosed_run sent.coherent, Option.bind_some]
            exact ⟨sent, trivial, trivial⟩

end EngineGateway.Socket
