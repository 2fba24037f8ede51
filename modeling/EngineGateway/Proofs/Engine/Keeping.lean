import EngineGateway.Engine.Mailbox
import EngineGateway.Proofs.Engine.Calls

/-!
# A session stays with its engine

Whatever is asked of a session, and however it ends, the engine that it was attached
to remains the one that it names.
-/

namespace EngineGateway.Engine

variable {σ ω : Type}

@[simp] theorem Session.identity_fail (session : Session σ) (fault : Fault) :
    (session.fail fault).2.identity = session.identity := by
  unfold Session.fail
  cases fault.faultClass <;> rfl

@[simp] theorem Mailbox.session_post (mailbox : Mailbox σ) (letter : Letter) :
    (mailbox.post letter).2.session = mailbox.session := by
  unfold Mailbox.post
  split_ifs <;> rfl

variable [Transport σ ω]

theorem Session.Sends.identity {session after : Session σ} {text : String} {world : ω}
    {calls : List TransportCall} {response : Response}
    (sends : session.Sends text world calls response after) :
    after.identity = session.identity := by
  cases sends with
  | ended _ => rfl
  | refused _ _ => rfl
  | nothing _ _ => rfl
  | failed _ _ _ _ => exact Session.identity_fail _ _
  | answered _ _ _ _ => rfl

@[simp] theorem Session.identity_send (session : Session σ) (text : String) (world : ω) :
    ((session.send text).run world).1.2.identity = session.identity := by
  exact (session.send_sends text world).identity

@[simp] theorem Session.identity_isClosed (session : Session σ) (world : ω) :
    (session.isClosed.run world).1.2.identity = session.identity := by
  cases state : session.closed with
  | true => simp only [Session.isClosed, state, if_true, run_pure]
  | false =>
      rcases Session.isClosed_of_going state world with ⟨gone, transport, _, asked⟩
      rw [asked]

@[simp] theorem Session.identity_probe (session : Session σ) (command : Option String)
    (world : ω) : ((session.probe command).run world).1.2.identity = session.identity := by
  cases command with
  | none => simp only [Session.probe, run_bind, run_pure, Session.identity_isClosed]
  | some command =>
      simp only [Session.probe]
      split_ifs
      · simp only [run_bind, run_pure, Session.identity_isClosed]
      · simp only [run_bind]
        split_ifs <;>
          simp only [run_bind, run_pure, Session.identity_isClosed, Session.identity_send]

@[simp] theorem Session.identity_perform (session : Session σ) (errand : Errand) (world : ω) :
    ((session.perform errand).run world).1.2.identity = session.identity := by
  cases errand with
  | send text => simp only [Session.perform, run_bind, run_pure, Session.identity_send]
  | probe command => simp only [Session.perform, run_bind, run_pure, Session.identity_probe]

namespace Mailbox

/-- Working off a letter leaves the mailbox in front of the same engine. -/
@[simp] theorem identity_work (mailbox : Mailbox σ) (world : ω) :
    (mailbox.work.run world).1.2.session.identity = mailbox.session.identity := by
  unfold work
  split
  · rfl
  · rfl
  · simp only [run_bind, run_pure, Session.identity_perform]

@[simp] theorem identity_workTimes (times : Nat) (mailbox : Mailbox σ) (world : ω) :
    ((workTimes times mailbox).run world).1.2.session.identity = mailbox.session.identity := by
  induction times generalizing mailbox world with
  | zero => rfl
  | succ more ih => simp only [workTimes, run_bind, run_pure, ih, identity_work]

theorem identity_ask (mailbox : Mailbox σ) (errand : Errand) (world : ω) :
    ((mailbox.ask errand).run world).1.2.session.identity = mailbox.session.identity := by
  simp only [ask, workAll, run_bind, run_pure, identity_workTimes, session_post]

theorem identity_askProbe (mailbox : Mailbox σ) (command : Option String) (world : ω) :
    ((mailbox.askProbe command).run world).1.2.session.identity = mailbox.session.identity := by
  have kept := mailbox.identity_ask (.probe command) world
  simp only [askProbe, run_bind]
  split <;> exact kept

end Mailbox

end EngineGateway.Engine
