import EngineGateway.Proofs.Engine.Calls

/-!
# The life of a session

A session is open when it has been attached.  It ends with the first script that
meets a fatal fault, or with the first check that finds the engine gone, and it
never opens again: from then on every script is refused and the transport is left
alone.  One more attempt to connect is wanted exactly if a broken pipe has ended
the session.
-/

namespace EngineGateway.Engine

variable {σ ω : Type}

/-! ## Transcripts -/

/-- What may be asked of a session. -/
inductive Request where
  | send (text : String)
  /-- Whether the session is over. -/
  | check
  deriving Repr, DecidableEq

/-- What a session answers. -/
inductive Reaction where
  | response (response : Response)
  | gone (gone : Bool)
  deriving Repr, DecidableEq

def Session.react [Transport σ ω] (session : Session σ) :
    Request → StateM ω (Reaction × Session σ)
  | .send text => do
      let (response, session) ← session.send text
      return (.response response, session)
  | .check => do
      let (gone, session) ← session.isClosed
      return (.gone gone, session)

/-- A session answers the same whether or not its transport is overheard. -/
theorem Session.react_transparent [Transport σ ω] (session : Session σ)
    (request : Request) :
    Transparent (session.react request : StateM (Overheard ω) _) (session.react request) := by
  cases request with
  | send text => exact .bind (session.send_transparent text) fun _ => .pure _
  | check => exact .bind session.isClosed_transparent fun _ => .pure _

/-- A request to a session, and what came of it. -/
structure Record (σ ω : Type) where
  before : Session σ
  /-- The world in which the request was made. -/
  world : ω
  request : Request
  reaction : Reaction
  /-- The calls that reached the transport. -/
  calls : List TransportCall
  after : Session σ
  worldAfter : ω

def Session.record [Transport σ ω] (session : Session σ) (request : Request)
    (world : ω) : Record σ ω where
  before := session
  world := world
  request := request
  reaction := ((session.react request).run world).1.1
  calls := heard (session.react request) world
  after := ((session.react request).run world).1.2
  worldAfter := ((session.react request).run world).2

/-- The records of requests that are made one after another.  Before each of them
the world may change. -/
def Session.transcript [Transport σ ω] (session : Session σ) (world : ω) :
    List ((ω → ω) × Request) → List (Record σ ω)
  | [] => []
  | (change, request) :: rest =>
      let record := session.record request (change world)
      record :: record.after.transcript record.worldAfter rest

/-- The session after all that has been recorded. -/
def Session.finally (session : Session σ) : List (Record σ ω) → Session σ
  | [] => session
  | record :: rest => record.after.finally rest

namespace Record

/-- The session was open and is over. -/
def Ends (record : Record σ ω) : Prop :=
  record.before.closed = false ∧ record.after.closed = true

/-- The transport failed to send. -/
def Fails (record : Record σ ω) (fault : Fault) : Prop :=
  ∃ units, .send units (.error fault) ∈ record.calls

/-- A script has ended the session with a broken pipe. -/
def Breaks (record : Record σ ω) : Prop :=
  (∃ text, record.request = .send text) ∧ record.Ends ∧ record.Fails .brokenPipe

/-- What is answered once the session is over. -/
def refusal : Request → Reaction
  | .send _ => .response (.error "Port is not open.")
  | .check => .gone true

/-- The session is over and stays as it is.  Nothing reaches the transport. -/
structure Idle (record : Record σ ω) : Prop where
  closed : record.after.closed = true
  unchanged : record.after = record.before
  silent : record.calls = []
  still : record.worldAfter = record.world
  refused : record.reaction = refusal record.request

/-- What the record of a script tells. -/
structure Tells [Transport σ ω] (record : Record σ ω) (text : String) : Prop where
  /-- The session ends with a fatal fault of the transport and with nothing else. -/
  ends : record.Ends ↔ ∃ fault, record.Fails fault ∧ fault.Ends
  /-- A script that does not end the session leaves it as it was. -/
  stays : record.after.closed = record.before.closed →
    record.after = { record.before with transport := record.after.transport }
  errs : ∃ response, record.reaction = .response response ∧
    (response.isError = true ↔ record.before.closed = true ∨
      record.before.Oversized text record.world ∨ ∃ fault, record.Fails fault)

/-! ## Single records -/

section Single

variable {record : Record σ ω} {fault : Fault}

/-- A single call fails in one way at most. -/
theorem fails_iff {limit : Option Nat} {units : List Bytes} {outcome : Except Fault Reply}
    (only : record.calls = [.limit limit, .send units outcome]) :
    record.Fails fault ↔ outcome = .error fault := by
  simp [Fails, only, eq_comm]

variable [Transport σ ω] {text : String} {response : Response}

/-- A script of which nothing reaches the transport. -/
theorem tells_of_unsent (unsent : ∀ units outcome, .send units outcome ∉ record.calls)
    (same : record.after = record.before)
    (reacted : record.reaction = .response response)
    (errs : response.isError = true ↔
      record.before.closed = true ∨ record.before.Oversized text record.world) :
    record.Tells text where
  ends := by
    constructor
    · intro ends
      rcases ends with ⟨going, ended⟩
      rw [same, going] at ended
      cases ended
    · intro failed
      rcases failed with ⟨fault, ⟨units, sent⟩, _⟩
      exact absurd sent (unsent units _)
  stays _ := by rw [same]
  errs := by
    refine ⟨response, reacted, errs.trans ?_⟩
    simp [Fails, unsent]

/-- A script that is sent. -/
theorem tells_of_call {limit : Option Nat} {units : List Bytes}
    {outcome : Except Fault Reply}
    (going : record.before.closed = false)
    (within : ¬ record.before.Oversized text record.world)
    (only : record.calls = [.limit limit, .send units outcome])
    (closes : record.after.closed = true ↔ ∃ fault, outcome = .error fault ∧ fault.Ends)
    (stays : record.after.closed = false →
      record.after = { record.before with transport := record.after.transport })
    (reacted : record.reaction = .response response)
    (errs : response.isError = true ↔ ∃ fault, outcome = .error fault) :
    record.Tells text where
  ends := by
    simp only [Ends, going, true_and, closes, fails_iff only]
  stays same := stays (same.trans going)
  errs := by
    refine ⟨response, reacted, errs.trans ?_⟩
    simp only [going, within, fails_iff only, Bool.false_eq_true, false_or]

end Single

end Record

/-! ## One request -/

section Request

variable [Transport σ ω] {session after : Session σ} {request : Request} {text : String}
  {world : ω} {calls : List TransportCall} {response : Response}

theorem Session.isError_respond (reply : Reply) :
    (Session.respond reply).isError = false := by
  cases reply <;> rfl

theorem Session.not_oversized {units : List Bytes}
    (planned : session.plan text world = .ok units) : ¬ session.Oversized text world := by
  intro oversized
  rcases (session.oversized_iff text world).mpr oversized with ⟨fault, refused⟩
  rw [planned] at refused
  cases refused

/-- A fault that is met while sending closes an open session exactly if it is
fatal. -/
theorem Session.closed_of_failed (going : session.closed = false) (transport : σ)
    (fault : Fault) :
    ({ session with transport := transport }.fail fault).2.closed = fault.isFatal := by
  rw [Session.fail_closed, going, Bool.false_or]

theorem Session.Sends.tells (sends : session.Sends text world calls response after)
    (request : Request) (worldAfter : ω) :
    Record.Tells ⟨session, world, request, .response response, calls, after, worldAfter⟩
      text := by
  cases sends with
  | ended closed =>
      apply Record.tells_of_unsent (by simp) rfl rfl
      simp [Response.isError, closed]
  | refused going plan =>
      apply Record.tells_of_unsent (by simp) rfl rfl
      have oversized := (session.oversized_iff text world).mp ⟨_, plan⟩
      simp [Response.isError, oversized]
  | nothing going plan =>
      apply Record.tells_of_unsent (by simp) rfl rfl
      simp [Response.empty, Response.isError, going, Session.not_oversized plan]
  | @failed units fault transport going plan filled sent =>
      have closes := Session.closed_of_failed going transport fault
      apply Record.tells_of_call going (Session.not_oversized plan) rfl
      · rw [closes, Fault.isFatal_iff]
        simp
      · intro still
        rw [closes] at still
        rw [Session.fail_of_harmless still]
      · rfl
      · simp [Response.isError]
  | @answered units reply transport going plan filled sent =>
      apply Record.tells_of_call going (Session.not_oversized plan) rfl
      · simp [going]
      · intro _
        rfl
      · rfl
      · simp [Session.isError_respond]

theorem Session.record_tells (session : Session σ) (text : String) (world : ω) :
    (session.record (.send text) world).Tells text :=
  (session.send_sends text world).tells (.send text) _

/-- A session that is over is left alone. -/
theorem Session.record_idle (ended : session.closed = true) :
    (session.record request world).Idle := by
  rcases session with ⟨transport, identity, closed, reconnect⟩
  have same : closed = true := ended
  subst same
  cases request with
  | send text => exact ⟨rfl, rfl, rfl, rfl, rfl⟩
  | check => exact ⟨rfl, rfl, rfl, rfl, rfl⟩

/-! ## Asking for a new attempt -/

/-- An open session does not ask for a new attempt. -/
def Session.Calm (session : Session σ) : Prop :=
  session.closed = false → session.reconnect = false

/-- Only a script that ends the session with a broken pipe asks for one. -/
theorem Session.Sends.reconnect_iff
    (sends : session.Sends text world calls response after) (calm : session.Calm) :
    after.Calm ∧ (after.reconnect = true ↔ session.reconnect = true ∨
      session.closed = false ∧ after.closed = true ∧
        ∃ units, .send units (.error .brokenPipe) ∈ calls) := by
  cases sends with
  | ended closed => exact ⟨calm, by simp⟩
  | refused going plan => exact ⟨calm, by simp⟩
  | nothing going plan => exact ⟨calm, by simp⟩
  | @failed units fault transport going plan filled sent =>
      have waits : session.reconnect = false := calm going
      have closes := Session.closed_of_failed going transport fault
      constructor
      · intro still
        rw [closes] at still
        rw [Session.fail_of_harmless still]
        exact waits
      · have asks : ({ session with transport := transport }.fail fault).2.reconnect = true ↔
            fault = .brokenPipe := Session.fail_reconnect waits
        rw [asks, closes, waits]
        constructor
        · intro broken
          subst broken
          exact .inr ⟨going, rfl, units, by simp⟩
        · intro either
          rcases either with asked | ⟨_, _, others, met⟩
          · cases asked
          · have same : others = units ∧ .brokenPipe = fault := by simpa using met
            exact same.2.symm
  | @answered units reply transport going plan filled sent =>
      refine ⟨calm, ?_⟩
      simp [going]

theorem Session.record_reconnect (calm : session.Calm) (request : Request) (world : ω) :
    (session.record request world).after.Calm ∧
      ((session.record request world).after.reconnect = true ↔
        session.reconnect = true ∨ (session.record request world).Breaks) := by
  cases request with
  | send text =>
      rcases (session.send_sends text world).reconnect_iff calm with ⟨still, asks⟩
      refine ⟨still, asks.trans (or_congr_right ?_)⟩
      constructor
      · intro broke
        rcases broke with ⟨going, ended, met⟩
        exact ⟨⟨text, rfl⟩, ⟨going, ended⟩, met⟩
      · intro broke
        rcases broke with ⟨_, ⟨going, ended⟩, met⟩
        exact ⟨going, ended, met⟩
  | check =>
      have unbroken : ¬ (session.record .check world).Breaks := by
        intro broke
        rcases broke with ⟨⟨text, sent⟩, _⟩
        cases sent
      cases state : session.closed with
      | true =>
          have same : (session.record .check world).after = session :=
            (session.record_idle state).unchanged
          rw [same]
          exact ⟨calm, by simp [unbroken]⟩
      | false =>
          rcases session.isClosed_of_going state world with ⟨gone, transport, _, answered⟩
          have after : (session.record .check world).after =
              { session with transport := transport, closed := gone } :=
            congrArg Prod.snd answered
          rw [after]
          exact ⟨fun _ => calm state, by simp [unbroken]⟩

end Request

/-! ## Whole lives -/

section Lives

variable [Transport σ ω] {session : Session σ}

/-- A session that is over is left alone from then on. -/
theorem Session.idle_of_mem_transcript (uses : List ((ω → ω) × Request)) (world : ω)
    (ended : session.closed = true) :
    ∀ record ∈ session.transcript world uses, record.Idle := by
  induction uses generalizing session world with
  | nil => simp [Session.transcript]
  | cons use rest ih =>
      have idle : (session.record use.2 (use.1 world)).Idle := session.record_idle ended
      intro record member
      rcases List.mem_cons.mp member with rfl | later
      · exact idle
      · exact ih _ idle.closed record later

/-- What is recorded is one request to a session in some world. -/
theorem Session.exists_of_mem_transcript (uses : List ((ω → ω) × Request)) (world : ω) :
    ∀ record ∈ session.transcript world uses,
      record = record.before.record record.request record.world := by
  induction uses generalizing session world with
  | nil => simp [Session.transcript]
  | cons use rest ih =>
      intro record member
      rcases List.mem_cons.mp member with rfl | later
      · rfl
      · exact ih _ record later

theorem Session.pairwise_transcript (session : Session σ)
    (uses : List ((ω → ω) × Request)) (world : ω) :
    (session.transcript world uses).Pairwise fun earlier later =>
      earlier.after.closed = true → later.Idle := by
  induction uses generalizing session world with
  | nil => exact .nil
  | cons use rest ih =>
      apply List.Pairwise.cons
      · intro later member ended
        exact Session.idle_of_mem_transcript rest _ ended later member
      · exact ih _ _

theorem Session.tells_of_mem_transcript (uses : List ((ω → ω) × Request)) (world : ω) :
    ∀ record ∈ session.transcript world uses, ∀ text, record.request = .send text →
      record.Tells text := by
  induction uses generalizing session world with
  | nil => simp [Session.transcript]
  | cons use rest ih =>
      intro record member text sent
      rcases List.mem_cons.mp member with rfl | later
      · have request : use.2 = .send text := sent
        rw [request]
        exact session.record_tells text _
      · exact ih _ record later text sent

theorem Session.finally_reconnect (calm : session.Calm)
    (uses : List ((ω → ω) × Request)) (world : ω) :
    (session.finally (session.transcript world uses)).reconnect = true ↔
      session.reconnect = true ∨
        ∃ record ∈ session.transcript world uses, record.Breaks := by
  induction uses generalizing session world with
  | nil => simp [Session.transcript, Session.finally]
  | cons use rest ih =>
      rcases Session.record_reconnect calm use.2 (use.1 world) with ⟨still, asks⟩
      have remaining := ih still (session.record use.2 (use.1 world)).worldAfter
      rw [Session.transcript, Session.finally, remaining, asks, or_assoc]
      simp

/-- A session that has been attached is open and asks for nothing. -/
theorem Session.attach_open {transport : σ} {world : ω}
    (attached : ((Session.attach transport).run world).1 = .ok session) :
    session.closed = false ∧ session.reconnect = false := by
  simp only [Session.attach, run_bind, run_pure] at attached
  cases shaken : ((Transport.handshake transport).run world).1.1 with
  | error fault =>
      rw [shaken] at attached
      cases attached
  | ok identity =>
      rw [shaken] at attached
      cases attached
      exact ⟨rfl, rfl⟩

/-- A session, from when it was attached through all that is asked of it.  What is
recorded is what it does, with all calls that it makes meanwhile.  Once it is over it
stays so, refuses every script and leaves its transport alone.  A script ends it
exactly if the transport fails with a fatal fault, and leaves it as it was otherwise.
The response to a script is an error exactly if the session was over, a unit was over
the limit, or the transport failed.  In the end a new attempt is asked for exactly if
a script has ended the session with a broken pipe. -/
theorem session_lives_once {transport : σ} {world : ω}
    (attached : ((Session.attach transport).run world).1 = .ok session)
    (uses : List ((ω → ω) × Request)) :
    let records := session.transcript ((Session.attach transport).run world).2 uses
    (∀ record ∈ records, ∀ calls,
      (record.before.react record.request).run (⟨record.world, calls⟩ : Overheard ω) =
        ((record.reaction, record.after), ⟨record.worldAfter, calls ++ record.calls⟩)) ∧
    (records.Pairwise fun earlier later => earlier.after.closed = true → later.Idle) ∧
    (∀ record ∈ records, ∀ text, record.request = .send text → record.Tells text) ∧
    ((session.finally records).reconnect = true ↔ ∃ record ∈ records, record.Breaks) := by
  have waits := (Session.attach_open attached).2
  refine ⟨?_, session.pairwise_transcript uses _, Session.tells_of_mem_transcript uses _, ?_⟩
  · intro record member calls
    rw [Session.exists_of_mem_transcript uses _ record member]
    exact record.before.react_transparent record.request record.world calls
  rw [Session.finally_reconnect (fun _ => waits), waits]
  simp

end Lives

/-- A timeout is survived, a broken pipe is not. -/
def brittle : Session Foretold :=
  .foretold (some 4096) [.error .timeout, .error .brokenPipe]

theorem session_lives_once_brittle :
    let uses : List ((Unit → Unit) × Request) :=
      [(id, .send "outv 1"), (id, .check), (id, .send "outv 2"), (id, .send "outv 3")]
    ((Session.attach brittle.transport).run ()).1 = .ok brittle ∧
      ∃ record ∈ brittle.transcript () uses, record.Breaks :=
  ⟨rfl, (session_lives_once rfl _).2.2.2.mp (by decide +kernel)⟩

end EngineGateway.Engine
