import EngineGateway.Engine.Session

/-!
# The mailbox of a session

Many requesters share one session.  Each request enters a mailbox and is worked
off in the order of arrival, one at a time, until a shutdown is met.  Every
request is answered: by the session, or, once the mailbox has stopped, with the
news that the engine is closed.  A ticket ties an answer to its request.
-/

namespace EngineGateway.Engine

/-- What a probe of an engine found. -/
structure ProbeOutcome where
  /-- The engine is gone. -/
  closed : Bool
  /-- One immediate new attempt should be made. -/
  reconnect : Bool
  /-- The response to the probe's command, if one was sent. -/
  output : Option Response
  deriving Repr, DecidableEq

/-- Something to be done with the session. -/
inductive Errand where
  | send (text : String)
  /-- Check the engine, with a command to send or without. -/
  | probe (command : Option String)
  deriving Repr, DecidableEq

/-- The answer to an errand. -/
inductive Answer where
  | response (response : Response)
  | outcome (outcome : ProbeOutcome)
  deriving Repr, DecidableEq

/-- The answer to an errand that never reached the session. -/
def Errand.closedAnswer : Errand → Answer
  | .send _ => .response (.error Fault.engineExited.message)
  | .probe _ => .outcome ⟨true, false, none⟩

/-- What lies in a mailbox. -/
inductive Letter where
  | errand (ticket : Nat) (errand : Errand)
  | shutdown
  deriving Repr, DecidableEq

/-- The answer to the errand with a given ticket. -/
structure Ticketed where
  ticket : Nat
  answer : Answer
  deriving Repr, DecidableEq

/-- What the requester of a letter is told when nobody reads it. -/
def Letter.turnAway : Letter → List Ticketed
  | .errand ticket asked => [⟨ticket, asked.closedAnswer⟩]
  | .shutdown => []

/-- Check a session.  A command is sent only while the session is open. -/
def Session.probe {σ ω : Type} [Transport σ ω] (session : Session σ)
    (command : Option String) : StateM ω (ProbeOutcome × Session σ) := do
  let (output, session) ←
    match command with
    | none => pure (none, session)
    | some command =>
        if command.isEmpty then pure (none, session)
        else do
          let (gone, session) ← session.isClosed
          if gone then pure (none, session)
          else do
            let (response, session) ← session.send command
            pure (some response, session)
  let (gone, session) ← session.isClosed
  return (⟨gone, session.reconnect, output⟩, session)

def Session.perform {σ ω : Type} [Transport σ ω] (session : Session σ) :
    Errand → StateM ω (Answer × Session σ)
  | .send text => do
      let (response, session) ← session.send text
      return (.response response, session)
  | .probe command => do
      let (outcome, session) ← session.probe command
      return (.outcome outcome, session)

/-- A session and the letters that wait for it. -/
structure Mailbox (σ : Type) where
  session : Session σ
  waiting : List Letter
  /-- A shutdown has been met; nothing is read any more. -/
  stopped : Bool
  deriving Repr

namespace Mailbox

variable {σ ω : Type}

/-- A mailbox in front of a fresh session. -/
def ofSession (session : Session σ) : Mailbox σ :=
  ⟨session, [], false⟩

/-- Put a letter into the mailbox.  A stopped mailbox turns it away. -/
def post (mailbox : Mailbox σ) (letter : Letter) : List Ticketed × Mailbox σ :=
  if mailbox.stopped then (letter.turnAway, mailbox)
  else ([], { mailbox with waiting := mailbox.waiting ++ [letter] })

/-- Work off the first letter.  A shutdown turns away all letters behind it. -/
def work [Transport σ ω] (mailbox : Mailbox σ) :
    StateM ω (List Ticketed × Mailbox σ) := do
  match mailbox.waiting with
  | [] => return ([], mailbox)
  | .shutdown :: rest =>
      return (rest.flatMap Letter.turnAway,
        { mailbox with waiting := [], stopped := true })
  | .errand ticket errand :: rest =>
      let (answer, session) ← mailbox.session.perform errand
      return ([⟨ticket, answer⟩], { mailbox with session := session, waiting := rest })

def workTimes [Transport σ ω] :
    Nat → Mailbox σ → StateM ω (List Ticketed × Mailbox σ)
  | 0, mailbox => return ([], mailbox)
  | more + 1, mailbox => do
      let (first, mailbox) ← mailbox.work
      let (answers, mailbox) ← workTimes more mailbox
      return (first ++ answers, mailbox)

def workAll [Transport σ ω] (mailbox : Mailbox σ) :
    StateM ω (List Ticketed × Mailbox σ) :=
  workTimes mailbox.waiting.length mailbox

/-- Put in an errand, work off everything, and pick the answer to the errand. -/
def ask [Transport σ ω] (mailbox : Mailbox σ) (errand : Errand) :
    StateM ω (Answer × Mailbox σ) := do
  -- No letter waits between two requests that are answered at once.
  let (turnedAway, mailbox) := mailbox.post (.errand 0 errand)
  let (answers, mailbox) ← mailbox.workAll
  let answer := (turnedAway ++ answers).getLast?
  return (answer.elim errand.closedAnswer Ticketed.answer, mailbox)

/-- Ask for a script to be sent. -/
def askSend [Transport σ ω] (mailbox : Mailbox σ) (text : String) :
    StateM ω (Response × Mailbox σ) := do
  let (answer, mailbox) ← mailbox.ask (.send text)
  match answer with
  | .response response => return (response, mailbox)
  | .outcome _ => return (.error Fault.engineExited.message, mailbox)

/-- Ask for the engine to be checked. -/
def askProbe [Transport σ ω] (mailbox : Mailbox σ) (command : Option String) :
    StateM ω (ProbeOutcome × Mailbox σ) := do
  let (answer, mailbox) ← mailbox.ask (.probe command)
  match answer with
  | .outcome outcome => return (outcome, mailbox)
  | .response _ => return (⟨true, false, none⟩, mailbox)

/-- Stop after everything that already waits. -/
def shutdown [Transport σ ω] (mailbox : Mailbox σ) :
    StateM ω (List Ticketed × Mailbox σ) := do
  let (turnedAway, mailbox) := mailbox.post .shutdown
  let (answers, mailbox) ← mailbox.workAll
  return (turnedAway ++ answers, mailbox)

end Mailbox
end EngineGateway.Engine
