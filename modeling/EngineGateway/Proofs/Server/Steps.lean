import EngineGateway.Proofs.Server.Moments
import EngineGateway.Proofs.Server.Tasks

/-!
# What an event can do

Many events only happen under a condition, and change nothing otherwise.  The cases
that are left are listed here once.  An event that changes nothing neither takes nor
answers a frame of a peer, nor does it post anything.
-/

namespace EngineGateway.Server

open Engine Peer Gateway

/-- What the reader of a peer does with the frames of the far end. -/
inductive Utterance where
  /-- It takes the next frame. -/
  | takes
  /-- It is done with a frame, and queues the answer if there is one. -/
  | answers (frame : Option Frame)
  deriving DecidableEq

/-- An errand on its way to a session. -/
structure Posting where
  ticket : Nat
  /-- The peer whose script it is, unless it comes from elsewhere. -/
  sender : Option PeerId
  session : Nat
  errand : Errand
  deriving DecidableEq

variable {σ ω : Type}

/-- Which reader takes or answers a frame in an event. -/
def utterance? (server : Server σ) : Event σ → Option (PeerId × Utterance)
  | .receivesText peer _ | .receivesBinary peer _ =>
      match server.task? peer with
      | some task => if task.isOpen && task.reading == .ready then some (peer, .takes) else none
      | none => none
  | .replies peer =>
      match (server.task? peer).map Task.reading with
      | some (.replying frame) => some (peer, .answers frame)
      | _ => none
  | _ => none

/-- The errand that an event posts. -/
def posting? (server : Server σ) : Event σ → Option Posting
  | .submits peer =>
      match (server.task? peer).map Task.reading with
      | some (.holding session text) =>
          (server.mailbox? session).map fun _ =>
            ⟨server.nextTicket, some peer, session, .send text⟩
      | _ => none
  | .asks session errand =>
      (server.mailbox? session).map fun _ => ⟨server.nextTicket, none, session, errand⟩
  | _ => none

/-- The server in which a reader waits for the answer to what it is about to post. -/
def awaiting (server : Server σ) (peer : PeerId) : Server σ :=
  server.updateTask peer fun task => { task with reading := .waiting server.nextTicket }

/-- What an event can come to. -/
inductive Steps [Transport σ ω] (server : Server σ) (world : ω) :
    Event σ → Trace × Server σ → Prop where
  | idles {event : Event σ} :
      server.utterance? event = none → server.posting? event = none →
      Steps server world event ({}, server)
  | knocks (knock : Knock) :
      Steps server world (.knocks knock) (server.answerKnock knock)
  | opens {task : Task} :
      server.task? task.peer = some task → task.isOpen = false →
      Steps server world (.opens task.peer) (server.openPeer task)
  | fails {task : Task} :
      server.task? task.peer = some task → task.isOpen = false →
      Steps server world (.fails task.peer) ({}, server.failPeer task.peer)
  | takesText {task : Task} {text : String} :
      server.task? task.peer = some task → task.isOpen = true → task.reading = .ready →
      Steps server world (.receivesText task.peer text)
        ({}, server.updateTask task.peer fun task =>
          { task with reading := server.takeText text })
  | takesBinary {task : Task} {octets : Bytes} :
      server.task? task.peer = some task → task.isOpen = true → task.reading = .ready →
      Steps server world (.receivesBinary task.peer octets) (server.takeBinary task.peer octets)
  | submits {task : Task} {session : Nat} {text : String} {mailbox : Mailbox σ} :
      server.task? task.peer = some task → task.reading = .holding session text →
      server.mailbox? session = some mailbox →
      Steps server world (.submits task.peer)
        ((server.awaiting task.peer).postErrand session mailbox (.send text))
  | replies {task : Task} {frame : Option Frame} :
      server.task? task.peer = some task → task.reading = .replying frame →
      Steps server world (.replies task.peer) (server.reply task.peer frame)
  | hearsEnd {task : Task} :
      server.task? task.peer = some task → task.isOpen = true → task.reading = .ready →
      Steps server world (.hearsEnd task.peer) ({}, server.endReading task.peer)
  | writes {task : Task} {frame : Frame} {rest : List Frame} :
      server.task? task.peer = some task → task.queue = frame :: rest →
      task.writing = .running →
      Steps server world (.writes task.peer) (server.write task.peer frame)
  | breaksOff {task : Task} :
      server.task? task.peer = some task → task.writing = .running →
      Steps server world (.failsToWrite task.peer)
        ({}, server.updateTask task.peer fun task => { task with writing := .finishing })
  | endsWriting {task : Task} {event : Event σ} {hungUp : List PeerId} :
      server.task? task.peer = some task →
      event = .stopsWriting task.peer ∨ event = .abandonsWriter task.peer →
      Steps server world event ({ hungUp := hungUp }, server.endWriting task.peer)
  | finishes {task : Task} :
      server.task? task.peer = some task → task.reading = .ended →
      Steps server world (.finishes task.peer) ({}, server.finish task.peer)
  | works {session : Nat} {mailbox : Mailbox σ} :
      server.mailbox? session = some mailbox →
      Steps server world (.works session)
        ((server.setMailbox session (mailbox.work.run world).1.2).hand
          (mailbox.work.run world).1.1)
  | asks {session : Nat} {errand : Errand} {mailbox : Mailbox σ} :
      server.mailbox? session = some mailbox →
      Steps server world (.asks session errand) (server.postErrand session mailbox errand)
  | shutsDown {session : Nat} {mailbox : Mailbox σ} :
      server.mailbox? session = some mailbox →
      Steps server world (.shutsDown session) (server.post session mailbox .shutdown)
  | publishes (session : Session σ) :
      Steps server world (.publishes session) ({}, server.publish session)
  | announces (engine : Identity) :
      Steps server world (.announces engine) (server.announce engine)
  | withdraws : Steps server world .withdraws ({}, server.withdraw)
  | parts : Steps server world .parts server.farewell
  | follows (line : String) : Steps server world (.follows line) (server.follow line)
  | collects : Steps server world .collects ({}, server.collect)

variable [Transport σ ω]

/-- An event of a peer without a task changes nothing. -/
theorem Steps.nobody {server : Server σ} {world : ω} {event : Event σ} {peer : PeerId}
    (own : event.peer? = some peer) (nobody : server.task? peer = none) :
    Steps server world event ({}, server) := by
  refine .idles ?_ ?_ <;>
    cases event <;> simp only [Event.peer?, Option.some.injEq, reduceCtorEq] at own <;>
    simp [utterance?, posting?, own, nobody]

theorem Steps.stepTask {server : Server σ} {world : ω} {event : Event σ} {task : Task}
    (own : event.peer? = some task.peer) (found : server.task? task.peer = some task) :
    Steps server world event (server.stepTask task event) := by
  cases event <;> simp only [Event.peer?, Option.some.injEq, reduceCtorEq] at own
  all_goals
    subst own
    simp only [Server.stepTask]
  case opens =>
      split_ifs with opened
      · exact .idles rfl rfl
      · exact .opens found (by simpa using opened)
  case fails =>
      split_ifs with opened
      · exact .idles rfl rfl
      · exact .fails found (by simpa using opened)
  case receivesText text =>
      split_ifs with ready
      · have both : task.isOpen = true ∧ task.reading = .ready := by simpa using ready
        exact .takesText found both.1 both.2
      · exact .idles (by simp only [utterance?, found, if_neg ready]) rfl
  case receivesBinary octets =>
      split_ifs with ready
      · have both : task.isOpen = true ∧ task.reading = .ready := by simpa using ready
        exact .takesBinary found both.1 both.2
      · exact .idles (by simp only [utterance?, found, if_neg ready]) rfl
  case submits =>
      cases reading : task.reading with
      | holding session text =>
          simp only [submit]
          cases mailbox : server.mailbox? session with
          | none => exact .idles rfl (by simp [posting?, found, reading, mailbox])
          | some mailbox => exact .submits found reading ‹_›
      | _ => exact .idles rfl (by simp [posting?, found, reading])
  case replies =>
      cases reading : task.reading with
      | replying frame => exact .replies found reading
      | _ => exact .idles (by simp [utterance?, found, reading]) rfl
  case hearsEnd =>
      split_ifs with ready
      · have both : task.isOpen = true ∧ task.reading = .ready := by simpa using ready
        exact .hearsEnd found both.1 both.2
      · exact .idles rfl rfl
  case writes =>
      cases queue : task.queue with
      | nil => exact .idles rfl rfl
      | cons frame rest =>
          simp only
          split_ifs with writes
          · have both : task.isOpen = true ∧ task.writing = .running := by simpa using writes
            exact .writes found queue both.2
          · exact .idles rfl rfl
  case failsToWrite =>
      split_ifs with writes
      · have all : (task.isOpen = true ∧ task.writing = .running) ∧ task.queue ≠ [] := by
          simpa using writes
        exact .breaksOff found all.1.2
      · exact .idles rfl rfl
  case stopsWriting =>
      split_ifs
      · exact .endsWriting found (.inl rfl)
      · exact .endsWriting found (.inl rfl)
      · exact .idles rfl rfl
  case abandonsWriter =>
      split_ifs
      · exact .endsWriting found (.inr rfl)
      · exact .idles rfl rfl
  case finishes =>
      split_ifs with finished
      · have both : task.reading = .ended ∧ task.writing = .ended := by simpa using finished
        exact .finishes found both.1
      · exact .idles rfl rfl

theorem steps_step (server : Server σ) (world : ω) (event : Event σ) :
    Steps server world event ((server.step event).run world).1 := by
  cases own : event.peer? with
  | some peer =>
      rw [step_of_peer own]
      cases found : server.task? peer with
      | none => exact .nobody own found
      | some task =>
          have named := peer_of_task? found
          subst named
          exact .stepTask own found
  | none =>
      cases event with
      | knocks knock => exact .knocks knock
      | works session =>
          show Steps server world _ ((server.work session).run world).1
          unfold work
          cases mailbox : server.mailbox? session with
          | none => exact .idles rfl rfl
          | some mailbox => exact .works ‹_›
      | asks session errand =>
          show Steps server world _ (server.ask session errand)
          unfold ask
          cases mailbox : server.mailbox? session with
          | none => exact .idles rfl (by simp [posting?, mailbox])
          | some mailbox => exact .asks ‹_›
      | shutsDown session =>
          show Steps server world _ (server.shutDown session)
          unfold shutDown
          cases mailbox : server.mailbox? session with
          | none => exact .idles rfl rfl
          | some mailbox => exact .shutsDown ‹_›
      | publishes session => exact .publishes session
      | announces engine => exact .announces engine
      | withdraws => exact .withdraws
      | parts => exact .parts
      | follows line => exact .follows line
      | collects => exact .collects
      | _ => cases own

end EngineGateway.Server
