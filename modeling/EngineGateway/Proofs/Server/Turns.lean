import EngineGateway.Proofs.Gateway.Changes
import EngineGateway.Proofs.Peer.Channel
import EngineGateway.Proofs.Server.Steps

/-!
# What a moment does to the task of a peer

Every moment gives the reader and the writer of every peer at most one turn.  A
reader takes a frame, posts a script, hears the answer, queues it, or ends.  A writer
puts the first queued frame on the wire or ends, while anything may be queued behind.
Tasks start empty under new ids, and those that leave have nothing left to answer.
-/

namespace EngineGateway.Server

open Engine Peer Gateway

variable {σ ω : Type}

namespace Moment

/-- Which reader takes or answers a frame. -/
def utterance? (moment : Moment σ ω) : Option (PeerId × Utterance) :=
  moment.before.utterance? moment.event

/-- The errand that is posted. -/
def posting? (moment : Moment σ ω) : Option Posting :=
  moment.before.posting? moment.event

/-- The reader of a peer neither takes nor answers a frame. -/
def Quiet (moment : Moment σ ω) (peer : PeerId) : Prop :=
  ∀ utterance, moment.utterance? ≠ some (peer, utterance)

/-- The frames that are queued for a peer. -/
def queuedTo (moment : Moment σ ω) (peer : PeerId) : List Frame :=
  framesTo peer moment.trace.queued

/-- The frames that go to a peer on the wire. -/
def writtenTo (moment : Moment σ ω) (peer : PeerId) : List Frame :=
  framesTo peer moment.trace.written

/-- What a reader that posts a script posts. -/
def script (moment : Moment σ ω) (peer : PeerId) (session : Nat) (text : String) : Posting :=
  ⟨moment.before.nextTicket, some peer, session, .send text⟩

/-- What a moment makes of the reader of a task. -/
inductive Reads (moment : Moment σ ω) (task : Task) : Reading → Prop where
  | stays : moment.Quiet task.peer → Reads moment task task.reading
  | takesText {text : String} :
      moment.event = .receivesText task.peer text →
      moment.utterance? = some (task.peer, .takes) → task.isOpen = true →
      task.reading = .ready → Reads moment task (moment.before.takeText text)
  | takesBinary {octets : Bytes} :
      moment.event = .receivesBinary task.peer octets →
      moment.utterance? = some (task.peer, .takes) → task.isOpen = true →
      task.reading = .ready →
      Reads moment task (.replying (handleBinary moment.before.registry task.peer octets).1)
  | submits {session : Nat} {text : String} :
      moment.Quiet task.peer → task.reading = .holding session text →
      moment.posting? = some (moment.script task.peer session text) →
      Reads moment task (.waiting moment.before.nextTicket)
  | turnedAway {session : Nat} {text : String} {response : Response} :
      moment.Quiet task.peer → task.reading = .holding session text →
      moment.posting? = some (moment.script task.peer session text) →
      ⟨moment.before.nextTicket, .response response⟩ ∈ moment.trace.answers →
      Reads moment task (.replying (Frame.ofResponse? response))
  | hears {ticket : Nat} {response : Response} :
      moment.Quiet task.peer → task.reading = .waiting ticket →
      ⟨ticket, .response response⟩ ∈ moment.trace.answers →
      Reads moment task (.replying (Frame.ofResponse? response))
  | answers {frame : Option Frame} :
      moment.utterance? = some (task.peer, .answers frame) →
      task.reading = .replying frame → Reads moment task .ready
  | ends :
      moment.Quiet task.peer → task.isOpen = true → task.reading = .ready →
      Reads moment task .ended

/-- How the queue of a task moves on while frames are written and queued. -/
structure Flows (written queued : List Frame) (old new : Task) : Prop where
  moves : new.writing ≠ .ended →
    old.writing ≠ .ended ∧ old.queue ++ queued = written ++ new.queue
  running : new.writing = .running → old.writing = .running
  first : written = [] ∨ old.writing = .running ∧
    ∃ frame rest, old.queue = frame :: rest ∧ written = [frame] ∧
      (frame.isClose = true → new.writing ≠ .running)

/-- What a moment makes of a task. -/
structure Becomes (moment : Moment σ ω) (old new : Task) : Prop where
  opens : old.isOpen = true → new.isOpen = true
  reads : moment.Reads old new.reading
  flows : Flows (moment.writtenTo old.peer) (moment.queuedTo old.peer) old new

/-- A task starts in a moment. -/
structure Begins (moment : Moment σ ω) (task : Task) : Prop where
  fresh : moment.before.registry.nextId ≤ task.peer
  unopened : task.isOpen = false
  ready : task.reading = .ready
  queue : task.queue = moment.queuedTo task.peer

/-- What a moment makes of the task of a peer, if there is one. -/
inductive Turn (moment : Moment σ ω) (peer : PeerId) : Option Task → Option Task → Prop where
  | absent :
      moment.Quiet peer → moment.writtenTo peer = [] → Turn moment peer none none
  | begins {task : Task} :
      task.peer = peer → moment.Begins task → moment.Quiet peer →
      moment.writtenTo peer = [] → Turn moment peer none (some task)
  | becomes {old new : Task} :
      old.peer = peer → moment.Becomes old new → Turn moment peer (some old) (some new)
  | leaves {old : Task} :
      old.isOpen = false ∨ old.reading = .ended → moment.Quiet peer →
      moment.writtenTo peer = [] → Turn moment peer (some old) none

/-! ## Quiet readers -/

section Quiet

variable {moment : Moment σ ω} {peer other : PeerId}

theorem quiet_of_none (silent : moment.utterance? = none) (peer : PeerId) :
    moment.Quiet peer := by
  intro utterance
  rw [silent]
  exact Option.some_ne_none _ |>.symm

/-- Who takes or answers a frame is the peer of the event, and has a task. -/
theorem speaker {utterance : Utterance} (speaks : moment.utterance? = some (peer, utterance)) :
    moment.event.peer? = some peer ∧ moment.before.task? peer ≠ none := by
  rcases moment with ⟨before, world, event, trace, after⟩
  cases event <;> simp only [Moment.utterance?, Server.utterance?, reduceCtorEq] at speaks
  case receivesText sender text =>
    cases found : before.task? sender <;> simp only [found, reduceCtorEq] at speaks
    split_ifs at speaks
    obtain ⟨rfl, _⟩ : sender = peer ∧ _ := by simpa using speaks
    exact ⟨rfl, by simp [found]⟩
  case receivesBinary sender octets =>
    cases found : before.task? sender <;> simp only [found, reduceCtorEq] at speaks
    split_ifs at speaks
    obtain ⟨rfl, _⟩ : sender = peer ∧ _ := by simpa using speaks
    exact ⟨rfl, by simp [found]⟩
  case replies sender =>
    cases found : before.task? sender <;>
      simp only [found, Option.map_none, Option.map_some, reduceCtorEq] at speaks
    split at speaks
    · obtain ⟨rfl, _⟩ : sender = peer ∧ _ := by simpa using speaks
      exact ⟨rfl, by simp [found]⟩
    · cases speaks

theorem quiet_of_nobody (nobody : moment.before.task? peer = none) : moment.Quiet peer := by
  intro utterance speaks
  exact (speaker speaks).2 nobody

theorem quiet_of_ne (own : moment.event.peer? = some other) (differs : peer ≠ other) :
    moment.Quiet peer := by
  intro utterance speaks
  have same := (speaker speaks).1.symm.trans own
  exact differs (Option.some.inj same)

theorem quiet_of_elsewhere (elsewhere : moment.event.peer? = none) (peer : PeerId) :
    moment.Quiet peer := by
  intro utterance speaks
  rw [(speaker speaks).1] at elsewhere
  cases elsewhere

end Quiet

/-! ## Queues -/

section Flows

variable {task old new : Task} {sent : List Delivery}

theorem queue_enqueue (going : task.writing ≠ .ended) :
    (task.enqueue sent).queue = task.queue ++ framesTo task.peer sent := by
  rw [Task.enqueue, if_neg going]
  rfl

/-- Nothing is written, and frames are queued. -/
theorem Flows.enqueue (peer : new.peer = old.peer) (writing : new.writing = old.writing)
    (queue : new.queue = old.queue) :
    Flows [] (framesTo old.peer sent) old (new.enqueue sent) where
  moves going := by
    rw [writing_enqueue] at going
    rw [queue_enqueue going, peer, queue]
    rw [writing] at going
    exact ⟨going, rfl⟩
  running going := by rwa [writing_enqueue, writing] at going
  first := .inl rfl

/-- The writer and its queue stay as they are. -/
theorem Flows.same (writing : new.writing = old.writing) (queue : new.queue = old.queue) :
    Flows [] [] old new where
  moves going := by
    rw [writing] at going
    exact ⟨going, by rw [queue, List.append_nil, List.nil_append]⟩
  running going := by rwa [writing] at going
  first := .inl rfl

end Flows

/-! ## Turns from changes of the tasks -/

section Changes

variable {moment : Moment σ ω}

theorem turn_of_tasks (change : Task → Task) (started : List Task)
    (tasks : moment.after.tasks = moment.before.tasks.map change ++ started)
    (peers : ∀ task, (change task).peer = task.peer)
    (silent : ∀ peer, moment.before.task? peer = none → moment.writtenTo peer = [])
    (begins : ∀ task ∈ started, moment.Begins task)
    (becomes : ∀ task, moment.before.task? task.peer = some task →
      moment.Becomes task (change task)) (peer : PeerId) :
    moment.Turn peer (moment.before.task? peer) (moment.after.task? peer) := by
  rw [task?_of_tasks tasks peers]
  cases found : moment.before.task? peer with
  | some task =>
      have named := peer_of_task? found
      refine .becomes named (becomes task ?_)
      rw [named, found]
  | none =>
      have quiet := quiet_of_nobody found
      cases new : started.find? (·.peer == peer) with
      | none => exact .absent quiet (silent peer found)
      | some task =>
          have named := List.find?_some new
          exact .begins (by simpa using named) (begins task (List.mem_of_find?_eq_some new)) quiet
            (silent peer found)

/-- The tasks change, and nothing is queued or written. -/
theorem turn_of_map (change : Task → Task)
    (tasks : moment.after.tasks = moment.before.tasks.map change)
    (peers : ∀ task, (change task).peer = task.peer)
    (queued : moment.trace.queued = []) (written : moment.trace.written = [])
    (opens : ∀ task, task.isOpen = true → (change task).isOpen = true)
    (reads : ∀ task, moment.before.task? task.peer = some task →
      moment.Reads task (change task).reading)
    (flows : ∀ task, Flows [] [] task (change task)) (peer : PeerId) :
    moment.Turn peer (moment.before.task? peer) (moment.after.task? peer) := by
  have silent : ∀ peer, moment.writtenTo peer = [] := by
    intro peer
    rw [writtenTo, written, framesTo_nil]
  refine turn_of_tasks change [] (by rw [tasks, List.append_nil]) peers
    (fun peer _ => silent peer) (List.forall_mem_nil _) ?_ peer
  intro task found
  refine ⟨opens task, reads task found, ?_⟩
  rw [silent, queuedTo, queued, framesTo_nil]
  exact flows task

/-- The tasks change, and effects are spread. -/
theorem turn_of_spread (change : Task → Task) {effects : Effects}
    (tasks : moment.after.tasks =
      (moment.before.tasks.map change ++ effects.relays.map fun request =>
        Task.start request.id (some request)).map (Task.enqueue effects.sent))
    (peers : ∀ task, (change task).peer = task.peer)
    (queued : moment.trace.queued = effects.sent) (written : moment.trace.written = [])
    (fresh : ∀ id ∈ effects.opened, moment.before.registry.nextId ≤ id)
    (opens : ∀ task, task.isOpen = true → (change task).isOpen = true)
    (reads : ∀ task, moment.before.task? task.peer = some task →
      moment.Reads task (change task).reading)
    (still : ∀ task, (change task).writing = task.writing ∧ (change task).queue = task.queue)
    (peer : PeerId) :
    moment.Turn peer (moment.before.task? peer) (moment.after.task? peer) := by
  have silent : ∀ peer, moment.writtenTo peer = [] := by
    intro peer
    rw [writtenTo, written, framesTo_nil]
  refine turn_of_tasks (Task.enqueue effects.sent ∘ change) _
    (by rw [tasks, List.map_append, List.map_map]) ?_ (fun peer _ => silent peer) ?_ ?_ peer
  · intro task
    rw [Function.comp_apply, peer_enqueue, peers]
  · intro task member
    rcases List.mem_map.mp member with ⟨starting, asked, rfl⟩
    rcases List.mem_map.mp asked with ⟨request, opened, rfl⟩
    refine ⟨?_, ?_, ?_, ?_⟩
    · rw [peer_enqueue]
      exact fresh _ (List.mem_map_of_mem opened)
    · rw [isOpen_enqueue]
      rfl
    · rw [reading_enqueue]
      rfl
    · rw [queue_enqueue Writing.noConfusion, peer_enqueue, queuedTo, queued]
      rfl
  · intro task found
    refine ⟨?_, ?_, ?_⟩
    · rw [Function.comp_apply, isOpen_enqueue]
      exact opens task
    · rw [Function.comp_apply, reading_enqueue]
      exact reads task found
    · rw [silent, queuedTo, queued]
      exact .enqueue (peers task) (still task).1 (still task).2

end Changes

/-! ## Turns of single events -/

section Events

variable {moment : Moment σ ω} {task : Task} {peer : PeerId}

/-- A reader that is not the one of an event stays what it is about. -/
theorem Reads.changed {change : Task → Task} (own : moment.event.peer? = some task.peer)
    (found : moment.before.task? task.peer = some task)
    (reads : moment.Reads task (change task).reading) :
    ∀ other, moment.before.task? other.peer = some other →
      moment.Reads other (changedTask task.peer change other).reading := by
  intro other present
  by_cases same : other.peer = task.peer
  · rw [same, found] at present
    cases present
    rw [changedTask_own rfl]
    exact reads
  · rw [changedTask_other same]
    exact .stays (quiet_of_ne own same)

/-- Answers reach the readers that wait for them, and no others. -/
theorem Reads.accept (quiet : moment.Quiet task.peer) :
    moment.Reads task (task.accept moment.trace.answers).reading := by
  rcases accept_cases moment.trace.answers task with
    same | ⟨ticket, response, waits, answered, hears⟩
  · rw [same]
    exact .stays quiet
  · rw [hears]
    exact .hears quiet waits answered

/-- Accepting answers leaves the queue alone. -/
theorem Flows.accept (answers : List Ticketed) {old new : Task}
    (writing : new.writing = old.writing) (queue : new.queue = old.queue) :
    Flows [] [] old (new.accept answers) := by
  refine .same ?_ ?_
  · rw [accept_field Task.writing (fun _ _ => rfl), writing]
  · rw [accept_field Task.queue (fun _ _ => rfl), queue]

/-- A session answers letters, and that is all. -/
theorem turn_of_hand (tasks : moment.after.tasks =
      moment.before.tasks.map (Task.accept moment.trace.answers))
    (queued : moment.trace.queued = []) (written : moment.trace.written = [])
    (elsewhere : moment.event.peer? = none) (peer : PeerId) :
    moment.Turn peer (moment.before.task? peer) (moment.after.task? peer) := by
  refine turn_of_map _ tasks (peer_accept _) queued written ?_ ?_ (fun _ => .accept _ rfl rfl)
    peer
  · intro task opened
    rw [accept_field Task.isOpen (fun _ _ => rfl), opened]
  · intro task _
    exact .accept (quiet_of_elsewhere elsewhere task.peer)

/-- The registry changes and peers are told, and that is not due to a reader. -/
theorem turn_of_telling {server : Server σ} {world : ω} {event : Event σ} {registry : Registry}
    {effects : Effects} (changes : Changes server.registry registry effects)
    (elsewhere : event.peer? = none) (peer : PeerId) :
    Turn ⟨server, world, event, ((server.withRegistry registry).spread effects).1,
        ((server.withRegistry registry).spread effects).2⟩ peer (server.task? peer)
      (((server.withRegistry registry).spread effects).2.task? peer) := by
  refine turn_of_spread id (by rw [List.map_id]; rfl) (fun _ => rfl) rfl rfl ?_
    (fun _ => id) ?_ (fun _ => ⟨rfl, rfl⟩) peer
  · intro id opens
    exact (changes.le_of_mem_opened opens).1
  · intro task _
    exact .stays (quiet_of_elsewhere elsewhere task.peer)

/-- A task to which nothing happens. -/
theorem Becomes.same (quiet : moment.Quiet task.peer)
    (written : moment.writtenTo task.peer = []) (queued : moment.queuedTo task.peer = []) :
    moment.Becomes task task := by
  refine ⟨id, .stays quiet, ?_⟩
  rw [written, queued]
  exact .same rfl rfl

/-- Nothing happens to any task. -/
theorem turn_of_same (tasks : moment.after.tasks = moment.before.tasks)
    (queued : moment.trace.queued = []) (written : moment.trace.written = [])
    (mute : moment.utterance? = none) (peer : PeerId) :
    moment.Turn peer (moment.before.task? peer) (moment.after.task? peer) := by
  have silent : ∀ peer, moment.writtenTo peer = [] := by
    intro peer
    rw [writtenTo, written, framesTo_nil]
  refine turn_of_tasks id [] (by rw [tasks, List.map_id, List.append_nil]) (fun _ => rfl)
    (fun peer _ => silent peer) (List.forall_mem_nil _) ?_ peer
  intro task _
  refine .same (quiet_of_none mute _) (silent _) ?_
  rw [queuedTo, queued, framesTo_nil]

/-- The task of the peer of an event changes, and nothing is queued. -/
theorem turn_of_updateTask (change : Task → Task) (own : moment.event.peer? = some task.peer)
    (found : moment.before.task? task.peer = some task)
    (tasks : moment.after.tasks = moment.before.tasks.map (changedTask task.peer change))
    (peers : ∀ task, (change task).peer = task.peer)
    (queued : moment.trace.queued = [])
    (silent : ∀ other, other ≠ task.peer → moment.writtenTo other = [])
    (becomes : moment.Becomes task (change task)) (peer : PeerId) :
    moment.Turn peer (moment.before.task? peer) (moment.after.task? peer) := by
  refine turn_of_tasks (changedTask task.peer change) [] (by rw [tasks, List.append_nil])
    (fun _ => changedTask_field Task.peer peers) ?_ (List.forall_mem_nil _) ?_ peer
  · intro other nobody
    refine silent other ?_
    rintro rfl
    rw [found] at nobody
    cases nobody
  · intro other present
    by_cases same : other.peer = task.peer
    · rw [same, found] at present
      cases present
      rw [changedTask_own rfl]
      exact becomes
    · rw [changedTask_other same]
      refine .same (quiet_of_ne own same) (silent _ same) ?_
      rw [queuedTo, queued, framesTo_nil]

/-- The task of the peer of an event leaves. -/
theorem turn_of_drop (found : moment.before.task? task.peer = some task)
    (tasks : moment.after.tasks = moment.before.tasks.filter (·.peer != task.peer))
    (queued : moment.trace.queued = []) (written : moment.trace.written = [])
    (mute : moment.utterance? = none)
    (finished : task.isOpen = false ∨ task.reading = .ended) (peer : PeerId) :
    moment.Turn peer (moment.before.task? peer) (moment.after.task? peer) := by
  have quiet := quiet_of_none mute peer
  have silent : moment.writtenTo peer = [] := by rw [writtenTo, written, framesTo_nil]
  rw [task?_drop tasks]
  split_ifs with same
  · rw [same, found]
    exact .leaves finished (same ▸ quiet) (same ▸ silent)
  · cases present : moment.before.task? peer with
    | none => exact .absent quiet silent
    | some other =>
        have named := peer_of_task? present
        subst named
        refine .becomes rfl (.same quiet silent ?_)
        rw [queuedTo, queued, framesTo_nil]

/-- The reader that posts a script waits for the answer, or has it at once. -/
theorem Reads.submission {session : Nat} {text : String} (quiet : moment.Quiet task.peer)
    (holding : task.reading = .holding session text)
    (posts : moment.posting? = some (moment.script task.peer session text)) :
    moment.Reads task
      (Task.accept moment.trace.answers
        { task with reading := .waiting moment.before.nextTicket }).reading := by
  rcases accept_cases moment.trace.answers
      { task with reading := .waiting moment.before.nextTicket } with
    same | ⟨ticket, response, waits, answered, hears⟩
  · rw [same]
    exact .submits quiet holding posts
  · cases waits
    rw [hears]
    exact .turnedAway quiet holding posts answered

theorem turn_of_submission {session : Nat} {text : String}
    (found : moment.before.task? task.peer = some task)
    (tasks : moment.after.tasks =
      (moment.before.awaiting task.peer).tasks.map (Task.accept moment.trace.answers))
    (queued : moment.trace.queued = []) (written : moment.trace.written = [])
    (mute : moment.utterance? = none) (holding : task.reading = .holding session text)
    (posts : moment.posting? = some (moment.script task.peer session text)) (peer : PeerId) :
    moment.Turn peer (moment.before.task? peer) (moment.after.task? peer) := by
  let wait := changedTask task.peer fun task =>
    { task with reading := .waiting moment.before.nextTicket }
  refine turn_of_map (Task.accept moment.trace.answers ∘ wait) ?_ ?_ queued written ?_ ?_ ?_ peer
  · rw [tasks, awaiting, tasks_updateTask, List.map_map]
  · intro other
    rw [Function.comp_apply, peer_accept]
    exact changedTask_field Task.peer fun _ => rfl
  · intro other opened
    rw [Function.comp_apply, accept_field Task.isOpen (fun _ _ => rfl), ← opened]
    exact changedTask_field Task.isOpen fun _ => rfl
  · intro other present
    have quiet := quiet_of_none mute other.peer
    by_cases same : other.peer = task.peer
    · rw [same, found] at present
      cases present
      simp only [Function.comp_apply, wait, changedTask_own]
      exact .submission quiet holding posts
    · simp only [Function.comp_apply, wait, changedTask_other same]
      exact .accept quiet
  · intro other
    refine .accept _ ?_ ?_
    · exact changedTask_field Task.writing fun _ => rfl
    · exact changedTask_field Task.queue fun _ => rfl

end Events
end Moment

section Gateway

variable {server : Server σ} {id : PeerId}

/-- A client that is admitted gets the next id, and an empty task. -/
theorem tasks_answerKnock (server : Server σ) (knock : Knock) :
    ∃ started, (server.answerKnock knock).2.tasks = server.tasks ++ started ∧
      ∀ task ∈ started, task = Task.start server.registry.nextId none := by
  unfold answerKnock receive
  obtain ⟨refusal, refused⟩ | ⟨_, admitted⟩ := server.registry.connect_cases knock.address
    (server.trustsForwarded && namesSecureScheme knock.forwarded)
    (offeredProtocols knock.protocols)
  · simp only [refused]
    exact ⟨[], rfl, List.forall_mem_nil _⟩
  · simp only [admitted]
    exact ⟨[Task.start server.registry.nextId none], rfl, fun _ member =>
      List.mem_singleton.mp member⟩

end Gateway

/-- Whatever an event comes to gives every peer its turn. -/
theorem turn_of_steps [Transport σ ω] {server : Server σ} {world : ω} {event : Event σ}
    {result : Trace × Server σ} (steps : Steps server world event result) (peer : PeerId) :
    Moment.Turn ⟨server, world, event, result.1, result.2⟩ peer (server.task? peer)
      (result.2.task? peer) := by
  cases steps with
  | idles mute _ => exact Moment.turn_of_same rfl rfl rfl (by exact mute) peer
  | knocks knock =>
      rcases server.tasks_answerKnock knock with ⟨started, tasks, fresh⟩
      refine Moment.turn_of_tasks id started ?_ (fun _ => rfl) (fun _ _ => rfl) ?_ ?_ peer
      · rw [List.map_id]
        exact tasks
      · intro task member
        rw [fresh task member]
        exact ⟨Nat.le_refl _, rfl, rfl, rfl⟩
      · intro task _
        exact .same (Moment.quiet_of_none rfl _) rfl rfl
  | @opens task found unopened =>
      refine Moment.turn_of_spread (changedTask task.peer fun task => { task with isOpen := true })
        rfl (fun _ => changedTask_field Task.peer fun _ => rfl) rfl rfl
        (List.forall_mem_nil _) ?_ ?_ ?_ peer
      · intro other opened
        unfold changedTask
        split_ifs
        exacts [rfl, opened]
      · exact Moment.Reads.changed rfl found (.stays (Moment.quiet_of_none rfl _))
      · intro other
        exact ⟨changedTask_field Task.writing fun _ => rfl,
          changedTask_field Task.queue fun _ => rfl⟩
  | fails found unopened =>
      exact Moment.turn_of_drop found rfl rfl rfl rfl (.inl unopened) peer
  | @takesText task text found opened ready =>
      refine Moment.turn_of_updateTask
        (fun task => { task with reading := server.takeText text }) rfl found rfl (fun _ => rfl)
        rfl (fun _ _ => rfl) ?_ peer
      refine ⟨id, .takesText rfl ?_ opened ready, .same rfl rfl⟩
      simp [Moment.utterance?, utterance?, found, opened, ready]
  | @takesBinary task octets found opened ready =>
      refine Moment.turn_of_spread (changedTask task.peer fun other =>
        { other with reading := .replying (handleBinary server.registry task.peer octets).1 })
        rfl (fun _ => changedTask_field Task.peer fun _ => rfl) rfl rfl ?_ ?_ ?_ ?_ peer
      · intro id opens
        exact ((changes_handleBinary server.registry task.peer octets).le_of_mem_opened opens).1
      · intro other opened
        rw [← opened]
        exact changedTask_field Task.isOpen fun _ => rfl
      · refine Moment.Reads.changed rfl found (.takesBinary rfl ?_ opened ready)
        simp [Moment.utterance?, utterance?, found, opened, ready]
      · intro other
        exact ⟨changedTask_field Task.writing fun _ => rfl,
          changedTask_field Task.queue fun _ => rfl⟩
  | @submits task session text mailbox found holding present =>
      refine Moment.turn_of_submission found ?_ rfl rfl rfl holding ?_ peer
      · exact congrArg _ (tasks_setMailbox _ _ _)
      · simp [Moment.posting?, Moment.script, posting?, found, holding, present]
  | @replies task frame found replying =>
      refine Moment.turn_of_spread (changedTask task.peer fun task =>
        { task with reading := .ready })
        rfl (fun _ => changedTask_field Task.peer fun _ => rfl) rfl rfl
        (List.forall_mem_nil _) ?_ ?_ ?_ peer
      · intro other opened
        rw [← opened]
        exact changedTask_field Task.isOpen fun _ => rfl
      · refine Moment.Reads.changed rfl found (.answers ?_ replying)
        simp [Moment.utterance?, utterance?, found, replying]
      · intro other
        exact ⟨changedTask_field Task.writing fun _ => rfl,
          changedTask_field Task.queue fun _ => rfl⟩
  | hearsEnd found opened ready =>
      refine Moment.turn_of_updateTask (fun task => { task with reading := .ended }) rfl found rfl
        (fun _ => rfl) rfl (fun _ _ => rfl) ?_ peer
      exact ⟨id, .ends (Moment.quiet_of_none rfl _) opened ready, .same rfl rfl⟩
  | @writes task frame rest found queue running =>
      refine Moment.turn_of_updateTask (fun task =>
        { task with
          queue := task.queue.drop 1
          writing := if frame.isClose then .finishing else task.writing }) rfl found rfl
        (fun _ => rfl) rfl ?_ ?_ peer
      · intro other differs
        simp [Moment.writtenTo, write, framesTo, differs.symm]
      · refine ⟨id, .stays (Moment.quiet_of_none rfl _), ?_⟩
        have written : framesTo task.peer (server.write task.peer frame).1.written = [frame] := by
          simp [write, framesTo]
        show Moment.Flows (framesTo _ _) [] task _
        rw [written]
        refine ⟨fun _ => ⟨?_, ?_⟩, fun _ => running, .inr ⟨running, frame, rest, queue, rfl, ?_⟩⟩
        · rw [running]
          exact Writing.noConfusion
        · simp [queue]
        · intro closes
          rw [if_pos closes]
          exact Writing.noConfusion
  | @breaksOff task found running =>
      refine Moment.turn_of_updateTask (fun task => { task with writing := .finishing }) rfl found
        rfl (fun _ => rfl) rfl (fun _ _ => rfl) ?_ peer
      refine ⟨id, .stays (Moment.quiet_of_none rfl _), fun _ => ⟨?_, ?_⟩, ?_, .inl rfl⟩
      · rw [running]
        exact Writing.noConfusion
      · exact List.append_nil _
      · exact Writing.noConfusion
  | @endsWriting task event hungUp found own =>
      have mute : server.utterance? event = none := by
        rcases own with rfl | rfl <;> rfl
      refine Moment.turn_of_updateTask (fun task => { task with writing := .ended, queue := [] })
        ?_ found rfl (fun _ => rfl) rfl (fun _ _ => rfl) ?_ peer
      · rcases own with rfl | rfl <;> rfl
      · refine ⟨id, .stays (Moment.quiet_of_none (by exact mute) _), ?_, ?_, .inl rfl⟩
        · intro going
          exact absurd rfl going
        · exact Writing.noConfusion
  | finishes found ended =>
      exact Moment.turn_of_drop found rfl rfl rfl rfl (.inr ended) peer
  | works mailbox =>
      refine Moment.turn_of_hand ?_ rfl rfl rfl peer
      exact congrArg _ (tasks_setMailbox _ _ _)
  | asks mailbox =>
      refine Moment.turn_of_hand ?_ rfl rfl rfl peer
      exact congrArg _ (tasks_setMailbox _ _ _)
  | shutsDown mailbox =>
      refine Moment.turn_of_hand ?_ rfl rfl rfl peer
      exact congrArg _ (tasks_setMailbox _ _ _)
  | publishes _ => exact Moment.turn_of_same rfl rfl rfl rfl peer
  | announces engine =>
      exact Moment.turn_of_telling (changes_attach server.registry engine) rfl peer
  | withdraws => exact Moment.turn_of_same rfl rfl rfl rfl peer
  | parts => exact Moment.turn_of_telling (changes_detach server.registry) rfl peer
  | follows line =>
      exact Moment.turn_of_telling (changes_routeLine server.registry line) rfl peer
  | collects => exact Moment.turn_of_same rfl rfl rfl rfl peer

end EngineGateway.Server
