import EngineGateway.Proofs.Gateway.Changes
import EngineGateway.Proofs.Server.Steps

/-!
# Every place is held by a task

A tracked peer takes one of the places of the registry.  Its task lives as long as
it does, and the reader of the task is still there: the reader ends together with
the place, and whoever ends a task otherwise gives the place back first.  So the
places are free again when all tasks are over, whatever has happened to them.
-/

namespace EngineGateway.Server

open Engine Peer Gateway

variable {σ ω : Type}

/-- A server with so many places.  Tasks have different peers, whose ids have been
handed out, and every tracked peer has a task with a reader. -/
structure Manned (places : Nat) (server : Server σ) : Prop where
  places : server.registry.maxPeers = places
  issued : ∀ task ∈ server.tasks, task.peer < server.registry.nextId
  distinct : (server.tasks.map Task.peer).Nodup
  manned : ∀ id ∈ server.registry.ids,
    ∃ task ∈ server.tasks, task.peer = id ∧ task.reading ≠ .ended

theorem manned_empty (maxPeers : Nat) (trustsForwarded : Bool) :
    Manned maxPeers (empty maxPeers trustsForwarded : Server σ) where
  places := rfl
  issued task member := by cases member
  distinct := .nil
  manned id member := by cases member

/-! ## What keeps every place held -/

section Keeps

variable {places : Nat} {server next : Server σ} {peer : PeerId}

/-- There is only one task of a peer. -/
theorem Manned.eq_of_peer (manned : Manned places server) {task other : Task}
    (member : task ∈ server.tasks) (otherMember : other ∈ server.tasks)
    (same : task.peer = other.peer) : task = other :=
  List.inj_on_of_nodup_map manned.distinct member otherMember same

/-- Tasks may change, and peers may be forgotten, as long as the readers of those
that stay do not end. -/
theorem Manned.map (manned : Manned places server) (change : Task → Task)
    (tasks : next.tasks = server.tasks.map change)
    (peers : ∀ task, (change task).peer = task.peer)
    (going : ∀ task, task.peer ∈ next.registry.ids →
      (change task).reading = .ended → task.reading = .ended)
    (fewer : next.registry.ids ⊆ server.registry.ids)
    (later : server.registry.nextId ≤ next.registry.nextId)
    (same : next.registry.maxPeers = server.registry.maxPeers) : Manned places next where
  places := same.trans manned.places
  issued task member := by
    rw [tasks] at member
    rcases List.mem_map.mp member with ⟨old, before, rfl⟩
    rw [peers]
    exact Nat.lt_of_lt_of_le (manned.issued old before) later
  distinct := by
    rw [tasks, List.map_map]
    have kept : Task.peer ∘ change = Task.peer := funext peers
    rw [kept]
    exact manned.distinct
  manned id member := by
    rcases manned.manned id (fewer member) with ⟨task, present, rfl, reads⟩
    refine ⟨change task, ?_, peers task, fun ended => reads (going task member ended)⟩
    rw [tasks]
    exact List.mem_map_of_mem present

/-- Tasks may start for peers that get new ids. -/
theorem Manned.start (manned : Manned places server) (started : List Task)
    (tasks : next.tasks = server.tasks ++ started)
    (reads : ∀ task ∈ started, task.reading = .ready)
    (fresh : ∀ task ∈ started,
      server.registry.nextId ≤ task.peer ∧ task.peer < next.registry.nextId)
    (distinct : (started.map Task.peer).Nodup)
    (tracks : ∀ id ∈ next.registry.ids,
      id ∈ server.registry.ids ∨ id ∈ started.map Task.peer)
    (later : server.registry.nextId ≤ next.registry.nextId)
    (same : next.registry.maxPeers = server.registry.maxPeers) : Manned places next where
  places := same.trans manned.places
  issued task member := by
    rw [tasks, List.mem_append] at member
    rcases member with before | new
    · exact Nat.lt_of_lt_of_le (manned.issued task before) later
    · exact (fresh task new).2
  distinct := by
    rw [tasks, List.map_append, List.nodup_append]
    refine ⟨manned.distinct, distinct, ?_⟩
    intro id before other new same
    subst same
    rcases List.mem_map.mp before with ⟨task, present, named⟩
    rcases List.mem_map.mp new with ⟨starting, member, same⟩
    have known := manned.issued task present
    have unknown := (fresh starting member).1
    rw [named, ← same] at known
    exact Nat.lt_irrefl _ (Nat.lt_of_lt_of_le known unknown)
  manned id member := by
    rw [tasks]
    rcases tracks id member with before | new
    · rcases manned.manned id before with ⟨task, present, named, reading⟩
      exact ⟨task, List.mem_append_left _ present, named, reading⟩
    · rcases List.mem_map.mp new with ⟨task, present, named⟩
      refine ⟨task, List.mem_append_right _ present, named, ?_⟩
      rw [reads task present]
      exact Reading.noConfusion

/-- The task of a peer that is not tracked may end. -/
theorem Manned.drop (manned : Manned places server) (peer : PeerId)
    (tasks : next.tasks = server.tasks.filter (·.peer != peer))
    (fewer : ∀ id ∈ next.registry.ids, id ∈ server.registry.ids ∧ id ≠ peer)
    (unnumbered : next.registry.nextId = server.registry.nextId)
    (same : next.registry.maxPeers = server.registry.maxPeers) : Manned places next where
  places := same.trans manned.places
  issued task member := by
    rw [tasks] at member
    rw [unnumbered]
    exact manned.issued task (List.mem_of_mem_filter member)
  distinct := by
    rw [tasks]
    exact manned.distinct.sublist (List.filter_sublist.map _)
  manned id member := by
    rcases fewer id member with ⟨before, differs⟩
    rcases manned.manned id before with ⟨task, present, rfl, reads⟩
    refine ⟨task, ?_, rfl, reads⟩
    rw [tasks]
    exact List.mem_filter.mpr ⟨present, by simpa using differs⟩

/-- An activity of the gateway may take place, if its effects are spread. -/
theorem Manned.spread (manned : Manned places server) (next : Server σ) {effects : Effects}
    (tasks : next.tasks = server.tasks)
    (changes : Changes server.registry next.registry effects) :
    Manned places (next.spread effects).2 := by
  let started := effects.relays.map fun request => Task.start request.id (some request)
  have peers : started.map Task.peer = effects.opened := by
    simp only [started, List.map_map, Effects.opened]
    rfl
  have joined : Manned places { next with tasks := next.tasks ++ started } := by
    refine manned.start started (by rw [tasks]) ?_ ?_ ?_ ?_ changes.nextId_le
      changes.places
    · intro task member
      rcases List.mem_map.mp member with ⟨request, _, rfl⟩
      rfl
    · intro task member
      apply changes.le_of_mem_opened
      rw [← peers]
      exact List.mem_map_of_mem member
    · rw [peers]
      exact changes.nodup_opened
    · rw [peers]
      exact changes.tracks
  refine joined.map (Task.enqueue effects.sent) rfl (peer_enqueue _) ?_
    (fun _ member => member) (Nat.le_refl _) rfl
  intro task _ ended
  rwa [reading_enqueue] at ended

/-- The registry may change, if peers are told. -/
theorem Manned.told (manned : Manned places server) {registry : Registry} {effects : Effects}
    (changes : Changes server.registry registry effects) :
    Manned places ((server.withRegistry registry).spread effects).2 :=
  manned.spread (server.withRegistry registry) rfl changes

/-- One task may change, if its reader goes on. -/
theorem Manned.updateTask (manned : Manned places server) {change : Task → Task}
    (peers : ∀ task, (change task).peer = task.peer)
    (going : ∀ task, (change task).reading = .ended → task.reading = .ended) :
    Manned places (server.updateTask peer change) := by
  refine manned.map _ (tasks_updateTask server peer change)
    (fun _ => changedTask_field Task.peer peers) ?_ (fun _ member => member) (Nat.le_refl _) rfl
  intro task _ ended
  unfold changedTask at ended
  split_ifs at ended
  · exact going task ended
  · exact ended

theorem Manned.hand (manned : Manned places server) (answers : List Ticketed) :
    Manned places (server.hand answers).2 :=
  manned.map (Task.accept answers) rfl (peer_accept answers)
    (fun _ _ ended => ended_of_accept ended) (fun _ member => member) (Nat.le_refl _) rfl

/-- Sessions may change. -/
theorem Manned.same (manned : Manned places server) (tasks : next.tasks = server.tasks)
    (registry : next.registry = server.registry) : Manned places next := by
  refine manned.map id (by rw [tasks, List.map_id]) (fun _ => rfl)
    (fun _ _ ended => ended) ?_ ?_ ?_
  · rw [registry]
    exact fun _ member => member
  · exact Nat.le_of_eq (by rw [registry])
  · rw [registry]

theorem Manned.setMailbox (manned : Manned places server) (session : Nat) (mailbox : Mailbox σ) :
    Manned places (server.setMailbox session mailbox) :=
  manned.same (tasks_setMailbox server session mailbox)
    (registry_setMailbox server session mailbox)

theorem Manned.post (manned : Manned places server) (session : Nat) (mailbox : Mailbox σ)
    (letter : Letter) : Manned places (server.post session mailbox letter).2 :=
  (manned.setMailbox session _).hand _

theorem Manned.postErrand (manned : Manned places server) (session : Nat) (mailbox : Mailbox σ)
    (errand : Errand) : Manned places (server.postErrand session mailbox errand).2 := by
  have later : Manned places { server with nextTicket := server.nextTicket + 1 } :=
    manned.same rfl rfl
  exact later.post session mailbox _

end Keeps

/-! ## Single events -/

section Events

variable {places : Nat} {server : Server σ} {peer : PeerId} {task : Task}

theorem Manned.answerKnock (manned : Manned places server) (knock : Knock) :
    Manned places (server.answerKnock knock).2 := by
  unfold Server.answerKnock receive
  obtain ⟨refusal, refused⟩ | ⟨_, admitted⟩ := server.registry.connect_cases knock.address
    (server.trustsForwarded && namesSecureScheme knock.forwarded)
    (offeredProtocols knock.protocols)
  · simp only [refused]
    exact manned.same (List.append_nil _) rfl
  · simp only [admitted]
    refine manned.start [Task.start server.registry.nextId none] rfl ?_ ?_ ?_ ?_ ?_ rfl
    · simp [Task.start]
    · intro starting member
      cases List.mem_singleton.mp member
      exact ⟨Nat.le_refl _, Nat.lt_succ_self _⟩
    · simp
    · intro id member
      have tracked : id ∈ (server.registry.insert (server.registry.clientEntry
          (offeredProtocols knock.protocols))).ids := member
      rw [Registry.ids_insert, List.mem_append] at tracked
      exact tracked
    · exact Nat.le_succ _

theorem Manned.openPeer (manned : Manned places server) (task : Task) :
    Manned places (server.openPeer task).2 := by
  have opened : Manned places
      (server.updateTask task.peer fun task => { task with isOpen := true }) :=
    manned.updateTask (fun _ => rfl) fun _ ended => ended
  exact opened.spread ((server.withRegistry
    (server.registry.markOpen task.peer).2).updateTask task.peer fun task =>
      { task with isOpen := true }) rfl (changes_markOpen server.registry task.peer)

theorem Manned.failPeer (manned : Manned places server) (peer : PeerId) :
    Manned places (server.failPeer peer) :=
  manned.drop peer rfl (fun _ member => Registry.mem_ids_release.mp member) rfl rfl

theorem Manned.takeBinary (manned : Manned places server) (peer : PeerId) (octets : Bytes) :
    Manned places (server.takeBinary peer octets).2 := by
  have taken : Manned places (server.updateTask peer fun task =>
      { task with reading := .replying (handleBinary server.registry peer octets).1 }) :=
    manned.updateTask (fun _ => rfl) fun _ ended => by cases ended
  exact taken.spread ((server.withRegistry
    (handleBinary server.registry peer octets).2.2).updateTask peer fun task =>
      { task with reading := .replying (handleBinary server.registry peer octets).1 }) rfl
    (changes_handleBinary server.registry peer octets)

theorem Manned.awaiting (manned : Manned places server) (peer : PeerId) :
    Manned places (server.awaiting peer) :=
  manned.updateTask (fun _ => rfl) fun _ ended => by cases ended

theorem Manned.reply (manned : Manned places server) (peer : PeerId) (frame : Option Frame) :
    Manned places (server.reply peer frame).2 := by
  have ready : Manned places (server.updateTask peer fun task => { task with reading := .ready }) :=
    manned.updateTask (fun _ => rfl) fun _ ended => by cases ended
  exact ready.spread _ rfl (changes_reply server.registry peer frame)

/-- The reader ends, and the place of its peer is given back. -/
theorem Manned.endReading (manned : Manned places server) (peer : PeerId) :
    Manned places (server.endReading peer) := by
  refine manned.map (changedTask peer fun task => { task with reading := .ended }) rfl
    (fun _ => changedTask_field Task.peer fun _ => rfl) ?_ ?_ (Nat.le_refl _) rfl
  · intro task tracked ended
    have stays : task.peer ≠ peer := (Registry.mem_ids_release.mp tracked).2
    rwa [changedTask, if_neg stays] at ended
  · intro id member
    exact (Registry.mem_ids_release.mp member).1

theorem Manned.endWriting (manned : Manned places server) (peer : PeerId) :
    Manned places (server.endWriting peer) := by
  refine manned.map
    (changedTask peer fun task => { task with writing := .ended, queue := [] }) rfl
    (fun _ => changedTask_field Task.peer fun _ => rfl) ?_ ?_ (Nat.le_refl _) rfl
  · intro task _ ended
    unfold changedTask at ended
    split_ifs at ended <;> exact ended
  · show (server.registry.hangUp peer).ids ⊆ _
    rw [Registry.ids_hangUp]
    exact fun _ member => member

theorem Manned.collect (manned : Manned places server) : Manned places server.collect :=
  manned.map id (List.map_id _).symm (fun _ => rfl) (fun _ _ ended => ended)
    Registry.ids_collect_subset (Nat.le_refl _) rfl

/-- A task whose reader has ended holds no place. -/
theorem Manned.finish (manned : Manned places server) (member : task ∈ server.tasks)
    (ended : task.reading = .ended) : Manned places (server.finish task.peer) := by
  refine manned.collect.drop task.peer rfl ?_ rfl rfl
  intro id tracked
  refine ⟨tracked, ?_⟩
  rintro rfl
  rcases manned.collect.manned task.peer tracked with ⟨other, present, same, reads⟩
  rw [manned.eq_of_peer present member same] at reads
  exact reads ended

/-- Whatever an event comes to keeps the places held. -/
theorem Manned.of_steps [Transport σ ω] {world : ω} {event : Event σ}
    {result : Trace × Server σ} (manned : Manned places server)
    (steps : Steps server world event result) : Manned places result.2 := by
  cases steps with
  | idles _ _ => exact manned
  | knocks knock => exact manned.answerKnock knock
  | opens _ _ => exact manned.openPeer _
  | fails _ _ => exact manned.failPeer _
  | takesText _ _ _ =>
      refine manned.updateTask (fun _ => rfl) fun task ended => ?_
      simp only [takeText] at ended
      split at ended <;> cases ended
  | takesBinary _ _ _ => exact manned.takeBinary _ _
  | submits _ _ _ => exact (manned.awaiting _).postErrand _ _ _
  | replies _ _ => exact manned.reply _ _
  | hearsEnd _ _ _ => exact manned.endReading _
  | writes _ _ _ => exact manned.updateTask (fun _ => rfl) fun _ ended => ended
  | breaksOff _ _ => exact manned.updateTask (fun _ => rfl) fun _ ended => ended
  | endsWriting _ _ => exact manned.endWriting _
  | finishes found ended => exact manned.finish (mem_of_task? found) ended
  | works _ => exact (manned.setMailbox _ _).hand _
  | asks _ => exact manned.postErrand _ _ _
  | shutsDown _ => exact manned.post _ _ _
  | publishes _ => exact manned.same rfl rfl
  | announces engine => exact manned.told (changes_attach server.registry engine)
  | withdraws => exact manned.same rfl rfl
  | parts => exact manned.told (changes_detach server.registry)
  | follows line => exact manned.told (changes_routeLine server.registry line)
  | collects => exact manned.collect

theorem Manned.step [Transport σ ω] (manned : Manned places server) (event : Event σ)
    (world : ω) : Manned places ((server.step event).run world).1.2 :=
  manned.of_steps (steps_step server world event)

end Events

/-! ## Free places -/

section Free

variable {server : Server σ} [Transport σ ω]

/-- A client from a private network takes a place if there is one. -/
theorem answerKnock_of_room {knock : Knock}
    (near : knock.address.isPrivate = true)
    (room : server.registry.entries.length < server.registry.maxPeers) :
    (∃ id protocol, (server.answerKnock knock).1.reception = some (.admitted id protocol)) ∧
      (server.answerKnock knock).2.registry.entries.length =
        server.registry.entries.length + 1 ∧
      (server.answerKnock knock).2.registry.maxPeers = server.registry.maxPeers := by
  have full : ¬ server.registry.maxPeers ≤ server.registry.entries.length :=
    Nat.not_le.mpr room
  simp only [answerKnock, receive, Registry.connect, near, Bool.not_true, Bool.and_false,
    Bool.false_eq_true, if_false, if_neg full]
  exact ⟨⟨_, _, rfl⟩, List.length_append, rfl⟩

/-- Clients from private networks are admitted as long as there are places. -/
theorem admitted_of_room {knocks : List Knock}
    (near : ∀ knock ∈ knocks, knock.address.isPrivate = true)
    (room : server.registry.entries.length + knocks.length ≤ server.registry.maxPeers)
    (world : ω) :
    ∀ trace ∈ ((server.run (knocks.map .knocks)).run world).1.1,
      ∃ id protocol, trace.reception = some (.admitted id protocol) := by
  induction knocks generalizing server with
  | nil =>
      intro trace member
      cases member
  | cons knock rest ih =>
      rw [List.length_cons] at room
      obtain ⟨admitted, taken, places⟩ :=
        server.answerKnock_of_room (near knock (.head _)) (by omega)
      have left : (server.answerKnock knock).2.registry.entries.length + rest.length ≤
          (server.answerKnock knock).2.registry.maxPeers := by
        rw [taken, places]
        omega
      intro trace member
      rcases List.mem_cons.mp member with rfl | later
      · exact admitted
      · exact ih (fun other inside => near other (.tail _ inside)) left trace later

end Free

/-- Whatever happens, every tracked peer has a task that is not over, and whose reader
has not ended either.  Once all tasks are over no peer is tracked, and as many clients
as there are places are admitted one after another. -/
theorem places_given_back [Transport σ ω] (maxPeers : Nat) (trustsForwarded : Bool)
    (history : List ((ω → ω) × Event σ)) (world : ω) :
    let start : Server σ := empty maxPeers trustsForwarded
    let server := start.afterAll (start.moments world history)
    (∀ id, server.registry.contains id = true →
      ∃ task ∈ server.tasks, task.peer = id ∧ task.reading ≠ .ended) ∧
    (server.tasks = [] →
      server.registry.entries = [] ∧
      ∀ knocks : List Knock, knocks.length ≤ maxPeers →
        (∀ knock ∈ knocks, knock.address.isPrivate = true) →
        ∀ trace ∈ ((server.run (knocks.map .knocks)).run world).1.1,
          ∃ id protocol, trace.reception = some (.admitted id protocol)) := by
  intro start server
  have manned : Manned maxPeers server := by
    refine along (fun _ server => Manned maxPeers server) ?_ ?_ world history
    · exact manned_empty maxPeers trustsForwarded
    · intro _ server world event holds
      exact holds.step event world
  refine ⟨?_, ?_⟩
  · intro id tracked
    exact manned.manned id (Registry.contains_iff.mp tracked)
  · intro finished
    have nobody : server.registry.entries = [] := by
      refine List.eq_nil_iff_forall_not_mem.mpr fun entry member => ?_
      rcases manned.manned entry.id (List.mem_map_of_mem member) with ⟨task, present, _⟩
      rw [finished] at present
      cases present
    refine ⟨nobody, fun knocks few near => ?_⟩
    refine admitted_of_room near ?_ world
    rw [nobody, manned.places, List.length_nil, Nat.zero_add]
    exact few

end EngineGateway.Server
