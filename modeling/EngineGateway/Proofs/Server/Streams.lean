import EngineGateway.Proofs.Server.Manned
import EngineGateway.Proofs.Server.Turns

/-!
# What goes over the wire

The frames that are queued for a peer are put on the wire in the order of queueing, as
far as the writer comes.  A frame that is queued but not yet written waits in the queue
of the task, unless the writer has ended.  A close frame is the last one that is
written.
-/

namespace EngineGateway.Server

open Engine Peer Gateway

variable {σ ω : Type}

/-- The frames that have been queued for a peer. -/
def queuedFor (peer : PeerId) (moments : List (Moment σ ω)) : List Frame :=
  moments.flatMap (·.queuedTo peer)

/-- The frames that have gone to a peer on the wire. -/
def writtenFor (peer : PeerId) (moments : List (Moment σ ω)) : List Frame :=
  moments.flatMap (·.writtenTo peer)

/-! ## Frames are queued for known peers -/

section Known

variable {places : Nat} {server : Server σ}

/-- What is queued is queued for peers whose ids have been handed out. -/
def Known (server : Server σ) (result : Trace × Server σ) : Prop :=
  server.registry.nextId ≤ result.2.registry.nextId ∧
    ∀ delivery ∈ result.1.queued, delivery.peer < result.2.registry.nextId

theorem known_of_silent {result : Trace × Server σ} (silent : result.1.queued = [])
    (later : server.registry.nextId ≤ result.2.registry.nextId) : Known server result := by
  refine ⟨later, fun delivery queued => ?_⟩
  rw [silent] at queued
  cases queued

theorem known_of_registry {result : Trace × Server σ} (silent : result.1.queued = [])
    (same : result.2.registry = server.registry) : Known server result :=
  known_of_silent silent (Nat.le_of_eq (by rw [same]))

theorem Manned.known_of_changes (manned : Manned places server) {result : Trace × Server σ}
    {effects : Effects} (queued : result.1.queued = effects.sent)
    (changes : Changes server.registry result.2.registry effects) : Known server result := by
  refine ⟨changes.nextId_le, ?_⟩
  intro delivery member
  rw [queued] at member
  rcases changes.addressed delivery member with tracked | opened
  · rcases manned.manned _ tracked with ⟨task, present, named, _⟩
    have issued := manned.issued task present
    rw [named] at issued
    exact Nat.lt_of_lt_of_le issued changes.nextId_le
  · exact (changes.le_of_mem_opened opened).2

theorem Manned.known_told (manned : Manned places server) {registry : Registry}
    {effects : Effects} (changes : Changes server.registry registry effects) :
    Known server ((server.withRegistry registry).spread effects) :=
  manned.known_of_changes rfl changes

theorem nextId_answerKnock (server : Server σ) (knock : Knock) :
    server.registry.nextId ≤ (server.answerKnock knock).2.registry.nextId := by
  unfold answerKnock receive
  obtain ⟨refusal, refused⟩ | ⟨_, admitted⟩ := server.registry.connect_cases knock.address
    (server.trustsForwarded && namesSecureScheme knock.forwarded)
    (offeredProtocols knock.protocols)
  · simp only [refused]
    exact Nat.le_refl _
  · simp only [admitted]
    exact Nat.le_succ _

/-- Whatever an event comes to, it queues frames for known peers. -/
theorem Manned.known [Transport σ ω] (manned : Manned places server) {world : ω}
    {event : Event σ} {result : Trace × Server σ} (steps : Steps server world event result) :
    Known server result := by
  cases steps with
  | idles _ _ => exact known_of_registry rfl rfl
  | knocks knock => exact known_of_silent rfl (server.nextId_answerKnock knock)
  | opens _ _ => exact manned.known_of_changes rfl (changes_markOpen _ _)
  | fails _ _ => exact known_of_silent rfl (Nat.le_refl _)
  | takesText _ _ _ => exact known_of_registry rfl rfl
  | takesBinary _ _ _ => exact manned.known_of_changes rfl (changes_handleBinary _ _ _)
  | submits _ _ _ => exact known_of_registry rfl (registry_postErrand _ _ _ _)
  | replies _ _ => exact manned.known_of_changes rfl (changes_reply _ _ _)
  | hearsEnd _ _ _ => exact known_of_silent rfl (Nat.le_refl _)
  | writes _ _ _ => exact known_of_registry rfl rfl
  | breaksOff _ _ => exact known_of_registry rfl rfl
  | endsWriting _ _ => exact known_of_silent rfl (Nat.le_refl _)
  | finishes _ _ => exact known_of_silent rfl (Nat.le_refl _)
  | works _ => exact known_of_registry rfl (registry_setMailbox _ _ _)
  | asks _ => exact known_of_registry rfl (registry_postErrand _ _ _ _)
  | shutsDown _ => exact known_of_registry rfl (registry_post _ _ _ _)
  | publishes _ => exact known_of_registry rfl rfl
  | announces engine => exact manned.known_told (changes_attach _ engine)
  | withdraws => exact known_of_registry rfl rfl
  | parts => exact manned.known_told (changes_detach _)
  | follows line => exact manned.known_told (changes_routeLine _ line)
  | collects => exact known_of_silent rfl (Nat.le_refl _)

end Known

/-! ## The queue of a peer -/

/-- What has been queued for a peer and what has been written, beside its task. -/
structure Streams (peer : PeerId) (past : List (Moment σ ω)) (server : Server σ) : Prop where
  wire : writtenFor peer past <+: queuedFor peer past
  closed : ∀ frame ∈ (writtenFor peer past).dropLast, frame.isClose = false
  waits : ∀ task, server.task? peer = some task → task.writing ≠ .ended →
    queuedFor peer past = writtenFor peer past ++ task.queue
  going : ∀ task, server.task? peer = some task → task.writing = .running →
    ∀ frame ∈ writtenFor peer past, frame.isClose = false
  unknown : server.registry.nextId ≤ peer → queuedFor peer past = []

theorem streams_empty (peer : PeerId) (maxPeers : Nat) (trustsForwarded : Bool) :
    Streams peer ([] : List (Moment σ ω)) (empty maxPeers trustsForwarded) where
  wire := List.prefix_refl _
  closed frame member := by cases member
  waits task found := by cases found
  going task found := by cases found
  unknown _ := rfl

namespace Streams

variable {peer : PeerId} {past : List (Moment σ ω)} {moment : Moment σ ω}

theorem queuedFor_append (peer : PeerId) (past : List (Moment σ ω)) (moment : Moment σ ω) :
    queuedFor peer (past ++ [moment]) = queuedFor peer past ++ moment.queuedTo peer := by
  rw [queuedFor, List.flatMap_append, List.flatMap_singleton]
  rfl

theorem writtenFor_append (peer : PeerId) (past : List (Moment σ ω)) (moment : Moment σ ω) :
    writtenFor peer (past ++ [moment]) = writtenFor peer past ++ moment.writtenTo peer := by
  rw [writtenFor, List.flatMap_append, List.flatMap_singleton]
  rfl

/-- Nothing is written for a peer whose task, if there is one left, is new. -/
theorem silent (streams : Streams peer past moment.before)
    (silent : moment.writtenTo peer = [])
    (fresh : ∀ task, moment.after.task? peer = some task →
      moment.before.registry.nextId ≤ peer ∧ task.queue = moment.queuedTo peer)
    (unknown : moment.after.registry.nextId ≤ peer →
      moment.before.registry.nextId ≤ peer ∧ moment.queuedTo peer = []) :
    Streams peer (past ++ [moment]) moment.after := by
  have nothing : moment.before.registry.nextId ≤ peer →
      queuedFor peer past = [] ∧ writtenFor peer past = [] := by
    intro new
    have queued := streams.unknown new
    refine ⟨queued, List.prefix_nil.mp ?_⟩
    rw [← queued]
    exact streams.wire
  refine ⟨?_, ?_, ?_, ?_, ?_⟩
  all_goals simp only [queuedFor_append, writtenFor_append, silent, List.append_nil]
  · exact streams.wire.trans (List.prefix_append _ _)
  · exact streams.closed
  · intro task found _
    rcases fresh task found with ⟨new, queue⟩
    rw [(nothing new).1, (nothing new).2, queue]
  · intro task found _ frame member
    rw [(nothing (fresh task found).1).2] at member
    cases member
  · intro later
    rcases unknown later with ⟨new, none⟩
    rw [(nothing new).1, none, List.nil_append]

/-- The task of the peer moves on. -/
theorem becomes (streams : Streams peer past moment.before) {old new : Task}
    (before : moment.before.task? peer = some old) (after : moment.after.task? peer = some new)
    (flows : Moment.Flows (moment.writtenTo peer) (moment.queuedTo peer) old new)
    (unknown : moment.after.registry.nextId ≤ peer →
      moment.before.registry.nextId ≤ peer ∧ moment.queuedTo peer = []) :
    Streams peer (past ++ [moment]) moment.after := by
  have waited : old.writing ≠ .ended →
      queuedFor peer past = writtenFor peer past ++ old.queue := streams.waits old before
  have running : old.writing = .running → old.writing ≠ .ended := by
    intro going
    rw [going]
    exact Writing.noConfusion
  refine ⟨?_, ?_, ?_, ?_, ?_⟩
  all_goals simp only [queuedFor_append, writtenFor_append]
  · rcases flows.first with nothing | ⟨going, frame, rest, queue, one, _⟩
    · rw [nothing, List.append_nil]
      exact streams.wire.trans (List.prefix_append _ _)
    · rw [waited (running going), queue, one, List.append_assoc, List.prefix_append_right_inj]
      exact List.prefix_append [frame] (rest ++ _)
  · rcases flows.first with nothing | ⟨going, frame, _, _, one, _⟩
    · rw [nothing, List.append_nil]
      exact streams.closed
    · rw [one, List.dropLast_concat]
      exact streams.going old before going
  · intro task found going
    cases after.symm.trans found
    rcases flows.moves going with ⟨went, moved⟩
    rw [waited went, List.append_assoc, moved, List.append_assoc]
  · intro task found going frame member
    cases after.symm.trans found
    rcases List.mem_append.mp member with early | now
    · exact streams.going old before (flows.running going) frame early
    · rcases flows.first with nothing | ⟨_, first, _, _, one, closes⟩
      · rw [nothing] at now
        cases now
      · rw [one, List.mem_singleton] at now
        subst now
        exact Bool.eq_false_iff.mpr fun close => closes close going
  · intro later
    rcases unknown later with ⟨new, none⟩
    rw [streams.unknown new, none, List.nil_append]

/-- Whatever a moment makes of the task of the peer, its streams stay in order. -/
theorem turn (streams : Streams peer past moment.before)
    (turn : moment.Turn peer (moment.before.task? peer) (moment.after.task? peer))
    (unknown : moment.after.registry.nextId ≤ peer →
      moment.before.registry.nextId ≤ peer ∧ moment.queuedTo peer = []) :
    Streams peer (past ++ [moment]) moment.after := by
  generalize before : moment.before.task? peer = old at turn
  generalize after : moment.after.task? peer = new at turn
  cases turn with
  | absent _ silent =>
      refine streams.silent silent (fun task found => ?_) unknown
      cases after.symm.trans found
  | @begins task own begins _ silent =>
      refine streams.silent silent (fun other found => ?_) unknown
      cases after.symm.trans found
      rw [← own]
      exact ⟨begins.fresh, begins.queue⟩
  | becomes own becomes =>
      have flows := becomes.flows
      rw [own] at flows
      exact streams.becomes before after flows unknown
  | leaves _ _ silent =>
      refine streams.silent silent (fun task found => ?_) unknown
      cases after.symm.trans found

theorem step [Transport σ ω] {places : Nat} {server : Server σ}
    (streams : Streams peer past server) (manned : Manned places server) (event : Event σ)
    (world : ω) :
    Streams peer (past ++ [server.moment world event]) (server.moment world event).after := by
  have steps := steps_step server world event
  have before : Streams peer past (server.moment world event).before := streams
  refine before.turn (turn_of_steps steps peer) ?_
  intro later
  have known := manned.known steps
  refine ⟨Nat.le_trans known.1 later, ?_⟩
  refine List.map_eq_nil_iff.mpr (List.filter_eq_nil_iff.mpr fun delivery queued => ?_)
  have below := known.2 delivery queued
  simp only [beq_iff_eq]
  rintro rfl
  exact Nat.lt_irrefl _ (Nat.lt_of_lt_of_le below later)

end Streams
end EngineGateway.Server
