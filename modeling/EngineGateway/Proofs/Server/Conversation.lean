import EngineGateway.Proofs.Server.Letters
import EngineGateway.Proofs.Server.Streams

/-!
# Questions and answers

The reader of a peer takes one frame after another, and is done with a frame before it
takes the next.  It then queues at most one frame, for its own peer: what the gateway
makes of a binary frame by itself, or what the session makes of the script that this
reader posted for this text.  All other frames that are queued are status lines or
messages of directives.
-/

namespace EngineGateway.Server

open Engine Peer Gateway

variable {σ ω : Type} [Transport σ ω]

/-! ## What is queued -/

namespace Moment

/-- A frame that a reader answers with is queued for its own peer, or nothing is. -/
def Queues (moment : Moment σ ω) (peer : PeerId) (answer : Option Frame) : Prop :=
  moment.trace.queued = [] ∨
    ∃ frame, answer = some frame ∧ moment.trace.queued = [⟨peer, frame⟩]

/-- A directive that is followed in a moment. -/
inductive Follows (moment : Moment σ ω) (directive : Directive) : Prop where
  | ofPeer {sender : PeerId} {octets : Bytes} {frame : BinaryFrame} :
      moment.event = .receivesBinary sender octets → BinaryFrame.decode octets = .ok frame →
      routableDirective? frame.text = some directive → Follows moment directive
  | ofEngine {line : String} :
      moment.event = .follows line → routableDirective? line = some directive →
      Follows moment directive

/-- An event that is told in status lines. -/
def TellsStatus (moment : Moment σ ω) : Prop :=
  (∃ peer, moment.event = .opens peer) ∨ (∃ engine, moment.event = .announces engine) ∨
    moment.event = .parts

/-- Why a frame is queued for a peer. -/
inductive Sends (moment : Moment σ ω) (delivery : Delivery) : Prop where
  | reply :
      moment.utterance? = some (delivery.peer, .answers (some delivery.frame)) →
      Sends moment delivery
  | status {engine : Identity} {news : StatusEvent} :
      moment.TellsStatus → delivery.frame = .text (engine.statusLine news) →
      Sends moment delivery
  | message {directive : Directive} {message : String} :
      moment.Follows directive → directive.message = some message →
      delivery.frame = .text message → Sends moment delivery

end Moment

section Sends

variable {server : Server σ} {world : ω} {event : Event σ} {result : Trace × Server σ}

/-- An answer is queued for the peer whose frame is answered. -/
theorem queues_of_steps (steps : Steps server world event result) {peer : PeerId}
    {answer : Option Frame} (answers : server.utterance? event = some (peer, .answers answer)) :
    Moment.Queues ⟨server, world, event, result.1, result.2⟩ peer answer := by
  cases steps with
  | @replies task frame found replying =>
      have same : task.peer = peer ∧ frame = answer := by
        simpa [utterance?, found, replying] using answers
      rcases same with ⟨rfl, rfl⟩
      cases frame with
      | none => exact .inl rfl
      | some frame =>
          rcases server.registry.send_cases task.peer frame with nothing | ⟨once, _⟩
          · exact .inl nothing
          · exact .inr ⟨frame, rfl, once⟩
  | @takesText task text found opened ready =>
      simp [utterance?, found, opened, ready] at answers
  | @takesBinary task octets found opened ready =>
      simp [utterance?, found, opened, ready] at answers
  | idles mute _ =>
      rw [mute] at answers
      cases answers
  | endsWriting _ own =>
      rcases own with rfl | rfl <;> cases answers
  | _ => cases answers

/-- Every frame that is queued is queued for a reason. -/
theorem sends_of_steps (steps : Steps server world event result) {delivery : Delivery}
    (queued : delivery ∈ result.1.queued) :
    Moment.Sends ⟨server, world, event, result.1, result.2⟩ delivery := by
  cases steps with
  | opens _ _ =>
      rcases Registry.mem_markOpen.mp queued with ⟨_, engine, _, _, _, rfl⟩
      exact .status (.inl ⟨_, rfl⟩) rfl
  | @takesBinary task octets _ _ _ =>
      obtain ⟨reply, log, answered⟩ | ⟨frame, directive, decoded, _, found, routed⟩ :=
        handleBinary_cases server.registry task.peer octets
      · have sent : delivery ∈ (handleBinary server.registry task.peer octets).2.1.sent := queued
        rw [answered] at sent
        cases sent
      · have sent : delivery ∈ (handleBinary server.registry task.peer octets).2.1.sent := queued
        rw [routed] at sent
        rcases message_of_mem_sent sent with ⟨message, carried, told⟩
        exact .message (.ofPeer rfl decoded found) carried told
  | @replies task frame found replying =>
      have answers : server.utterance? (.replies task.peer) =
          some (task.peer, .answers frame) := by
        simp [utterance?, found, replying]
      have steps : Steps server world (.replies task.peer) (server.reply task.peer frame) :=
        .replies found replying
      rcases queues_of_steps steps answers with nothing | ⟨sent, rfl, once⟩
      · have none : delivery ∈ ([] : List Delivery) := nothing ▸ queued
        cases none
      · have only : delivery ∈ [(⟨task.peer, sent⟩ : Delivery)] := once ▸ queued
        cases List.mem_singleton.mp only
        exact .reply answers
  | announces engine =>
      exact .status (.inr (.inl ⟨engine, rfl⟩)) (Registry.mem_announce queued).2
  | parts =>
      rcases (Registry.mem_detach queued).2 with ⟨engine, told⟩
      exact .status (.inr (.inr rfl)) told
  | follows line =>
      rw [queued_follow] at queued
      rcases directive_of_mem_routeLine queued with ⟨directive, message, found, carried, told⟩
      exact .message (.ofEngine rfl found) carried told
  | _ => cases queued

end Sends

/-! ## Questions and answers of one peer -/

/-- What a reader that has taken a frame in one moment may answer, given the moments
since then. -/
inductive Deserves (peer : PeerId) (taking : Moment σ ω) (since : List (Moment σ ω)) :
    Option Frame → Prop where
  | binary {octets : Bytes} :
      taking.event = .receivesBinary peer octets →
      Deserves peer taking since (handleBinary taking.before.registry peer octets).1
  | unattached {text : String} :
      taking.event = .receivesText peer text → taking.before.gateway.session = none →
      Deserves peer taking since (Frame.ofResponse? (.error noEngine))
  | settled {text : String} {posting : Posting} {settling : Moment σ ω} {response : Response} :
      taking.event = .receivesText peer text → taking.before.gateway.session.isSome = true →
      posting ∈ postings since → posting.sender = some peer →
      posting.session = taking.before.retired.length → posting.errand = .send text →
      settling ∈ since →
      settling.Settles posting.session posting.ticket posting.errand (.response response) →
      Deserves peer taking since (Frame.ofResponse? response)

/-- The frames of a peer are taken and answered in turn.  A frame that has been taken and
not yet answered comes with the moments since then. -/
inductive Conversation (peer : PeerId) :
    List (Moment σ ω) → Option (Moment σ ω × List (Moment σ ω)) → Prop where
  | silence : Conversation peer [] none
  | waits {past : List (Moment σ ω)} {moment : Moment σ ω} :
      Conversation peer past none → moment.Quiet peer →
      Conversation peer (past ++ [moment]) none
  | works {past since : List (Moment σ ω)} {taking moment : Moment σ ω} :
      Conversation peer past (some (taking, since)) → moment.Quiet peer →
      Conversation peer (past ++ [moment]) (some (taking, since ++ [moment]))
  | takes {past : List (Moment σ ω)} {moment : Moment σ ω} :
      Conversation peer past none → moment.utterance? = some (peer, .takes) →
      Conversation peer (past ++ [moment]) (some (moment, []))
  | answers {past since : List (Moment σ ω)} {taking moment : Moment σ ω}
      {frame : Option Frame} :
      Conversation peer past (some (taking, since)) →
      moment.utterance? = some (peer, .answers frame) → Deserves peer taking since frame →
      moment.Queues peer frame → Conversation peer (past ++ [moment]) none

section Conversation

variable {peer : PeerId} {past since : List (Moment σ ω)} {taking moment : Moment σ ω}
variable {pending : Option (Moment σ ω × List (Moment σ ω))}

theorem Deserves.later {frame : Option Frame} (deserves : Deserves peer taking since frame)
    (moment : Moment σ ω) : Deserves peer taking (since ++ [moment]) frame := by
  have longer : since ⊆ since ++ [moment] := List.subset_append_left _ _
  cases deserves with
  | binary took => exact .binary took
  | unattached took none => exact .unattached took none
  | settled took attached posted sender session errand member settles =>
      exact .settled took attached (postings_subset longer posted) sender session errand
        (longer member) settles

/-- The moments since a frame was taken are among all moments. -/
theorem Conversation.since_subset
    (conversation : Conversation peer past (some (taking, since))) : since ⊆ past := by
  generalize held : some (taking, since) = pending at conversation
  induction conversation generalizing since with
  | silence => cases held
  | waits _ _ _ => cases held
  | works _ _ ih =>
      cases held
      exact List.append_subset.mpr ⟨List.subset_append_of_subset_left _ (ih rfl),
        List.subset_append_right _ _⟩
  | takes _ _ _ =>
      cases held
      exact List.nil_subset _
  | answers _ _ _ _ _ => cases held

end Conversation

/-! ## What the reader is about -/

/-- What the reader of a peer is about, given the frame that it has not yet answered. -/
inductive Standing (peer : PeerId) :
    Option (Moment σ ω × List (Moment σ ω)) → Reading → Prop where
  | ready : Standing peer none .ready
  | ended : Standing peer none .ended
  | holding {taking : Moment σ ω} {since : List (Moment σ ω)} {text : String} :
      taking.event = .receivesText peer text → taking.before.gateway.session.isSome = true →
      Standing peer (some (taking, since)) (.holding taking.before.retired.length text)
  | waiting {taking : Moment σ ω} {since : List (Moment σ ω)} {text : String}
      {posting : Posting} :
      taking.event = .receivesText peer text → taking.before.gateway.session.isSome = true →
      posting ∈ postings since → posting.sender = some peer →
      posting.session = taking.before.retired.length → posting.errand = .send text →
      Standing peer (some (taking, since)) (.waiting posting.ticket)
  | replying {taking : Moment σ ω} {since : List (Moment σ ω)} {frame : Option Frame} :
      Deserves peer taking since frame → Standing peer (some (taking, since)) (.replying frame)

/-- The task of a peer, if there is one, stands as the conversation does. -/
inductive Stands (peer : PeerId) :
    Option (Moment σ ω × List (Moment σ ω)) → Option Task → Prop where
  | nobody : Stands peer none none
  | task {pending : Option (Moment σ ω × List (Moment σ ω))} {task : Task} :
      Standing peer pending task.reading → (task.isOpen = false → task.reading = .ready) →
      Stands peer pending (some task)

section Talks

variable {peer : PeerId} {past : List (Moment σ ω)} {server : Server σ}
variable {pending : Option (Moment σ ω × List (Moment σ ω))}

/-- A reader that neither takes nor answers a frame leaves the conversation as it is. -/
theorem Conversation.quiet {moment : Moment σ ω} (conversation : Conversation peer past pending)
    (quiet : moment.Quiet peer) :
    Conversation peer (past ++ [moment])
      (pending.map fun (taking, since) => (taking, since ++ [moment])) := by
  cases pending with
  | none => exact .waits conversation quiet
  | some held => exact .works conversation quiet

theorem Standing.later {reading : Reading} (standing : Standing peer pending reading)
    (moment : Moment σ ω) :
    Standing peer (pending.map fun (taking, since) => (taking, since ++ [moment])) reading := by
  cases standing with
  | ready => exact .ready
  | ended => exact .ended
  | holding took attached => exact .holding took attached
  | waiting took attached posted sender session errand =>
      exact .waiting took attached (postings_subset (List.subset_append_left _ _) posted) sender
        session errand
  | replying deserves => exact .replying (deserves.later moment)

/-- Whatever the reader of a peer does, its conversation goes on in turn. -/
theorem Standing.reads {event : Event σ} {world : ω} {old : Task} {reading : Reading}
    (standing : Standing old.peer pending old.reading)
    (conversation : Conversation old.peer past pending) (filed : Filed past server)
    (reads : (server.moment world event).Reads old reading)
    (queues : ∀ frame,
      (server.moment world event).utterance? = some (old.peer, .answers frame) →
      (server.moment world event).Queues old.peer frame) :
    ∃ now, Conversation old.peer (past ++ [server.moment world event]) now ∧
      Standing old.peer now reading := by
  generalize stood : old.reading = before at standing
  cases reads with
  | stays quiet =>
      rw [stood]
      exact ⟨_, conversation.quiet quiet, standing.later _⟩
  | takesText took speaks _ ready =>
      rw [ready] at stood
      subst stood
      cases standing
      refine ⟨_, .takes conversation speaks, ?_⟩
      show Standing old.peer _ (server.takeText _)
      cases attached : server.gateway.session with
      | none =>
          simp only [takeText, attached]
          exact .replying (.unattached took attached)
      | some mailbox =>
          simp only [takeText, attached]
          exact .holding took (Option.isSome_of_mem attached)
  | takesBinary took speaks _ ready =>
      rw [ready] at stood
      subst stood
      cases standing
      exact ⟨_, .takes conversation speaks, .replying (.binary took)⟩
  | @submits session text quiet holding posts =>
      rw [holding] at stood
      subst stood
      cases standing with
      | holding took attached =>
          refine ⟨_, conversation.quiet quiet, ?_⟩
          exact .waiting took attached (mem_postings_last _ posts) rfl rfl rfl
  | turnedAway quiet holding posts answered =>
      rw [holding] at stood
      subst stood
      cases standing with
      | holding took attached =>
          refine ⟨_, conversation.quiet quiet, .replying ?_⟩
          have settles := filed.settled answered (mem_postings_last past posts)
          exact .settled took attached (mem_postings_last _ posts) rfl rfl rfl
            (List.mem_append_right _ (.head _)) settles
  | hears quiet waiting answered =>
      rw [waiting] at stood
      subst stood
      cases standing with
      | waiting took attached posted sender session errand =>
          refine ⟨_, conversation.quiet quiet, .replying ?_⟩
          have known := postings_subset conversation.since_subset posted
          have settles := filed.settled answered
            (postings_subset (List.subset_append_left _ _) known)
          exact .settled took attached (postings_subset (List.subset_append_left _ _) posted)
            sender session errand (List.mem_append_right _ (.head _)) settles
  | answers speaks replying =>
      rw [replying] at stood
      subst stood
      cases standing with
      | replying deserves =>
          exact ⟨_, .answers conversation speaks deserves (queues _ speaks), .ready⟩
  | ends quiet _ ready =>
      rw [ready] at stood
      subst stood
      cases standing
      exact ⟨_, conversation.quiet quiet, .ended⟩

omit [Transport σ ω] in
/-- Nothing arrives before the handshake is over. -/
theorem Moment.Reads.ready_of_unopened {moment : Moment σ ω} {task : Task} {reading : Reading}
    (reads : moment.Reads task reading) (unopened : task.isOpen = false)
    (ready : task.reading = .ready) : reading = .ready := by
  cases reads with
  | stays _ => exact ready
  | takesText _ _ opened _ => exact absurd opened (by rw [unopened]; exact Bool.false_ne_true)
  | takesBinary _ _ opened _ => exact absurd opened (by rw [unopened]; exact Bool.false_ne_true)
  | submits _ holding _ => cases ready.symm.trans holding
  | turnedAway _ holding _ _ => cases ready.symm.trans holding
  | hears _ waiting _ => cases ready.symm.trans waiting
  | answers _ _ => rfl
  | ends _ opened _ => exact absurd opened (by rw [unopened]; exact Bool.false_ne_true)

/-- Whatever a moment makes of the task of a peer, its conversation goes on in turn. -/
theorem Stands.turn {event : Event σ} {world : ω} {old new : Option Task}
    (stands : Stands peer pending old) (conversation : Conversation peer past pending)
    (filed : Filed past server) (turn : (server.moment world event).Turn peer old new)
    (queues : ∀ frame, (server.moment world event).utterance? = some (peer, .answers frame) →
      (server.moment world event).Queues peer frame) :
    ∃ now, Conversation peer (past ++ [server.moment world event]) now ∧ Stands peer now new := by
  cases turn with
  | absent quiet _ =>
      cases stands
      exact ⟨none, .waits conversation quiet, .nobody⟩
  | begins _ begins quiet _ =>
      cases stands
      refine ⟨none, .waits conversation quiet, .task ?_ fun _ => begins.ready⟩
      rw [begins.ready]
      exact .ready
  | @becomes old new own becomes =>
      subst own
      cases stands with
      | task standing unopened =>
          rcases standing.reads conversation filed becomes.reads queues with
            ⟨now, goesOn, stands⟩
          refine ⟨now, goesOn, .task stands fun closed => ?_⟩
          have still : old.isOpen = false := by
            rw [← Bool.not_eq_true] at closed ⊢
            exact fun opened => closed (becomes.opens opened)
          exact becomes.reads.ready_of_unopened still (unopened still)
  | leaves finished quiet _ =>
      cases stands with
      | task standing unopened =>
          have nothing : pending = none := by
            rcases finished with closed | ended
            · rw [unopened closed] at standing
              cases standing
              rfl
            · rw [ended] at standing
              cases standing
              rfl
          subst nothing
          exact ⟨none, .waits conversation quiet, .nobody⟩

end Talks

/-! ## Histories -/

/-- What holds of the moments of a history and of the server after them. -/
structure Orderly (places : Nat) (past : List (Moment σ ω)) (server : Server σ) : Prop where
  manned : Manned places server
  filed : Filed past server
  streams : ∀ peer, Streams peer past server
  talks : ∀ peer, ∃ pending, Conversation peer past pending ∧
    Stands peer pending (server.task? peer)
  sends : ∀ moment ∈ past, ∀ delivery ∈ moment.trace.queued, moment.Sends delivery

theorem orderly_empty (maxPeers : Nat) (trustsForwarded : Bool) :
    Orderly maxPeers ([] : List (Moment σ ω)) (empty maxPeers trustsForwarded) where
  manned := manned_empty maxPeers trustsForwarded
  filed := filed_empty maxPeers trustsForwarded
  streams peer := streams_empty peer maxPeers trustsForwarded
  talks _ := ⟨none, .silence, .nobody⟩
  sends moment member := by cases member

theorem Orderly.step {places : Nat} {past : List (Moment σ ω)} {server : Server σ}
    (orderly : Orderly places past server) (event : Event σ) (world : ω) :
    Orderly places (past ++ [server.moment world event]) (server.moment world event).after := by
  have steps := steps_step server world event
  refine ⟨orderly.manned.step event world, orderly.filed.step event world, ?_, ?_, ?_⟩
  · intro peer
    exact (orderly.streams peer).step orderly.manned event world
  · intro peer
    rcases orderly.talks peer with ⟨pending, conversation, stands⟩
    exact stands.turn conversation orderly.filed (turn_of_steps steps peer)
      fun frame answers => queues_of_steps steps answers
  · intro moment member delivery queued
    rcases List.mem_append.mp member with before | now
    · exact orderly.sends moment before delivery queued
    · cases List.mem_singleton.mp now
      exact sends_of_steps steps queued

/-- Whatever happens, the frames that go to a peer on the wire are the first ones of those
that were queued for it, and a close frame is the last of them.  The frames of a peer are
taken and answered in turn, each by at most one frame, which is queued for this peer and
is what its own frame deserves.  All other frames that are queued are status lines or
messages of directives.  No two errands share a ticket, so what a session makes of one
script answers no other. -/
theorem streams_in_order (maxPeers : Nat) (trustsForwarded : Bool)
    (history : List ((ω → ω) × Event σ)) (world : ω) :
    let start : Server σ := empty maxPeers trustsForwarded
    let moments := start.moments world history
    (∀ peer,
      writtenFor peer moments <+: queuedFor peer moments ∧
      (∀ frame ∈ (writtenFor peer moments).dropLast, frame.isClose = false) ∧
      ∃ pending, Conversation peer moments pending) ∧
    (∀ moment ∈ moments, ∀ delivery ∈ moment.trace.queued, moment.Sends delivery) ∧
    ((postings moments).map Posting.ticket).Nodup := by
  intro start moments
  have orderly : Orderly maxPeers moments (start.afterAll moments) := by
    refine along (Orderly maxPeers) ?_ ?_ world history
    · exact orderly_empty maxPeers trustsForwarded
    · intro past server world event holds
      exact holds.step event world
  refine ⟨?_, orderly.sends, orderly.filed.nodup⟩
  intro peer
  rcases orderly.talks peer with ⟨pending, conversation, _⟩
  exact ⟨(orderly.streams peer).wire, (orderly.streams peer).closed, pending, conversation⟩

end EngineGateway.Server
