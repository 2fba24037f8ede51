import EngineGateway.Proofs.Server.Steps
import EngineGateway.Proofs.Server.Watch

/-!
# Two accounts of the engine

The gateway knows the engine by the session that it publishes, and the registry by the
identity that it announces.  They are changed one after the other, so for a while one
of them is ahead, and what the poller does next tells which.  Nobody else changes
either of them or opens relays for the engine, so the two agree again whenever the
poller rests.
-/

namespace EngineGateway.Peer

/-- No relay that an engine has opened is tracked. -/
def Registry.Undriven (registry : Registry) : Prop :=
  ∀ entry ∈ registry.entries, entry.isGameOriginated = false

/-- The engine stays the same, and no relay has been opened for it. -/
structure Calm (before after : Registry) : Prop where
  engine : after.engine = before.engine
  undriven : before.Undriven → after.Undriven

namespace Calm

variable {registry before after : Registry}

theorem refl (registry : Registry) : Calm registry registry :=
  ⟨rfl, fun undriven => undriven⟩

theorem of_subset (engine : after.engine = before.engine)
    (fewer : after.entries ⊆ before.entries) : Calm before after :=
  ⟨engine, fun undriven entry member => undriven entry (fewer member)⟩

theorem update (id : PeerId) {change : Entry → Entry}
    (same : ∀ entry, (change entry).isGameOriginated = entry.isGameOriginated) :
    Calm registry (registry.update id change) := by
  refine ⟨rfl, fun undriven entry member => ?_⟩
  rcases List.mem_map.mp member with ⟨old, tracked, rfl⟩
  have free := undriven old tracked
  split_ifs
  · exact (same old).trans free
  · exact free

theorem insert {entry : Entry} (free : entry.isGameOriginated = false) :
    Calm registry (registry.insert entry) := by
  refine ⟨rfl, fun undriven other member => ?_⟩
  rcases List.mem_append.mp member with tracked | new
  · exact undriven other tracked
  · rw [List.mem_singleton.mp new]
    exact free

theorem hangUp (id : PeerId) : Calm registry (registry.hangUp id) :=
  update id fun _ => rfl

theorem release (id : PeerId) : Calm registry (registry.release id) :=
  of_subset rfl List.filter_sublist.subset

theorem collect : Calm registry registry.collect.2 :=
  of_subset rfl List.filter_sublist.subset

theorem markOpen (id : PeerId) : Calm registry (registry.markOpen id).2 := by
  cases found : registry.find? id with
  | none =>
      simp only [Registry.markOpen, found]
      exact refl registry
  | some entry =>
      rw [Registry.markOpen_snd found]
      have opened : Calm registry (registry.update id Entry.opened) := update id fun _ => rfl
      exact ⟨rfl, opened.undriven⟩

end Calm

/-- Following a directive leaves the engine as it is.  It leaves the peers as they are,
or one relay is opened. -/
theorem Registry.peers_route (registry : Registry) (directive : Directive)
    (parent : Option PeerId) :
    let routed := (registry.route directive parent).2.2
    routed.engine = registry.engine ∧
      (routed.entries = registry.entries ∨
        ∃ url, routed.entries =
          registry.entries ++ [registry.relayEntry url directive.protocol parent]) := by
  simp only [Registry.route]
  split_ifs
  · obtain nothing | ⟨url, _, _, _, opened⟩ :=
      (registry.prune directive.protocol).openRelay_cases directive parent
        (registry.liveSubscribers directive.protocol)
    · rw [nothing]
      exact ⟨rfl, .inl rfl⟩
    · rw [opened]
      exact ⟨rfl, .inr ⟨url, rfl⟩⟩
  · exact ⟨rfl, .inl rfl⟩

/-- The relay that a peer has opened is none of the engine's. -/
theorem Calm.route (registry : Registry) (directive : Directive) (sender : PeerId) :
    Calm registry (registry.route directive (some sender)).2.2 := by
  rcases registry.peers_route directive (some sender) with ⟨engine, same | ⟨url, opened⟩⟩
  · exact .of_subset engine fun entry member => same ▸ member
  · refine ⟨engine, fun undriven entry member => ?_⟩
    rw [opened, List.mem_append, List.mem_singleton] at member
    rcases member with tracked | rfl
    · exact undriven entry tracked
    · rfl

theorem Registry.engine_detach (registry : Registry) :
    registry.detach.2.2.engine = none := by
  cases attached : registry.engine with
  | none =>
      rw [Registry.detach_of_none attached]
      exact attached
  | some engine =>
      rw [Registry.detach_of_some attached]
      rfl

/-- When the engine is gone, so are the relays that it has opened. -/
theorem Registry.undriven_detach {registry : Registry}
    (undriven : registry.engine = none → registry.Undriven) :
    registry.detach.2.2.Undriven := by
  cases attached : registry.engine with
  | none =>
      rw [Registry.detach_of_none attached]
      exact undriven attached
  | some engine =>
      rw [Registry.detach_of_some attached]
      refine Calm.collect.undriven fun entry member => ?_
      simpa using List.of_mem_filter member

end EngineGateway.Peer

namespace EngineGateway.Gateway

open Peer

theorem calm_handleBinary (registry : Registry) (sender : PeerId) (octets : Bytes) :
    Calm registry (handleBinary registry sender octets).2.2 := by
  obtain ⟨reply, log, answered⟩ | ⟨frame, directive, _, _, _, routed⟩ :=
    handleBinary_cases registry sender octets
  · rw [answered]
    exact .refl registry
  · rw [routed]
    exact .route registry directive sender

theorem engine_routeLine (registry : Registry) (line : String) :
    (routeLine registry line).2.engine = registry.engine := by
  obtain ⟨log, passed⟩ | ⟨directive, _, routed⟩ := routeLine_cases registry line
  · rw [passed]
  · rw [routed]
    exact (registry.peers_route directive none).1

end EngineGateway.Gateway

namespace EngineGateway.Server

open Engine Discovery Peer Gateway

variable {σ ω : Type}

/-! ## What the peers do -/

/-- Neither account of the engine changes. -/
structure Keeps (server next : Server σ) : Prop where
  published : next.published = server.published
  calm : Calm server.registry next.registry

/-- A session may change as long as it stays with its engine. -/
theorem published_setMailbox {server : Server σ} {session : Nat} {mailbox changed : Mailbox σ}
    (found : server.mailbox? session = some mailbox)
    (same : changed.session.identity = mailbox.session.identity) :
    (server.setMailbox session changed).published = server.published := by
  unfold mailbox? at found
  unfold setMailbox
  split_ifs at found ⊢
  · rw [published, published, found]
    exact congrArg some same
  · rfl

namespace Keeps

variable {server : Server σ} {session : Nat} {mailbox : Mailbox σ}

theorem setMailbox {changed : Mailbox σ} (found : server.mailbox? session = some mailbox)
    (same : changed.session.identity = mailbox.session.identity) :
    Keeps server (server.setMailbox session changed) where
  published := published_setMailbox found same
  calm := by
    rw [registry_setMailbox]
    exact .refl server.registry

theorem post (found : server.mailbox? session = some mailbox) (letter : Letter) :
    Keeps server (server.post session mailbox letter).2 :=
  have kept := setMailbox found (congrArg Session.identity (mailbox.session_post letter))
  ⟨kept.published, kept.calm⟩

theorem postErrand (found : server.mailbox? session = some mailbox) (errand : Errand) :
    Keeps server (server.postErrand session mailbox errand).2 :=
  have later : Server.mailbox? { server with nextTicket := server.nextTicket + 1 } session =
      some mailbox := found
  have kept := post later (.errand server.nextTicket errand)
  ⟨kept.published, kept.calm⟩

theorem submit (found : server.mailbox? session = some mailbox) (peer : PeerId)
    (text : String) :
    Keeps server ((server.awaiting peer).postErrand session mailbox (.send text)).2 :=
  have waiting : (server.awaiting peer).mailbox? session = some mailbox := found
  have kept := postErrand waiting (.send text)
  ⟨kept.published, kept.calm⟩

theorem answerKnock (knock : Knock) : Keeps server (server.answerKnock knock).2 := by
  unfold Server.answerKnock receive
  obtain ⟨refusal, refused⟩ | ⟨_, admitted⟩ := server.registry.connect_cases knock.address
    (server.trustsForwarded && namesSecureScheme knock.forwarded)
    (offeredProtocols knock.protocols)
  · simp only [refused]
    exact ⟨rfl, .refl _⟩
  · simp only [admitted]
    exact ⟨rfl, .insert rfl⟩

variable [Transport σ ω]

theorem work (found : server.mailbox? session = some mailbox) (world : ω) :
    Keeps server (server.setMailbox session (mailbox.work.run world).1.2) :=
  setMailbox found (mailbox.identity_work world)

/-- Whatever an event comes to that is not the poller's own, both accounts stay. -/
theorem of_steps {world : ω} {event : Event σ} {result : Trace × Server σ}
    (foreign : event.isPollers = false) (steps : Steps server world event result) :
    Keeps server result.2 := by
  cases steps with
  | idles _ _ => exact ⟨rfl, .refl _⟩
  | knocks knock => exact answerKnock knock
  | opens _ _ => exact ⟨rfl, .markOpen _⟩
  | fails _ _ => exact ⟨rfl, .release _⟩
  | takesText _ _ _ => exact ⟨rfl, .refl _⟩
  | takesBinary _ _ _ => exact ⟨rfl, calm_handleBinary _ _ _⟩
  | submits _ _ found => exact submit found _ _
  | replies _ _ => exact ⟨rfl, .refl _⟩
  | hearsEnd _ _ _ => exact ⟨rfl, .release _⟩
  | writes _ _ _ => exact ⟨rfl, .refl _⟩
  | breaksOff _ _ => exact ⟨rfl, .refl _⟩
  | endsWriting _ _ => exact ⟨rfl, .hangUp _⟩
  | finishes _ _ => exact ⟨rfl, .collect⟩
  | works found => exact ⟨(work found _).published, (work found _).calm⟩
  | asks found => exact postErrand found _
  | shutsDown found => exact post found _
  | collects => exact ⟨rfl, .collect⟩
  | publishes _ | announces _ | withdraws | parts | follows _ => cases foreign

end Keeps

/-! ## What the poller does -/

/-- How the two accounts stand to each other, by what the poller does next. -/
def Duty.Agrees (published known : Option Identity) : Duty → Prop
  | .rests => published = known
  | .seeks => published = none ∧ known = none
  | .announces engine => published = some engine
  | .probes | .follows _ => published = known ∧ known ≠ none
  | .parts => published = none

/-- The accounts stand to each other as they should.  Relays that an engine has opened
are tracked only while the registry knows of an engine. -/
structure Accord (watch : Watch σ) : Prop where
  agrees : watch.duty.Agrees watch.server.published watch.server.registry.engine
  undriven : watch.server.registry.engine = none → watch.server.registry.Undriven

theorem Accord.start (maxPeers : Nat) (trustsForwarded : Bool) :
    Accord (Watch.start maxPeers trustsForwarded : Watch σ) where
  agrees := rfl
  undriven _ entry member := by cases member

section Strides

variable {server : Server σ}

/-- Telling the registry of the published engine settles the matter. -/
theorem Accord.announce {engine : Identity} (published : server.published = some engine) :
    Accord ⟨(server.announce engine).2, .rests⟩ := by
  have known : (server.announce engine).2.registry.engine = some engine := by
    rw [registry_announce]
    rfl
  refine ⟨?_, fun unknown => ?_⟩
  · show (server.announce engine).2.published = (server.announce engine).2.registry.engine
    rw [published_announce, published, known]
  · rw [known] at unknown
    cases unknown

/-- So does telling it that the engine is gone. -/
theorem Accord.farewell (unpublished : server.published = none)
    (undriven : server.registry.engine = none → server.registry.Undriven) :
    Accord ⟨server.farewell.2, .rests⟩ := by
  have gone : server.farewell.2.registry.engine = none := by
    rw [registry_farewell, Registry.engine_detach]
  have parted : server.farewell.2.registry.Undriven := by
    rw [registry_farewell]
    exact Registry.undriven_detach undriven
  refine ⟨?_, fun _ => parted⟩
  show server.farewell.2.published = server.farewell.2.registry.engine
  rw [published_farewell, unpublished, gone]

/-- Following a line may open a relay for the engine that there is. -/
theorem Accord.follow {line : String} {rest : List String}
    (accord : Accord ⟨server, .follows (line :: rest)⟩) :
    Accord ⟨(server.follow line).2, .follows rest⟩ := by
  rcases accord with ⟨⟨same, known⟩, _⟩
  have engine : (server.follow line).2.registry.engine = server.registry.engine := by
    rw [registry_follow, engine_routeLine]
  have present : (server.follow line).2.registry.engine ≠ none := by
    rwa [engine]
  have agrees : (server.follow line).2.published = (server.follow line).2.registry.engine := by
    rw [published_follow, engine]
    exact same
  exact ⟨⟨agrees, present⟩, fun unknown => absurd unknown present⟩

/-- A stride leads from accord to accord. -/
theorem Accord.stride {watch : Watch σ} (accord : Accord watch) (findings : Findings σ) :
    Accord (watch.stride findings) := by
  rcases watch with ⟨server, duty⟩
  rcases accord with ⟨agrees, undriven⟩
  cases duty with
  | rests =>
      simp only [Watch.stride]
      cases attached : server.gateway.session with
      | none =>
          have unpublished : server.published = none := by
            rw [published, attached]
            rfl
          exact ⟨⟨unpublished, agrees.symm.trans unpublished⟩, undriven⟩
      | some mailbox =>
          have present : server.published = some mailbox.session.identity := by
            rw [published, attached]
            rfl
          refine ⟨⟨agrees, fun unknown => ?_⟩, undriven⟩
          rw [agrees.trans unknown] at present
          cases present
  | seeks =>
      rcases agrees with ⟨unpublished, unknown⟩
      simp only [Watch.stride]
      cases findings.session with
      | none => exact ⟨unpublished.trans unknown.symm, undriven⟩
      | some session => exact ⟨published_publish server session, undriven⟩
  | announces engine => exact .announce agrees
  | probes =>
      simp only [Watch.stride]
      split_ifs
      · exact ⟨published_withdraw server, undriven⟩
      · exact ⟨agrees, undriven⟩
  | parts => exact .farewell agrees undriven
  | follows lines =>
      cases lines with
      | nil => exact ⟨agrees.1, undriven⟩
      | cons line rest => exact .follow ⟨agrees, undriven⟩

end Strides

section Runs

variable [Transport σ ω] {watch : Watch σ}

/-- Where both accounts stay, the accord does. -/
theorem Accord.same (accord : Accord watch) {next : Server σ}
    (kept : Keeps watch.server next) : Accord { watch with server := next } := by
  refine ⟨?_, fun unknown => ?_⟩
  · show watch.duty.Agrees next.published next.registry.engine
    rw [kept.published, kept.calm.engine]
    exact accord.agrees
  · exact kept.calm.undriven (accord.undriven (kept.calm.engine.symm.trans unknown))

/-- Nothing that happens ends the accord. -/
theorem Accord.step (accord : Accord watch) (occurrence : Occurrence σ) (world : ω) :
    Accord ((watch.step occurrence).run world).1 := by
  cases occurrence with
  | strides findings => exact accord.stride findings
  | happens event =>
      simp only [Watch.step]
      cases foreign : event.isPollers with
      | true => exact accord
      | false => exact accord.same (.of_steps foreign (steps_step watch.server world event))

theorem Accord.run (accord : Accord watch) (world : ω)
    (history : List ((ω → ω) × Occurrence σ)) : Accord (watch.run world history) := by
  induction history generalizing watch world with
  | nil => exact accord
  | cons first rest ih => exact ih (accord.step first.2 (first.1 world)) _

end Runs

/-- The gateway and its registry name the same engine, or none, and without an engine no
relay that one has opened is tracked. -/
structure Settled (gateway : Gateway σ) : Prop where
  agrees : gateway.session.map (·.session.identity) = gateway.registry.engine
  undriven : gateway.registry.engine = none → gateway.registry.Undriven

theorem Accord.settled {watch : Watch σ} (accord : Accord watch)
    (rests : watch.duty = .rests) : Settled watch.server.gateway := by
  have agrees := accord.agrees
  rw [rests] at agrees
  exact ⟨agrees, accord.undriven⟩

/-- Whatever the connectors find, whatever becomes of the sessions, whatever probes bring,
and whatever peers and relays do at any point in between: between two turns of the poller
the gateway is settled, and another turn leaves it settled.  Even within a turn no relay
that an engine has opened is tracked while the registry knows of none. -/
theorem engine_in_accord (σ ω κ : Type) [Transport σ ω] [Connector κ σ ω] (maxPeers : Nat)
    (trustsForwarded : Bool) (history : List ((ω → ω) × Occurrence σ)) (world : ω) :
    let watch := (Watch.start maxPeers trustsForwarded).run world history
    (watch.duty = .rests →
      Settled watch.server.gateway ∧
      ∀ (poller : Poller κ) (world : ω),
        Settled ((poller.turn watch.server.gateway).run world).1.gateway) ∧
    (watch.server.registry.engine = none → watch.server.registry.Undriven) := by
  intro watch
  have accord : Accord watch := (Accord.start maxPeers trustsForwarded).run world history
  refine ⟨fun rests => ⟨accord.settled rests, fun poller world => ?_⟩, accord.undriven⟩
  rcases turn_uninterrupted poller watch.server world with ⟨findings, count, ended, same, named⟩
  have begins : Accord ⟨watch.server, .rests⟩ := rests ▸ accord
  have settled := (begins.run world (uninterrupted findings count)).settled ended
  refine ⟨?_, ?_⟩
  · rw [← named, ← same]
    exact settled.agrees
  · rw [← same]
    exact settled.undriven

/-- A connector that knows the engine it will find. -/
structure Foreseen where
  session : Session Foretold

instance : Connector Foreseen Foretold Unit where
  discover foreseen policy := pure (.ok (some foreseen.session), foreseen, policy)

/-- An engine is found.  A client comes, and the engine's directive is followed while the
client is still opening. -/
def hostingEvening : List ((Unit → Unit) × Occurrence Foretold) :=
  let findings : Findings Foretold :=
    ⟨some (.foretold none []), ⟨false, false, some (.text "ws://remote[brain]:hello")⟩⟩
  uninterrupted findings 4 ++ [(id, .happens (.knocks ⟨.localhost, [], []⟩))] ++
    uninterrupted findings 2 ++ [(id, .happens (.opens 1))] ++ uninterrupted findings 1

/-- The next probe finds the engine gone. -/
def lonelyMorning : List ((Unit → Unit) × Occurrence Foretold) :=
  uninterrupted ⟨none, ⟨true, false, none⟩⟩ 3

theorem engine_in_accord_hostingEvening :
    let evening := (Watch.start 4 false).run () hostingEvening
    let morning := (Watch.start 4 false).run () (hostingEvening ++ lonelyMorning)
    (evening.server.registry.entries.map Entry.isGameOriginated = [false, true] ∧
      evening.server.published = some (Session.foretold none []).identity ∧
      Settled evening.server.gateway) ∧
    (morning.server.registry.entries.map Entry.isGameOriginated = [false] ∧
      morning.server.published = none ∧
      Settled morning.server.gateway) := by
  intro evening morning
  have general := engine_in_accord Foretold Unit Foreseen 4 false
  have hosting : evening.duty = .rests := by decide +kernel
  have lonely : morning.duty = .rests := by decide +kernel
  refine ⟨⟨by decide +kernel, by decide +kernel, ?_⟩, by decide +kernel, by decide +kernel, ?_⟩
  · exact ((general hostingEvening ()).1 hosting).1
  · exact ((general (hostingEvening ++ lonelyMorning) ()).1 lonely).1

end EngineGateway.Server
