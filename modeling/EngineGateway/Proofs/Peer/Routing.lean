import EngineGateway.Proofs.Peer.Plain

/-!
# Where directives go

A directive that is followed reaches the live peers that hear it and the relay
that has been opened for it, each of them once.  A directive may be followed
after the peer that sent it has been forgotten, and nobody asks whether it has:
the relay that is opened then is not live, and the message misses it.

Together with the plain registry this says everything that peers can see of the
registry, without a word about its lists.
-/

namespace EngineGateway.Peer

/-- The peer is reached by a directive: it is live and hears the directive, or
it is a relay that was opened for it below a sender that is live. -/
def Reached (registry : Registry) (directive : Directive) (parent : Option PeerId)
    (relays : List RelayRequest) (id : PeerId) : Prop :=
  LivesWith registry (Entry.Hears directive) id ∨
    id ∈ relays.map RelayRequest.id ∧
      ∀ sender, parent = some sender → Live registry sender

variable {registry : Registry}

/-- Nobody hears a directive without a protocol. -/
theorem Tracked.not_hears (tracked : Tracked registry) {directive : Directive}
    (unroutable : directive.isRoutable = false) (id : PeerId) :
    ¬ LivesWith registry (Entry.Hears directive) id := by
  rintro ⟨entry, found, _, speaks, _⟩
  rcases tracked.find?_eq_some.mp found with ⟨member, _⟩
  have unnamed : directive.protocol = "" := by
    simpa [Directive.isRoutable] using unroutable
  exact (tracked.fluent entry member).named (unnamed ▸ speaks)

/-- The peers that hear a directive when it is forwarded are those that it
reaches. -/
theorem Sound.livesWith_openRelay (sound : Sound registry) {directive : Directive}
    (routable : directive.isRoutable = true) {parent : Option PeerId}
    (below : ∀ sender, parent = some sender → sender < registry.nextId)
    {subscribers : List PeerId} (id : PeerId) :
    LivesWith ((registry.prune directive.protocol).openRelay directive parent
        subscribers).2 (Entry.Hears directive) id ↔
      Reached registry directive parent
        ((registry.prune directive.protocol).openRelay directive parent subscribers).1
        id := by
  have pruned : LivesWith (registry.prune directive.protocol) (Entry.Hears directive) id ↔
      LivesWith registry (Entry.Hears directive) id :=
    ⟨fun lives => livesWith_of_entries lives rfl,
      fun lives => livesWith_of_entries lives rfl⟩
  obtain nothing | ⟨url, addressed, _, room, opened⟩ :=
    (registry.prune directive.protocol).openRelay_cases directive parent subscribers
  · simp [nothing, Reached, pruned]
  · have new := Registry.newcomer_relay room url (protocol_ne routable) below
    rw [opened, (sound.prune _).tracked.livesWith_insert new, pruned, Reached]
    refine or_congr_right ?_
    have hears : (Registry.relayEntry (registry.prune directive.protocol) url
        directive.protocol parent).Hears directive :=
      ⟨by simp [Registry.relayEntry], .inr addressed.symm⟩
    simp only [List.map_cons, List.map_nil, List.mem_singleton]
    refine and_congr_right fun _ => ?_
    constructor
    · rintro ⟨_, _, above⟩ sender same
      exact Registry.live_of_entries (above sender same) rfl
    · intro above
      exact ⟨hears, rfl, fun sender same =>
        Registry.live_of_entries (above sender same) rfl⟩

open Classical in
/-- A directive's message is queued once for every peer that the directive
reaches, and for nobody else. -/
theorem Sound.framesTo_route (sound : Sound registry) {directive : Directive}
    {parent : Option PeerId}
    (below : ∀ sender, parent = some sender → sender < registry.nextId) (id : PeerId) :
    framesTo id (registry.route directive parent).2.1 =
      if Reached registry directive parent (registry.route directive parent).1 id
      then directive.message.toList.map Frame.text else [] := by
  cases routable : directive.isRoutable with
  | false =>
      have nobody := sound.tracked.not_hears routable id
      simp [Registry.route, routable, Reached, nobody]
  | true =>
      have routed : Sound _ := (sound.prune directive.protocol).openRelay routable
        below (registry.liveSubscribers directive.protocol)
      rw [sound.route_eq routable]
      simp only [← sound.liveSubscribers_eq]
      rw [← sound.livesWith_openRelay routable below]
      cases carries : directive.message with
      | none => simp [Registry.forward, carries]
      | some message =>
          rw [routed.framesTo_forward carries]
          rfl

open Classical in
/-- Peers cannot tell the registry from one without lists.  Every history gives
the same answers and queues the same frames for every peer as it does without
lists, and wherever it has led, a directive reaches each live peer that hears it
and the relay that is opened for it exactly once.  A relay that is opened below a
sender that is gone is left out here. -/
theorem lists_unseen {maxPeers : Nat} {operations : List Operation}
    (lawful : (Registry.empty maxPeers).Lawful operations) :
    List.Forall₂ Outcome.Same ((Registry.empty maxPeers).run operations).1
      ((Plain.empty maxPeers).run operations).1 ∧
    ((Registry.empty maxPeers).run operations).2.plain =
      ((Plain.empty maxPeers).run operations).2 ∧
    let registry := ((Registry.empty maxPeers).run operations).2
    ∀ directive parent, (Operation.route directive parent).Grounded registry →
      let (relays, sent, _) := registry.route directive parent
      ∀ id, (id ∈ relays.map RelayRequest.id →
          ∀ sender, parent = some sender → Live registry sender) →
        framesTo id sent =
          if LivesWith registry (Entry.Hears directive) id ∨
            id ∈ relays.map RelayRequest.id
          then directive.message.toList.map Frame.text else [] := by
  have sound := Sound.empty maxPeers
  rcases sound.plain_run lawful with ⟨same, after⟩
  refine ⟨same, after, fun directive parent grounded id above => ?_⟩
  have below := @Operation.Grounded.below _ directive parent grounded
  refine ((sound.run lawful).framesTo_route below id).trans
    (if_congr (or_congr_right ?_) rfl rfl)
  exact ⟨And.left, fun opened => ⟨opened, above opened⟩⟩

/-- A client that speaks `brain` connects and is forgotten again. -/
def briefVisit : List Operation :=
  [.connect .localhost true ["brain"], .release 1]

/-- A message for a remote end that speaks `brain`. -/
def farGreeting : Directive :=
  ⟨false, some "remote", none, "brain", some "hello"⟩

/-- The message passes the client by, which does not lead to the remote end, and
reaches the relay that is opened for it. -/
theorem lists_unseen_briefVisit :
    (Registry.empty 4).Lawful (briefVisit ++ [.route farGreeting (some 1)]) ∧
    ((Registry.empty 4).run (briefVisit ++ [.route farGreeting (some 1)])).2.plain =
      ((Plain.empty 4).run (briefVisit ++ [.route farGreeting (some 1)])).2 ∧
    let registry := ((Registry.empty 4).run (briefVisit.take 1)).2
    framesTo 2 (registry.route farGreeting (some 1)).2.1 = [.text "hello"] := by
  refine ⟨by decide, (lists_unseen (by decide)).2.1, ?_⟩
  intro registry
  have lawful : (Registry.empty 4).Lawful (briefVisit.take 1) := by decide
  have live : Live registry 1 := Registry.isLive_iff.mp (by decide)
  have routed := (lists_unseen lawful).2.2 farGreeting (some 1) (by decide) 2
    fun _ sender given => by
      cases given
      exact live
  exact routed.trans (if_pos (.inr (by decide)))

/-- A relay that has just been opened need not hear the message of its directive:
it may have been opened for a sender that is gone. -/
theorem not_every_relay_hears :
    ¬ ∀ (maxPeers : Nat) (operations : List Operation) (directive : Directive)
        (parent : Option PeerId) (message : String),
      (Registry.empty maxPeers).Lawful (operations ++ [.route directive parent]) →
      directive.message = some message →
      let registry := ((Registry.empty maxPeers).run operations).2
      let (relays, sent, _) := registry.route directive parent
      ∀ relay ∈ relays, framesTo relay.id sent = [.text message] := by
  intro claimed
  have heard := claimed 4 briefVisit farGreeting (some 1) "hello" (by decide) rfl
    ⟨2, "ws://remote", "brain"⟩ (by decide)
  revert heard
  decide

end EngineGateway.Peer
