import EngineGateway.Proofs.Peer.Lasting

/-!
# Relays

No address is served twice: of the live peers that lead to one address no two
speak the same protocol.  A relay is opened only while no live peer serves its
address, and a peer that is not live any more never lives again, so nobody else
comes to serve an address that is served already.

A relay that has been opened is live from the start unless the peer that asked
for it is gone.  A directive from such a peer opens one relay after another,
because none of them ever comes to serve the address.
-/

namespace EngineGateway.Peer

variable {registry : Registry} {directive : Directive} {parent : Option PeerId}
  {id : PeerId}

/-! ## Relays that are opened -/

section Opened

variable {request : RelayRequest} {operations : List Operation}

/-- A relay is live from the start exactly if its directive came from the engine
or from a live peer. -/
theorem Sound.live_relay_iff (sound : Sound registry)
    (grounded : (Operation.route directive parent).Grounded registry)
    (opened : request ∈ (registry.route directive parent).1) :
    Live (registry.route directive parent).2.2 request.id ↔
      ∀ sender, parent = some sender → Live registry sender := by
  have fresh := (sound.request_of_route opened).1
  rw [← livesWith_true, sound.livesWith_route grounded]
  constructor
  · intro lives
    rcases lives with before | ⟨_, _, _, _, above⟩
    · have older := sound.lt_nextId (livesWith_true.mp before)
      exact absurd older (by simp [fresh])
    · exact above
  · intro above
    exact .inr ⟨request, opened, rfl, trivial, above⟩

/-- A directive that a live peer hears opens no relay, and its message is queued
once for that peer. -/
theorem Sound.route_of_hears (sound : Sound registry)
    (grounded : (Operation.route directive parent).Grounded registry)
    (lives : LivesWith registry (Entry.Hears directive) id) :
    (registry.route directive parent).1 = [] ∧
      framesTo id (registry.route directive parent).2.1 =
        directive.message.toList.map Frame.text := by
  constructor
  · rcases sound.route_cases directive parent with ⟨nothing, _⟩ | ⟨_, _, _, nobody, _⟩
    · exact nothing
    · exact absurd lives (nobody id)
  · rw [sound.framesTo_route grounded.below]
    exact if_pos (.inl lives)

/-- A relay that has been opened for a directive hears the directive as long as
it lives. -/
theorem Sound.hears_of_live_relay (sound : Sound registry)
    (lawful : registry.Lawful (.route directive parent :: operations))
    (opened : request ∈ (registry.route directive parent).1)
    (live : Live (registry.run (.route directive parent :: operations)).2 request.id) :
    LivesWith (registry.run (.route directive parent :: operations)).2
      (Entry.Hears directive) request.id := by
  rcases lawful with ⟨grounded, following⟩
  have next := sound.apply grounded
  rcases sound.request_of_route opened with ⟨fresh, spoken, addressed, _⟩
  have heard : (registry.relayEntry request.url request.protocol parent).Hears directive :=
    ⟨by simp [Registry.relayEntry, spoken], .inr addressed.symm⟩
  have older : request.id < (registry.route directive parent).2.2.nextId := by
    rcases sound.route_cases directive parent with ⟨nothing, _⟩ | ⟨_, _, _, _, _, _, after⟩
    · rw [nothing] at opened
      cases opened
    · rw [after, fresh]
      exact Nat.lt_succ_self _
  have early := next.live_of_run following older live
  have above := (sound.live_relay_iff grounded opened).mp early
  have lives := (sound.livesWith_route grounded).mpr
    (.inr ⟨request, opened, rfl, heard, above⟩)
  exact next.livesWith_run following (lasting_hears directive) lives live

end Opened

/-! ## Nobody serves an address twice -/

/-- The peer leads to an address and speaks a protocol. -/
def Entry.Serves (url protocol : String) (entry : Entry) : Prop :=
  entry.url = some url ∧ protocol ∈ entry.protocols

theorem lasting_serves (url protocol : String) : Lasting (Entry.Serves url protocol) where
  opened _ := Iff.rfl
  silenced _ := Iff.rfl

/-- To serve the address of a directive is to hear the directive. -/
theorem hears_iff_serves {url : String} (addressed : directive.url = some url)
    (entry : Entry) : entry.Hears directive ↔ entry.Serves url directive.protocol := by
  rw [Entry.Hears, Entry.Serves, addressed]
  constructor
  · intro heard
    rcases heard with ⟨speaks, leads⟩
    exact ⟨leads.resolve_left (by simp), speaks⟩
  · intro serves
    exact ⟨serves.2, .inr serves.1⟩

/-- No two live peers serve the same address with the same protocol. -/
def Unrivalled (registry : Registry) : Prop :=
  ∀ url protocol first second, LivesWith registry (Entry.Serves url protocol) first →
    LivesWith registry (Entry.Serves url protocol) second → first = second

theorem Unrivalled.empty (maxPeers : Nat) : Unrivalled (Registry.empty maxPeers) := by
  intro url protocol first second lives
  rcases lives with ⟨entry, found, _⟩
  simp [Registry.empty, Registry.find?] at found

/-- A peer that arrives serves no address that is served already. -/
theorem Registry.Arrives.unserved {operation : Operation} {entry : Entry}
    (arrives : registry.Arrives operation entry) (sound : Sound registry)
    {url protocol : String} (serves : entry.Serves url protocol) (other : PeerId) :
    ¬ LivesWith registry (Entry.Serves url protocol) other := by
  cases arrives with
  | client =>
      have leads : (none : Option String) = some url := serves.1
      cases leads
  | @relay directive parent request opened =>
      rcases sound.request_of_route opened with ⟨_, spoken, addressed, nobody⟩
      have sameUrl : request.url = url := Option.some.inj serves.1
      have sameProtocol : protocol = directive.protocol := by
        rw [← spoken]
        exact List.mem_singleton.mp serves.2
      subst sameUrl sameProtocol
      intro lives
      rcases lives with ⟨served, found, live, leads⟩
      exact nobody other ⟨served, found, live, (hears_iff_serves addressed served).mpr leads⟩

theorem Unrivalled.apply (unrivalled : Unrivalled registry) (sound : Sound registry)
    {operation : Operation} (grounded : operation.Grounded registry) :
    Unrivalled (registry.apply operation).2 := by
  intro url protocol first second livesFirst livesSecond
  have lasting := lasting_serves url protocol
  -- Whoever arrives is alone with its address, so two old peers or one new peer remain.
  rcases sound.livesWith_of_apply grounded lasting livesFirst with
    before | ⟨entry, arrives, rfl, serves⟩
  · rcases sound.livesWith_of_apply grounded lasting livesSecond with
      also | ⟨entry, arrives, rfl, serves⟩
    · exact unrivalled url protocol first second before also
    · exact absurd before (arrives.unserved sound serves first)
  · rcases sound.livesWith_of_apply grounded lasting livesSecond with
      also | ⟨other, comes, rfl, _⟩
    · exact absurd also (arrives.unserved sound serves second)
    · rw [arrives.id_eq, comes.id_eq]

theorem Unrivalled.run (unrivalled : Unrivalled registry) (sound : Sound registry)
    {operations : List Operation} (lawful : registry.Lawful operations) :
    Unrivalled (registry.run operations).2 := by
  induction operations generalizing registry with
  | nil => exact unrivalled
  | cons operation rest ih =>
      rcases lawful with ⟨grounded, lawful⟩
      exact ih (unrivalled.apply sound grounded) (sound.apply grounded) lawful

/-- Whatever has happened, at most one live peer serves an address with a given
protocol.  A directive that a live peer hears opens no relay and reaches that peer
once.  So it is with a directive that is repeated while the relay lives that was
opened for it, however much has happened in between. -/
theorem relays_unrivalled {maxPeers : Nat} {operations : List Operation}
    (lawful : (Registry.empty maxPeers).Lawful operations) :
    let registry := ((Registry.empty maxPeers).run operations).2
    Unrivalled registry ∧
    (∀ directive parent id, (Operation.route directive parent).Grounded registry →
      LivesWith registry (Entry.Hears directive) id →
      (registry.route directive parent).1 = [] ∧
        framesTo id (registry.route directive parent).2.1 =
          directive.message.toList.map Frame.text) ∧
    ∀ directive parent later, registry.Lawful (.route directive parent :: later) →
      ∀ request ∈ (registry.route directive parent).1,
        let after := (registry.run (.route directive parent :: later)).2
        Live after request.id →
        ∀ again, (Operation.route directive again).Grounded after →
          (after.route directive again).1 = [] ∧
            framesTo request.id (after.route directive again).2.1 =
              directive.message.toList.map Frame.text := by
  have sound := (Sound.empty maxPeers).run lawful
  refine ⟨(Unrivalled.empty maxPeers).run (Sound.empty maxPeers) lawful, ?_, ?_⟩
  · intro directive parent id grounded lives
    exact sound.route_of_hears grounded lives
  · intro directive parent later following request opened after live again grounded
    have lives := sound.hears_of_live_relay following opened live
    exact (sound.run following).route_of_hears grounded lives

/-- Two clients connect. -/
def twoClients : List Operation :=
  [.connect .localhost true [], .connect .localhost true []]

/-- The second client has the remote end greeted that the first one has had
greeted before. -/
theorem relays_unrivalled_twoClients :
    let after := (((Registry.empty 4).run twoClients).2.run
      [.route farGreeting (some 1)]).2
    (after.route farGreeting (some 2)).1 = [] ∧
      framesTo 3 (after.route farGreeting (some 2)).2.1 = [.text "hello"] :=
  (relays_unrivalled (by decide)).2.2 farGreeting (some 1) [] (by decide)
    ⟨3, "ws://remote", "brain"⟩ (by decide) (Registry.isLive_iff.mp (by decide))
    (some 2) (by decide)

/-! ## Senders that are gone -/

/-- Below a sender that is gone nobody comes to life. -/
theorem Sound.livesWith_of_route_gone (sound : Sound registry) {sender : PeerId}
    (issued : sender < registry.nextId) (gone : ¬ Live registry sender)
    {hears : Entry → Prop}
    (lives : LivesWith (registry.route directive (some sender)).2.2 hears id) :
    LivesWith registry hears id := by
  have grounded : (Operation.route directive (some sender)).Grounded registry := issued
  rcases (sound.livesWith_route grounded).mp lives with before | ⟨_, _, _, _, above⟩
  · exact before
  · exact absurd (above sender rfl) gone

/-- A directive to an address that nobody serves takes one more place, if there is
one left. -/
theorem Sound.length_route (sound : Sound registry) (routable : directive.isRoutable = true)
    (addressed : directive.url ≠ none)
    (nobody : ∀ id, ¬ LivesWith registry (Entry.Hears directive) id)
    (parent : Option PeerId) :
    (registry.route directive parent).2.2.maxPeers = registry.maxPeers ∧
      (registry.route directive parent).2.2.entries.length =
        min registry.maxPeers (registry.entries.length + 1) := by
  have capped := sound.tracked.capped
  rcases sound.route_cases directive parent with
    ⟨_, ⟨index, after⟩, reason⟩ | ⟨url, _, _, _, room, _, after⟩
  · have full : registry.maxPeers ≤ registry.entries.length := by
      rcases reason routable addressed with ⟨id, lives⟩ | full
      · exact absurd lives (nobody id)
      · exact full
    rw [after]
    exact ⟨rfl, by simp only; omega⟩
  · rw [after]
    refine ⟨rfl, ?_⟩
    simp only [Registry.insert, Registry.prune, List.length_append, List.length_singleton]
    omega

/-- A peer that is gone can have relays opened without end.  None of them is ever
live, so every repetition of its directive opens one more until all places are
taken. -/
theorem Sound.length_run_route (sound : Sound registry) {sender : PeerId}
    (issued : sender < registry.nextId) (gone : ¬ Live registry sender)
    (routable : directive.isRoutable = true) (addressed : directive.url ≠ none)
    (nobody : ∀ id, ¬ LivesWith registry (Entry.Hears directive) id) (times : Nat) :
    (registry.run (List.replicate times (.route directive (some sender)))).2.entries.length =
      min registry.maxPeers (registry.entries.length + times) := by
  induction times generalizing registry with
  | zero => exact (Nat.min_eq_right sound.tracked.capped).symm
  | succ times ih =>
      have grounded : (Operation.route directive (some sender)).Grounded registry := issued
      have next : Sound (registry.route directive (some sender)).2.2 := sound.apply grounded
      have stillIssued : sender < (registry.route directive (some sender)).2.2.nextId :=
        Nat.lt_of_lt_of_le issued
          (registry.nextId_le_apply (.route directive (some sender)))
      have stillGone : ¬ Live (registry.route directive (some sender)).2.2 sender := by
        intro live
        have before := sound.livesWith_of_route_gone issued gone (livesWith_true.mpr live)
        exact gone (livesWith_true.mp before)
      have stillNobody : ∀ id,
          ¬ LivesWith (registry.route directive (some sender)).2.2 (Entry.Hears directive) id := by
        intro id lives
        exact nobody id (sound.livesWith_of_route_gone issued gone lives)
      have rest := ih next stillIssued stillGone stillNobody
      have step := sound.length_route routable addressed nobody (some sender)
      rw [step.1, step.2] at rest
      rw [List.replicate_succ]
      apply rest.trans
      omega

/-- A relay that is opened is live exactly if its directive came from the engine
or from a peer that is live.  Nothing keeps a peer that is gone from having
relays opened: by repeating a directive to an address that nobody serves it takes
one place after another until there are none left. -/
theorem gone_sender_opens_relays {maxPeers : Nat} {operations : List Operation}
    (lawful : (Registry.empty maxPeers).Lawful operations) :
    let registry := ((Registry.empty maxPeers).run operations).2
    (∀ directive parent, (Operation.route directive parent).Grounded registry →
      ∀ request ∈ (registry.route directive parent).1,
        Live (registry.route directive parent).2.2 request.id ↔
          ∀ sender, parent = some sender → Live registry sender) ∧
    ∀ directive sender, sender < registry.nextId → ¬ Live registry sender →
      directive.isRoutable = true → directive.url ≠ none →
      (∀ id, ¬ LivesWith registry (Entry.Hears directive) id) →
      ∀ times, (registry.run (List.replicate times
          (.route directive (some sender)))).2.entries.length =
        min registry.maxPeers (registry.entries.length + times) := by
  have sound := (Sound.empty maxPeers).run lawful
  constructor
  · intro directive parent grounded request opened
    exact sound.live_relay_iff grounded opened
  · intro directive sender issued gone routable addressed nobody times
    exact sound.length_run_route issued gone routable addressed nobody times

/-- A client connects, and its frames are no longer taken. -/
def mutedVisit : List Operation :=
  [.connect .localhost true ["brain"], .hangUp 1]

theorem gone_sender_opens_relays_mutedVisit :
    let registry := ((Registry.empty 4).run mutedVisit).2
    ¬ Live registry 1 ∧
      ¬ Live (registry.route farGreeting (some 1)).2.2 2 ∧
      (registry.run (List.replicate 5 (.route farGreeting (some 1)))).2.entries.length = 4 := by
  intro registry
  have lawful : (Registry.empty 4).Lawful mutedVisit := by decide
  have opened : ⟨2, "ws://remote", "brain"⟩ ∈ (registry.route farGreeting (some 1)).1 := by
    decide
  have gone : ¬ Live registry 1 := by
    intro live
    have reached := Registry.isLive_iff.mpr live
    revert reached
    decide
  have nobody := (((Sound.empty 4).run lawful).request_of_route opened).2.2.2
  refine ⟨gone, ?_, ?_⟩
  · intro live
    exact gone (((gone_sender_opens_relays lawful).1 farGreeting (some 1) (by decide)
      _ opened).mp live 1 rfl)
  · exact (gone_sender_opens_relays lawful).2 farGreeting 1 (by decide) gone (by decide)
      (by decide) nobody 5

/-- A relay that is opened need not be live: the peer that asks for it may be gone
already. -/
theorem not_every_relay_lives :
    ¬ ∀ (maxPeers : Nat) (operations : List Operation) (directive : Directive)
        (parent : Option PeerId),
      (Registry.empty maxPeers).Lawful (operations ++ [.route directive parent]) →
      let registry := ((Registry.empty maxPeers).run operations).2
      ∀ request ∈ (registry.route directive parent).1,
        Live (registry.route directive parent).2.2 request.id := by
  intro claimed
  have live := claimed 4 mutedVisit farGreeting (some 1) (by decide)
    ⟨2, "ws://remote", "brain"⟩ (by decide)
  have reached := Registry.isLive_iff.mpr live
  revert reached
  decide

end EngineGateway.Peer
