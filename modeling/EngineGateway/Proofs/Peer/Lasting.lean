import EngineGateway.Proofs.Peer.Ids
import EngineGateway.Proofs.Peer.Routing

/-!
# Who lives on

A directive either leaves the peers as they are or has a relay tracked whose
address no live peer serves.  No operation brings a peer back to life, and what is
known of a live peer apart from its connection lasts as long as the peer does.
Whoever lives after an operation has lived before it or has just arrived.
-/

namespace EngineGateway.Peer

variable {registry : Registry} {directive : Directive} {parent : Option PeerId}
  {hears : Entry → Prop} {id : PeerId}

/-! ## Following one directive -/

/-- A live subscriber leads to the address of a directive if any live peer hears
the directive. -/
theorem Sound.isConnected_iff (sound : Sound registry) {url : String}
    (addressed : directive.url = some url) :
    registry.isConnected (registry.liveSubscribers directive.protocol) url = true ↔
      ∃ id, LivesWith registry (Entry.Hears directive) id := by
  rw [sound.isConnected_eq addressed, List.any_eq_true]
  simp only [mem_living sound.tracked, hears_iff]
  constructor
  · intro served
    rcases served with ⟨entry, ⟨found, live⟩, heard⟩
    exact ⟨entry.id, entry, found, live, heard⟩
  · intro served
    rcases served with ⟨id, entry, found, live, heard⟩
    have named := Registry.id_of_find? found
    subst named
    exact ⟨entry, ⟨found, live⟩, heard⟩

/-- A directive with a protocol is followed by looking for its relay among the
live subscribers. -/
theorem Registry.route_of_routable (registry : Registry) {directive : Directive}
    (parent : Option PeerId) (routable : directive.isRoutable = true) :
    (registry.route directive parent).1 =
      ((registry.prune directive.protocol).openRelay directive parent
        (registry.liveSubscribers directive.protocol)).1 ∧
    (registry.route directive parent).2.2 =
      ((registry.prune directive.protocol).openRelay directive parent
        (registry.liveSubscribers directive.protocol)).2 := by
  rw [Registry.route, if_pos routable]
  exact ⟨rfl, rfl⟩

/-- What following a directive does to the registry.  Either nobody is tracked
anew, or a relay to an address that no live peer serves is. -/
theorem Sound.route_cases (sound : Sound registry) (directive : Directive)
    (parent : Option PeerId) :
    ((registry.route directive parent).1 = [] ∧
      (∃ index, (registry.route directive parent).2.2 =
        { registry with index := index }) ∧
      (directive.isRoutable = true → directive.url ≠ none →
        (∃ id, LivesWith registry (Entry.Hears directive) id) ∨
          registry.maxPeers ≤ registry.entries.length)) ∨
    ∃ url, directive.isRoutable = true ∧ directive.url = some url ∧
      (∀ id, ¬ LivesWith registry (Entry.Hears directive) id) ∧
      registry.entries.length < registry.maxPeers ∧
      (registry.route directive parent).1 =
        [⟨registry.nextId, url, directive.protocol⟩] ∧
      (registry.route directive parent).2.2 =
        (registry.prune directive.protocol).insert
          (registry.relayEntry url directive.protocol parent) := by
  cases routable : directive.isRoutable with
  | false =>
      left
      simp only [Registry.route, routable, Bool.false_eq_true, if_false]
      exact ⟨trivial, ⟨registry.index, rfl⟩, fun named => absurd named (by simp)⟩
  | true =>
      rw [(Registry.route_of_routable registry parent routable).1,
        (Registry.route_of_routable registry parent routable).2]
      cases addressed : directive.url with
      | none =>
          left
          simp only [Registry.openRelay, addressed]
          exact ⟨trivial, ⟨_, rfl⟩, fun _ named => absurd rfl named⟩
      | some url =>
          have served := sound.isConnected_iff addressed
          by_cases taken : (registry.isConnected
              (registry.liveSubscribers directive.protocol) url ||
              decide (registry.maxPeers ≤ registry.entries.length)) = true
          · left
            rw [(registry.prune directive.protocol).openRelay_taken addressed taken]
            refine ⟨rfl, ⟨_, rfl⟩, fun _ _ => ?_⟩
            simpa [served] using taken
          · right
            rw [(registry.prune directive.protocol).openRelay_free addressed taken]
            simp only [Bool.or_eq_true, served, decide_eq_true_eq, not_or, not_exists,
              Nat.not_le] at taken
            exact ⟨url, rfl, rfl, taken.1, taken.2, rfl, rfl⟩

/-- After a directive has been followed the same peers live as before, and the
relay that has been opened for it unless its sender is gone. -/
theorem Sound.livesWith_route (sound : Sound registry)
    (grounded : (Operation.route directive parent).Grounded registry) :
    LivesWith (registry.route directive parent).2.2 hears id ↔
      LivesWith registry hears id ∨
        ∃ request ∈ (registry.route directive parent).1, id = request.id ∧
          hears (registry.relayEntry request.url request.protocol parent) ∧
          ∀ sender, parent = some sender → Live registry sender := by
  rcases sound.route_cases directive parent with
    ⟨nothing, ⟨index, after⟩, _⟩ | ⟨url, routable, _, _, room, opened, after⟩
  · rw [nothing, after]
    constructor
    · intro lives
      exact .inl (livesWith_of_entries lives rfl)
    · intro either
      rcases either with lives | ⟨request, member, _⟩
      · exact livesWith_of_entries lives rfl
      · cases member
  · have space : (registry.prune directive.protocol).entries.length <
        (registry.prune directive.protocol).maxPeers := room
    have new : (registry.prune directive.protocol).Newcomer
        (registry.relayEntry url directive.protocol parent) :=
      Registry.newcomer_relay space url (protocol_ne routable) grounded.below
    rw [opened, after, (sound.prune _).tracked.livesWith_insert new]
    constructor
    · intro either
      rcases either with lives | ⟨rfl, heard, _, above⟩
      · exact .inl (livesWith_of_entries lives rfl)
      · right
        refine ⟨_, .head _, rfl, heard, ?_⟩
        intro sender same
        exact Registry.live_of_entries (above sender same) rfl
    · intro either
      rcases either with lives | ⟨request, member, rfl, heard, above⟩
      · exact .inl (livesWith_of_entries lives rfl)
      · cases List.mem_singleton.mp member
        right
        refine ⟨rfl, heard, rfl, ?_⟩
        intro sender same
        exact Registry.live_of_entries (above sender same) rfl

theorem livesWith_true : LivesWith registry (fun _ => True) id ↔ Live registry id := by
  constructor
  · intro lives
    rcases lives with ⟨_, _, live, _⟩
    exact live
  · intro live
    rcases Registry.exists_of_live live with ⟨entry, found, _⟩
    exact ⟨entry, found, live, trivial⟩

/-- A live peer has been handed its id before. -/
theorem Sound.lt_nextId (sound : Sound registry) (live : Live registry id) :
    id < registry.nextId := by
  rcases Registry.exists_of_live live with ⟨entry, found, _⟩
  rcases sound.tracked.find?_eq_some.mp found with ⟨member, rfl⟩
  exact sound.tracked.issued entry member

/-- The id and the protocol of a relay that is opened. -/
theorem Sound.request_of_route (sound : Sound registry) {request : RelayRequest}
    (opened : request ∈ (registry.route directive parent).1) :
    request.id = registry.nextId ∧ request.protocol = directive.protocol ∧
      directive.url = some request.url ∧
      ∀ id, ¬ LivesWith registry (Entry.Hears directive) id := by
  rcases sound.route_cases directive parent with
    ⟨nothing, _⟩ | ⟨url, _, addressed, nobody, _, only, _⟩
  · rw [nothing] at opened
    cases opened
  · rw [only] at opened
    cases List.mem_singleton.mp opened
    exact ⟨rfl, rfl, addressed, nobody⟩

/-! ## Properties that last -/

/-- The property of a peer lasts as long as the peer does: neither establishing
the connection nor hanging up changes it. -/
structure Lasting (hears : Entry → Prop) : Prop where
  opened : ∀ entry, hears entry.opened ↔ hears entry
  silenced : ∀ entry, hears entry.silenced ↔ hears entry

theorem Lasting.not (lasting : Lasting hears) : Lasting fun entry => ¬ hears entry where
  opened entry := not_congr (lasting.opened entry)
  silenced entry := not_congr (lasting.silenced entry)

theorem lasting_true : Lasting fun _ => True where
  opened _ := Iff.rfl
  silenced _ := Iff.rfl

theorem lasting_hears (directive : Directive) : Lasting (Entry.Hears directive) where
  opened _ := Iff.rfl
  silenced _ := Iff.rfl

/-- The entries that an operation may begin to track. -/
inductive Registry.Arrives (registry : Registry) : Operation → Entry → Prop where
  | client {address : Net.Address} {trusted : Bool} {protocols : List String} :
      Arrives registry (.connect address trusted protocols) (registry.clientEntry protocols)
  | relay {directive : Directive} {parent : Option PeerId} {request : RelayRequest} :
      request ∈ (registry.route directive parent).1 →
      Arrives registry (.route directive parent)
        (registry.relayEntry request.url request.protocol parent)

theorem Registry.Arrives.id_eq {operation : Operation} {entry : Entry}
    (arrives : registry.Arrives operation entry) : entry.id = registry.nextId := by
  cases arrives with
  | client => rfl
  | relay opened => rfl

/-! ## One operation -/

section Apply

variable {operation : Operation}

/-- A change of one entry that a property does not see. -/
theorem Tracked.livesWith_of_unseen (tracked : Tracked registry) {change : Entry → Entry}
    (harmless : Harmless change) (unseen : ∀ entry, hears (change entry) ↔ hears entry)
    {changed : PeerId} (lives : LivesWith (registry.update changed change) hears id) :
    LivesWith registry hears id := by
  rcases tracked.livesWith_of_update harmless lives with ⟨entry, found, live, heard⟩
  refine ⟨entry, found, live, ?_⟩
  unfold Registry.changed at heard
  split_ifs at heard
  · exact (unseen entry).mp heard
  · exact heard

theorem Sound.livesWith_of_markOpen (sound : Sound registry) (lasting : Lasting hears)
    {opening : PeerId} (lives : LivesWith (registry.markOpen opening).2 hears id) :
    LivesWith registry hears id := by
  cases found : registry.find? opening with
  | none => simpa only [Registry.markOpen, found] using lives
  | some entry =>
      rw [Registry.markOpen_snd found] at lives
      exact sound.tracked.livesWith_of_unseen harmless_opened lasting.opened
        (livesWith_of_entries lives rfl)

/-- A live peer with a lasting property was one before the operation, unless it
has just arrived. -/
theorem Sound.livesWith_of_apply (sound : Sound registry)
    (grounded : operation.Grounded registry) (lasting : Lasting hears)
    (lives : LivesWith (registry.apply operation).2 hears id) :
    LivesWith registry hears id ∨
      ∃ entry, registry.Arrives operation entry ∧ id = entry.id ∧ hears entry := by
  cases operation with
  | connect address trusted protocols =>
      rcases registry.connect_cases address trusted protocols with
        ⟨refusal, refused⟩ | ⟨room, admitted⟩
      · left
        simpa only [Registry.apply, refused] using lives
      · simp only [Registry.apply, admitted] at lives
        have new := Registry.newcomer_client room protocols
        rcases (sound.tracked.livesWith_insert new).mp lives with before | ⟨same, heard, _⟩
        · exact .inl before
        · exact .inr ⟨_, .client, same, heard⟩
  | markOpen opening => exact .inl (sound.livesWith_of_markOpen lasting lives)
  | release gone => exact .inl (sound.tracked.livesWith_of_restrict lives)
  | attach engine => exact .inl (livesWith_of_entries lives rfl)
  | detach => exact .inl (sound.livesWith_of_detach lives)
  | collect => exact .inl (sound.livesWith_of_collect lives)
  | route directive parent =>
      rcases (sound.livesWith_route grounded).mp lives with before | arrived
      · exact .inl before
      · rcases arrived with ⟨request, opened, same, heard, _⟩
        have fresh := (sound.request_of_route opened).1
        exact .inr ⟨_, .relay opened, same.trans fresh, heard⟩
  | send receiver frame => exact .inl lives
  | hangUp leaving =>
      exact .inl (sound.tracked.livesWith_of_unseen harmless_silenced lasting.silenced lives)

theorem Registry.nextId_le_apply (registry : Registry) (operation : Operation) :
    registry.nextId ≤ (registry.apply operation).2.nextId :=
  (registry.issues_apply operation).nextId_le

/-- A peer that is live after an operation was live before, if it had been handed
its id. -/
theorem Sound.live_of_apply (sound : Sound registry)
    (grounded : operation.Grounded registry) (older : id < registry.nextId)
    (live : Live (registry.apply operation).2 id) : Live registry id := by
  have lives := livesWith_true.mpr live
  rcases sound.livesWith_of_apply grounded lasting_true lives with before | arrived
  · exact livesWith_true.mp before
  · rcases arrived with ⟨entry, arrives, rfl, _⟩
    exact absurd older (by simp [arrives.id_eq])

/-- A lasting property stays with a peer that stays live. -/
theorem Sound.livesWith_apply (sound : Sound registry)
    (grounded : operation.Grounded registry) (lasting : Lasting hears)
    (lives : LivesWith registry hears id) (live : Live (registry.apply operation).2 id) :
    LivesWith (registry.apply operation).2 hears id := by
  rcases Registry.exists_of_live live with ⟨entry, found, _⟩
  by_cases heard : hears entry
  · exact ⟨entry, found, live, heard⟩
  · -- A peer without the property would have been without it before.
    have without := sound.livesWith_of_apply grounded lasting.not
      ⟨entry, found, live, heard⟩
    rcases lives with ⟨old, before, alive, had⟩
    rcases without with ⟨same, again, _, hadNot⟩ | ⟨other, arrives, rfl, _⟩
    · rw [before] at again
      cases again
      exact absurd had hadNot
    · exact absurd (sound.lt_nextId alive) (by simp [arrives.id_eq])

end Apply

/-! ## Whole runs -/

section Run

variable {operations : List Operation}

/-- A peer that is not live any more never lives again. -/
theorem Sound.live_of_run (sound : Sound registry) (lawful : registry.Lawful operations)
    (older : id < registry.nextId) (live : Live (registry.run operations).2 id) :
    Live registry id := by
  induction operations generalizing registry with
  | nil => exact live
  | cons operation rest ih =>
      rcases lawful with ⟨grounded, lawful⟩
      have stillOlder := Nat.lt_of_lt_of_le older (registry.nextId_le_apply operation)
      have between := ih (sound.apply grounded) lawful stillOlder live
      exact sound.live_of_apply grounded older between

theorem Sound.livesWith_run (sound : Sound registry) (lawful : registry.Lawful operations)
    (lasting : Lasting hears) (lives : LivesWith registry hears id)
    (live : Live (registry.run operations).2 id) :
    LivesWith (registry.run operations).2 hears id := by
  induction operations generalizing registry with
  | nil => exact lives
  | cons operation rest ih =>
      rcases lawful with ⟨grounded, lawful⟩
      have next := sound.apply grounded
      have older : id < (registry.apply operation).2.nextId := by
        rcases lives with ⟨_, _, alive, _⟩
        exact Nat.lt_of_lt_of_le (sound.lt_nextId alive) (registry.nextId_le_apply operation)
      have between := next.live_of_run lawful older live
      exact ih next lawful (sound.livesWith_apply grounded lasting lives between) live

end Run

end EngineGateway.Peer
