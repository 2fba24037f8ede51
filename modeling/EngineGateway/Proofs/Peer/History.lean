import EngineGateway.Proofs.Peer.Sound

/-!
# Histories of the registry

Every operation keeps the invariant of the registry, and so does every history.
The only thing asked of a history is that the sender of a directive has been
handed its id before: ids are handed out in order, so these are the ids below
the next one.  Whether the sender is still there does not matter.
-/

namespace EngineGateway.Peer

/-- The sender of a directive, if it is a peer, has been handed an id. -/
def Operation.Grounded (registry : Registry) : Operation → Prop
  | .route _ (some parent) => parent < registry.nextId
  | _ => True

instance (registry : Registry) (operation : Operation) :
    Decidable (operation.Grounded registry) := by
  unfold Operation.Grounded
  split <;> infer_instance

/-- The sender of a directive has been handed its id. -/
theorem Operation.Grounded.below {registry : Registry} {directive : Directive}
    {parent : Option PeerId}
    (grounded : (Operation.route directive parent).Grounded registry) :
    ∀ sender, parent = some sender → sender < registry.nextId := by
  intro sender same
  subst same
  exact grounded

/-- Every operation of a history is grounded when its turn comes. -/
def Registry.Lawful (registry : Registry) : List Operation → Prop
  | [] => True
  | operation :: rest =>
      operation.Grounded registry ∧ (registry.apply operation).2.Lawful rest

instance Registry.decidableLawful :
    (registry : Registry) → (operations : List Operation) →
      Decidable (registry.Lawful operations)
  | _, [] => isTrue trivial
  | registry, operation :: rest =>
      have := Registry.decidableLawful (registry.apply operation).2 rest
      inferInstanceAs (Decidable (_ ∧ _))

variable {registry : Registry}

/-! ## Parts of operations -/

theorem Sound.withEngine (sound : Sound registry) (engine : Option Engine.Identity) :
    Sound { registry with engine := engine } where
  tracked := ⟨sound.tracked.capped, sound.tracked.ordered, sound.tracked.issued,
    sound.tracked.descends, sound.tracked.fluent⟩
  listed := ⟨sound.listed.tidy, sound.listed.sorted, sound.listed.handedOut,
    sound.listed.speaks, fun entry member live =>
      sound.listed.complete entry member (Registry.live_of_entries live rfl)⟩
  heard := ⟨sound.heard.once, sound.heard.known, sound.heard.opened⟩

namespace Registry

/-- Strike the ids of peers that are not tracked from all lists. -/
def sweep (registry : Registry) : Registry :=
  { registry with
    audience := registry.audience.filter registry.contains
    index := registry.index.keep registry.contains }

/-- The live peers only. -/
def living (registry : Registry) : Registry :=
  registry.restrict fun entry => registry.isLive entry.id

theorem collect_snd : registry.collect.2 = registry.living.sweep := rfl

/-- The engine and the relays that it has opened are gone.  What hangs on these is still
tracked. -/
def withoutEngine (registry : Registry) : Registry :=
  { registry with engine := none }.restrict fun entry => !entry.isGameOriginated

theorem detach_of_none (alone : registry.engine = none) :
    registry.detach = (none, [], registry) := by
  simp only [detach, alone]

theorem detach_of_some {engine : Engine.Identity} (attached : registry.engine = some engine) :
    registry.detach = (some engine,
      { registry with engine := none }.announce (engine.statusLine .closed),
      registry.withoutEngine.collect.2) := by
  simp only [detach, attached]
  rfl

/-- The entry of a client that is admitted. -/
def clientEntry (registry : Registry) (protocols : List String) : Entry where
  id := registry.nextId
  parent := none
  url := none
  protocols := (protocols.filter fun protocol => !protocol.isEmpty).eraseDups
  isGameOriginated := false
  isOpen := false
  isListening := true

/-- The protocols of a client are the names that it offers. -/
theorem mem_protocols_clientEntry {protocols : List String} (named : "" ∉ protocols)
    {name : String} :
    name ∈ (registry.clientEntry protocols).protocols ↔ name ∈ protocols := by
  simp only [clientEntry, List.mem_eraseDups, List.mem_filter, Bool.not_eq_true',
    String.isEmpty_eq_false_iff, and_iff_left_iff_imp]
  rintro member rfl
  exact named member

/-- The entry of a relay that is opened. -/
def relayEntry (registry : Registry) (url protocol : String)
    (parent : Option PeerId) : Entry where
  id := registry.nextId
  parent := parent
  url := some url
  protocols := [protocol]
  isGameOriginated := parent.isNone
  isOpen := false
  isListening := true

theorem newcomer_client (room : registry.entries.length < registry.maxPeers)
    (protocols : List String) : registry.Newcomer (registry.clientEntry protocols) :=
  ⟨room, rfl, by simp [clientEntry],
    ⟨nodup_eraseDups _, by simp [clientEntry, List.mem_eraseDups]⟩, rfl⟩

theorem newcomer_relay (room : registry.entries.length < registry.maxPeers)
    (url : String) {protocol : String} (named : protocol ≠ "") {parent : Option PeerId}
    (below : ∀ sender, parent = some sender → sender < registry.nextId) :
    registry.Newcomer (registry.relayEntry url protocol parent) :=
  ⟨room, rfl, below, ⟨by simp [relayEntry], by simpa [relayEntry] using named.symm⟩, rfl⟩

end Registry

theorem Sound.sweep (sound : Sound registry) : Sound registry.sweep := by
  refine Sound.thin (sound.strike sound.listed.tidy.keep (fun _ => registry.contains)
    (fun _ => Index.subscribers_keep sound.listed.tidy) ?_)
  intro _ id live
  exact Registry.contains_of_live live

theorem Sound.collect (sound : Sound registry) : Sound registry.collect.2 :=
  (sound.restrict _).sweep

theorem Sound.withoutEngine (sound : Sound registry) : Sound registry.withoutEngine :=
  (sound.withEngine none).restrict _

theorem Sound.detach (sound : Sound registry) : Sound registry.detach.2.2 := by
  cases attached : registry.engine with
  | none =>
      rw [Registry.detach_of_none attached]
      exact sound
  | some engine =>
      rw [Registry.detach_of_some attached]
      exact sound.withoutEngine.collect

/-- What admitting a client comes to. -/
theorem Registry.connect_cases (registry : Registry) (address : Net.Address)
    (trusted : Bool) (protocols : List String) :
    (∃ refusal, registry.connect address trusted protocols = (.error refusal, registry)) ∨
    (registry.entries.length < registry.maxPeers ∧
      registry.connect address trusted protocols =
        (.ok registry.nextId, registry.insert (registry.clientEntry protocols))) := by
  unfold Registry.connect
  split_ifs with rejected full
  · exact .inl ⟨_, rfl⟩
  · exact .inl ⟨_, rfl⟩
  · exact .inr ⟨Nat.lt_of_not_le full, rfl⟩

theorem Sound.connect (sound : Sound registry) (address : Net.Address)
    (trusted : Bool) (protocols : List String) :
    Sound (registry.connect address trusted protocols).2 := by
  obtain ⟨refusal, refused⟩ | ⟨room, admitted⟩ :=
    registry.connect_cases address trusted protocols
  · rw [refused]
    exact sound
  · rw [admitted]
    exact sound.insert (Registry.newcomer_client room protocols)

section OpenRelay

variable {directive : Directive} {url : String} {parent : Option PeerId}
  {subscribers : List PeerId}

/-- No relay is opened to an address that is served already, or when all places
are taken. -/
theorem Registry.openRelay_taken (registry : Registry)
    (addressed : directive.url = some url)
    (taken : (registry.isConnected subscribers url ||
      decide (registry.maxPeers ≤ registry.entries.length)) = true) :
    registry.openRelay directive parent subscribers = ([], registry) := by
  simp only [openRelay, addressed, if_pos taken]

theorem Registry.openRelay_free (registry : Registry)
    (addressed : directive.url = some url)
    (free : ¬ (registry.isConnected subscribers url ||
      decide (registry.maxPeers ≤ registry.entries.length)) = true) :
    registry.openRelay directive parent subscribers =
      ([⟨registry.nextId, url, directive.protocol⟩],
        registry.insert (registry.relayEntry url directive.protocol parent)) := by
  simp only [openRelay, addressed, if_neg free]
  rfl

end OpenRelay

/-- What looking for a relay comes to: nothing is opened, or one relay to the
address of the directive is. -/
theorem Registry.openRelay_cases (registry : Registry) (directive : Directive)
    (parent : Option PeerId) (subscribers : List PeerId) :
    registry.openRelay directive parent subscribers = ([], registry) ∨
    ∃ url, directive.url = some url ∧
      registry.isConnected subscribers url = false ∧
      registry.entries.length < registry.maxPeers ∧
      registry.openRelay directive parent subscribers =
        ([⟨registry.nextId, url, directive.protocol⟩],
          registry.insert (registry.relayEntry url directive.protocol parent)) := by
  cases addressed : directive.url with
  | none => exact .inl (by simp only [openRelay, addressed])
  | some url =>
      by_cases taken : (registry.isConnected subscribers url ||
          decide (registry.maxPeers ≤ registry.entries.length)) = true
      · exact .inl (registry.openRelay_taken addressed taken)
      · refine .inr ⟨url, rfl, ?_, ?_, registry.openRelay_free addressed taken⟩
        · exact Bool.eq_false_iff.mpr fun connected => taken (by simp [connected])
        · exact Nat.lt_of_not_le fun full => taken (by simp [full])

theorem protocol_ne {directive : Directive} (routable : directive.isRoutable = true) :
    directive.protocol ≠ "" := by
  simpa [Directive.isRoutable] using routable

theorem Sound.openRelay (sound : Sound registry) {directive : Directive}
    (routable : directive.isRoutable = true) {parent : Option PeerId}
    (below : ∀ sender, parent = some sender → sender < registry.nextId)
    (subscribers : List PeerId) :
    Sound (registry.openRelay directive parent subscribers).2 := by
  obtain nothing | ⟨url, _, _, room, opened⟩ :=
    registry.openRelay_cases directive parent subscribers
  · rw [nothing]
    exact sound
  · rw [opened]
    exact sound.insert (Registry.newcomer_relay room url (protocol_ne routable) below)

/-- What following a directive does: ids may be struck from one protocol, and a relay may be
tracked. -/
theorem Registry.route_steps (registry : Registry) (directive : Directive)
    (parent : Option PeerId) :
    ((registry.route directive parent).1 = [] ∧
      ((registry.route directive parent).2.2 = registry ∨
        (registry.route directive parent).2.2 = registry.prune directive.protocol)) ∨
    ∃ url, directive.url = some url ∧ registry.entries.length < registry.maxPeers ∧
      (registry.route directive parent).1 = [⟨registry.nextId, url, directive.protocol⟩] ∧
      (registry.route directive parent).2.2 =
        (registry.prune directive.protocol).insert
          (registry.relayEntry url directive.protocol parent) := by
  by_cases routable : directive.isRoutable = true
  · obtain nothing | ⟨url, addressed, _, room, opened⟩ :=
      (registry.prune directive.protocol).openRelay_cases directive parent
        (registry.liveSubscribers directive.protocol)
    · left
      simp only [Registry.route, if_pos routable, nothing]
      exact ⟨trivial, .inr trivial⟩
    · right
      simp only [Registry.route, if_pos routable, opened]
      exact ⟨url, addressed, room, rfl, rfl⟩
  · left
    simp only [Registry.route, if_neg routable]
    exact ⟨trivial, .inl trivial⟩

theorem Sound.route (sound : Sound registry) {directive : Directive}
    {parent : Option PeerId}
    (below : ∀ sender, parent = some sender → sender < registry.nextId) :
    Sound (registry.route directive parent).2.2 := by
  unfold Registry.route
  split_ifs with routable
  · exact (sound.prune directive.protocol).openRelay routable below _
  · exact sound

/-! ## Whole histories -/

/-- The operations keep the invariant. -/
theorem Sound.apply (sound : Sound registry) {operation : Operation}
    (grounded : operation.Grounded registry) : Sound (registry.apply operation).2 := by
  cases operation with
  | connect address trusted protocols =>
      have next := sound.connect address trusted protocols
      simp only [Registry.apply]
      split <;> rename_i outcome <;> rw [outcome] at next <;> exact next
  | markOpen id => exact sound.markOpen id
  | release id => exact sound.restrict _
  | attach engine => exact sound.withEngine (some engine)
  | detach => exact sound.detach
  | collect => exact sound.collect
  | route directive parent =>
      exact sound.route grounded.below
  | send id frame => exact sound
  | hangUp id => exact sound.hangUp id

/-- Histories keep the invariant. -/
theorem Sound.run (sound : Sound registry) {operations : List Operation}
    (lawful : registry.Lawful operations) : Sound (registry.run operations).2 := by
  induction operations generalizing registry with
  | nil => exact sound
  | cons operation rest ih => exact ih (sound.apply lawful.1) lawful.2

/-! ## Histories of any kind

Directives may come from anywhere, and a registry stays orderly nevertheless. -/

theorem Orderly.empty (maxPeers : Nat) : Orderly (Registry.empty maxPeers) :=
  (Sound.empty maxPeers).orderly

theorem Orderly.sweep (orderly : Orderly registry) : Orderly registry.sweep :=
  (orderly.strike orderly.tidy.keep).thin

theorem Orderly.collect (orderly : Orderly registry) : Orderly registry.collect.2 :=
  (orderly.restrict _).sweep

theorem Orderly.withoutEngine (orderly : Orderly registry) : Orderly registry.withoutEngine :=
  (orderly.withEngine none).restrict _

theorem Orderly.detach (orderly : Orderly registry) : Orderly registry.detach.2.2 := by
  cases attached : registry.engine with
  | none =>
      rw [Registry.detach_of_none attached]
      exact orderly
  | some engine =>
      rw [Registry.detach_of_some attached]
      exact orderly.withoutEngine.collect

theorem Orderly.connect (orderly : Orderly registry) (address : Net.Address)
    (trusted : Bool) (protocols : List String) :
    Orderly (registry.connect address trusted protocols).2 := by
  obtain ⟨refusal, refused⟩ | ⟨_, admitted⟩ :=
    registry.connect_cases address trusted protocols
  · rw [refused]
    exact orderly
  · rw [admitted]
    exact orderly.insert rfl rfl

theorem Orderly.prune (orderly : Orderly registry) (protocol : String) :
    Orderly (registry.prune protocol) :=
  orderly.strike orderly.tidy.keepUnder

theorem Orderly.route (orderly : Orderly registry) (directive : Directive)
    (parent : Option PeerId) : Orderly (registry.route directive parent).2.2 := by
  obtain ⟨_, same | pruned⟩ | ⟨url, _, _, _, opened⟩ := registry.route_steps directive parent
  · rw [same]
    exact orderly
  · rw [pruned]
    exact orderly.prune _
  · rw [opened]
    exact (orderly.prune _).insert rfl rfl

theorem Orderly.apply (orderly : Orderly registry) (operation : Operation) :
    Orderly (registry.apply operation).2 := by
  cases operation with
  | connect address trusted protocols =>
      have next := orderly.connect address trusted protocols
      simp only [Registry.apply]
      split <;> rename_i outcome <;> rw [outcome] at next <;> exact next
  | markOpen id => exact orderly.markOpen id
  | release id => exact orderly.restrict _
  | attach engine => exact orderly.withEngine (some engine)
  | detach => exact orderly.detach
  | collect => exact orderly.collect
  | route directive parent => exact orderly.route directive parent
  | send id frame => exact orderly
  | hangUp id => exact orderly.hangUp id

theorem Orderly.run (orderly : Orderly registry) (operations : List Operation) :
    Orderly (registry.run operations).2 := by
  induction operations generalizing registry with
  | nil => exact orderly
  | cons operation rest ih => exact ih (orderly.apply operation)

end EngineGateway.Peer
