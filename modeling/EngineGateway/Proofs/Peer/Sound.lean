import EngineGateway.Proofs.Peer.Orderly

/-!
# Sound registries

The invariant of the registry.  Peers are tracked in the order of their ids and
below their parents, the index misses no live peer, and the audience consists,
as far as tracked peers go, of those that are open.  Ids of peers that are gone
may remain listed anywhere.

Operations are made of a few changes: tracking one more peer, forgetting some,
changing one in place, and striking ids from the lists.  Each change keeps the
invariant, hence each operation does, as long as directives come from the engine
or from peers whose ids have been handed out.
-/

namespace EngineGateway.Peer

/-- The subprotocols of a peer are different and have names. -/
structure Entry.Fluent (entry : Entry) : Prop where
  distinct : entry.protocols.Nodup
  named : "" ∉ entry.protocols

/-- What holds of the tracked peers. -/
structure Tracked (registry : Registry) : Prop where
  capped : registry.entries.length ≤ registry.maxPeers
  ordered : registry.entries.Pairwise fun earlier later => earlier.id < later.id
  issued : ∀ entry ∈ registry.entries, entry.id < registry.nextId
  descends : ∀ entry ∈ registry.entries, ∀ parent, entry.parent = some parent →
    parent < entry.id
  fluent : ∀ entry ∈ registry.entries, entry.Fluent

/-- What holds of the subscribers of protocols. -/
structure Listed (registry : Registry) : Prop where
  tidy : registry.index.Tidy
  sorted : ∀ protocol, (registry.index.subscribers protocol).Pairwise (· < ·)
  handedOut : ∀ protocol, ∀ id ∈ registry.index.subscribers protocol,
    id < registry.nextId
  speaks : ∀ protocol, ∀ entry ∈ registry.entries,
    entry.id ∈ registry.index.subscribers protocol → protocol ∈ entry.protocols
  complete : ∀ entry ∈ registry.entries, Live registry entry.id →
    ∀ protocol ∈ entry.protocols, entry.id ∈ registry.index.subscribers protocol

/-- The invariant of the registry. -/
structure Sound (registry : Registry) : Prop where
  tracked : Tracked registry
  listed : Listed registry
  heard : Heard registry

theorem Sound.empty (maxPeers : Nat) : Sound (Registry.empty maxPeers) where
  tracked := by constructor <;> simp [Registry.empty]
  listed := by
    constructor <;> simp [Registry.empty]
    exact ⟨by simp, by simp⟩
  heard := by constructor <;> simp [Registry.empty]

variable {registry : Registry}

theorem Tracked.numbered (tracked : Tracked registry) : Numbered registry :=
  ⟨tracked.ordered, tracked.issued⟩

theorem Sound.orderly (sound : Sound registry) : Orderly registry :=
  ⟨sound.tracked.numbered, sound.listed.tidy, sound.heard⟩

/-! ## Looking peers up -/

theorem Tracked.find?_eq_some (tracked : Tracked registry) {id : PeerId}
    {entry : Entry} :
    registry.find? id = some entry ↔ entry ∈ registry.entries ∧ entry.id = id :=
  tracked.numbered.find?_eq_some

theorem Tracked.find?_id (tracked : Tracked registry) {entry : Entry}
    (member : entry ∈ registry.entries) : registry.find? entry.id = some entry :=
  tracked.numbered.find?_id member

/-- Entries with the same id are the same. -/
theorem Tracked.eq_of_id (tracked : Tracked registry) {left right : Entry}
    (leftMember : left ∈ registry.entries) (rightMember : right ∈ registry.entries)
    (same : left.id = right.id) : left = right := by
  have found := tracked.find?_id leftMember
  rw [same, tracked.find?_id rightMember] at found
  exact (Option.some.inj found).symm

/-- A live peer is listed once under each protocol that it speaks and under no other. -/
theorem Sound.count_subscribers (sound : Sound registry) {entry : Entry}
    (member : entry ∈ registry.entries) (live : Live registry entry.id) (protocol : String) :
    (registry.index.subscribers protocol).count entry.id =
      if protocol ∈ entry.protocols then 1 else 0 := by
  split_ifs with spoken
  · have distinct : (registry.index.subscribers protocol).Nodup :=
      (sound.listed.sorted protocol).imp Nat.ne_of_lt
    exact List.count_eq_one_of_mem distinct
      (sound.listed.complete entry member live protocol spoken)
  · exact List.count_eq_zero.mpr (mt (sound.listed.speaks protocol entry member) spoken)

/-! ## Forgetting peers -/

theorem Tracked.restrict (tracked : Tracked registry) (kept : Entry → Bool) :
    Tracked (registry.restrict kept) where
  capped := Nat.le_trans (List.length_filter_le _ _) tracked.capped
  ordered := (tracked.numbered.restrict kept).ordered
  issued := (tracked.numbered.restrict kept).issued
  descends entry member := tracked.descends entry (List.mem_of_mem_filter member)
  fluent entry member := tracked.fluent entry (List.mem_of_mem_filter member)

/-- Forgetting peers brings none to life. -/
theorem Tracked.live_of_restrict (tracked : Tracked registry) {kept : Entry → Bool}
    {id : PeerId} (live : Live (registry.restrict kept) id) : Live registry id :=
  tracked.numbered.live_of_restrict live

theorem Sound.restrict (sound : Sound registry) (kept : Entry → Bool) :
    Sound (registry.restrict kept) where
  tracked := sound.tracked.restrict kept
  listed :=
    { sound.listed with
      speaks := fun protocol entry member =>
        sound.listed.speaks protocol entry (List.mem_of_mem_filter member)
      complete := fun entry member live =>
        sound.listed.complete entry (List.mem_of_mem_filter member)
          (sound.tracked.live_of_restrict live) }
  heard := (sound.orderly.restrict kept).heard

/-! ## Striking ids -/

/-- Ids may be struck from the index as long as no live peer is. -/
theorem Sound.strike (sound : Sound registry) {index : Index} (tidy : index.Tidy)
    (kept : String → PeerId → Bool)
    (struck : ∀ protocol, index.subscribers protocol =
      (registry.index.subscribers protocol).filter (kept protocol))
    (live : ∀ protocol id, Live registry id → kept protocol id = true) :
    Sound { registry with index := index } where
  tracked := ⟨sound.tracked.capped, sound.tracked.ordered, sound.tracked.issued,
    sound.tracked.descends, sound.tracked.fluent⟩
  listed :=
    { tidy := tidy
      sorted := fun protocol => by
        simp only [struck]
        exact (sound.listed.sorted protocol).sublist List.filter_sublist
      handedOut := fun protocol id member => by
        simp only [struck] at member
        exact sound.listed.handedOut protocol id (List.mem_of_mem_filter member)
      speaks := fun protocol entry member listed => by
        simp only [struck] at listed
        exact sound.listed.speaks protocol entry member (List.mem_of_mem_filter listed)
      complete := fun entry member lives protocol spoken => by
        have before : Live registry entry.id := Registry.live_of_entries lives rfl
        simp only [struck]
        exact List.mem_filter.mpr
          ⟨sound.listed.complete entry member before protocol spoken,
            live protocol entry.id before⟩ }
  heard := ⟨sound.heard.once, sound.heard.known, sound.heard.opened⟩

theorem Sound.prune (sound : Sound registry) (protocol : String) :
    Sound (registry.prune protocol) := by
  refine sound.strike sound.listed.tidy.keepUnder
    (fun other id => decide (other ≠ protocol) || registry.isLive id) ?_ ?_
  · intro other
    rw [Index.subscribers_keepUnder sound.listed.tidy]
    by_cases same : other = protocol
    · simp [same]
    · simp [same]
  · intro other id live
    simp [Registry.isLive_iff.mpr live]

/-- Ids of peers that are not tracked may be struck from the audience. -/
theorem Sound.thin (sound : Sound registry) :
    Sound { registry with audience := registry.audience.filter registry.contains } where
  tracked := ⟨sound.tracked.capped, sound.tracked.ordered, sound.tracked.issued,
    sound.tracked.descends, sound.tracked.fluent⟩
  listed := ⟨sound.listed.tidy, sound.listed.sorted, sound.listed.handedOut,
    sound.listed.speaks, fun entry member live =>
      sound.listed.complete entry member (Registry.live_of_entries live rfl)⟩
  heard := sound.orderly.thin.heard

/-! ## Changing peers in place -/

section Update

variable {id : PeerId} {change : Entry → Entry}

theorem Tracked.update (tracked : Tracked registry) (harmless : Harmless change) :
    Tracked (registry.update id change) where
  capped := by simpa [Registry.update] using tracked.capped
  ordered := (tracked.numbered.update harmless).ordered
  issued := (tracked.numbered.update harmless).issued
  descends entry member parent below := by
    rcases Registry.mem_update.mp member with ⟨old, before, rfl⟩
    rw [(harmless.changed id).parent] at below
    rw [(harmless.changed id).id]
    exact tracked.descends old before parent below
  fluent entry member := by
    rcases Registry.mem_update.mp member with ⟨old, before, rfl⟩
    have same := (harmless.changed id).protocols old
    exact ⟨same ▸ (tracked.fluent old before).distinct,
      same ▸ (tracked.fluent old before).named⟩

theorem Tracked.live_of_update (tracked : Tracked registry) (harmless : Harmless change)
    {peer : PeerId} (live : Live (registry.update id change) peer) :
    Live registry peer := by
  refine Registry.live_of_shrunk (fun peer entry found => ?_) live
  rcases (tracked.update harmless).find?_eq_some.mp found with ⟨member, rfl⟩
  rcases Registry.mem_update.mp member with ⟨old, before, rfl⟩
  refine ⟨old, ?_, ((harmless.changed id).parent old).symm,
    (harmless.changed id).listening old⟩
  rw [(harmless.changed id).id]
  exact tracked.find?_id before

theorem Listed.update (tracked : Tracked registry) (listed : Listed registry)
    (harmless : Harmless change) : Listed (registry.update id change) :=
  { listed with
    speaks := fun protocol entry member spoken => by
      rcases Registry.mem_update.mp member with ⟨old, before, rfl⟩
      rw [(harmless.changed id).id] at spoken
      rw [(harmless.changed id).protocols]
      exact listed.speaks protocol old before spoken
    complete := fun entry member live protocol spoken => by
      have before := tracked.live_of_update harmless live
      rcases Registry.mem_update.mp member with ⟨old, known, rfl⟩
      rw [(harmless.changed id).id] at before ⊢
      rw [(harmless.changed id).protocols] at spoken
      exact listed.complete old known before protocol spoken }

end Update

theorem Sound.hangUp (sound : Sound registry) (id : PeerId) :
    Sound (registry.hangUp id) where
  tracked := sound.tracked.update harmless_silenced
  listed := sound.listed.update sound.tracked harmless_silenced
  heard := (sound.orderly.hangUp id).heard

theorem Sound.markOpen (sound : Sound registry) (id : PeerId) :
    Sound (registry.markOpen id).2 := by
  have heard := (sound.orderly.markOpen id).heard
  cases found : registry.find? id with
  | none =>
      simp only [Registry.markOpen, found]
      exact sound
  | some entry =>
      rw [Registry.markOpen_snd found] at heard ⊢
      have tracked : Tracked (registry.update id Entry.opened) :=
        sound.tracked.update harmless_opened
      have listed : Listed (registry.update id Entry.opened) :=
        sound.listed.update sound.tracked harmless_opened
      exact
        { tracked := ⟨tracked.capped, tracked.ordered, tracked.issued,
            tracked.descends, tracked.fluent⟩
          listed := ⟨listed.tidy, listed.sorted, listed.handedOut, listed.speaks,
            fun old before live =>
              listed.complete old before (Registry.live_of_entries live rfl)⟩
          heard := heard }

/-! ## Tracking one more peer -/

/-- An entry that may be tracked next. -/
structure Registry.Newcomer (registry : Registry) (entry : Entry) : Prop where
  room : registry.entries.length < registry.maxPeers
  next : entry.id = registry.nextId
  below : ∀ parent, entry.parent = some parent → parent < registry.nextId
  fluent : entry.Fluent
  unopened : entry.isOpen = false

section Insert

variable {entry : Entry}

theorem Tracked.insert (tracked : Tracked registry) (new : registry.Newcomer entry) :
    Tracked (registry.insert entry) where
  capped := by
    have := new.room
    simp [Registry.insert]
    omega
  ordered := (tracked.numbered.insert new.next).ordered
  issued := (tracked.numbered.insert new.next).issued
  descends other member parent below := by
    rcases Registry.mem_insert.mp member with before | rfl
    · exact tracked.descends other before parent below
    · exact new.next ▸ new.below parent below
  fluent other member := by
    rcases Registry.mem_insert.mp member with before | rfl
    · exact tracked.fluent other before
    · exact new.fluent

/-- A newcomer changes nothing for the peers before it, because none of them
has it for a parent. -/
theorem Tracked.live_insert (tracked : Tracked registry) (new : registry.Newcomer entry)
    {id : PeerId} (older : id < registry.nextId) :
    Live (registry.insert entry) id ↔ Live registry id := by
  have after := tracked.insert new
  constructor
  · intro live
    induction live with
    | @root id old found listening orphan =>
        rcases after.find?_eq_some.mp found with ⟨member, rfl⟩
        rcases Registry.mem_insert.mp member with before | rfl
        · exact .root (tracked.find?_id before) listening orphan
        · exact absurd older (by simp [new.next])
    | @child id parent old found listening below _ ih =>
        rcases after.find?_eq_some.mp found with ⟨member, rfl⟩
        rcases Registry.mem_insert.mp member with before | rfl
        · have above := tracked.descends old before parent below
          exact .child (tracked.find?_id before) listening below
            (ih (Nat.lt_trans above (tracked.issued old before)))
        · exact absurd older (by simp [new.next])
  · exact tracked.numbered.live_insert_of_live new.next

/-- A newcomer is live if it listens and its parent, if it has one, is live. -/
theorem Tracked.live_newcomer (tracked : Tracked registry)
    (new : registry.Newcomer entry) :
    Live (registry.insert entry) entry.id ↔ entry.isListening = true ∧
      ∀ parent, entry.parent = some parent → Live registry parent := by
  have found := (tracked.insert new).find?_id (Registry.mem_insert.mpr (.inr rfl))
  rw [Registry.live_iff_of_find? found]
  constructor
  · rintro ⟨listening, above⟩
    exact ⟨listening, fun parent below =>
      (tracked.live_insert new (new.below parent below)).mp (above parent below)⟩
  · rintro ⟨listening, above⟩
    exact ⟨listening, fun parent below =>
      (tracked.live_insert new (new.below parent below)).mpr (above parent below)⟩

theorem Registry.subscribers_insert (distinct : entry.protocols.Nodup)
    {protocol : String} :
    (registry.insert entry).index.subscribers protocol =
      if protocol ∈ entry.protocols
      then registry.index.subscribers protocol ++ [entry.id]
      else registry.index.subscribers protocol :=
  Index.subscribers_addAll distinct

theorem Registry.mem_subscribers_insert (distinct : entry.protocols.Nodup)
    {protocol : String} {id : PeerId} :
    id ∈ (registry.insert entry).index.subscribers protocol ↔
      id ∈ registry.index.subscribers protocol ∨
        id = entry.id ∧ protocol ∈ entry.protocols := by
  rw [Registry.subscribers_insert distinct]
  split_ifs with spoken <;> simp [spoken]

theorem Sound.insert (sound : Sound registry) (new : registry.Newcomer entry) :
    Sound (registry.insert entry) where
  tracked := sound.tracked.insert new
  listed :=
    { tidy := sound.listed.tidy.addAll
      sorted := fun protocol => by
        rw [Registry.subscribers_insert new.fluent.distinct]
        split_ifs
        · refine List.pairwise_append.mpr ⟨sound.listed.sorted protocol, by simp, ?_⟩
          intro id member last only
          obtain rfl := List.mem_singleton.mp only
          rw [new.next]
          exact sound.listed.handedOut protocol id member
        · exact sound.listed.sorted protocol
      handedOut := fun protocol id member => by
        show id < registry.nextId + 1
        have listed := (Registry.mem_subscribers_insert new.fluent.distinct).mp member
        rcases listed with before | last
        · exact Nat.lt_succ_of_lt (sound.listed.handedOut protocol id before)
        · exact Nat.lt_succ_of_le (Nat.le_of_eq (last.1.trans new.next))
      speaks := fun protocol other member spoken => by
        have listed := (Registry.mem_subscribers_insert new.fluent.distinct).mp spoken
        rcases listed with before | last
        · rcases Registry.mem_insert.mp member with known | rfl
          · exact sound.listed.speaks protocol other known before
          · have := sound.listed.handedOut protocol _ before
            exact absurd this (by simp [new.next])
        · rw [(sound.tracked.insert new).eq_of_id member
            (Registry.mem_insert.mpr (.inr rfl)) last.1]
          exact last.2
      complete := fun other member live protocol spoken => by
        refine (Registry.mem_subscribers_insert new.fluent.distinct).mpr ?_
        rcases Registry.mem_insert.mp member with known | rfl
        · exact .inl (sound.listed.complete other known
            ((sound.tracked.live_insert new (sound.tracked.issued other known)).mp live)
            protocol spoken)
        · exact .inr ⟨rfl, spoken⟩ }
  heard := (sound.orderly.insert new.next new.unopened).heard

end Insert

end EngineGateway.Peer
