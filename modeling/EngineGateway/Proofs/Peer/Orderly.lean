import EngineGateway.Peer.Operation
import EngineGateway.Proofs.Peer.Listing
import EngineGateway.Proofs.Peer.Liveness

/-!
# Orderly registries

The part of the registry's invariant that rests on nobody outside, not even on directives
coming from peers that exist.  Peers are tracked in the order of their ids, and the audience
consists, as far as tracked peers go, of those that are open.  Ids of peers that are gone may
remain listed anywhere.

Operations are made of a few changes: forgetting some peers, striking ids from the lists,
changing one peer in place, and tracking one more.  Each change keeps a registry orderly.
-/

namespace EngineGateway.Peer

/-- Peers are tracked in the order of their ids, all of which have been handed out. -/
structure Numbered (registry : Registry) : Prop where
  ordered : registry.entries.Pairwise fun earlier later => earlier.id < later.id
  issued : ∀ entry ∈ registry.entries, entry.id < registry.nextId

/-- What holds of the audience. -/
structure Heard (registry : Registry) : Prop where
  once : registry.audience.Nodup
  known : ∀ id ∈ registry.audience, id < registry.nextId
  opened : ∀ entry ∈ registry.entries,
    entry.id ∈ registry.audience ↔ entry.isOpen = true

/-- What holds of the registry whatever happens to it. -/
structure Orderly (registry : Registry) : Prop where
  numbered : Numbered registry
  tidy : registry.index.Tidy
  heard : Heard registry

variable {registry : Registry}

/-! ## Looking peers up -/

theorem Numbered.find?_eq_some (numbered : Numbered registry) {id : PeerId} {entry : Entry} :
    registry.find? id = some entry ↔ entry ∈ registry.entries ∧ entry.id = id := by
  constructor
  · exact fun found => ⟨Registry.mem_of_find? found, Registry.id_of_find? found⟩
  · rintro ⟨member, rfl⟩
    have ordered := numbered.ordered
    rw [Registry.find?]
    generalize registry.entries = entries at ordered member
    induction entries with
    | nil => simp at member
    | cons first rest ih =>
        rcases List.pairwise_cons.mp ordered with ⟨before, ordered⟩
        rcases List.mem_cons.mp member with rfl | later
        · simp
        · have differs : (first.id == entry.id) = false := by
            simpa using Nat.ne_of_lt (before entry later)
          rw [List.find?_cons, differs]
          exact ih ordered later

theorem Numbered.find?_id (numbered : Numbered registry) {entry : Entry}
    (member : entry ∈ registry.entries) : registry.find? entry.id = some entry :=
  numbered.find?_eq_some.mpr ⟨member, rfl⟩

/-! ## Forgetting peers -/

namespace Registry

/-- Track only some of the peers. -/
def restrict (registry : Registry) (kept : Entry → Bool) : Registry :=
  { registry with entries := registry.entries.filter kept }

end Registry

theorem Numbered.restrict (numbered : Numbered registry) (kept : Entry → Bool) :
    Numbered (registry.restrict kept) where
  ordered := numbered.ordered.sublist List.filter_sublist
  issued entry member := numbered.issued entry (List.mem_of_mem_filter member)

theorem Numbered.find?_restrict (numbered : Numbered registry) {kept : Entry → Bool}
    {id : PeerId} {entry : Entry} :
    (registry.restrict kept).find? id = some entry ↔
      registry.find? id = some entry ∧ kept entry = true := by
  rw [(numbered.restrict kept).find?_eq_some, numbered.find?_eq_some, Registry.restrict,
    List.mem_filter]
  exact and_right_comm

/-- Forgetting peers brings none to life. -/
theorem Numbered.live_of_restrict (numbered : Numbered registry) {kept : Entry → Bool}
    {id : PeerId} (live : Live (registry.restrict kept) id) : Live registry id := by
  refine Registry.live_of_shrunk (fun id entry found => ?_) live
  exact ⟨entry, (numbered.find?_restrict.mp found).1, rfl, fun listening => listening⟩

theorem Orderly.restrict (orderly : Orderly registry) (kept : Entry → Bool) :
    Orderly (registry.restrict kept) where
  numbered := orderly.numbered.restrict kept
  tidy := orderly.tidy
  heard :=
    { orderly.heard with
      opened := fun entry member =>
        orderly.heard.opened entry (List.mem_of_mem_filter member) }

/-! ## Striking ids -/

theorem Orderly.strike (orderly : Orderly registry) {index : Index} (tidy : index.Tidy) :
    Orderly { registry with index := index } where
  numbered := ⟨orderly.numbered.ordered, orderly.numbered.issued⟩
  tidy := tidy
  heard := ⟨orderly.heard.once, orderly.heard.known, orderly.heard.opened⟩

/-- Ids of peers that are not tracked may be struck from the audience. -/
theorem Orderly.thin (orderly : Orderly registry) :
    Orderly { registry with audience := registry.audience.filter registry.contains } where
  numbered := ⟨orderly.numbered.ordered, orderly.numbered.issued⟩
  tidy := orderly.tidy
  heard :=
    { once := orderly.heard.once.sublist List.filter_sublist
      known := fun id member => orderly.heard.known id (List.mem_of_mem_filter member)
      opened := fun entry member => by
        have present : registry.contains entry.id = true := by
          simp [Registry.contains, orderly.numbered.find?_id member]
        simp only [List.mem_filter, present, and_true]
        exact orderly.heard.opened entry member }

theorem Orderly.withEngine (orderly : Orderly registry) (engine : Option Engine.Identity) :
    Orderly { registry with engine := engine } where
  numbered := ⟨orderly.numbered.ordered, orderly.numbered.issued⟩
  tidy := orderly.tidy
  heard := ⟨orderly.heard.once, orderly.heard.known, orderly.heard.opened⟩

/-! ## Changing peers in place -/

/-- The change leaves alone what the invariant looks at in the entries and in
the index, and makes no peer listen. -/
structure Harmless (change : Entry → Entry) : Prop where
  id : ∀ entry, (change entry).id = entry.id
  parent : ∀ entry, (change entry).parent = entry.parent
  protocols : ∀ entry, (change entry).protocols = entry.protocols
  listening : ∀ entry, (change entry).isListening = true → entry.isListening = true

/-- What `update` does to each entry. -/
def Registry.changed (id : PeerId) (change : Entry → Entry) (entry : Entry) : Entry :=
  if entry.id = id then change entry else entry

theorem Harmless.changed {change : Entry → Entry} (harmless : Harmless change)
    (id : PeerId) : Harmless (Registry.changed id change) := by
  constructor <;> intro entry <;> unfold Registry.changed <;> split_ifs
  · exact harmless.id entry
  · rfl
  · exact harmless.parent entry
  · rfl
  · exact harmless.protocols entry
  · rfl
  · exact harmless.listening entry
  · exact fun listening => listening

section Update

variable {id : PeerId} {change : Entry → Entry}

theorem Registry.mem_update {entry : Entry} :
    entry ∈ (registry.update id change).entries ↔
      ∃ old ∈ registry.entries, Registry.changed id change old = entry :=
  List.mem_map

theorem Registry.find?_update (harmless : Harmless change) (other : PeerId) :
    (registry.update id change).find? other =
      (registry.find? other).map (Registry.changed id change) := by
  refine (List.find?_map).trans (congrArg _ (congrArg (registry.entries.find? ·) ?_))
  funext entry
  exact congrArg (· == other) ((harmless.changed id).id entry)

/-- Changing a peer that is not tracked changes nothing. -/
theorem Registry.update_of_absent (absent : registry.find? id = none) :
    registry.update id change = registry := by
  have each : ∀ entry ∈ registry.entries, Registry.changed id change entry = entry := by
    intro entry member
    have other : entry.id ≠ id := by
      simpa using List.find?_eq_none.mp absent entry member
    exact if_neg other
  have untouched : registry.entries.map (Registry.changed id change) = registry.entries :=
    (List.map_congr_left each).trans (List.map_id _)
  exact congrArg (fun entries => { registry with entries := entries }) untouched

theorem Numbered.update (numbered : Numbered registry) (harmless : Harmless change) :
    Numbered (registry.update id change) where
  ordered := by
    refine List.pairwise_map.mpr (numbered.ordered.imp fun {old later} less => ?_)
    have same := (harmless.changed id).id
    simp only [Registry.changed] at same
    rwa [same, same]
  issued entry member := by
    rcases Registry.mem_update.mp member with ⟨old, before, rfl⟩
    rw [(harmless.changed id).id]
    exact numbered.issued old before

end Update

/-- Nothing takes the frames of the peer any more. -/
def Entry.silenced (entry : Entry) : Entry := { entry with isListening := false }

/-- The connection of the peer is established. -/
def Entry.opened (entry : Entry) : Entry := { entry with isOpen := true }

theorem harmless_silenced : Harmless Entry.silenced := by
  constructor <;> simp [Entry.silenced]

theorem harmless_opened : Harmless Entry.opened := by
  constructor <;> simp [Entry.opened]

theorem Orderly.hangUp (orderly : Orderly registry) (id : PeerId) :
    Orderly (registry.hangUp id) where
  numbered := orderly.numbered.update harmless_silenced
  tidy := orderly.tidy
  heard :=
    { orderly.heard with
      opened := fun entry member => by
        rcases Registry.mem_update.mp member with ⟨old, before, rfl⟩
        have asBefore := orderly.heard.opened old before
        unfold Registry.changed
        split_ifs <;> exact asBefore }

/-- The registry after the connection of a tracked peer is established. -/
theorem Registry.markOpen_snd {id : PeerId} {entry : Entry}
    (found : registry.find? id = some entry) :
    (registry.markOpen id).2 =
      { registry.update id Entry.opened with
        audience := if registry.audience.contains id then registry.audience
          else registry.audience ++ [id] } := by
  simp only [Registry.markOpen, found]
  rfl

theorem Orderly.markOpen (orderly : Orderly registry) (id : PeerId) :
    Orderly (registry.markOpen id).2 := by
  cases found : registry.find? id with
  | none =>
      simp only [Registry.markOpen, found]
      exact orderly
  | some entry =>
      rcases orderly.numbered.find?_eq_some.mp found with ⟨member, rfl⟩
      have fresh : entry.id < registry.nextId := orderly.numbered.issued entry member
      have joined : ∀ other, other ∈ (if registry.audience.contains entry.id
            then registry.audience else registry.audience ++ [entry.id]) ↔
          other ∈ registry.audience ∨ other = entry.id := by
        intro other
        split_ifs with already
        · have : entry.id ∈ registry.audience := by simpa using already
          constructor
          · exact .inl
          · rintro (before | rfl)
            · exact before
            · exact this
        · simp
      have numbered : Numbered (registry.update entry.id Entry.opened) :=
        orderly.numbered.update harmless_opened
      rw [Registry.markOpen_snd found]
      refine
        { numbered := ⟨numbered.ordered, numbered.issued⟩
          tidy := orderly.tidy
          heard := ⟨?_, fun other heard => ?_, fun old before => ?_⟩ }
      · simp only
        split_ifs with already
        · exact orderly.heard.once
        · have absent : entry.id ∉ registry.audience := by simpa using already
          exact List.nodup_append.mpr ⟨orderly.heard.once, by simp, by
            intro other before last only same
            rw [List.mem_singleton.mp only] at same
            exact absent (same ▸ before)⟩
      · rcases (joined other).mp heard with before | rfl
        · exact orderly.heard.known other before
        · exact fresh
      · rcases Registry.mem_update.mp before with ⟨older, known, rfl⟩
        simp only [joined]
        have asBefore := orderly.heard.opened older known
        unfold Registry.changed
        split_ifs with same
        · simp [Entry.opened, same]
        · simp [same, asBefore]

/-! ## Tracking one more peer -/

section Insert

variable {entry : Entry}

theorem Registry.mem_insert {other : Entry} :
    other ∈ (registry.insert entry).entries ↔
      other ∈ registry.entries ∨ other = entry := by
  simp [Registry.insert]

theorem Numbered.insert (numbered : Numbered registry) (next : entry.id = registry.nextId) :
    Numbered (registry.insert entry) where
  ordered := by
    refine List.pairwise_append.mpr ⟨numbered.ordered, by simp, ?_⟩
    intro old member last only
    obtain rfl := List.mem_singleton.mp only
    rw [next]
    exact numbered.issued old member
  issued other member := by
    show other.id < registry.nextId + 1
    rcases Registry.mem_insert.mp member with before | rfl
    · exact Nat.lt_succ_of_lt (numbered.issued other before)
    · exact Nat.lt_succ_of_le (Nat.le_of_eq next)

theorem Numbered.live_insert_of_live (numbered : Numbered registry)
    (next : entry.id = registry.nextId) {id : PeerId} (live : Live registry id) :
    Live (registry.insert entry) id := by
  refine Registry.live_of_shrunk (fun id old found => ?_) live
  rcases numbered.find?_eq_some.mp found with ⟨member, rfl⟩
  exact ⟨old, (numbered.insert next).find?_id (Registry.mem_insert.mpr (.inl member)), rfl,
    fun listening => listening⟩

theorem Orderly.insert (orderly : Orderly registry) (next : entry.id = registry.nextId)
    (unopened : entry.isOpen = false) : Orderly (registry.insert entry) where
  numbered := orderly.numbered.insert next
  tidy := orderly.tidy.addAll
  heard :=
    { once := orderly.heard.once
      known := fun id member => Nat.lt_succ_of_lt (orderly.heard.known id member)
      opened := fun other member => by
        rcases Registry.mem_insert.mp member with known | rfl
        · exact orderly.heard.opened other known
        · have absent : other.id ∉ registry.audience := fun member =>
            absurd (orderly.heard.known _ member) (by simp [next])
          exact iff_of_false absent (by simp [unopened]) }

end Insert

end EngineGateway.Peer
