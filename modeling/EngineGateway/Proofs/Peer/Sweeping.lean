import EngineGateway.Proofs.Peer.Channel
import EngineGateway.Proofs.Peer.Ids

/-!
# What collecting leaves

Collecting forgets the peers that are not live, all of them at once and nobody else.  Everyone
above a live peer is live, so those who stay do not miss any of those who go.  Of the lists
remain the ids of the peers that stay.  After that every tracked peer is live and nobody else is
listed, and there is nothing to collect until a peer is forgotten, stops listening, or gets a
relay opened although it is gone.
-/

namespace EngineGateway.Peer

variable {registry : Registry} {id : PeerId}

/-! ## Peers and those above them -/

/-- The second peer is the first or one of those above it. -/
inductive Descends (registry : Registry) : PeerId → PeerId → Prop where
  | itself {id : PeerId} : Descends registry id id
  | above {id parent elder : PeerId} {entry : Entry} :
      registry.find? id = some entry → entry.parent = some parent →
      Descends registry parent elder → Descends registry id elder

/-- Everyone above a live peer is live. -/
theorem Live.elder {elder : PeerId} (live : Live registry id)
    (descends : Descends registry id elder) : Live registry elder := by
  induction descends with
  | itself => exact live
  | above found parent _ ih => exact ih (((Registry.live_iff_of_find? found).mp live).2 _ parent)

/-- After some peers have been forgotten those are live that were, and that have lost neither
themselves nor anyone above them. -/
theorem Numbered.live_restrict_iff (numbered : Numbered registry) {kept : Entry → Bool} :
    Live (registry.restrict kept) id ↔ Live registry id ∧
      ∀ elder entry, Descends registry id elder → registry.find? elder = some entry →
        kept entry = true := by
  -- Both ways the induction goes from the peer without a parent down to the peer itself.
  constructor
  · intro live
    refine ⟨numbered.live_of_restrict live, ?_⟩
    induction live with
    | root found listening orphan =>
        obtain ⟨before, stays⟩ := numbered.find?_restrict.mp found
        intro elder entry descends tracked
        cases descends with
        | itself => exact Option.some.inj (before.symm.trans tracked) ▸ stays
        | above same parent _ =>
            cases before.symm.trans same
            cases orphan.symm.trans parent
    | child found listening below _ ih =>
        obtain ⟨before, stays⟩ := numbered.find?_restrict.mp found
        intro elder entry descends tracked
        cases descends with
        | itself => exact Option.some.inj (before.symm.trans tracked) ▸ stays
        | above same parent descends =>
            cases before.symm.trans same
            cases below.symm.trans parent
            exact ih elder entry descends tracked
  · rintro ⟨live, stay⟩
    induction live with
    | root found listening orphan =>
        have stays := stay _ _ .itself found
        exact .root (numbered.find?_restrict.mpr ⟨found, stays⟩) listening orphan
    | child found listening parent _ ih =>
        have stays := stay _ _ .itself found
        have above := ih fun elder entry descends => stay elder entry (.above found parent descends)
        exact .child (numbered.find?_restrict.mpr ⟨found, stays⟩) listening parent above

/-! ## One collection -/

/-- The later lists name of the earlier ones whoever is still tracked, in the same order, and
those protocols are listed, once each, of which somebody is left. -/
structure Trimmed (before after : Registry) : Prop where
  audience : after.audience = before.audience.filter after.contains
  subscribers : ∀ protocol, after.index.subscribers protocol =
    (before.index.subscribers protocol).filter after.contains
  listed : ∀ protocol, protocol ∈ after.index.map Prod.fst ↔
    after.index.subscribers protocol ≠ []
  once : (after.index.map Prod.fst).Nodup

theorem Orderly.trimmed_collect (orderly : Orderly registry) :
    Trimmed registry registry.collect.2 where
  audience := rfl
  subscribers _ := Index.subscribers_keep orderly.tidy
  listed _ := orderly.tidy.keep.listed_iff
  once := orderly.tidy.keep.distinct

theorem Numbered.find?_collect (numbered : Numbered registry) {entry : Entry} :
    registry.collect.2.find? id = some entry ↔
      registry.find? id = some entry ∧ Live registry id := by
  refine numbered.find?_restrict.trans (and_congr_right fun found => ?_)
  rw [Registry.id_of_find? found]
  exact Registry.isLive_iff

theorem Numbered.live_collect (numbered : Numbered registry) :
    Live registry.collect.2 id ↔ Live registry id := by
  have same : Live registry.collect.2 id ↔ Live registry.living id :=
    Registry.live_iff_of_entries rfl
  rw [same, Registry.living, numbered.live_restrict_iff]
  refine and_iff_left_of_imp fun live elder entry descends found => ?_
  rw [Registry.isLive_iff, Registry.id_of_find? found]
  exact live.elder descends

open Classical in
theorem Registry.collect_fst (registry : Registry) :
    registry.collect.1 = registry.entries.countP fun entry => ¬ Live registry entry.id := by
  have kept : (fun entry : Entry => decide (Live registry entry.id)) =
      fun entry => registry.isLive entry.id := by
    funext entry
    rw [Bool.eq_iff_iff, decide_eq_true_eq, Registry.isLive_iff]
  have split := registry.entries.length_eq_countP_add_countP fun entry => Live registry entry.id
  simp only [decide_eq_true_eq] at split
  show registry.entries.length - (registry.entries.filter _).length = _
  rw [← List.countP_eq_length_filter, ← kept]
  omega

/-! ## Nothing left to collect -/

/-- Every tracked peer is live, and nobody else is listed. -/
structure Clean (registry : Registry) : Prop where
  living : ∀ entry ∈ registry.entries, Live registry entry.id
  heard : ∀ id ∈ registry.audience, registry.contains id = true
  listed : ∀ protocol, ∀ id ∈ registry.index.subscribers protocol, registry.contains id = true

theorem Orderly.clean_collect (orderly : Orderly registry) : Clean registry.collect.2 where
  living entry member := by
    have found := orderly.collect.numbered.find?_id member
    exact orderly.numbered.live_collect.mpr (orderly.numbered.find?_collect.mp found).2
  heard id member := by
    rw [orderly.trimmed_collect.audience] at member
    exact List.of_mem_filter member
  listed protocol id member := by
    rw [orderly.trimmed_collect.subscribers] at member
    exact List.of_mem_filter member

theorem Clean.collect (clean : Clean registry) (orderly : Orderly registry) :
    registry.collect = (0, registry) := by
  have all : registry.entries.filter (fun entry => registry.isLive entry.id) = registry.entries :=
    List.filter_eq_self.mpr fun entry member => Registry.isLive_iff.mpr (clean.living entry member)
  have heard : registry.audience.filter registry.contains = registry.audience :=
    List.filter_eq_self.mpr clean.heard
  have listed : registry.index.keep registry.contains = registry.index :=
    orderly.tidy.keep_eq_self clean.listed
  simp only [Registry.collect, all, Nat.sub_self]
  exact congrArg (Prod.mk 0) (by rw [heard, listed])

theorem Clean.live_of_contains (clean : Clean registry) (present : registry.contains id = true) :
    Live registry id := by
  obtain ⟨entry, member, rfl⟩ := List.mem_map.mp (Registry.contains_iff.mp present)
  exact clean.living entry member

/-- The lists may get shorter. -/
theorem Clean.shorten (clean : Clean registry) {next : Registry}
    (same : next.entries = registry.entries) (heard : next.audience ⊆ registry.audience)
    (listed : ∀ protocol,
      next.index.subscribers protocol ⊆ registry.index.subscribers protocol) : Clean next := by
  have present (id : PeerId) : next.contains id = registry.contains id := by
    simp only [Registry.contains, Registry.find?, same]
  constructor
  · intro entry member
    exact Registry.live_of_entries (clean.living entry (same ▸ member)) same.symm
  · intro id member
    rw [present]
    exact clean.heard id (heard member)
  · intro protocol id member
    rw [present]
    exact clean.listed protocol id (listed protocol member)

theorem Registry.live_opened {opening : PeerId} (live : Live registry id) :
    Live (registry.update opening Entry.opened) id := by
  refine Registry.live_of_shrunk (fun id entry found => ?_) live
  refine ⟨Registry.changed opening Entry.opened entry, ?_,
    (harmless_opened.changed opening).parent entry, ?_⟩
  · rw [Registry.find?_update harmless_opened, found]
    rfl
  · unfold Registry.changed
    split_ifs <;> exact fun listening => listening

theorem Clean.markOpen (clean : Clean registry) (opening : PeerId) :
    Clean (registry.markOpen opening).2 := by
  have present (id : PeerId) :
      (registry.markOpen opening).2.contains id = registry.contains id := by
    rw [Bool.eq_iff_iff, Registry.contains_iff, Registry.contains_iff, Registry.ids_markOpen]
  cases found : registry.find? opening with
  | none => simpa only [Registry.markOpen, found] using clean
  | some entry =>
      rw [Registry.markOpen_snd found] at present ⊢
      constructor
      · intro entry member
        obtain ⟨old, before, rfl⟩ := Registry.mem_update.mp member
        rw [(harmless_opened.changed opening).id]
        exact Registry.live_of_entries (Registry.live_opened (clean.living old before)) rfl
      · intro id heard
        rw [present]
        simp only at heard
        split_ifs at heard
        · exact clean.heard id heard
        · rcases List.mem_append.mp heard with before | joined
          · exact clean.heard id before
          · rw [List.mem_singleton.mp joined]
            exact Option.isSome_iff_exists.mpr ⟨entry, found⟩
      · intro protocol id listed
        rw [present]
        exact clean.listed protocol id listed

theorem Clean.insert (clean : Clean registry) (numbered : Numbered registry) {entry : Entry}
    (next : entry.id = registry.nextId) (distinct : entry.protocols.Nodup)
    (listening : entry.isListening = true)
    (below : ∀ parent, entry.parent = some parent → registry.contains parent = true) :
    Clean (registry.insert entry) := by
  have stays {id : PeerId} (present : registry.contains id = true) :
      (registry.insert entry).contains id = true := by
    rw [Registry.contains_iff] at present ⊢
    rw [Registry.ids_insert]
    exact List.mem_append_left _ present
  have found := (numbered.insert next).find?_id (Registry.mem_insert.mpr (.inr rfl))
  constructor
  · intro other member
    rcases Registry.mem_insert.mp member with before | rfl
    · exact numbered.live_insert_of_live next (clean.living other before)
    · refine (Registry.live_iff_of_find? found).mpr ⟨listening, fun parent same => ?_⟩
      exact numbered.live_insert_of_live next (clean.live_of_contains (below parent same))
  · intro id heard
    exact stays (clean.heard id heard)
  · intro protocol id member
    rcases (Registry.mem_subscribers_insert distinct).mp member with before | ⟨rfl, _⟩
    · exact stays (clean.listed protocol id before)
    · exact Option.isSome_iff_exists.mpr ⟨entry, found⟩

theorem Clean.release {leaving : PeerId} (clean : Clean registry)
    (absent : registry.find? leaving = none) : Clean (registry.release leaving) := by
  have all : (registry.release leaving).entries = registry.entries := by
    refine List.filter_eq_self.mpr fun entry member => ?_
    simpa using List.find?_eq_none.mp absent entry member
  exact clean.shorten all (List.Subset.refl _) fun _ => List.Subset.refl _

theorem Clean.prune (clean : Clean registry) (orderly : Orderly registry) (protocol : String) :
    Clean (registry.prune protocol) := by
  refine clean.shorten rfl (List.Subset.refl _) fun listed => ?_
  show (registry.index.keepUnder _ _).subscribers listed ⊆ _
  rw [Index.subscribers_keepUnder orderly.tidy]
  split_ifs
  · exact List.filter_subset_self _
  · exact List.Subset.refl _

theorem Clean.route (clean : Clean registry) (orderly : Orderly registry)
    {directive : Directive} {parent : Option PeerId}
    (below : ∀ sender, parent = some sender → registry.contains sender = true) :
    Clean (registry.route directive parent).2.2 := by
  have pruned := clean.prune orderly directive.protocol
  obtain ⟨_, same | struck⟩ | ⟨url, _, _, _, opened⟩ := registry.route_steps directive parent
  · rw [same]
    exact clean
  · rw [struck]
    exact pruned
  · rw [opened]
    exact pruned.insert (orderly.prune _).numbered rfl (List.nodup_singleton _) rfl below

/-- The operation takes nobody away, and opens no relay below a peer that is gone. -/
def Operation.Spares (registry : Registry) : Operation → Prop
  | .release id | .hangUp id => registry.contains id = false
  | .route _ (some parent) => registry.contains parent = true
  | _ => True

/-- Every operation of a history is such a one when its turn comes. -/
def Registry.Spared (registry : Registry) : List Operation → Prop
  | [] => True
  | operation :: rest =>
      operation.Spares registry ∧ (registry.apply operation).2.Spared rest

theorem Clean.apply (clean : Clean registry) (orderly : Orderly registry)
    {operation : Operation} (spares : operation.Spares registry) :
    Clean (registry.apply operation).2 := by
  have absent {id : PeerId} (missing : registry.contains id = false) :
      registry.find? id = none := by
    simpa [Registry.contains] using missing
  cases operation with
  | connect address trusted protocols =>
      rcases registry.connect_cases address trusted protocols with
        ⟨refusal, refused⟩ | ⟨_, admitted⟩
      · simp only [Registry.apply, refused]
        exact clean
      · simp only [Registry.apply, admitted]
        exact clean.insert orderly.numbered rfl (nodup_eraseDups _) rfl
          (by simp [Registry.clientEntry])
  | markOpen id => exact clean.markOpen id
  | release id => exact clean.release (absent spares)
  | attach engine => exact clean.shorten rfl (List.Subset.refl _) fun _ => List.Subset.refl _
  | detach =>
      cases attached : registry.engine with
      | none =>
          show Clean registry.detach.2.2
          rw [Registry.detach_of_none attached]
          exact clean
      | some engine =>
          show Clean registry.detach.2.2
          rw [Registry.detach_of_some attached]
          exact orderly.withoutEngine.clean_collect
  | collect => exact orderly.clean_collect
  | route directive parent =>
      refine clean.route orderly ?_
      rintro sender rfl
      exact spares
  | send id frame => exact clean
  | hangUp id =>
      show Clean (registry.hangUp id)
      rw [Registry.hangUp, Registry.update_of_absent (absent spares)]
      exact clean

theorem Clean.run (clean : Clean registry) (orderly : Orderly registry)
    {operations : List Operation} (spared : registry.Spared operations) :
    Clean (registry.run operations).2 := by
  induction operations generalizing registry with
  | nil => exact clean
  | cons operation rest ih =>
      exact ih (clean.apply orderly spared.1) (orderly.apply operation) spared.2

open Classical in
/-- Wherever a history has led, collecting forgets exactly the peers that are not live.  It
answers how many they were, leaves the others as they are and live, leaves of the lists whoever
is still tracked, and queues nothing.  Collecting again finds nobody and changes nothing, at
once or after any operations that take nobody away and open no relay below a peer that is
gone. -/
theorem dead_collected (maxPeers : Nat) (past : List Operation) :
    let registry := ((Registry.empty maxPeers).run past).2
    let (outcome, after) := registry.apply .collect
    outcome = ⟨.collected (registry.entries.countP fun entry => ¬ Live registry entry.id), []⟩ ∧
    (∀ id entry, after.find? id = some entry ↔
      registry.find? id = some entry ∧ Live registry id) ∧
    (∀ id, Live after id ↔ Live registry id) ∧
    Trimmed registry after ∧
    (after.maxPeers = registry.maxPeers ∧ after.nextId = registry.nextId ∧
      after.engine = registry.engine) ∧
    after.apply .collect = (⟨.collected 0, []⟩, after) ∧
    ∀ later, after.Spared later →
      (after.run later).2.apply .collect = (⟨.collected 0, []⟩, (after.run later).2) := by
  intro registry
  have orderly : Orderly registry := (Orderly.empty maxPeers).run past
  have settled {registry : Registry} (clean : Clean registry) (orderly : Orderly registry) :
      registry.apply .collect = (⟨.collected 0, []⟩, registry) := by
    simp only [Registry.apply, clean.collect orderly]
  have clean : Clean registry.collect.2 := orderly.clean_collect
  refine ⟨congrArg (fun count => Outcome.mk (.collected count) []) registry.collect_fst,
    fun _ _ => orderly.numbered.find?_collect, fun _ => orderly.numbered.live_collect,
    orderly.trimmed_collect, ⟨rfl, rfl, rfl⟩, settled clean orderly.collect, ?_⟩
  intro later spared
  exact settled (clean.run orderly.collect spared) (orderly.collect.run later)

end EngineGateway.Peer
