import EngineGateway.Proofs.Peer.History

/-!
# Ids of peers

Every peer gets the id that comes next, whether a client is admitted or a relay is opened, and
an id is handed out once.  Nobody is tracked under an id except whoever was tracked under it
before or has just been handed it, so an id that is not tracked any more stays free.
-/

namespace EngineGateway.Peer

namespace Registry

variable {registry : Registry}

/-- The ids of the tracked peers. -/
def ids (registry : Registry) : List PeerId :=
  registry.entries.map Entry.id

theorem contains_iff {id : PeerId} : registry.contains id = true ↔ id ∈ registry.ids := by
  simp [contains, find?, ids, List.find?_isSome]

theorem mem_ids_of_find? {id : PeerId} {entry : Entry}
    (found : registry.find? id = some entry) : id ∈ registry.ids := by
  rw [← id_of_find? found]
  exact List.mem_map_of_mem (mem_of_find? found)

theorem mem_ids_of_live {id : PeerId} (live : Live registry id) : id ∈ registry.ids := by
  rcases exists_of_live live with ⟨entry, found, _⟩
  exact mem_ids_of_find? found

/-! ## Registries with fewer peers -/

theorem ids_update {id : PeerId} {change : Entry → Entry}
    (same : ∀ entry, (change entry).id = entry.id) :
    (registry.update id change).ids = registry.ids := by
  unfold ids update
  rw [List.map_map]
  refine List.map_congr_left fun entry _ => ?_
  simp only [Function.comp_apply]
  split_ifs
  · exact same entry
  · rfl

theorem ids_hangUp (id : PeerId) : (registry.hangUp id).ids = registry.ids :=
  ids_update fun _ => rfl

theorem ids_markOpen (id : PeerId) : (registry.markOpen id).2.ids = registry.ids := by
  cases found : registry.find? id with
  | none => simp only [markOpen, found]
  | some entry =>
      rw [markOpen_snd found]
      exact ids_update fun _ => rfl

theorem ids_restrict_subset (registry : Registry) (kept : Entry → Bool) :
    (registry.restrict kept).ids ⊆ registry.ids :=
  List.map_subset _ List.filter_sublist.subset

theorem ids_collect_subset : registry.collect.2.ids ⊆ registry.ids :=
  registry.ids_restrict_subset _

theorem mem_ids_release {id other : PeerId} :
    other ∈ (registry.release id).ids ↔ other ∈ registry.ids ∧ other ≠ id := by
  simp only [ids, release, List.mem_map, List.mem_filter, bne_iff_ne]
  constructor
  · rintro ⟨entry, ⟨member, differs⟩, rfl⟩
    exact ⟨⟨entry, member, rfl⟩, differs⟩
  · rintro ⟨⟨entry, member, rfl⟩, differs⟩
    exact ⟨entry, ⟨member, differs⟩, rfl⟩

theorem ids_insert (entry : Entry) :
    (registry.insert entry).ids = registry.ids ++ [entry.id] := by
  simp [ids, insert]

end Registry

/-! ## Handing out ids -/

/-- How the registry may have changed while some ids were handed out. -/
structure Issues (before after : Registry) (issued : List PeerId) : Prop where
  places : after.maxPeers = before.maxPeers
  next : after.nextId = before.nextId + issued.length
  numbered : issued = List.range' before.nextId issued.length
  tracks : ∀ id ∈ after.ids, id ∈ before.ids ∨ id ∈ issued

namespace Issues

variable {before between after : Registry} {issued more : List PeerId} {id : PeerId}

/-- No ids are handed out. -/
theorem of_subset (places : after.maxPeers = before.maxPeers)
    (next : after.nextId = before.nextId) (fewer : after.ids ⊆ before.ids) :
    Issues before after [] where
  places := places
  next := next
  numbered := rfl
  tracks _ member := .inl (fewer member)

theorem refl (registry : Registry) : Issues registry registry [] :=
  of_subset rfl rfl fun _ member => member

/-- A peer is tracked under the next id. -/
theorem insert (registry : Registry) {entry : Entry} (next : entry.id = registry.nextId) :
    Issues registry (registry.insert entry) [registry.nextId] where
  places := rfl
  next := rfl
  numbered := rfl
  tracks id member := by
    rw [Registry.ids_insert, next, List.mem_append] at member
    exact member

theorem trans (first : Issues before between issued) (second : Issues between after more) :
    Issues before after (issued ++ more) where
  places := second.places.trans first.places
  next := by rw [second.next, first.next, List.length_append, Nat.add_assoc]
  numbered := by
    rw [List.length_append, ← List.range'_append_1, ← first.numbered, ← first.next,
      ← second.numbered]
  tracks id member := by
    rw [List.mem_append, ← or_assoc]
    rcases second.tracks id member with earlier | later
    · exact .inl (first.tracks id earlier)
    · exact .inr later

/-- The ids are new. -/
theorem le_of_mem (issues : Issues before after issued) (member : id ∈ issued) :
    before.nextId ≤ id ∧ id < after.nextId := by
  rw [issues.numbered, List.mem_range'_1] at member
  rw [issues.next]
  exact member

theorem increasing (issues : Issues before after issued) : issued.Pairwise (· < ·) := by
  rw [issues.numbered]
  exact List.pairwise_lt_range'

theorem nextId_le (issues : Issues before after issued) : before.nextId ≤ after.nextId :=
  issues.next ▸ Nat.le_add_right _ _

/-- An id is handed out once, and nobody is tracked again under an id that is not tracked any
more. -/
theorem not_again (first : Issues before between issued) (second : Issues between after more)
    (known : id ∈ issued) : id ∉ more ∧ (id ∉ between.ids → id ∉ after.ids) := by
  have earlier := (first.le_of_mem known).2
  have fresh : id ∉ more := fun again => absurd (second.le_of_mem again).1 (Nat.not_le.mpr earlier)
  refine ⟨fresh, fun gone tracked => ?_⟩
  exact (second.tracks id tracked).elim gone fresh

end Issues

/-! ## Operations -/

/-- The ids that an answer hands out. -/
def Answer.issued : Answer → List PeerId
  | .admitted id => [id]
  | .relays requests => requests.map RelayRequest.id
  | .done | .refused _ | .detached _ | .collected _ | .sent _ => []

/-- The ids that a history hands out, in the order of handing out. -/
def issuedIds (outcomes : List Outcome) : List PeerId :=
  outcomes.flatMap fun outcome => outcome.answer.issued

namespace Registry

variable {registry : Registry}

theorem issues_markOpen (registry : Registry) (id : PeerId) :
    Issues registry (registry.markOpen id).2 [] := by
  cases found : registry.find? id with
  | none =>
      simp only [markOpen, found]
      exact .refl registry
  | some entry =>
      have same : (registry.markOpen id).2.ids = registry.ids := ids_markOpen id
      rw [markOpen_snd found] at same ⊢
      exact .of_subset rfl rfl (same ▸ fun _ member => member)

theorem issues_detach (registry : Registry) : Issues registry registry.detach.2.2 [] := by
  cases attached : registry.engine with
  | none =>
      rw [detach_of_none attached]
      exact .refl registry
  | some engine =>
      rw [detach_of_some attached]
      exact .of_subset rfl rfl (List.Subset.trans ids_collect_subset (ids_restrict_subset _ _))

theorem issues_route (registry : Registry) (directive : Directive) (parent : Option PeerId) :
    Issues registry (registry.route directive parent).2.2
      ((registry.route directive parent).1.map RelayRequest.id) := by
  obtain ⟨nothing, same | pruned⟩ | ⟨url, _, _, opened, after⟩ :=
    registry.route_steps directive parent
  · rw [nothing, same]
    exact .refl registry
  · rw [nothing, pruned]
    exact .of_subset rfl rfl fun _ member => member
  · rw [opened, after]
    have next : (registry.relayEntry url directive.protocol parent).id =
        (registry.prune directive.protocol).nextId := rfl
    have inserted := Issues.insert (registry.prune directive.protocol) next
    exact ⟨inserted.places, inserted.next, inserted.numbered, inserted.tracks⟩

/-- One operation hands out at most the next id. -/
theorem issues_apply (registry : Registry) (operation : Operation) :
    Issues registry (registry.apply operation).2
      (registry.apply operation).1.answer.issued := by
  cases operation with
  | connect address trusted protocols =>
      rcases registry.connect_cases address trusted protocols with
        ⟨refusal, refused⟩ | ⟨_, admitted⟩
      · simp only [apply, refused]
        exact .refl registry
      · simp only [apply, admitted]
        exact .insert registry rfl
  | markOpen id => exact registry.issues_markOpen id
  | release id => exact .of_subset rfl rfl (registry.ids_restrict_subset _)
  | attach engine => exact .of_subset rfl rfl fun _ member => member
  | detach => exact registry.issues_detach
  | collect => exact .of_subset rfl rfl ids_collect_subset
  | route directive parent => exact registry.issues_route directive parent
  | send id frame => exact .refl registry
  | hangUp id =>
      exact .of_subset rfl rfl ((ids_hangUp id).symm ▸ fun _ member => member)

theorem issues_run (registry : Registry) (operations : List Operation) :
    Issues registry (registry.run operations).2 (issuedIds (registry.run operations).1) := by
  induction operations generalizing registry with
  | nil => exact .refl registry
  | cons operation rest ih => exact (registry.issues_apply operation).trans (ih _)

end Registry
end EngineGateway.Peer
