import EngineGateway.Proofs.Peer.History

/-!
# What is queued on the channel of a peer

Frames that an operation queues are told apart by the peer that they are for.
An announcement reaches the open live peers and a directive's message the live
subscribers of its protocol, each of them once, although both are found through
lists that may still name peers that are gone.
-/

namespace EngineGateway.Peer

/-- The frames for one peer, in the order of queueing. -/
def framesTo (id : PeerId) (sent : List Delivery) : List Frame :=
  (sent.filter (·.peer == id)).map Delivery.frame

@[simp] theorem framesTo_nil (id : PeerId) : framesTo id [] = [] := rfl

@[simp] theorem framesTo_append (id : PeerId) (first second : List Delivery) :
    framesTo id (first ++ second) = framesTo id first ++ framesTo id second := by
  simp [framesTo]

theorem framesTo_post (id : PeerId) (entry : Entry) (frame : Frame) :
    framesTo id (Registry.post entry frame) =
      if entry.id = id ∧ entry.isListening = true then [frame] else [] := by
  unfold Registry.post framesTo
  by_cases same : entry.id = id <;> by_cases listening : entry.isListening = true <;>
    simp [same, listening]

/-- A frame that is queued for each of several different peers is queued once
for those of them that listen, and for nobody else. -/
theorem framesTo_flatMap_post {entries : List Entry}
    (distinct : entries.Pairwise fun entry later => entry.id ≠ later.id)
    (frame : Frame) (id : PeerId) :
    framesTo id (entries.flatMap fun entry => Registry.post entry frame) =
      if ∃ entry ∈ entries, entry.id = id ∧ entry.isListening = true
      then [frame] else [] := by
  induction entries with
  | nil => simp
  | cons first rest ih =>
      rcases List.pairwise_cons.mp distinct with ⟨differs, distinct⟩
      rw [List.flatMap_cons, framesTo_append, framesTo_post, ih distinct]
      by_cases here : first.id = id ∧ first.isListening = true
      · have noneLater : ¬ ∃ entry ∈ rest, entry.id = id ∧ entry.isListening = true := by
          rintro ⟨entry, later, same, _⟩
          exact differs entry later (here.1.trans same.symm)
        rw [if_pos here, if_neg noneLater, if_pos ⟨first, .head _, here⟩,
          List.append_nil]
      · rw [if_neg here, List.nil_append]
        refine if_congr ?_ rfl rfl
        constructor
        · rintro ⟨entry, later, hears⟩
          exact ⟨entry, .tail _ later, hears⟩
        · rintro ⟨entry, member, hears⟩
          rcases List.mem_cons.mp member with rfl | later
          · exact absurd hears here
          · exact ⟨entry, later, hears⟩

/-! ## Who a frame is queued for -/

namespace Registry

variable {registry : Registry} {delivery : Delivery}

theorem mem_post {entry : Entry} {frame : Frame} :
    delivery ∈ post entry frame ↔ entry.isListening = true ∧ delivery = ⟨entry.id, frame⟩ := by
  unfold post
  split_ifs with listening <;> simp [listening]

theorem mem_announce {text : String} (queued : delivery ∈ registry.announce text) :
    Live registry delivery.peer ∧ delivery.frame = .text text := by
  rcases List.mem_flatMap.mp queued with ⟨entry, heard, posted⟩
  rcases List.mem_filterMap.mp heard with ⟨id, _, found⟩
  rcases findLive?_eq_some.mp found with ⟨tracked, live⟩
  obtain rfl := id_of_find? tracked
  obtain ⟨_, rfl⟩ := mem_post.mp posted
  exact ⟨live, rfl⟩

theorem mem_forward {directive : Directive} {targets : List PeerId}
    (queued : delivery ∈ registry.forward directive targets) :
    Live registry delivery.peer ∧
      ∃ message, directive.message = some message ∧ delivery.frame = .text message := by
  unfold forward at queued
  cases carried : directive.message with
  | none =>
      rw [carried] at queued
      cases queued
  | some message =>
      rw [carried] at queued
      rcases List.mem_flatMap.mp queued with ⟨entry, heard, posted⟩
      rcases List.mem_filterMap.mp heard with ⟨id, _, found⟩
      rcases findLive?_eq_some.mp found with ⟨tracked, live⟩
      obtain rfl := id_of_find? tracked
      split_ifs at posted
      · obtain ⟨_, rfl⟩ := mem_post.mp posted
        exact ⟨live, message, rfl, rfl⟩
      · cases posted

/-- A frame for one peer is queued once, or not at all. -/
theorem send_cases (registry : Registry) (id : PeerId) (frame : Frame) :
    registry.send id frame = [] ∨
      registry.send id frame = [⟨id, frame⟩] ∧ Live registry id := by
  unfold send
  cases found : registry.findLive? id with
  | none => exact .inl rfl
  | some entry =>
      rcases findLive?_eq_some.mp found with ⟨tracked, live⟩
      have named := id_of_find? tracked
      simp only [post, named]
      split_ifs
      · exact .inr ⟨rfl, live⟩
      · exact .inl rfl

/-- Establishing a connection queues nothing but a status line for the peer itself. -/
theorem mem_markOpen {id : PeerId} :
    delivery ∈ (registry.markOpen id).1 ↔
      ∃ entry engine, registry.find? id = some entry ∧ registry.engine = some engine ∧
        entry.isListening = true ∧
        delivery = ⟨id, .text (engine.statusLine .opened)⟩ := by
  cases found : registry.find? id with
  | none => simp [markOpen, found]
  | some entry =>
      cases attached : registry.engine with
      | none => simp [markOpen, found, attached]
      | some engine => simp [markOpen, found, attached, mem_post, id_of_find? found]

theorem mem_detach (queued : delivery ∈ registry.detach.2.1) :
    Live registry delivery.peer ∧
      ∃ engine : Engine.Identity, delivery.frame = .text (engine.statusLine .closed) := by
  cases attached : registry.engine with
  | none =>
      rw [detach_of_none attached] at queued
      cases queued
  | some engine =>
      rw [detach_of_some attached] at queued
      rcases mem_announce queued with ⟨live, told⟩
      exact ⟨live_of_entries live rfl, engine, told⟩

end Registry

/-- The peer is live, and its entry satisfies a condition. -/
def LivesWith (registry : Registry) (hears : Entry → Prop) (id : PeerId) : Prop :=
  ∃ entry, registry.find? id = some entry ∧ Live registry id ∧ hears entry

variable {registry : Registry}

/-! ## Peers that live with a property -/

section LivesWith

variable {hears : Entry → Prop} {id : PeerId}

theorem livesWith_of_entries {other : Registry} (lives : LivesWith other hears id)
    (same : other.entries = registry.entries) : LivesWith registry hears id := by
  rcases lives with ⟨entry, found, live, heard⟩
  rw [Registry.find?, same] at found
  exact ⟨entry, found, Registry.live_of_entries live same, heard⟩

theorem Tracked.livesWith_of_restrict (tracked : Tracked registry) {kept : Entry → Bool}
    (lives : LivesWith (registry.restrict kept) hears id) :
    LivesWith registry hears id := by
  rcases lives with ⟨entry, found, live, heard⟩
  rcases (tracked.restrict kept).find?_eq_some.mp found with ⟨member, rfl⟩
  exact ⟨entry, tracked.find?_id (List.mem_of_mem_filter member),
    tracked.live_of_restrict live, heard⟩

theorem Tracked.livesWith_of_update (tracked : Tracked registry)
    {change : Entry → Entry} (harmless : Harmless change) {changed : PeerId}
    (lives : LivesWith (registry.update changed change) hears id) :
    LivesWith registry (fun entry => hears (Registry.changed changed change entry)) id := by
  rcases lives with ⟨entry, found, live, heard⟩
  rcases (tracked.update harmless).find?_eq_some.mp found with ⟨member, rfl⟩
  rcases Registry.mem_update.mp member with ⟨old, before, rfl⟩
  rw [(harmless.changed changed).id] at live ⊢
  exact ⟨old, tracked.find?_id before, tracked.live_of_update harmless live, heard⟩

theorem Tracked.livesWith_insert (tracked : Tracked registry) {entry : Entry}
    (new : registry.Newcomer entry) :
    LivesWith (registry.insert entry) hears id ↔
      LivesWith registry hears id ∨
        id = entry.id ∧ hears entry ∧ entry.isListening = true ∧
          ∀ parent, entry.parent = some parent → Live registry parent := by
  have after := tracked.insert new
  constructor
  · rintro ⟨other, found, live, heard⟩
    rcases after.find?_eq_some.mp found with ⟨member, rfl⟩
    rcases Registry.mem_insert.mp member with before | rfl
    · exact .inl ⟨other, tracked.find?_id before,
        (tracked.live_insert new (tracked.issued other before)).mp live, heard⟩
    · exact .inr ⟨rfl, heard, (tracked.live_newcomer new).mp live⟩
  · rintro (⟨other, found, live, heard⟩ | ⟨rfl, heard, lives⟩)
    · rcases tracked.find?_eq_some.mp found with ⟨member, rfl⟩
      exact ⟨other, after.find?_id (Registry.mem_insert.mpr (.inl member)),
        (tracked.live_insert new (tracked.issued other member)).mpr live, heard⟩
    · exact ⟨entry, after.find?_id (Registry.mem_insert.mpr (.inr rfl)),
        (tracked.live_newcomer new).mpr lives, heard⟩

/-! Collecting and detaching bring nobody to life. -/

theorem Sound.livesWith_of_collect (sound : Sound registry)
    (lives : LivesWith registry.collect.2 hears id) : LivesWith registry hears id := by
  rw [Registry.collect_snd] at lives
  exact sound.tracked.livesWith_of_restrict (livesWith_of_entries lives rfl)

theorem Sound.livesWith_of_detach (sound : Sound registry)
    (lives : LivesWith registry.detach.2.2 hears id) : LivesWith registry hears id := by
  cases attached : registry.engine with
  | none =>
      rw [Registry.detach_of_none attached] at lives
      exact lives
  | some engine =>
      rw [Registry.detach_of_some attached] at lives
      have remaining := sound.withoutEngine.livesWith_of_collect lives
      have before := (sound.withEngine none).tracked.livesWith_of_restrict remaining
      exact livesWith_of_entries before rfl

end LivesWith

/-- A frame that is queued for the live ones of some peers that satisfy a
condition. -/
theorem framesTo_live (registry : Registry) {ids : List PeerId} (once : ids.Nodup)
    (hears : Entry → Bool)
    (frame : Frame) (id : PeerId) [Decidable (id ∈ ids ∧
      LivesWith registry (hears · = true) id)] :
    framesTo id (((ids.filterMap registry.findLive?).filter hears).flatMap fun entry =>
        Registry.post entry frame) =
      if id ∈ ids ∧ LivesWith registry (hears · = true) id then [frame] else [] := by
  have named : ∀ id entry, registry.findLive? id = some entry → entry.id = id := by
    intro id entry found
    exact Registry.id_of_find? (Registry.findLive?_eq_some.mp found).1
  have distinct : ((ids.filterMap registry.findLive?).filter hears).Pairwise
      fun entry later => entry.id ≠ later.id := by
    refine List.Pairwise.sublist List.filter_sublist
      (List.Pairwise.filterMap registry.findLive? ?_ once)
    intro id other differ entry found later same
    rw [named id entry found, named other later same]
    exact differ
  rw [framesTo_flatMap_post distinct]
  refine if_congr ?_ rfl rfl
  simp only [List.mem_filter, List.mem_filterMap, Registry.findLive?_eq_some]
  constructor
  · rintro ⟨entry, ⟨⟨other, listed, found, live⟩, hears⟩, same, _⟩
    obtain rfl : other = id := (Registry.id_of_find? found).symm.trans same
    exact ⟨listed, entry, found, live, hears⟩
  · rintro ⟨listed, entry, found, live, hears⟩
    rcases Registry.exists_of_live live with ⟨other, same, listening⟩
    obtain rfl := Option.some.inj (found.symm.trans same)
    exact ⟨entry, ⟨⟨id, listed, found, live⟩, hears⟩, Registry.id_of_find? found,
      listening⟩

/-! ## Announcements -/

open Classical in
/-- An announcement is queued once for every live peer that is open. -/
theorem Orderly.framesTo_announce (orderly : Orderly registry) (text : String)
    (id : PeerId) :
    framesTo id (registry.announce text) =
      if LivesWith registry (·.isOpen = true) id then [.text text] else [] := by
  have told := framesTo_live registry orderly.heard.once (fun _ => true) (.text text) id
  simp only [List.filter_true] at told
  rw [Registry.announce, told]
  refine if_congr ?_ rfl rfl
  constructor
  · rintro ⟨heard, entry, found, live, _⟩
    rcases orderly.numbered.find?_eq_some.mp found with ⟨member, rfl⟩
    exact ⟨entry, found, live, (orderly.heard.opened entry member).mp heard⟩
  · rintro ⟨entry, found, live, opened⟩
    rcases orderly.numbered.find?_eq_some.mp found with ⟨member, rfl⟩
    exact ⟨(orderly.heard.opened entry member).mpr opened, entry, found, live, trivial⟩

/-! ## Messages of directives -/

/-- The peer speaks the protocol of a directive and, if the directive names an
address, leads there. -/
def Entry.Hears (directive : Directive) (entry : Entry) : Prop :=
  directive.protocol ∈ entry.protocols ∧
    (directive.url = none ∨ entry.url = directive.url)

open Classical in
/-- The message of a directive is queued once for every live peer that hears it. -/
theorem Sound.framesTo_forward (sound : Sound registry) {directive : Directive}
    {message : String} (carries : directive.message = some message) (id : PeerId) :
    framesTo id (registry.forward directive
        (registry.index.subscribers directive.protocol)) =
      if LivesWith registry (Entry.Hears directive) id
      then [.text message] else [] := by
  have told := framesTo_live registry
    ((sound.listed.sorted directive.protocol).imp fun less => Nat.ne_of_lt less)
    (fun entry => directive.url.isNone || entry.url == directive.url)
    (.text message) id
  have asFiltered : registry.forward directive
      (registry.index.subscribers directive.protocol) =
      (((registry.index.subscribers directive.protocol).filterMap
          registry.findLive?).filter
        fun entry => directive.url.isNone || entry.url == directive.url).flatMap
          fun entry => Registry.post entry (.text message) := by
    simp only [Registry.forward, carries]
    generalize (registry.index.subscribers directive.protocol).filterMap
      registry.findLive? = entries
    induction entries with
    | nil => rfl
    | cons first rest ih =>
        rw [List.flatMap_cons, ih, List.filter_cons]
        split_ifs <;> simp
  rw [asFiltered, told]
  refine if_congr ?_ rfl rfl
  simp only [Bool.or_eq_true, Option.isNone_iff_eq_none, beq_iff_eq]
  constructor
  · rintro ⟨listed, entry, found, live, leads⟩
    rcases sound.tracked.find?_eq_some.mp found with ⟨member, rfl⟩
    exact ⟨entry, found, live, sound.listed.speaks _ entry member listed, leads⟩
  · rintro ⟨entry, found, live, speaks, leads⟩
    rcases sound.tracked.find?_eq_some.mp found with ⟨member, rfl⟩
    exact ⟨sound.listed.complete entry member live _ speaks, entry, found, live, leads⟩

/-- The live subscribers are those that pruning leaves listed. -/
theorem Sound.liveSubscribers_eq (sound : Sound registry) (protocol : String) :
    registry.liveSubscribers protocol =
      (registry.prune protocol).index.subscribers protocol := by
  rw [Registry.prune, Index.subscribers_keepUnder sound.listed.tidy, if_pos rfl]
  rfl

/-- A directive is forwarded to the subscribers that the index lists when the
relay is tracked. -/
theorem Sound.route_eq (sound : Sound registry) {directive : Directive}
    (routable : directive.isRoutable = true) (parent : Option PeerId) :
    registry.route directive parent =
      let pruned := registry.prune directive.protocol
      let (relays, routed) := pruned.openRelay directive parent
        (pruned.index.subscribers directive.protocol)
      (relays, routed.forward directive
        (routed.index.subscribers directive.protocol), routed) := by
  rw [Registry.route, if_pos routable, sound.liveSubscribers_eq]
  obtain nothing | ⟨url, _, _, _, opened⟩ :=
    (registry.prune directive.protocol).openRelay_cases directive parent
      ((registry.prune directive.protocol).index.subscribers directive.protocol)
  · simp [nothing]
  · simp only [opened, List.map_cons, List.map_nil]
    rw [Registry.subscribers_insert (by simp [Registry.relayEntry])]
    simp [Registry.relayEntry]

end EngineGateway.Peer
