import EngineGateway.Proofs.Peer.Lasting

/-!
# Peers that are gone

A peer is gone when it is not tracked, when nothing takes its frames any more, or when
the peer whose directive opened it is gone.  Being gone is for good: whatever happens,
nobody who has been handed an id comes back under it.

Frames are queued for live peers only, with one exception.  When the connection of a
relay is established it is told about an attached engine even if the peer above it is
gone.  Nothing else is ever queued for a peer that is gone.
-/

namespace EngineGateway.Peer

variable {registry : Registry} {id : PeerId} {operations : List Operation}

/-! ## Gone for good -/

/-- Why a peer is gone. -/
theorem Registry.isLive_eq_false_iff :
    registry.isLive id = false ↔
      registry.find? id = none ∨ ∃ entry, registry.find? id = some entry ∧
        (entry.isListening = false ∨
          ∃ parent, entry.parent = some parent ∧ registry.isLive parent = false) := by
  simp only [Bool.eq_false_iff, ne_eq, Registry.isLive_iff]
  cases found : registry.find? id with
  | none =>
      have absent : ¬ Live registry id := by
        intro live
        rcases Registry.exists_of_live live with ⟨entry, tracked, _⟩
        rw [found] at tracked
        cases tracked
      simp [absent]
  | some entry =>
      rw [Registry.live_iff_of_find? found]
      simp only [reduceCtorEq, Option.some.injEq, exists_eq_left', false_or, not_and_or,
        not_forall, exists_prop]

/-- Peers that are gone stay gone.  Wherever a history has led, an id that has been
handed out and whose peer is not tracked, has stopped listening or is below a peer that
is gone never belongs to a live peer again, however the history goes on. -/
theorem gone_for_good {maxPeers : Nat} {past later : List Operation}
    (lawful : (Registry.empty maxPeers).Lawful past)
    (following : ((Registry.empty maxPeers).run past).2.Lawful later) :
    let registry := ((Registry.empty maxPeers).run past).2
    ∀ id < registry.nextId,
      (registry.find? id = none ∨ ∃ entry, registry.find? id = some entry ∧
        (entry.isListening = false ∨
          ∃ parent, entry.parent = some parent ∧ registry.isLive parent = false)) →
      (registry.run later).2.isLive id = false := by
  intro registry id issued gone
  have sound : Sound registry := (Sound.empty maxPeers).run lawful
  have dead := Registry.isLive_eq_false_iff.mpr gone
  rw [Bool.eq_false_iff, ne_eq, Registry.isLive_iff] at dead ⊢
  intro live
  exact dead (sound.live_of_run following issued live)

/-- A client has a relay opened and is forgotten. -/
def leftBehind : List Operation :=
  [.connect .localhost true ["brain"], .route farGreeting (some 1), .release 1]

/-- The relay is connected after all, and the engine has its address served anew. -/
def lateArrival : List Operation :=
  [.markOpen 2, .connect .localhost true [], .route farGreeting none]

theorem gone_for_good_leftBehind :
    (((Registry.empty 4).run leftBehind).2.find? 2).isSome = true ∧
      (((Registry.empty 4).run leftBehind).2.run lateArrival).2.isLive 2 = false := by
  refine ⟨by decide, gone_for_good (by decide) (by decide) 2 (by decide) (.inr ?_)⟩
  exact ⟨_, rfl, .inr ⟨1, rfl, by decide⟩⟩

/-! ## Frames for peers that are gone -/

/-- The registry when an operation queues its frames: a relay that a directive opens is
tracked by then, and nobody has been forgotten yet. -/
def Registry.amid (registry : Registry) : Operation → Registry
  | .route directive parent => (registry.route directive parent).2.2
  | _ => registry

/-- The peer is tracked and listens, but the peer above it is gone. -/
def Registry.Orphaned (registry : Registry) (id : PeerId) : Prop :=
  ∃ entry parent, registry.find? id = some entry ∧ entry.isListening = true ∧
    entry.parent = some parent ∧ ¬ Live registry parent

theorem Registry.Orphaned.not_live (orphaned : registry.Orphaned id) : ¬ Live registry id := by
  intro live
  rcases orphaned with ⟨entry, parent, found, _, below, gone⟩
  exact gone (((Registry.live_iff_of_find? found).mp live).2 parent below)

/-- A peer that is tracked and listens is live or orphaned. -/
theorem Registry.live_or_orphaned {entry : Entry} (found : registry.find? id = some entry)
    (listening : entry.isListening = true) : Live registry id ∨ registry.Orphaned id := by
  by_cases live : Live registry id
  · exact .inl live
  · rw [Registry.live_iff_of_find? found] at live
    push Not at live
    rcases live listening with ⟨parent, below, gone⟩
    exact .inr ⟨entry, parent, found, listening, below, gone⟩

/-- Whom an operation queues frames for. -/
theorem Registry.live_of_mem_sent {operation : Operation} {delivery : Delivery}
    (queued : delivery ∈ (registry.apply operation).1.sent) :
    Live (registry.amid operation) delivery.peer ∨
      operation = .markOpen delivery.peer ∧ registry.Orphaned delivery.peer := by
  cases operation with
  | connect address trusted protocols =>
      rcases registry.connect_cases address trusted protocols with
        ⟨refusal, refused⟩ | ⟨_, admitted⟩
      · simp [Registry.apply, refused] at queued
      · simp [Registry.apply, admitted] at queued
  | markOpen opening =>
      rcases Registry.mem_markOpen.mp queued with ⟨entry, engine, found, _, listening, rfl⟩
      rcases Registry.live_or_orphaned found listening with live | orphaned
      · exact .inl live
      · exact .inr ⟨rfl, orphaned⟩
  | release leaving => cases queued
  | attach engine =>
      have live := (Registry.mem_announce queued).1
      exact .inl (Registry.live_of_entries live rfl)
  | detach => exact .inl (Registry.mem_detach queued).1
  | collect => cases queued
  | route directive parent =>
      left
      have sent : delivery ∈ (registry.route directive parent).2.1 := queued
      simp only [Registry.amid, Registry.route] at sent ⊢
      split_ifs at sent ⊢
      · exact (Registry.mem_forward sent).1
      · cases sent
  | send receiver frame =>
      have sent : delivery ∈ registry.send receiver frame := queued
      rcases registry.send_cases receiver frame with nothing | ⟨once, live⟩
      · rw [nothing] at sent
        cases sent
      · rw [once, List.mem_singleton] at sent
        subst sent
        exact .inl live
  | hangUp leaving => cases queued

/-- Nobody comes to life while an operation is under way, apart from a relay that it
opens. -/
theorem Sound.live_of_amid (sound : Sound registry) {operation : Operation}
    (grounded : operation.Grounded registry) (issued : id < registry.nextId)
    (live : Live (registry.amid operation) id) : Live registry id := by
  cases operation with
  | route directive parent => exact sound.live_of_apply grounded issued live
  | _ => exact live

theorem framesTo_eq_nil_iff {sent : List Delivery} :
    framesTo id sent = [] ↔ ∀ delivery ∈ sent, delivery.peer ≠ id := by
  simp [framesTo]

/-- One operation queues nothing for a peer that is gone, unless it establishes the
connection of that peer. -/
theorem Sound.framesTo_gone (sound : Sound registry) {operation : Operation}
    (grounded : operation.Grounded registry) (issued : id < registry.nextId)
    (gone : ¬ Live registry id) (other : operation ≠ .markOpen id) :
    framesTo id (registry.apply operation).1.sent = [] := by
  rw [framesTo_eq_nil_iff]
  rintro delivery queued rfl
  rcases Registry.live_of_mem_sent queued with live | ⟨opens, _⟩
  · exact gone (sound.live_of_amid grounded issued live)
  · exact other opens

/-- A history queues nothing for a peer that was gone at its start, unless it
establishes the connection of that peer. -/
theorem Sound.framesTo_run_gone (sound : Sound registry) (lawful : registry.Lawful operations)
    (issued : id < registry.nextId) (gone : ¬ Live registry id)
    (unopened : .markOpen id ∉ operations) :
    ∀ outcome ∈ (registry.run operations).1, framesTo id outcome.sent = [] := by
  induction operations generalizing registry with
  | nil => simp [Registry.run]
  | cons operation rest ih =>
      rcases lawful with ⟨grounded, lawful⟩
      rw [List.mem_cons, not_or] at unopened
      have now := sound.framesTo_gone grounded issued gone (Ne.symm unopened.1)
      have stillIssued := Nat.lt_of_lt_of_le issued (registry.nextId_le_apply operation)
      have stillGone : ¬ Live (registry.apply operation).2 id :=
        fun live => gone (sound.live_of_apply grounded issued live)
      have later := ih (sound.apply grounded) lawful stillIssued stillGone unopened.2
      intro outcome member
      rcases List.mem_cons.mp member with rfl | behind
      · exact now
      · exact later outcome behind

/-- Frames are queued for peers that are live when they are queued, or for a relay whose
connection is established while the peer above it is gone.  Such a relay is told about
an attached engine although it is gone.  Apart from that, nothing is queued any more for
a peer that is gone. -/
theorem gone_hear_of_opening_only {maxPeers : Nat} {past : List Operation}
    (lawful : (Registry.empty maxPeers).Lawful past) :
    let registry := ((Registry.empty maxPeers).run past).2
    (∀ operation, ∀ delivery ∈ (registry.apply operation).1.sent,
      Live (registry.amid operation) delivery.peer ∨
        operation = .markOpen delivery.peer ∧ registry.Orphaned delivery.peer) ∧
    (∀ id, registry.Orphaned id → ∀ engine, registry.engine = some engine →
      ¬ Live registry id ∧
        (⟨id, .text (engine.statusLine .opened)⟩ : Delivery) ∈
          (registry.apply (.markOpen id)).1.sent) ∧
    ∀ later, registry.Lawful later → ∀ id < registry.nextId, ¬ Live registry id →
      .markOpen id ∉ later →
      ∀ outcome ∈ (registry.run later).1, framesTo id outcome.sent = [] := by
  intro registry
  have sound : Sound registry := (Sound.empty maxPeers).run lawful
  refine ⟨?_, ?_, ?_⟩
  · intro operation delivery queued
    exact Registry.live_of_mem_sent queued
  · intro id orphaned engine attached
    refine ⟨orphaned.not_live, ?_⟩
    rcases orphaned with ⟨entry, _, found, listening, _⟩
    exact Registry.mem_markOpen.mpr ⟨entry, engine, found, attached, listening, rfl⟩
  · intro later following id issued gone unopened
    exact sound.framesTo_run_gone following issued gone unopened

/-- An engine that peers may hear about. -/
def dockingStation : Engine.Identity :=
  ⟨.socket, 2, 286, "Docking Station", none⟩

/-- An engine is attached, and a client has a relay opened and is forgotten. -/
def hostedVisit : List Operation := .attach dockingStation :: leftBehind

theorem gone_hear_of_opening_only_hostedVisit :
    let registry := ((Registry.empty 4).run hostedVisit).2
    (¬ Live registry 2 ∧
      (⟨2, .text (dockingStation.statusLine .opened)⟩ : Delivery) ∈
        (registry.apply (.markOpen 2)).1.sent) ∧
    ∀ outcome ∈ (registry.run [.route farGreeting none, .detach]).1,
      framesTo 2 outcome.sent = [] := by
  intro registry
  have lawful : (Registry.empty 4).Lawful hostedVisit := by decide
  have gone : ¬ Live registry 1 := by
    intro live
    have reached := Registry.isLive_iff.mpr live
    revert reached
    decide
  have orphaned : registry.Orphaned 2 := ⟨_, 1, rfl, rfl, rfl, gone⟩
  have told := (gone_hear_of_opening_only lawful).2.1 2 orphaned dockingStation rfl
  exact ⟨told, (gone_hear_of_opening_only lawful).2.2 _ (by decide) 2 (by decide) told.1
    (by decide)⟩

/-- Frames are not queued for live peers only: a relay hears about the engine when its
connection is established, even if the peer above it is gone. -/
theorem not_every_frame_for_live :
    ¬ ∀ (maxPeers : Nat) (past : List Operation) (operation : Operation),
      (Registry.empty maxPeers).Lawful (past ++ [operation]) →
      let registry := ((Registry.empty maxPeers).run past).2
      ∀ delivery ∈ (registry.apply operation).1.sent,
        Live (registry.amid operation) delivery.peer := by
  intro claimed
  have live := claimed 4 hostedVisit (.markOpen 2) (by decide)
    ⟨2, .text (dockingStation.statusLine .opened)⟩ (by decide)
  have reached := Registry.isLive_iff.mpr live
  revert reached
  decide

end EngineGateway.Peer
