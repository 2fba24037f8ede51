import EngineGateway.Proofs.Peer.Ids

/-!
# Bookkeeping

The registry keeps its peers, the subscribers of every protocol and the audience apart from each
other.  An operation may touch the peers only, or one protocol, or everything.  What the three
tell of one another after any history follows from the invariant of the registry and from the
order in which ids are handed out.
-/

namespace EngineGateway.Peer

variable {registry : Registry} {issued : List PeerId} {maxPeers : Nat}

/-- The books agree with one another and with the ids that have been handed out. -/
structure Books (maxPeers : Nat) (issued : List PeerId) (registry : Registry) : Prop where
  capped : registry.entries.length ≤ maxPeers
  byId : ∀ id entry, registry.find? id = some entry ↔
    entry ∈ registry.entries ∧ entry.id = id
  increasing : issued.Pairwise (· < ·)
  tracked : ∀ id ∈ registry.ids, id ∈ issued
  descends : ∀ entry ∈ registry.entries, ∀ parent, entry.parent = some parent →
    parent < entry.id
  protocols : (registry.index.map Prod.fst).Nodup
  subscribers : ∀ line ∈ registry.index, line.2 ≠ [] ∧ line.2.Pairwise (· < ·)
  speaks : ∀ protocol, ∀ entry ∈ registry.entries,
    entry.id ∈ registry.index.subscribers protocol → protocol ∈ entry.protocols
  subscribed : ∀ entry ∈ registry.entries, Live registry entry.id →
    ∀ protocol ∈ entry.protocols, entry.id ∈ registry.index.subscribers protocol
  once : registry.audience.Nodup
  heard : ∀ entry ∈ registry.entries, entry.id ∈ registry.audience ↔ entry.isOpen = true

theorem Sound.books (sound : Sound registry)
    (issues : Issues (Registry.empty maxPeers) registry issued) :
    Books maxPeers issued registry where
  capped := Nat.le_trans sound.tracked.capped (Nat.le_of_eq issues.places)
  byId _ _ := sound.tracked.find?_eq_some
  increasing := issues.increasing
  tracked id member := (issues.tracks id member).resolve_left List.not_mem_nil
  descends := sound.tracked.descends
  protocols := sound.listed.tidy.distinct
  subscribers line member := by
    have sorted := sound.listed.sorted line.1
    rw [sound.listed.tidy.subscribers_of_mem member] at sorted
    exact ⟨sound.listed.tidy.nonempty line member, sorted⟩
  speaks := sound.listed.speaks
  subscribed := sound.listed.complete
  once := sound.heard.once
  heard := sound.heard.opened

/-- The books are in order after any history whose directives come from the engine or from peers
that have been handed their ids.  No id handed out in it is ever handed out again, or tracked
again once it is not tracked any more, whatever happens later. -/
theorem books_in_order {operations : List Operation}
    (lawful : (Registry.empty maxPeers).Lawful operations) :
    let (outcomes, registry) := (Registry.empty maxPeers).run operations
    Books maxPeers (issuedIds outcomes) registry ∧
    ∀ later : List Operation, ∀ id ∈ issuedIds outcomes,
      id ∉ issuedIds (registry.run later).1 ∧
      (id ∉ registry.ids → id ∉ (registry.run later).2.ids) := by
  have issues := (Registry.empty maxPeers).issues_run operations
  have sound : Sound ((Registry.empty maxPeers).run operations).2 :=
    (Sound.empty maxPeers).run lawful
  refine ⟨sound.books issues, fun later id known => ?_⟩
  exact issues.not_again (Registry.issues_run _ later) known

/-- A client offers a protocol twice, opens twice and has a relay opened.  The client is forgotten,
the engine has the relay opened anew, and nothing takes the frames of that one. -/
def busyVisit : List Operation :=
  let far : Directive := ⟨false, some "far", none, "brain", none⟩
  [.connect .localhost true ["chat", "chat"], .markOpen 1, .markOpen 1, .route far (some 1),
    .markOpen 2, .release 1, .route far none, .hangUp 3]

theorem books_in_order_busyVisit :
    let (outcomes, registry) := (Registry.empty 4).run busyVisit
    (registry.ids = [2, 3] ∧ issuedIds outcomes = [1, 2, 3]) ∧
    Books 4 (issuedIds outcomes) registry ∧
    ∀ later : List Operation, ∀ id ∈ issuedIds outcomes,
      id ∉ issuedIds (registry.run later).1 ∧
      (id ∉ registry.ids → id ∉ (registry.run later).2.ids) := by
  have lawful : (Registry.empty 4).Lawful busyVisit := by decide
  exact ⟨by decide, books_in_order lawful⟩

end EngineGateway.Peer
