import EngineGateway.Peer.Registry
import Mathlib.Data.List.Perm.Subperm

/-!
# Liveness of peers

A peer is live when a chain of tracked and listening peers leads from it to a
peer without a parent.  The registry decides this by a walk of bounded length.
The walk is exact for every list of entries, also one with parents that are not
tracked or that are their own ancestors, because the peers of such a chain are
different from one another.
-/

namespace EngineGateway.Peer

/-- A chain of tracked and listening peers leads from the peer to one without a
parent. -/
inductive Live (registry : Registry) : PeerId → Prop where
  | root {id : PeerId} {entry : Entry} :
      registry.find? id = some entry → entry.isListening = true →
      entry.parent = none → Live registry id
  | child {id parent : PeerId} {entry : Entry} :
      registry.find? id = some entry → entry.isListening = true →
      entry.parent = some parent → Live registry parent → Live registry id

namespace Registry

variable {registry : Registry} {id : PeerId} {entry : Entry}

theorem id_of_find? (found : registry.find? id = some entry) : entry.id = id := by
  have selected := List.find?_some found
  simpa using selected

theorem mem_of_find? (found : registry.find? id = some entry) :
    entry ∈ registry.entries :=
  List.mem_of_find?_eq_some found

/-! ## The bounded walk -/

/-- One step of the walk. -/
theorem reachesRoot_succ {steps : Nat} :
    registry.reachesRoot (steps + 1) id = true ↔
      ∃ entry, registry.find? id = some entry ∧ entry.isListening = true ∧
        ∀ parent, entry.parent = some parent →
          registry.reachesRoot steps parent = true := by
  rw [reachesRoot]
  cases found : registry.find? id with
  | none => simp
  | some entry =>
      cases above : entry.parent with
      | none => simp [above]
      | some parent => simp [above]

/-- A longer walk reaches no less. -/
theorem reachesRoot_mono {fewer more : Nat} (le : fewer ≤ more)
    (reached : registry.reachesRoot fewer id = true) :
    registry.reachesRoot more id = true := by
  induction fewer generalizing id more with
  | zero => simp [reachesRoot] at reached
  | succ fewer ih =>
      obtain ⟨more, rfl⟩ : ∃ rest, more = rest + 1 := ⟨more - 1, by omega⟩
      rcases reachesRoot_succ.mp reached with ⟨entry, found, listening, above⟩
      exact reachesRoot_succ.mpr ⟨entry, found, listening, fun parent below =>
        ih (by omega) (above parent below)⟩

theorem live_of_reachesRoot {steps : Nat}
    (reached : registry.reachesRoot steps id = true) : Live registry id := by
  induction steps generalizing id with
  | zero => simp [reachesRoot] at reached
  | succ steps ih =>
      rcases reachesRoot_succ.mp reached with ⟨entry, found, listening, above⟩
      cases below : entry.parent with
      | none => exact .root found listening below
      | some parent => exact .child found listening below (ih (above parent below))

/-- The peers of the chain above a live peer differ, since each of them is a
different number of steps away from the end. -/
theorem exists_chain_of_live (live : Live registry id) :
    ∃ chain : List PeerId, chain.Nodup ∧
      (∀ member ∈ chain, member ∈ registry.entries.map Entry.id) ∧
      (∀ member ∈ chain, registry.reachesRoot chain.length member = true) ∧
      registry.reachesRoot chain.length id = true ∧
      ∀ steps < chain.length, registry.reachesRoot steps id = false := by
  induction live with
  | @root id entry found listening orphan =>
      have tracked : id ∈ registry.entries.map Entry.id :=
        List.mem_map.mpr ⟨entry, mem_of_find? found, id_of_find? found⟩
      have reached : registry.reachesRoot 1 id = true :=
        reachesRoot_succ.mpr ⟨entry, found, listening, by simp [orphan]⟩
      refine ⟨[id], by simp, by simpa using tracked, by simpa using reached,
        by simpa using reached, ?_⟩
      intro steps fewer
      obtain rfl : steps = 0 := by simpa using fewer
      rfl
  | @child id parent entry found listening below _ ih =>
      rcases ih with ⟨chain, nodup, tracked, reached, first, notSooner⟩
      have here : registry.reachesRoot (chain.length + 1) id = true :=
        reachesRoot_succ.mpr ⟨entry, found, listening, by simpa [below] using first⟩
      have notEarlier : ∀ steps < chain.length + 1,
          registry.reachesRoot steps id = false := by
        intro steps fewer
        cases steps with
        | zero => rfl
        | succ steps =>
            have short := notSooner steps (by omega)
            refine Bool.eq_false_iff.mpr fun early => ?_
            rcases reachesRoot_succ.mp early with ⟨other, same, _, above⟩
            obtain rfl : entry = other := Option.some.inj (found.symm.trans same)
            simp [above parent below] at short
      -- A member of the chain is nearer to the end than `id` can be.
      have fresh : id ∉ chain := by
        intro member
        have early := notEarlier chain.length (Nat.lt_succ_self _)
        simp [reached id member] at early
      refine ⟨id :: chain, List.nodup_cons.mpr ⟨fresh, nodup⟩, ?_, ?_, here, notEarlier⟩
      · intro member listed
        rcases List.mem_cons.mp listed with rfl | later
        · exact List.mem_map.mpr ⟨entry, mem_of_find? found, id_of_find? found⟩
        · exact tracked member later
      · intro member listed
        rcases List.mem_cons.mp listed with rfl | later
        · exact here
        · exact reachesRoot_mono (Nat.le_succ _) (reached member later)

/-- The bound of the walk never cuts off a chain. -/
theorem isLive_iff : registry.isLive id = true ↔ Live registry id := by
  constructor
  · exact live_of_reachesRoot
  · intro live
    rcases exists_chain_of_live live with ⟨chain, nodup, tracked, _, reached, _⟩
    have short : chain.length ≤ registry.entries.length := by
      have := (nodup.subperm tracked).length_le
      simpa using this
    exact reachesRoot_mono (by omega) reached

/-! ## Consequences -/

theorem exists_of_live (live : Live registry id) :
    ∃ entry, registry.find? id = some entry ∧ entry.isListening = true := by
  cases live with
  | root found listening _ => exact ⟨_, found, listening⟩
  | child found listening _ _ => exact ⟨_, found, listening⟩

theorem contains_of_live (live : Live registry id) : registry.contains id = true := by
  rcases exists_of_live live with ⟨entry, found, _⟩
  simp [contains, found]

/-- Liveness follows the entry of the peer and that of its parent. -/
theorem live_iff_of_find? (found : registry.find? id = some entry) :
    Live registry id ↔ entry.isListening = true ∧
      ∀ parent, entry.parent = some parent → Live registry parent := by
  constructor
  · intro live
    cases live with
    | root same listening orphan =>
        obtain rfl := Option.some.inj (found.symm.trans same)
        exact ⟨listening, by simp [orphan]⟩
    | child same listening below above =>
        obtain rfl := Option.some.inj (found.symm.trans same)
        exact ⟨listening, by simpa [below] using above⟩
  · rintro ⟨listening, above⟩
    cases below : entry.parent with
    | none => exact .root found listening below
    | some parent => exact .child found listening below (above parent below)

@[simp] theorem findLive?_eq_some :
    registry.findLive? id = some entry ↔
      registry.find? id = some entry ∧ Live registry id := by
  rw [← isLive_iff]
  simp [findLive?, Option.filter_eq_some_iff]

/-- Peers that keep their parents, and of which none begins to listen, do not
come to life. -/
theorem live_of_shrunk {smaller : Registry}
    (shrunk : ∀ id entry, smaller.find? id = some entry →
      ∃ old, registry.find? id = some old ∧ old.parent = entry.parent ∧
        (entry.isListening = true → old.isListening = true))
    (live : Live smaller id) : Live registry id := by
  induction live with
  | root found listening orphan =>
      rcases shrunk _ _ found with ⟨old, before, parent, listened⟩
      exact .root before (listened listening) (parent.trans orphan)
  | child found listening below _ ih =>
      rcases shrunk _ _ found with ⟨old, before, parent, listened⟩
      exact .child before (listened listening) (parent.trans below) ih

/-- Liveness looks at nothing but the entries. -/
theorem live_of_entries {other : Registry} (live : Live other id)
    (same : other.entries = registry.entries) : Live registry id := by
  refine live_of_shrunk (fun id entry found => ?_) live
  rw [find?, same] at found
  exact ⟨entry, found, rfl, fun listening => listening⟩

theorem live_iff_of_entries {other : Registry} (same : other.entries = registry.entries) :
    Live other id ↔ Live registry id :=
  ⟨fun live => live_of_entries live same, fun live => live_of_entries live same.symm⟩

end Registry
end EngineGateway.Peer
