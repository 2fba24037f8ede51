import EngineGateway.Proofs.Peer.Sweeping

/-!
# Lineages

The lineage of a live peer lists the peer and everyone above it, up to the one without a parent.
A peer has at most one lineage, because every entry names its parent.  So nobody stands in a
lineage twice, and no lineage is longer than there are peers.  A walk over so many steps finds
the lineages of that length, hence the walk that decides liveness finds them all, and it finds
none for a peer from which parents lead into a circle.
-/

namespace EngineGateway.Peer

/-- The entries lead from a peer to one without a parent.  They are those of tracked peers that
listen, and each is followed by that of the parent. -/
structure Lineage (registry : Registry) (id : PeerId) (line : List Entry) : Prop where
  first : line.head?.map Entry.id = some id
  tracked : ∀ entry ∈ line, registry.find? entry.id = some entry
  listening : ∀ entry ∈ line, entry.isListening = true
  linked : line.IsChain fun below above => below.parent = some above.id
  ends : ∀ last ∈ line.getLast?, last.parent = none

/-- Parents lead from the peer back to itself. -/
def Registry.Circular (registry : Registry) (id : PeerId) : Prop :=
  ∃ entry parent, registry.find? id = some entry ∧ entry.parent = some parent ∧
    Descends registry parent id

namespace Lineage

variable {registry : Registry} {id parent : PeerId} {entry : Entry} {line rest : List Entry}

/-! ## One generation -/

theorem root (found : registry.find? id = some entry) (listening : entry.isListening = true)
    (orphan : entry.parent = none) : Lineage registry id [entry] where
  first := by simp [Registry.id_of_find? found]
  tracked other member := by
    obtain rfl := List.mem_singleton.mp member
    rwa [Registry.id_of_find? found]
  listening other member := by rwa [List.mem_singleton.mp member]
  linked := .singleton entry
  ends last ended := by
    obtain rfl : entry = last := by simpa using ended
    exact orphan

theorem child (found : registry.find? id = some entry) (listening : entry.isListening = true)
    (below : entry.parent = some parent) (above : Lineage registry parent line) :
    Lineage registry id (entry :: line) := by
  cases line with
  | nil => cases above.first
  | cons next others =>
      obtain rfl : next.id = parent := by simpa using above.first
      refine ⟨by simp [Registry.id_of_find? found], ?_, ?_, ?_, ?_⟩
      · refine List.forall_mem_cons.mpr ⟨?_, above.tracked⟩
        rwa [Registry.id_of_find? found]
      · exact List.forall_mem_cons.mpr ⟨listening, above.listening⟩
      · exact List.isChain_cons_cons.mpr ⟨below, above.linked⟩
      · rw [List.getLast?_cons_cons]
        exact above.ends

/-- A lineage is that of a peer without a parent, or it starts with the peer and goes on with
the lineage of the parent. -/
theorem cases_line (lineage : Lineage registry id line) :
    ∃ entry rest, line = entry :: rest ∧ registry.find? id = some entry ∧
      entry.isListening = true ∧
      (rest = [] ∧ entry.parent = none ∨
        ∃ parent, entry.parent = some parent ∧ Lineage registry parent rest) := by
  cases line with
  | nil => cases lineage.first
  | cons entry rest =>
      obtain rfl : entry.id = id := by simpa using lineage.first
      refine ⟨entry, rest, rfl, lineage.tracked entry (.head _),
        lineage.listening entry (.head _), ?_⟩
      cases rest with
      | nil => exact .inl ⟨rfl, lineage.ends entry rfl⟩
      | cons next others =>
          have linked := List.isChain_cons_cons.mp lineage.linked
          refine .inr ⟨next.id, linked.1, ⟨rfl, ?_, ?_, linked.2, ?_⟩⟩
          · exact fun other member => lineage.tracked other (.tail _ member)
          · exact fun other member => lineage.listening other (.tail _ member)
          · have ends := lineage.ends
            rwa [List.getLast?_cons_cons] at ends

/-! ## The lineage of a peer -/

/-- A peer has at most one lineage. -/
theorem unique {other : List Entry} (lineage : Lineage registry id line)
    (again : Lineage registry id other) : line = other := by
  induction line generalizing id other with
  | nil => cases lineage.first
  | cons entry rest ih =>
      obtain ⟨_, _, same, found, _, above⟩ := lineage.cases_line
      cases same
      obtain ⟨entry', rest', rfl, found', _, above'⟩ := again.cases_line
      obtain rfl : entry = entry' := Option.some.inj (found.symm.trans found')
      rcases above with ⟨rfl, orphan⟩ | ⟨parent, below, above⟩
      · rcases above' with ⟨rfl, _⟩ | ⟨parent', below', _⟩
        · rfl
        · cases orphan.symm.trans below'
      · rcases above' with ⟨_, orphan'⟩ | ⟨parent', below', above'⟩
        · cases below.symm.trans orphan'
        · obtain rfl : parent = parent' := Option.some.inj (below.symm.trans below')
          rw [ih above above']

/-- The lineage of whoever stands above a peer is the end of its lineage. -/
theorem elder {elder : PeerId} (lineage : Lineage registry id line)
    (descends : Descends registry id elder) :
    ∃ rest, rest <:+ line ∧ Lineage registry elder rest := by
  induction descends generalizing line with
  | itself => exact ⟨line, List.suffix_rfl, lineage⟩
  | above found below _ ih =>
      obtain ⟨entry, rest, rfl, found', _, above⟩ := lineage.cases_line
      cases found.symm.trans found'
      rcases above with ⟨_, orphan⟩ | ⟨parent', below', above⟩
      · cases below.symm.trans orphan
      · cases below.symm.trans below'
        obtain ⟨last, ends, further⟩ := ih above
        exact ⟨last, ends.trans (List.suffix_cons _ _), further⟩

/-- Nobody in a lineage stands above themselves. -/
theorem not_circular (lineage : Lineage registry id line) : ¬ registry.Circular id := by
  rintro ⟨entry, parent, found, below, descends⟩
  obtain ⟨entry', rest, rfl, found', _, above⟩ := lineage.cases_line
  cases found.symm.trans found'
  rcases above with ⟨_, orphan⟩ | ⟨parent', below', above⟩
  · cases below.symm.trans orphan
  · cases below.symm.trans below'
    obtain ⟨last, ends, again⟩ := above.elder descends
    -- The same lineage would be shorter than itself.
    have shorter := ends.length_le
    rw [again.unique lineage, List.length_cons] at shorter
    omega

/-! ## Walks -/

theorem live (lineage : Lineage registry id line) : Live registry id := by
  induction line generalizing id with
  | nil => cases lineage.first
  | cons entry rest ih =>
      obtain ⟨_, _, same, found, listening, above⟩ := lineage.cases_line
      cases same
      rcases above with ⟨_, orphan⟩ | ⟨parent, below, above⟩
      · exact .root found listening orphan
      · exact .child found listening below (ih above)

/-- A walk finds the lineages that are no longer than it. -/
theorem of_reachesRoot {steps : Nat} (reached : registry.reachesRoot steps id = true) :
    ∃ line, Lineage registry id line ∧ line.length ≤ steps := by
  induction steps generalizing id with
  | zero => simp [Registry.reachesRoot] at reached
  | succ steps ih =>
      obtain ⟨entry, found, listening, above⟩ := Registry.reachesRoot_succ.mp reached
      cases below : entry.parent with
      | none => exact ⟨[entry], root found listening below, by simp⟩
      | some parent =>
          obtain ⟨line, lineage, fits⟩ := ih (above parent below)
          exact ⟨entry :: line, child found listening below lineage, by simpa using fits⟩

theorem reachesRoot {steps : Nat} (lineage : Lineage registry id line)
    (fits : line.length ≤ steps) : registry.reachesRoot steps id = true := by
  induction line generalizing id steps with
  | nil => cases lineage.first
  | cons entry rest ih =>
      obtain ⟨_, _, same, found, listening, above⟩ := lineage.cases_line
      cases same
      obtain ⟨fewer, rfl⟩ : ∃ fewer, steps = fewer + 1 := ⟨steps - 1, by simp at fits; omega⟩
      refine Registry.reachesRoot_succ.mpr ⟨entry, found, listening, fun parent below => ?_⟩
      rcases above with ⟨_, orphan⟩ | ⟨parent', below', above⟩
      · cases below.symm.trans orphan
      · cases below.symm.trans below'
        exact ih above (by simpa using fits)

/-- No lineage is longer than there are peers. -/
theorem length_le (lineage : Lineage registry id line) :
    line.length ≤ registry.entries.length := by
  obtain ⟨chain, nodup, tracked, _, reached, _⟩ := Registry.exists_chain_of_live lineage.live
  obtain ⟨other, again, fits⟩ := of_reachesRoot reached
  have few := (nodup.subperm tracked).length_le
  rw [List.length_map] at few
  rw [lineage.unique again]
  exact Nat.le_trans fits few

end Lineage

/-- Whatever peers are tracked, a peer counts as live exactly if it has a lineage.  A walk over
any number of steps finds the lineages up to that length, and none is longer than there are
peers, so no lineage is cut off.  Whoever stands in a circle or below one is not live. -/
theorem walk_exact (registry : Registry) (id : PeerId) :
    (registry.isLive id = true ↔ ∃ line, Lineage registry id line) ∧
    (∀ steps, registry.reachesRoot steps id = true ↔
      ∃ line, Lineage registry id line ∧ line.length ≤ steps) ∧
    (∀ line, Lineage registry id line → line.length ≤ registry.entries.length) ∧
    (∀ elder, Descends registry id elder → registry.Circular elder →
      registry.isLive id = false) := by
  have finds : registry.isLive id = true ↔ ∃ line, Lineage registry id line := by
    constructor
    · intro live
      obtain ⟨line, lineage, _⟩ := Lineage.of_reachesRoot live
      exact ⟨line, lineage⟩
    · rintro ⟨line, lineage⟩
      exact lineage.reachesRoot (Nat.le_succ_of_le lineage.length_le)
  refine ⟨finds, fun steps => ⟨Lineage.of_reachesRoot, ?_⟩, fun _ => Lineage.length_le, ?_⟩
  · rintro ⟨line, lineage, fits⟩
    exact lineage.reachesRoot fits
  · intro elder descends circular
    refine Bool.eq_false_iff.mpr fun live => ?_
    obtain ⟨line, lineage⟩ := finds.mp live
    obtain ⟨rest, _, further⟩ := lineage.elder descends
    exact further.not_circular circular

/-- Three peers below each other, the first of which may hang on one of them as well. -/
def threePeers (eldest : Option PeerId) : Registry :=
  let entry (id : PeerId) (parent : Option PeerId) : Entry :=
    ⟨id, parent, none, [], false, true, true⟩
  { Registry.empty 3 with entries := [entry 1 eldest, entry 2 (some 1), entry 3 (some 2)] }

theorem walk_exact_threePeers :
    (∃ line, Lineage (threePeers none) 3 line ∧ line.length = 3) ∧
      (threePeers none).isLive 3 = true ∧ (threePeers (some 3)).isLive 3 = false := by
  have ⟨finds, walks, few, _⟩ := walk_exact (threePeers none) 3
  obtain ⟨line, lineage, fits⟩ := (walks 3).mp (by decide)
  have long : ¬ line.length ≤ 2 :=
    fun short => absurd ((walks 2).mpr ⟨line, lineage, short⟩) (by decide)
  refine ⟨⟨line, lineage, ?_⟩, finds.mpr ⟨line, lineage⟩, ?_⟩
  · have most : line.length ≤ 3 := few line lineage
    omega
  · have itself : Descends (threePeers (some 3)) 3 3 := .itself
    have round : Descends (threePeers (some 3)) 2 3 := .above rfl rfl (.above rfl rfl .itself)
    exact (walk_exact (threePeers (some 3)) 3).2.2.2 3 itself ⟨_, 2, rfl, rfl, round⟩

end EngineGateway.Peer
