import EngineGateway.Peer.Index
import Mathlib.Data.List.Basic
import Mathlib.Data.List.Nodup

/-!
# What the index lists

Each operation of the index is described by what it does to the subscribers of
every protocol.  Nothing else is known about an index than its subscribers, that
no protocol is listed twice, and that no listed protocol is without subscribers.
-/

namespace EngineGateway.Peer

/-- Leaving out later copies leaves each item once. -/
theorem nodup_eraseDups {α : Type} [BEq α] [LawfulBEq α] (items : List α) :
    items.eraseDups.Nodup := by
  cases items with
  | nil => simp
  | cons first rest =>
      rw [List.eraseDups_cons]
      refine List.nodup_cons.mpr ⟨?_, nodup_eraseDups _⟩
      intro again
      simp [List.mem_eraseDups] at again
  termination_by items.length
  decreasing_by
    simp only [List.length_cons]
    exact Nat.lt_add_one_of_le (List.length_filter_le _ _)

namespace Index

/-- No protocol is listed twice, and none is listed without subscribers. -/
structure Tidy (index : Index) : Prop where
  distinct : (index.map Prod.fst).Nodup
  nonempty : ∀ line ∈ index, line.2 ≠ []

variable {index : Index} {protocol other : String} {peer : PeerId}

@[simp] theorem subscribers_nil : subscribers [] protocol = [] := rfl

theorem subscribers_cons {listed : String} {ids : List PeerId} :
    subscribers ((listed, ids) :: index) protocol =
      if protocol = listed then ids else subscribers index protocol := by
  by_cases same : protocol = listed
  · simp [subscribers, same]
  · simp [subscribers, List.lookup_cons, same, beq_eq_false_iff_ne.mpr same]

theorem subscribers_of_not_listed (absent : protocol ∉ index.map Prod.fst) :
    index.subscribers protocol = [] := by
  induction index with
  | nil => rfl
  | cons line rest ih =>
      rcases line with ⟨listed, ids⟩
      simp only [List.map_cons, List.mem_cons, not_or] at absent
      rw [subscribers_cons, if_neg absent.1, ih absent.2]

theorem Tidy.subscribers_of_mem {ids : List PeerId} (tidy : index.Tidy)
    (listed : (protocol, ids) ∈ index) : index.subscribers protocol = ids := by
  induction index with
  | nil => cases listed
  | cons line rest ih =>
      rcases line with ⟨first, others⟩
      rcases List.nodup_cons.mp tidy.distinct with ⟨fresh, distinct⟩
      rcases List.mem_cons.mp listed with same | later
      · cases same
        rw [subscribers_cons, if_pos rfl]
      · have other : protocol ≠ first := by
          rintro rfl
          exact fresh (List.mem_map.mpr ⟨_, later, rfl⟩)
        rw [subscribers_cons, if_neg other]
        exact ih ⟨distinct, fun line below => tidy.nonempty line (.tail _ below)⟩ later

/-- The listed protocols are those with subscribers. -/
theorem Tidy.listed_iff (tidy : index.Tidy) :
    protocol ∈ index.map Prod.fst ↔ index.subscribers protocol ≠ [] := by
  constructor
  · intro listed
    obtain ⟨⟨_, ids⟩, member, rfl⟩ := List.mem_map.mp listed
    rw [tidy.subscribers_of_mem member]
    exact tidy.nonempty _ member
  · intro filled
    by_contra absent
    exact filled (subscribers_of_not_listed absent)

/-! ## Listing -/

theorem subscribers_add :
    (index.add protocol peer).subscribers other =
      if other = protocol then index.subscribers other ++ [peer]
      else index.subscribers other := by
  induction index with
  | nil => by_cases same : other = protocol <;> simp [add, subscribers_cons, same]
  | cons line rest ih =>
      rcases line with ⟨listed, ids⟩
      by_cases here : listed = protocol
      · by_cases same : other = protocol <;>
          simp [add, here, subscribers_cons, same]
      · rw [add, if_neg here, subscribers_cons, subscribers_cons, ih]
        by_cases same : other = listed
        · have differs : other ≠ protocol := same ▸ here
          simp [same, same ▸ differs]
        · simp [same]

theorem mem_map_fst_add :
    other ∈ (index.add protocol peer).map Prod.fst ↔
      other = protocol ∨ other ∈ index.map Prod.fst := by
  induction index with
  | nil => simp [add]
  | cons line rest ih =>
      rcases line with ⟨listed, ids⟩
      by_cases here : listed = protocol
      · simp [add, here]
      · simp only [add, if_neg here, List.map_cons, List.mem_cons, ih]
        tauto

theorem Tidy.add (tidy : index.Tidy) : (index.add protocol peer).Tidy := by
  induction index with
  | nil => exact ⟨by simp [Index.add], by simp [Index.add]⟩
  | cons line rest ih =>
      rcases line with ⟨listed, ids⟩
      rcases List.nodup_cons.mp tidy.distinct with ⟨fresh, distinct⟩
      have below := ih ⟨distinct, fun line later => tidy.nonempty line (.tail _ later)⟩
      by_cases here : listed = protocol
      · rw [Index.add, if_pos here]
        refine ⟨tidy.distinct, fun line member => ?_⟩
        rcases List.mem_cons.mp member with rfl | later
        · simp
        · exact tidy.nonempty line (.tail _ later)
      · rw [Index.add, if_neg here]
        refine ⟨List.nodup_cons.mpr ⟨?_, below.distinct⟩, fun line member => ?_⟩
        · rw [mem_map_fst_add]
          exact not_or.mpr ⟨here, fresh⟩
        · rcases List.mem_cons.mp member with rfl | later
          · exact tidy.nonempty _ (.head _)
          · exact below.nonempty line later

theorem addAll_cons {protocols : List String} :
    index.addAll (protocol :: protocols) peer =
      (index.add protocol peer).addAll protocols peer := rfl

theorem subscribers_addAll {protocols : List String} (nodup : protocols.Nodup) :
    (index.addAll protocols peer).subscribers other =
      if other ∈ protocols then index.subscribers other ++ [peer]
      else index.subscribers other := by
  induction protocols generalizing index with
  | nil => rfl
  | cons first rest ih =>
      rcases List.nodup_cons.mp nodup with ⟨fresh, distinct⟩
      rw [addAll_cons, ih distinct, subscribers_add]
      by_cases same : other = first
      · simp [same, fresh]
      · simp [same]

theorem Tidy.addAll {protocols : List String} (tidy : index.Tidy) :
    (index.addAll protocols peer).Tidy := by
  induction protocols generalizing index with
  | nil => exact tidy
  | cons first rest ih =>
      rw [addAll_cons]
      exact ih tidy.add

/-! ## Striking -/

section Striking

variable {strike : String × List PeerId → Option (String × List PeerId)}
variable (left : String → List PeerId → List PeerId)

/-- An operation that leaves of each line what `left` says, and no line without
subscribers, leaves of the subscribers of a protocol what `left` says. -/
theorem subscribers_filterMap (tidy : index.Tidy)
    (strikes : ∀ listed ids, ids ≠ [] → strike (listed, ids) =
      if (left listed ids).isEmpty then none else some (listed, left listed ids))
    (nothing : ∀ listed, left listed [] = []) :
    subscribers (index.filterMap strike) protocol =
      left protocol (index.subscribers protocol) := by
  induction index with
  | nil => exact (nothing protocol).symm
  | cons line rest ih =>
      rcases line with ⟨listed, ids⟩
      rcases List.nodup_cons.mp tidy.distinct with ⟨fresh, distinct⟩
      have filled : ids ≠ [] := tidy.nonempty _ (.head _)
      have below := ih ⟨distinct, fun line later => tidy.nonempty line (.tail _ later)⟩
      rw [List.filterMap_cons, strikes listed ids filled, subscribers_cons]
      by_cases gone : (left listed ids).isEmpty
      · simp only [gone, if_true, below]
        by_cases same : protocol = listed
        · subst same
          rw [if_pos rfl, subscribers_of_not_listed fresh, nothing,
            List.isEmpty_iff.mp gone]
        · rw [if_neg same]
      · simp only [gone, Bool.false_eq_true, if_false, subscribers_cons, below]
        by_cases same : protocol = listed <;> simp [same]

theorem Tidy.filterMap (tidy : index.Tidy)
    (strikes : ∀ listed ids, ids ≠ [] → strike (listed, ids) =
      if (left listed ids).isEmpty then none else some (listed, left listed ids)) :
    Tidy (index.filterMap strike) := by
  have struck : ∀ line ∈ index, ∀ kept, strike line = some kept →
      kept.1 = line.1 ∧ kept.2 ≠ [] := by
    rintro ⟨listed, ids⟩ member kept selected
    rw [strikes listed ids (tidy.nonempty _ member)] at selected
    split_ifs at selected with gone
    cases selected
    exact ⟨rfl, by simpa using gone⟩
  constructor
  · -- `strikes` speaks about filled lines only, so membership has to be carried along.
    have distinct := (List.pairwise_map.mp tidy.distinct).imp_of_mem
      (S := fun line later => line ∈ index ∧ later ∈ index ∧ line.1 ≠ later.1)
      fun member laterMember differ => ⟨member, laterMember, differ⟩
    refine List.pairwise_map.mpr (distinct.filterMap strike ?_)
    rintro line later ⟨member, laterMember, differ⟩ kept selected other selectedLater same
    rw [(struck line member kept selected).1,
      (struck later laterMember other selectedLater).1] at same
    exact differ same
  · intro kept member
    rcases List.mem_filterMap.mp member with ⟨line, listed, selected⟩
    exact (struck line listed kept selected).2

end Striking

/-- What `keepUnder` leaves of a line. -/
def leftUnder (protocol : String) (kept : PeerId → Bool) (listed : String)
    (ids : List PeerId) : List PeerId :=
  if listed = protocol then ids.filter kept else ids

theorem keepUnder_line {kept : PeerId → Bool} (listed : String) (ids : List PeerId)
    (filled : ids ≠ []) :
    (if listed = protocol then
        if (ids.filter kept).isEmpty then none else some (listed, ids.filter kept)
      else some (listed, ids)) =
      if (leftUnder protocol kept listed ids).isEmpty then none
      else some (listed, leftUnder protocol kept listed ids) := by
  by_cases here : listed = protocol
  · simp [leftUnder, here]
  · simp [leftUnder, here, filled]

theorem subscribers_keepUnder {kept : PeerId → Bool} (tidy : index.Tidy) :
    (index.keepUnder protocol kept).subscribers other =
      if other = protocol then (index.subscribers other).filter kept
      else index.subscribers other :=
  subscribers_filterMap (leftUnder protocol kept) tidy keepUnder_line
    fun listed => by simp [leftUnder]

theorem Tidy.keepUnder {kept : PeerId → Bool} (tidy : index.Tidy) :
    (index.keepUnder protocol kept).Tidy :=
  tidy.filterMap (leftUnder protocol kept) keepUnder_line

theorem subscribers_keep {kept : PeerId → Bool} (tidy : index.Tidy) :
    (index.keep kept).subscribers protocol = (index.subscribers protocol).filter kept :=
  subscribers_filterMap (fun _ ids => ids.filter kept) tidy (fun _ _ _ => rfl)
    fun _ => rfl

theorem Tidy.keep {kept : PeerId → Bool} (tidy : index.Tidy) :
    (index.keep kept).Tidy :=
  tidy.filterMap (fun _ ids => ids.filter kept) fun _ _ _ => rfl

/-- Nothing is struck if all subscribers are kept. -/
theorem Tidy.keep_eq_self {kept : PeerId → Bool} (tidy : index.Tidy)
    (all : ∀ protocol, ∀ id ∈ index.subscribers protocol, kept id = true) :
    index.keep kept = index := by
  have each : ∀ line ∈ index, (if (line.2.filter kept).isEmpty then none
      else some (line.1, line.2.filter kept)) = some line := by
    rintro ⟨protocol, ids⟩ member
    have whole : ids.filter kept = ids := List.filter_eq_self.mpr fun id listed =>
      all protocol id (tidy.subscribers_of_mem member ▸ listed)
    have filled : ids.isEmpty = false := by simpa using tidy.nonempty _ member
    simp [whole, filled]
  exact (List.filterMap_congr each).trans (List.filterMap_some)

end Index
end EngineGateway.Peer
