import EngineGateway.Toml.Document
import Mathlib.Data.List.Nodup
import Mathlib.Data.Option.Basic

/-!
# Names in documents

A document gives a name once, so what it gives under a name is found in one place.  This is all
that the settings ask of a way to read documents, and the one with which the program runs keeps
to it: a line that gives a name again is refused.
-/

namespace EngineGateway.Toml

namespace Entries

variable {entries after : Entries} {name : String} {value : Value}

/-- No name is given twice. -/
def Distinct (entries : Entries) : Prop :=
  (entries.map Prod.fst).Nodup

theorem lookup_eq_none_iff : entries.lookup name = none ↔ ∀ value, (name, value) ∉ entries := by
  rw [List.lookup_eq_none_iff]
  constructor
  · intro differ value member
    simpa using differ _ member
  · rintro missing ⟨other, value⟩ member
    refine bne_iff_ne.mpr fun same => ?_
    subst same
    exact missing value member

theorem Distinct.lookup_eq_some_iff (distinct : entries.Distinct) :
    entries.lookup name = some value ↔ (name, value) ∈ entries := by
  constructor
  · intro found
    obtain ⟨before, behind, rfl, _⟩ := List.lookup_eq_some_iff.mp found
    simp
  · intro member
    obtain ⟨before, behind, rfl⟩ := List.append_of_mem member
    refine List.lookup_eq_some_iff.mpr ⟨before, behind, rfl, fun other earlier => ?_⟩
    -- The name does not stand in front of the place where it is found.
    have apart := distinct
    rw [Distinct, List.map_append, List.map_cons, List.nodup_append] at apart
    refine bne_iff_ne.mpr fun same => ?_
    exact apart.2.2 _ (List.mem_map_of_mem earlier) _ (.head _) same.symm

theorem Distinct.append (distinct : entries.Distinct) (new : entries.lookup name = none)
    (value : Value) : Distinct (entries ++ [(name, value)]) := by
  rw [Distinct, List.map_append, List.map_singleton]
  refine List.Nodup.append distinct (List.nodup_singleton _) ?_
  rw [List.disjoint_singleton]
  intro member
  obtain ⟨⟨_, given⟩, among, rfl⟩ := List.mem_map.mp member
  exact lookup_eq_none_iff.mp new given among

theorem Distinct.replace (distinct : entries.Distinct) (name : String) (value : Value) :
    Distinct (entries.replace name value) := by
  have names : (entries.replace name value).map Prod.fst = entries.map Prod.fst := by
    rw [Entries.replace, List.map_map]
    refine List.map_congr_left fun entry _ => ?_
    simp only [Function.comp_apply]
    split_ifs with same
    · exact same.symm
    · rfl
  rw [Distinct, names]
  exact distinct

/-- The change gives no name twice. -/
def Careful (change : Standing → Entries → Option Entries) : Prop :=
  ∀ {standing entries after}, change standing entries = some after →
    Distinct entries → Distinct after

/-- A change somewhere in a table leaves its names as they are, or adds one that is new. -/
theorem careful_alter {change : Standing → Entries → Option Entries} (careful : Careful change)
    (isDotted : Bool) (path : List String) : Careful (alter isDotted change path) := by
  intro standing entries after altered distinct
  cases path with
  | nil => exact careful altered distinct
  | cons name path =>
      rw [alter] at altered
      split at altered
      · next new =>
        obtain ⟨inner, _, ⟨⟩⟩ := Option.bind_eq_some_iff.mp altered
        exact distinct.append new _
      · obtain ⟨_, _, changed⟩ := Option.bind_eq_some_iff.mp altered
        obtain ⟨inner, _, ⟨⟩⟩ := Option.bind_eq_some_iff.mp changed
        exact distinct.replace _ _
      · obtain ⟨last, _, ⟨⟩⟩ := Option.bind_eq_some_iff.mp altered
        exact distinct.replace _ _
      · cases altered

theorem careful_assign (path : List String) (name : String) (value : Value) :
    Careful (assign path name value) := by
  refine careful_alter (fun changed distinct => ?_) true path
  obtain ⟨_, _, named⟩ := Option.bind_eq_some_iff.mp changed
  obtain ⟨_, new, ⟨⟩⟩ := Option.bind_eq_some_iff.mp named
  have unnamed := (Option.guard_eq_some' _).mp new
  exact distinct.append (Option.isNone_iff_eq_none.mp unnamed) value

theorem distinct_openHeader {fresh : Value} {again : Value → Option Value} {path : List String}
    (opened : openHeader fresh again path name entries = some after)
    (distinct : entries.Distinct) : after.Distinct := by
  refine careful_alter (fun changed distinct => ?_) false path opened distinct
  split at changed
  · next new =>
    cases changed
    exact distinct.append new _
  · obtain ⟨value, _, rfl⟩ := Option.map_eq_some_iff.mp changed
    exact distinct.replace _ _

end Entries

/-! ## Documents -/

/-- No line gives a name again. -/
theorem Document.distinct_add {document after : Document} {line : Line}
    (added : document.add line = some after) (distinct : document.entries.Distinct) :
    after.entries.Distinct := by
  cases line with
  | blank =>
      cases added
      exact distinct
  | assign key value =>
      obtain ⟨entries, altered, ⟨⟩⟩ := Option.bind_eq_some_iff.mp added
      exact Entries.careful_alter (Entries.careful_assign _ _ _) _ _ altered distinct
  | openTable key =>
      obtain ⟨entries, opened, ⟨⟩⟩ := Option.bind_eq_some_iff.mp added
      exact Entries.distinct_openHeader opened distinct
  | openItem key =>
      obtain ⟨entries, opened, ⟨⟩⟩ := Option.bind_eq_some_iff.mp added
      exact Entries.distinct_openHeader opened distinct

theorem Document.distinct_addAll {lines : List Line} {document after : Document}
    (added : lines.foldlM Document.add document = some after)
    (distinct : document.entries.Distinct) : after.entries.Distinct := by
  induction lines generalizing document with
  | nil =>
      cases added
      exact distinct
  | cons line rest ih =>
      obtain ⟨next, first, others⟩ := Option.bind_eq_some_iff.mp added
      exact ih others (Document.distinct_add first distinct)

/-- No document gives a name twice. -/
def Reading.Distinct (read : Reading) : Prop :=
  ∀ text entries, read text = some entries → entries.Distinct

theorem parse?_distinct : Reading.Distinct parse? := by
  intro text entries parsed
  obtain ⟨⟨said, _⟩, _, read⟩ := Option.bind_eq_some_iff.mp parsed
  obtain ⟨document, added, ⟨⟩⟩ := Option.bind_eq_some_iff.mp read
  exact Document.distinct_addAll added List.nodup_nil

end EngineGateway.Toml
