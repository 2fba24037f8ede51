import EngineGateway.Proofs.Script.Strings
import Mathlib.Data.List.TakeWhile

/-!
# White space that is kept

What is left of a script for an engine with bracketed strings.  Outside of strings there are
no carriage returns, and white space stands alone.  For a script without carriage returns
the rule is a simple one: of white space outside of strings the first octet stays, a string
that is open at the end is closed, and everything else stays as it is.  What the rule has
been applied to does not change any more.
-/

namespace EngineGateway.Script

/-! ## Lone white space -/

/-- Outside of bracketed strings no octet is a carriage return, and no two octets next to
each other are white space. -/
structure Spaced (octets : Bytes) : Prop where
  unreturned : ∀ before after, octets = before ++ 0x0D :: after →
    place .bracketed before ≠ .outside
  single : ∀ before first second after, octets = before ++ first :: second :: after →
    place .bracketed before = .outside → first ∈ spaces → second ∉ spaces

/-- What a first-generation engine takes: the octets are spaced, and all strings in them are
closed. -/
structure Settled (octets : Bytes) : Prop extends Spaced octets where
  closed : place .bracketed octets = .outside

/-- The octets do not end with white space outside of bracketed strings. -/
def Ended (octets : Bytes) : Prop :=
  ∀ before last, octets = before ++ [last] → place .bracketed before = .outside →
    last ∉ spaces

theorem ended_of_inside {octets : Bytes} (inside : place .bracketed octets ≠ .outside) :
    Ended octets := by
  rintro before last rfl out space
  apply inside
  rw [place_concat, out, Place.after_outside_space space]

theorem ended_concat {octets : Bytes} {octet : UInt8}
    (solid : place .bracketed octets = .outside → octet ∉ spaces) :
    Ended (octets ++ [octet]) := by
  intro before last same out
  obtain ⟨rfl, last⟩ := List.append_inj' same rfl
  obtain rfl := List.singleton_inj.mp last
  exact solid out

theorem Spaced.concat {octets : Bytes} {octet : UInt8} (spaced : Spaced octets)
    (kept : place .bracketed octets = .outside → octet ≠ 0x0D)
    (apart : octet ∈ spaces → Ended octets) : Spaced (octets ++ [octet]) where
  unreturned := by
    intro before after parts out
    rcases List.eq_nil_or_concat after with rfl | ⟨between, last, rfl⟩
    · obtain ⟨rfl, same⟩ := List.append_inj' parts rfl
      exact kept out (List.singleton_inj.mp same)
    · rw [List.concat_eq_append, ← List.cons_append, ← List.append_assoc] at parts
      exact spaced.unreturned before between (List.append_inj' parts rfl).1 out
  single := by
    intro before first second after parts out space
    rcases List.eq_nil_or_concat after with rfl | ⟨between, last, rfl⟩
    · have cut : before ++ first :: [second] = (before ++ [first]) ++ [second] := by simp
      obtain ⟨rfl, same⟩ := List.append_inj' (parts.trans cut) rfl
      obtain rfl := List.singleton_inj.mp same
      intro also
      exact apart also before first rfl out space
    · rw [List.concat_eq_append, ← List.cons_append, ← List.cons_append,
        ← List.append_assoc] at parts
      exact spaced.single before first second between (List.append_inj' parts rfl).1 out space

namespace Scan

variable {scan : Scan} {octet : UInt8}

/-- What has been written is spaced, and whatever comes next may be white space. -/
structure Tidy (scan : Scan) : Prop where
  standing : Standing .bracketed scan
  spaced : Spaced scan.written.reverse
  ended : Ended scan.written.reverse

theorem tidy_start : Tidy start where
  standing := standing_start .bracketed
  spaced := ⟨by simp [start], by simp [start]⟩
  ended := by simp [Ended, start]

theorem Tidy.spaced_pending (tidy : Tidy scan) :
    Spaced (scan.written.reverse ++ scan.pending.toList) := by
  cases waiting : scan.pending with
  | none =>
      rw [Option.toList_none, List.append_nil]
      exact tidy.spaced
  | some space =>
      have among := (tidy.standing.sound.pending space waiting).2.2
      apply tidy.spaced.concat
      · rintro _ rfl
        exact absurd among (by decide)
      · exact fun _ => tidy.ended

theorem Tidy.passes (tidy : Tidy scan) {next : Scan}
    (passes : Passes .bracketed scan octet next)
    (kept : scan.place = .outside → octet ≠ 0x0D) : Tidy next := by
  have standing := tidy.standing.passes passes
  have here := tidy.standing.place_pending
  cases passes with
  | held _ _ _ => exact ⟨standing, tidy.spaced, tidy.ended⟩
  | written solid wrote _ _ _ =>
      have spaced : Spaced next.written.reverse := by
        rw [reverse_written wrote]
        apply tidy.spaced_pending.concat
        · rw [here]
          exact kept
        · intro space
          apply ended_of_inside
          rw [here]
          exact fun out => solid rfl out space
      have ended : Ended next.written.reverse := by
        rw [reverse_written wrote]
        apply ended_concat
        rw [here]
        exact solid rfl
      exact ⟨standing, spaced, ended⟩

theorem Tidy.run (tidy : Tidy scan) (octets : Bytes) : Tidy (scan.run .bracketed octets) := by
  fun_induction Scan.run .bracketed scan octets with
  | case1 scan => exact tidy
  | case2 scan rest ih =>
      exact ih (tidy.passes (tidy.standing.sound.passes _) fun _ => by decide)
  | case3 scan octet rest _ _ ih => exact ih tidy
  | case4 scan octet rest _ kept ih =>
      apply ih
      apply tidy.passes (tidy.standing.sound.passes _)
      rintro out rfl
      exact kept ⟨rfl, inString_of_outside out⟩

theorem Tidy.spaced_finish (tidy : Tidy scan) : Spaced (scan.finish .bracketed) := by
  rw [finish_eq]
  split
  · exact tidy.spaced_pending.concat (fun _ => by decide)
      fun bracket => absurd bracket (by decide)
  · rw [List.append_nil]
    exact tidy.spaced_pending

end Scan

theorem settled_normalizeSpacing (script : Bytes) :
    Settled (normalizeSpacing .bracketed script) where
  toSpaced := (Scan.tidy_start.run script).spaced_finish
  closed := place_bracketed_normalizeSpacing script

/-! ## The rule -/

/-- What is left of a script without carriage returns. -/
inductive Tightens : Bytes → Bytes → Prop where
  | nil : Tightens [] []
  /-- Of white space outside of strings the first octet stays. -/
  | gap {first : UInt8} {gap rest out : Bytes} :
      first ∈ spaces → (∀ octet ∈ gap, octet ∈ spaces) →
      (∀ octet ∈ rest.head?, octet ∉ spaces) → Tightens rest out →
      Tightens (first :: gap ++ rest) (first :: out)
  /-- A string stays as it is. -/
  | string {text rest out : Bytes} : 0x5D ∉ text → Tightens rest out →
      Tightens (0x5B :: text ++ 0x5D :: rest) (0x5B :: text ++ 0x5D :: out)
  /-- A string that is open at the end is closed. -/
  | unclosed {text : Bytes} : 0x5D ∉ text →
      Tightens (0x5B :: text) (0x5B :: text ++ [0x5D])
  /-- Any other octet stays as it is. -/
  | other {octet : UInt8} {rest out : Bytes} : octet ∉ spaces → octet ≠ 0x5B →
      Tightens rest out → Tightens (octet :: rest) (octet :: out)

/-- The rule can be applied to everything. -/
theorem exists_tightens (script : Bytes) : ∃ out, Tightens script out := by
  induction length : script.length using Nat.strongRecOn generalizing script with
  | ind size ih =>
      have shorter : ∀ rest : Bytes, rest.length < script.length → ∃ out, Tightens rest out :=
        fun rest less => ih rest.length (length ▸ less) rest rfl
      cases script with
      | nil => exact ⟨[], .nil⟩
      | cons octet rest =>
          by_cases space : octet ∈ spaces
          · have cut : rest.takeWhile (· ∈ spaces) ++ rest.dropWhile (· ∈ spaces) = rest :=
              List.takeWhile_append_dropWhile
            obtain ⟨out, tightens⟩ := shorter (rest.dropWhile (· ∈ spaces))
              (Nat.lt_succ_of_le (List.length_dropWhile_le _ _))
            refine ⟨octet :: out, ?_⟩
            rw [← cut, ← List.cons_append]
            apply Tightens.gap space _ _ tightens
            · intro other member
              simpa using List.mem_takeWhile_imp member
            · intro other first
              have solid := List.head?_dropWhile_not (fun octet => decide (octet ∈ spaces)) rest
              rw [Option.mem_def.mp first] at solid
              simpa using solid
          by_cases opens : octet = 0x5B
          · subst opens
            by_cases closed : 0x5D ∈ rest
            · obtain ⟨text, later, rfl, within⟩ := List.eq_append_cons_of_mem closed
              obtain ⟨out, tightens⟩ := shorter later (by simp; omega)
              exact ⟨_, .string within tightens⟩
            · exact ⟨_, .unclosed closed⟩
          · obtain ⟨out, tightens⟩ := shorter rest (Nat.lt_succ_self _)
            exact ⟨_, .other space opens tightens⟩

section Rule

variable {script out : Bytes} (tightens : Tightens script out)
include tightens

theorem Tightens.subset : ∀ octet ∈ out, octet ∈ script ∨ octet = 0x5D := by
  induction tightens with
  | nil => simp
  | gap _ _ _ _ ih => grind
  | string _ _ ih => grind
  | unclosed _ => grind
  | other _ _ _ ih => grind

theorem Tightens.head_solid (solid : ∀ octet ∈ script.head?, octet ∉ spaces) :
    ∀ octet ∈ out.head?, octet ∉ spaces := by
  cases tightens with
  | nil => exact solid
  | gap _ _ _ _ => exact solid
  | string _ _ => exact solid
  | unclosed _ => exact solid
  | other _ _ _ => exact solid

/-- What the rule has been applied to stays as it is. -/
theorem Tightens.again : Tightens out out := by
  induction tightens with
  | nil => exact .nil
  | gap space _ ends tightens ih =>
      exact @Tightens.gap _ [] _ _ space (by simp) (tightens.head_solid ends) ih
  | string within _ ih => exact .string within ih
  | unclosed within => exact .string within .nil
  | other solid other _ ih => exact .other solid other ih

end Rule

/-! ## Scanning by the rule -/

namespace Scan

variable {scan : Scan} {octet : UInt8}

/-- A scan that has more octets in front of all that it has written. -/
def behind (earlier : Bytes) (scan : Scan) : Scan :=
  { scan with written := scan.written ++ earlier.reverse }

theorem pass_behind (earlier : Bytes) (scan : Scan) (octet : UInt8) :
    (scan.behind earlier).pass .bracketed octet =
      (scan.pass .bracketed octet).behind earlier := by
  rcases scan with ⟨inString, escaped, pending, written⟩
  cases pending <;>
    simp only [behind, pass, insideString, outsideString, flush] <;> split_ifs <;> rfl

theorem foldl_behind (earlier : Bytes) (scan : Scan) (octets : Bytes) :
    octets.foldl (pass .bracketed) (scan.behind earlier) =
      (octets.foldl (pass .bracketed) scan).behind earlier := by
  induction octets generalizing scan with
  | nil => rfl
  | cons octet rest ih => rw [List.foldl_cons, List.foldl_cons, pass_behind, ih]

theorem finish_behind (style : StringStyle) (earlier : Bytes) (scan : Scan) :
    (scan.behind earlier).finish style = earlier ++ scan.finish style := by
  simp [finish_eq, behind]

theorem run_eq_foldl (style : StringStyle) (scan : Scan) {octets : Bytes}
    (unreturned : 0x0D ∉ octets) : scan.run style octets = octets.foldl (pass style) scan := by
  fun_induction Scan.run style scan octets with
  | case1 scan => rfl
  | case2 scan rest _ => simp at unreturned
  | case3 scan octet rest _ dropped _ => simp [dropped.1] at unreturned
  | case4 scan octet rest _ _ ih =>
      exact ih fun member => unreturned (.tail _ member)

/-- The text of a string is written as it is. -/
theorem foldl_text {text : Bytes} (within : 0x5D ∉ text) (inside : scan.inString = true) :
    text.foldl (pass .bracketed) scan =
      { scan with written := text.reverse ++ scan.written } := by
  induction text generalizing scan with
  | nil => rfl
  | cons octet rest ih =>
      have goes : octet ≠ 0x5D := fun closes => within (closes ▸ .head _)
      have passed : scan.pass .bracketed octet =
          { scan with written := octet :: scan.written } := by
        simp [pass, insideString, StringStyle.closing, inside, goes]
      have still : (scan.pass .bracketed octet).inString = true := by
        rw [passed]
        exact inside
      rw [List.foldl_cons, ih (fun member => within (.tail _ member)) still, passed]
      simp

/-- White space behind white space is dropped. -/
theorem foldl_gap {first : UInt8} {gap : Bytes} (blank : ∀ octet ∈ gap, octet ∈ spaces) :
    gap.foldl (pass .bracketed) { start with pending := some first } =
      { start with pending := some first } := by
  induction gap with
  | nil => rfl
  | cons octet rest ih =>
      have space := blank octet (.head _)
      have passed : { start with pending := some first }.pass .bracketed octet =
          { start with pending := some first } := by
        simp [pass, outsideString, isSpace_iff, space, start]
      rw [List.foldl_cons, passed]
      exact ih fun octet member => blank octet (.tail _ member)

/-- What is left of octets that are passed one by one. -/
def tighten (octets : Bytes) : Bytes :=
  (octets.foldl (pass .bracketed) start).finish .bracketed

theorem tighten_gap {first : UInt8} {gap rest : Bytes} (space : first ∈ spaces)
    (blank : ∀ octet ∈ gap, octet ∈ spaces) (ends : ∀ octet ∈ rest.head?, octet ∉ spaces) :
    tighten (first :: gap ++ rest) = first :: tighten rest := by
  have begun : start.pass .bracketed first = { start with pending := some first } := by
    simp [pass, outsideString, isSpace_iff, space, start]
  rw [tighten, List.cons_append, List.foldl_cons, begun, List.foldl_append, foldl_gap blank]
  cases rest with
  | nil => rfl
  | cons octet rest =>
      have solid := ends octet rfl
      have passed : { start with pending := some first }.pass .bracketed octet =
          (start.pass .bracketed octet).behind [first] := by
        simp [pass, outsideString, isSpace_iff, solid, flush, behind, start]
      rw [List.foldl_cons, passed, foldl_behind, finish_behind]
      rfl

theorem tighten_string {text : Bytes} (within : 0x5D ∉ text) (rest : Bytes) :
    tighten (0x5B :: text ++ 0x5D :: rest) = 0x5B :: text ++ 0x5D :: tighten rest := by
  have opened : start.pass .bracketed 0x5B = ⟨true, false, none, [0x5B]⟩ := rfl
  have closed : (Scan.mk true false none (text.reverse ++ [0x5B])).pass .bracketed 0x5D =
      start.behind (0x5B :: text ++ [0x5D]) := by
    simp [pass, insideString, StringStyle.closing, behind, start]
  rw [tighten, List.cons_append, List.foldl_cons, opened, List.foldl_append,
    foldl_text within rfl, List.foldl_cons, closed, foldl_behind, finish_behind, tighten]
  simp

theorem tighten_unclosed {text : Bytes} (within : 0x5D ∉ text) :
    tighten (0x5B :: text) = 0x5B :: text ++ [0x5D] := by
  have opened : start.pass .bracketed 0x5B = ⟨true, false, none, [0x5B]⟩ := rfl
  rw [tighten, List.foldl_cons, opened, foldl_text within rfl]
  simp [finish_eq, StringStyle.closing]

theorem tighten_other (solid : octet ∉ spaces) (other : octet ≠ 0x5B) (rest : Bytes) :
    tighten (octet :: rest) = octet :: tighten rest := by
  have passed : start.pass .bracketed octet = start.behind [octet] := by
    simp [pass, outsideString, flush, behind, start, StringStyle.opening, isSpace_iff, solid,
      other]
  rw [tighten, List.foldl_cons, passed, foldl_behind, finish_behind]
  rfl

end Scan

theorem Tightens.tighten_eq {script out : Bytes} (tightens : Tightens script out) :
    Scan.tighten script = out := by
  induction tightens with
  | nil => rfl
  | gap space blank ends _ ih => rw [Scan.tighten_gap space blank ends, ih]
  | string within _ ih => rw [Scan.tighten_string within, ih]
  | unclosed within => exact Scan.tighten_unclosed within
  | other solid other _ ih => rw [Scan.tighten_other solid other, ih]

theorem normalizeSpacing_eq_iff {script out : Bytes} (unreturned : 0x0D ∉ script) :
    normalizeSpacing .bracketed script = out ↔ Tightens script out := by
  have same : normalizeSpacing .bracketed script = Scan.tighten script := by
    rw [normalizeSpacing, Scan.run_eq_foldl .bracketed Scan.start unreturned, Scan.tighten]
  rw [same]
  constructor
  · rintro rfl
    obtain ⟨out, tightens⟩ := exists_tightens script
    rwa [tightens.tighten_eq]
  · exact Tightens.tighten_eq

theorem normalizeSpacing_again {script : Bytes} (unreturned : 0x0D ∉ script) :
    normalizeSpacing .bracketed (normalizeSpacing .bracketed script) =
      normalizeSpacing .bracketed script := by
  have tightens := (normalizeSpacing_eq_iff unreturned).mp rfl
  refine (normalizeSpacing_eq_iff ?_).mpr tightens.again
  intro member
  rcases tightens.subset _ member with inside | bracket
  · exact unreturned inside
  · exact absurd bracket (by decide)

end EngineGateway.Script
