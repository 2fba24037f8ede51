import EngineGateway.Script.Spacing
import Mathlib.Data.List.Basic

/-!
# Strings of a script

A reader of a script stands outside of strings, inside a string, or right behind a
backslash that takes the meaning from the next octet.  While a script is scanned, what has
been written leaves a reader where the script itself does, and white space that is waiting
takes a reader nowhere.  So the octet that is written behind an open string closes it, with
one exception: behind a script that ends with such a backslash it is taken as it is, and the
string stays open.
-/

namespace EngineGateway.Script

/-! ## Readers -/

/-- Where a reader stands between two octets of a script. -/
inductive Place where
  | outside
  | inside
  /-- Inside a string, right behind a backslash that takes the meaning from the next octet. -/
  | escaped
  deriving Repr, DecidableEq

/-- Where a reader stands after one more octet.  A bracketed string runs from `[` to the next
`]`.  A quoted one runs from `"` to the next `"` that no backslash takes the meaning from. -/
def Place.after (style : StringStyle) (place : Place) (octet : UInt8) : Place :=
  match style, place with
  | .bracketed, .outside => if octet = 0x5B then .inside else .outside
  | .bracketed, .inside => if octet = 0x5D then .outside else .inside
  | .quoted, .outside => if octet = 0x22 then .inside else .outside
  | .quoted, .inside =>
      if octet = 0x22 then .outside else if octet = 0x5C then .escaped else .inside
  | _, .escaped => .inside

/-- Where a reader stands who has read the octets from the start. -/
def place (style : StringStyle) (octets : Bytes) : Place :=
  octets.foldl (Place.after style) .outside

theorem place_concat (style : StringStyle) (octets : Bytes) (octet : UInt8) :
    place style (octets ++ [octet]) = (place style octets).after style octet :=
  List.foldl_append

/-- The octets that are white space. -/
def spaces : Bytes := [0x20, 0x09, 0x0A, 0x0B, 0x0C]

theorem isSpace_iff (octet : UInt8) : isSpace octet = true ↔ octet ∈ spaces := by
  simp [isSpace, spaces, or_assoc]

/-- White space opens no string. -/
theorem Place.after_outside_space {style : StringStyle} {octet : UInt8}
    (space : octet ∈ spaces) : Place.after style .outside octet = .outside := by
  revert octet
  cases style <;> decide +kernel

theorem Place.after_outside_return (style : StringStyle) :
    Place.after style .outside 0x0D = .outside := by
  cases style <;> rfl

/-- A line end of two octets moves a reader like a line feed alone. -/
theorem Place.after_lineEnd (style : StringStyle) (place : Place) :
    (place.after style 0x0D).after style 0x0A = place.after style 0x0A := by
  cases style <;> cases place <;> rfl

/-! ## Passing an octet -/

namespace Scan

/-- Where a scan knows itself to stand. -/
def place (scan : Scan) : Place :=
  if scan.escaped then .escaped else if scan.inString then .inside else .outside

/-- What a scan knows holds together: only in a quoted string is there an escape, and only
white space outside of bracketed strings waits to be written. -/
structure Sound (style : StringStyle) (scan : Scan) : Prop where
  escaped : scan.escaped = true → scan.inString = true ∧ style = .quoted
  pending : ∀ octet ∈ scan.pending,
    style = .bracketed ∧ scan.inString = false ∧ octet ∈ spaces

/-- What passing an octet comes to. -/
inductive Passes (style : StringStyle) (scan : Scan) (octet : UInt8) : Scan → Prop where
  /-- White space outside of bracketed strings waits, unless some is waiting already. -/
  | held : style = .bracketed → scan.place = .outside → octet ∈ spaces →
      Passes style scan octet { scan with pending := scan.pending.or (some octet) }
  /-- Anything else is written, behind the white space that is waiting. -/
  | written {next : Scan} :
      (style = .bracketed → scan.place = .outside → octet ∉ spaces) →
      next.written = octet :: (scan.pending.toList ++ scan.written) →
      next.pending = none → next.place = scan.place.after style octet →
      Sound style next → Passes style scan octet next

variable {style : StringStyle} {scan : Scan} {octet : UInt8}

theorem sound_start (style : StringStyle) : Sound style start :=
  ⟨by simp [start], by simp [start]⟩

theorem Sound.pending_inside (sound : Sound style scan) (inside : scan.inString = true) :
    scan.pending = none := by
  cases waiting : scan.pending with
  | none => rfl
  | some space => simp [(sound.pending space waiting).2.1] at inside

theorem Sound.not_escaped (sound : Sound style scan) (out : scan.inString = false) :
    scan.escaped = false := by
  cases flag : scan.escaped with
  | false => rfl
  | true => simp [(sound.escaped flag).1] at out

theorem Sound.place_outside (sound : Sound style scan) (out : scan.inString = false) :
    scan.place = .outside := by
  simp [place, sound.not_escaped out, out]

theorem inString_of_outside (out : scan.place = .outside) : scan.inString = false := by
  cases inside : scan.inString with
  | false => rfl
  | true =>
      simp only [place, inside] at out
      split at out <;> cases out

/-- In a quoted string an octet behind a backslash is taken as it is.  Any other octet goes
on with the string unless it closes it. -/
theorem insideString_quoted (inside : scan.inString = true) (octet : UInt8) :
    scan.insideString .quoted octet =
      { scan with
        inString := scan.escaped || octet == 0x5C || octet != 0x22
        escaped := !scan.escaped && octet == 0x5C
        written := octet :: scan.written } := by
  simp only [insideString, backslash, StringStyle.closing]
  split_ifs with escaped escapes <;> simp_all

theorem flush_eq (scan : Scan) :
    scan.flush =
      { scan with pending := none, written := scan.pending.toList ++ scan.written } := by
  rcases scan with ⟨inString, escaped, pending, written⟩
  cases pending <;> rfl

theorem Sound.passes_inside (sound : Sound style scan) (inside : scan.inString = true)
    (octet : UInt8) : Passes style scan octet (scan.insideString style octet) := by
  have waiting := sound.pending_inside inside
  have within : scan.place ≠ .outside := by
    intro out
    simp [inString_of_outside out] at inside
  cases style with
  | bracketed =>
      have plain : scan.escaped = false := by
        cases flag : scan.escaped with
        | false => rfl
        | true => cases (sound.escaped flag).2
      apply Passes.written
      · simp [within]
      · simp [insideString, waiting]
      · exact waiting
      · by_cases closes : octet = 0x5D <;>
          simp [insideString, StringStyle.closing, place, Place.after, plain, inside, closes]
      · exact ⟨by simp [insideString, plain], by simp [insideString, waiting]⟩
  | quoted =>
      rw [insideString_quoted inside]
      apply Passes.written
      · simp
      · simp [waiting]
      · exact waiting
      · cases flag : scan.escaped with
        | true => simp [place, Place.after, flag]
        | false =>
            by_cases escapes : octet = 0x5C
            · simp [place, Place.after, flag, inside, escapes]
            · by_cases closes : octet = 0x22 <;>
                simp [place, Place.after, flag, inside, escapes, closes]
      · exact ⟨by simp +contextual, by simp [waiting]⟩

theorem Sound.passes_outside (sound : Sound style scan) (out : scan.inString = false)
    (octet : UInt8) : Passes style scan octet (scan.outsideString style octet) := by
  have here := sound.place_outside out
  have plain := sound.not_escaped out
  simp only [outsideString, isSpace_iff]
  split_ifs with held
  · exact .held held.1 here held.2
  · rw [flush_eq]
    apply Passes.written
    · intro bracketed _ space
      exact held ⟨bracketed, space⟩
    · rfl
    · rfl
    · rw [here]
      cases style with
      | bracketed =>
          by_cases opens : octet = 0x5B <;>
            simp [StringStyle.opening, place, Place.after, plain, opens]
      | quoted =>
          by_cases opens : octet = 0x22 <;>
            simp [StringStyle.opening, place, Place.after, plain, opens]
    · exact ⟨by simp [plain], by simp⟩

theorem Sound.passes (sound : Sound style scan) (octet : UInt8) :
    Passes style scan octet (scan.pass style octet) := by
  unfold pass
  split_ifs with inside
  · exact sound.passes_inside inside octet
  · exact sound.passes_outside (Bool.eq_false_iff.mpr inside) octet

section Passing

variable {next : Scan} (passes : Passes style scan octet next)
include passes

theorem Passes.sound (sound : Sound style scan) : Sound style next := by
  cases passes with
  | held bracketed out space =>
      have unquoted := inString_of_outside out
      refine ⟨sound.escaped, ?_⟩
      intro other waiting
      cases before : scan.pending with
      | none =>
          rw [before] at waiting
          obtain rfl : octet = other := by simpa using waiting
          exact ⟨bracketed, unquoted, space⟩
      | some first =>
          rw [before] at waiting
          obtain rfl : first = other := by simpa using waiting
          exact sound.pending first before
  | written _ _ _ _ sound => exact sound

theorem Passes.place_eq : next.place = scan.place.after style octet := by
  cases passes with
  | held _ out space =>
      rw [out, Place.after_outside_space space]
      exact out
  | written _ _ _ moves _ => exact moves

end Passing

/-! ## Following a reader -/

/-- What has been written leaves a reader where the scan knows itself to stand. -/
structure Standing (style : StringStyle) (scan : Scan) : Prop where
  sound : Sound style scan
  written : Script.place style scan.written.reverse = scan.place

theorem standing_start (style : StringStyle) : Standing style start :=
  ⟨sound_start style, rfl⟩

/-- White space that is waiting takes a reader nowhere. -/
theorem Standing.place_pending (standing : Standing style scan) :
    Script.place style (scan.written.reverse ++ scan.pending.toList) = scan.place := by
  cases waiting : scan.pending with
  | none =>
      rw [Option.toList_none, List.append_nil]
      exact standing.written
  | some space =>
      obtain ⟨_, out, among⟩ := standing.sound.pending space waiting
      rw [Option.toList_some, place_concat, standing.written,
        standing.sound.place_outside out, Place.after_outside_space among]

theorem reverse_written {next : Scan}
    (wrote : next.written = octet :: (scan.pending.toList ++ scan.written)) :
    next.written.reverse = scan.written.reverse ++ scan.pending.toList ++ [octet] := by
  rw [wrote]
  cases scan.pending <;> simp

theorem Standing.passes (standing : Standing style scan) {next : Scan}
    (passes : Passes style scan octet next) : Standing style next where
  sound := passes.sound standing.sound
  written := by
    cases passes with
    | held _ _ _ => exact standing.written
    | written _ wrote _ moves _ =>
        rw [reverse_written wrote, place_concat, standing.place_pending, moves]

/-- A scan stands where a reader of the same script does, although it drops carriage
returns. -/
theorem Standing.run (standing : Standing style scan) (octets : Bytes) :
    Standing style (scan.run style octets) ∧
      (scan.run style octets).place = octets.foldl (Place.after style) scan.place := by
  fun_induction Scan.run style scan octets with
  | case1 scan => exact ⟨standing, rfl⟩
  | case2 scan rest ih =>
      have passes := standing.sound.passes 0x0A
      obtain ⟨stands, place⟩ := ih (standing.passes passes)
      refine ⟨stands, ?_⟩
      rw [place, passes.place_eq, List.foldl_cons, List.foldl_cons, Place.after_lineEnd]
  | case3 scan octet rest _ dropped ih =>
      obtain ⟨stands, place⟩ := ih standing
      have stays : scan.place.after style octet = scan.place := by
        rw [standing.sound.place_outside dropped.2, dropped.1, Place.after_outside_return]
      refine ⟨stands, ?_⟩
      rw [place, List.foldl_cons, stays]
  | case4 scan octet rest _ _ ih =>
      have passes := standing.sound.passes octet
      obtain ⟨stands, place⟩ := ih (standing.passes passes)
      refine ⟨stands, ?_⟩
      rw [place, passes.place_eq, List.foldl_cons]

/-! ## The end of a script -/

theorem finish_eq (style : StringStyle) (scan : Scan) :
    scan.finish style = scan.written.reverse ++ scan.pending.toList ++
      (if scan.inString then [style.closing] else []) := by
  rw [finish, flush_eq]
  rcases scan with ⟨inString, escaped, pending, written⟩
  cases pending <;> cases inString <;> simp

/-- The octet that is written behind an open string closes it, unless a backslash takes the
meaning from it. -/
theorem Standing.place_finish (standing : Standing style scan) :
    Script.place style (scan.finish style) =
      if scan.place = .escaped then .inside else .outside := by
  rw [finish_eq]
  cases inside : scan.inString with
  | false =>
      have out := standing.sound.place_outside inside
      simp [standing.place_pending, out]
  | true =>
      rw [if_pos rfl, place_concat, standing.place_pending]
      cases flag : scan.escaped <;> cases style <;>
        simp [place, Place.after, StringStyle.closing, flag, inside]

end Scan

/-- Where a reader stands at the end of a script whose spacing has been put in order. -/
theorem place_normalizeSpacing (style : StringStyle) (script : Bytes) :
    place style (normalizeSpacing style script) =
      if place style script = .escaped then .inside else .outside := by
  obtain ⟨stands, ends⟩ := (Scan.standing_start style).run script
  rw [normalizeSpacing, stands.place_finish, ends]
  rfl

/-- A script for an engine with quoted strings comes out with all strings closed unless it
ends right behind a backslash in a string.  Then the string stays open. -/
theorem quoted_strings_closed_iff (script : Bytes) :
    (place .quoted (normalizeSpacing .quoted script) = .outside ↔
      place .quoted script ≠ .escaped) ∧
    (place .quoted (normalizeSpacing .quoted script) = .inside ↔
      place .quoted script = .escaped) := by
  rw [place_normalizeSpacing]
  split_ifs with ended <;> simp [ended]

/-- A string that ends with a backslash is not closed by one more quotation mark. -/
theorem not_every_quoted_string_closed :
    ¬ ∀ script, place .quoted (normalizeSpacing .quoted script) = .outside := by
  intro closed
  have opened : place .quoted (normalizeSpacing .quoted [0x22, 0x5C]) = .inside := by decide
  rw [closed] at opened
  cases opened

/-- Nothing in a bracketed string takes the meaning from the octet behind it. -/
theorem Place.after_bracketed_ne_escaped {place : Place} (plain : place ≠ .escaped)
    (octet : UInt8) : place.after .bracketed octet ≠ .escaped := by
  cases place with
  | outside => simp only [after]; split <;> simp
  | inside => simp only [after]; split <;> simp
  | escaped => exact absurd rfl plain

theorem place_bracketed_ne_escaped (octets : Bytes) : place .bracketed octets ≠ .escaped := by
  have along : ∀ start : Place, start ≠ .escaped →
      octets.foldl (Place.after .bracketed) start ≠ .escaped := by
    induction octets with
    | nil => exact fun _ plain => plain
    | cons octet rest ih =>
        intro start plain
        exact ih _ (Place.after_bracketed_ne_escaped plain octet)
  exact along .outside (by simp)

/-- A script for an engine with bracketed strings comes out with all strings closed. -/
theorem place_bracketed_normalizeSpacing (script : Bytes) :
    place .bracketed (normalizeSpacing .bracketed script) = .outside := by
  rw [place_normalizeSpacing, if_neg (place_bracketed_ne_escaped script)]

end EngineGateway.Script
