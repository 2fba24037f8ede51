import EngineGateway.Dde.Connector
import EngineGateway.Proofs.Engine.VersionReply
import EngineGateway.Proofs.Text.Utf8

/-!
# What engines say about their version

Engines that know the version query answer it with a version and a name.  Those of the first
generation only run a macro, whose output starts with the version and may go on with octets
of any kind.  Either way a version of 32 bits is read back as it was written.
-/

namespace EngineGateway.Dde

open Engine Text

/-- Octets that go on with a digit. -/
def StartsWithDigit (octets : Bytes) : Prop :=
  ∃ octet rest, octets = octet :: rest ∧ 0x30 ≤ octet.toNat ∧ octet.toNat ≤ 0x39

theorem startsWithDigit_of_repair {octets : Bytes}
    (starts : Engine.StartsWithDigit (Utf8.repair octets).toList) : StartsWithDigit octets := by
  obtain ⟨digit, characters, same, isDigit⟩ := starts
  have range := range_of_isDigit isDigit
  cases octets with
  | nil => simp [Utf8.repair] at same
  | cons octet rest =>
      have code := Utf8.eq_of_repair_cons same (by omega)
      exact ⟨octet, rest, rfl, by omega, by omega⟩

theorem leadingInteger_toString (number : Int) {rest : List Char}
    (ends : ¬ Engine.StartsWithDigit rest) :
    leadingInteger ((toString number).toList ++ rest) = (toString number).toList := by
  cases number with
  | ofNat magnitude =>
      have read : Digits (toString (Int.ofNat magnitude)).toList magnitude :=
        digits_toString magnitude
      unfold leadingInteger
      split
      · next signed =>
          cases digits : (toString (Int.ofNat magnitude)).toList with
          | nil => exact absurd digits read.filled
          | cons first more =>
              rw [digits] at signed read
              obtain rfl := List.head_eq_of_cons_eq signed
              exact absurd read not_digits_minus
      · exact takeWhile_digits read ends
  | negSucc magnitude =>
      rw [toList_toString_negSucc, List.cons_append, leadingInteger,
        takeWhile_digits (digits_toString (magnitude + 1)) ends]

theorem parseMajor?_toString {number : Int} {octets : Bytes} (fits : FitsInt32 number)
    (ends : ¬ StartsWithDigit octets) :
    parseMajor? (Utf8.encode (toString number) ++ octets) = some number := by
  have stops := mt startsWithDigit_of_repair ends
  have signed := signedDecimal_toString number
  rw [parseMajor?, Utf8.toList_repair_append, trimStart_numeral signed,
    leadingInteger_toString number stops, readInt_maxInt32_iff.mpr ⟨signed, fits⟩]
  rfl

/-- What is written about a version is read back.  A reply to the version query may have
blanks of any kind, may go on behind the name, and may lack the closing quotation mark; its
numbers may be any of 32 bits, and any other number makes it unreadable.  Whatever is read
out of a reply can be put into the usual form, in which it is read again.  The output of the
version macro may go on with anything but a digit. -/
theorem versions_read_back :
    (∀ (major minor : Int) (name : String),
      FitsInt32 major → FitsInt32 minor → IsName name →
      (∀ behind : String, parseVersionReply? (versionReply major minor name ++ behind) =
        some (major, minor, name)) ∧
      ∀ gaps : Gaps,
        parseVersionReply? (spacedReply gaps major minor name) = some (major, minor, name) ∧
        ∀ behind : String,
          parseVersionReply? (spacedReply gaps major minor name ++ "\"" ++ behind) =
            some (major, minor, name)) ∧
    (∀ (reply : String) (major minor : Int) (name : String),
      parseVersionReply? reply = some (major, minor, name) →
        FitsInt32 major ∧ FitsInt32 minor ∧ IsName name ∧
        parseVersionReply? (versionReply major minor name) = some (major, minor, name)) ∧
    (∀ (reply : String) (number : Int) (rest : List Char),
      Leads number rest reply.toList → ¬ FitsInt32 number →
        parseVersionReply? reply = none) ∧
    (∀ (reply : String) (first number : Int) (text rest : List Char),
      Leads first text reply.toList → Leads number rest text → ¬ FitsInt32 number →
        parseVersionReply? reply = none) ∧
    (∀ (number : Int) (octets : Bytes), FitsInt32 number → ¬ StartsWithDigit octets →
      parseMajor? (Utf8.encode (toString number) ++ octets) = some number) := by
  refine ⟨?written, ?again, ?large, ?largeMinor, ?output⟩
  case written =>
    intro major minor name fits small isName
    refine ⟨fun behind => parseVersionReply?_versionReply behind fits small isName, ?_⟩
    intro gaps
    constructor
    · have whole := parseVersionReply?_spacedReply gaps "" fits small isName (.inl rfl)
      rwa [String.append_empty] at whole
    · intro behind
      rw [String.append_assoc]
      exact parseVersionReply?_spacedReply gaps _ fits small isName
        (.inr ⟨behind.toList, by simp⟩)
  case again =>
    intro reply major minor name read
    obtain ⟨fits, small, isName⟩ := of_parseVersionReply? read
    have whole := parseVersionReply?_versionReply "" fits small isName
    rw [String.append_empty] at whole
    exact ⟨fits, small, isName, whole⟩
  case large =>
    intro reply number rest leads large
    exact parseVersionReply?_of_large leads large
  case largeMinor =>
    intro reply first number text rest leads follows large
    exact parseVersionReply?_of_large_minor leads follows large
  case output =>
    intro number octets fits ends
    exact parseMajor?_toString fits ends

/-- Blanks of several kinds: a line end, an ideographic space, and none before the name. -/
def mixedGaps : Gaps where
  major := ['\n']
  minor := [' ', '\u3000']
  name := []
  major_blank := List.forall_mem_singleton.mpr rfl
  minor_blank := List.forall_mem_cons.mpr ⟨rfl, List.forall_mem_singleton.mpr rfl⟩
  name_blank := Gaps.single.major_blank
  minor_ne_nil := List.cons_ne_nil _ _

/-- What a reply goes on with in which the first number is too large. -/
theorem leads_tooLarge : Leads 2147483648 [' ', '7'] "\t+2147483648 7".toList := by
  have read : readInt 2147483648 "+2147483648".toList = .ok 2147483648 := by decide
  have parts : "\t+2147483648 7".toList = ['\t'] ++ "+2147483648".toList ++ [' ', '7'] := by
    decide
  rw [parts]
  refine .intro (List.forall_mem_singleton.mpr rfl) (readInt_eq_ok_iff.mp read).1 ?_
  exact not_startsWithDigit_gap (List.forall_mem_singleton.mpr rfl) (by simp)

/-- A reply whose second number is too large. -/
theorem leads_second : Leads 7 "\t+2147483648 7".toList "7\t+2147483648 7".toList := by
  have parts : "7\t+2147483648 7".toList =
      [] ++ (toString (7 : Int)).toList ++ "\t+2147483648 7".toList := by
    decide
  rw [parts]
  refine .intro (List.forall_mem_nil _) (signedDecimal_toString 7) ?_
  exact not_startsWithDigit_gap (List.forall_mem_singleton.mpr rfl) (by simp)

/-- The smallest and the largest number are read back, also between unusual blanks.  The next
larger number spoils a reply at both places. -/
theorem versions_read_back_unusual :
    parseVersionReply? (versionReply (-2147483648) 2147483647 "C\\3" ++ "\r\n") =
      some (-2147483648, 2147483647, "C\\3") ∧
    parseVersionReply? (spacedReply mixedGaps 2 (-286) "Creatures 3") =
      some (2, -286, "Creatures 3") ∧
    parseVersionReply? (versionReply 2 (-286) "Creatures 3") = some (2, -286, "Creatures 3") ∧
    parseVersionReply? "\t+2147483648 7" = none ∧
    parseVersionReply? "7\t+2147483648 7" = none ∧
    parseMajor? (Utf8.encode (toString (-5 : Int)) ++ [0xFF, 0x39]) = some (-5) := by
  obtain ⟨written, again, large, largeMinor, output⟩ := versions_read_back
  have odd := ((written 2 (-286) "Creatures 3" (by decide) (by decide) (by decide)).2
    mixedGaps).1
  refine ⟨?_, odd, (again _ _ _ _ odd).2.2.2, ?_, ?_, ?_⟩
  · exact (written _ _ _ (by decide) (by decide) (by decide)).1 _
  · exact large _ _ _ leads_tooLarge (by decide)
  · exact largeMinor _ _ _ _ _ leads_second leads_tooLarge (by decide)
  · refine output _ _ (by decide) ?_
    rintro ⟨octet, rest, same, low, high⟩
    cases same
    exact absurd high (by decide)

end EngineGateway.Dde
