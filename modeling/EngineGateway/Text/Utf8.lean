/-!
# UTF-8 with repair

Octets are read into scalar values one piece at a time.  A piece is either a
well-formed sequence or a maximal invalid subpart, the longest run of octets
that starts a well-formed sequence but is not continued by one (a single octet
where nothing can start).  Reading never loses its place: after an invalid
subpart it goes on with the next octet.
-/

namespace EngineGateway

/-- Octets in the order in which they are sent. -/
abbrev Bytes := List UInt8

namespace Text.Utf8

/-- What a lead octet announces: how many octets follow it, the bits it
contributes, and the range allowed for the octet right after it.  The ranges
exclude overlong forms, surrogates and values above `0x10FFFF`. -/
structure Lead where
  following : Nat
  bits : Nat
  low : UInt8
  high : UInt8
  deriving Repr, DecidableEq

/-- The announcement of a lead octet, none for an octet that starts nothing. -/
def lead? (octet : UInt8) : Option Lead :=
  if octet < 0x80 then some ⟨0, octet.toNat, 0x80, 0xBF⟩
  else if octet < 0xC2 then none
  else if octet < 0xE0 then some ⟨1, octet.toNat - 0xC0, 0x80, 0xBF⟩
  else if octet = 0xE0 then some ⟨2, 0, 0xA0, 0xBF⟩
  else if octet = 0xED then some ⟨2, 0xD, 0x80, 0x9F⟩
  else if octet < 0xF0 then some ⟨2, octet.toNat - 0xE0, 0x80, 0xBF⟩
  else if octet = 0xF0 then some ⟨3, 0, 0x90, 0xBF⟩
  else if octet < 0xF4 then some ⟨3, octet.toNat - 0xF0, 0x80, 0xBF⟩
  else if octet = 0xF4 then some ⟨3, 4, 0x80, 0x8F⟩
  else none

/-- Read the octets that a lead octet announced.  The first one must lie
between `low` and `high`, the others are plain continuation octets.  Reading
stops before an octet that does not fit. -/
def continuation (following : Nat) (low high : UInt8) (value : Nat)
    (octets : Bytes) : Option Char × Bytes :=
  match following, octets with
  | 0, rest => (some (Char.ofNat value), rest)
  | _ + 1, [] => (none, [])
  | more + 1, octet :: rest =>
      if low ≤ octet ∧ octet ≤ high then
        continuation more 0x80 0xBF (value * 64 + (octet.toNat - 0x80)) rest
      else
        (none, octet :: rest)

/-- The piece that starts with `octet`, and what follows the piece. -/
def piece (octet : UInt8) (rest : Bytes) : Option Char × Bytes :=
  match lead? octet with
  | none => (none, rest)
  | some lead =>
      continuation lead.following lead.low lead.high lead.bits rest

theorem continuation_length_le (following : Nat) (low high : UInt8)
    (value : Nat) (octets : Bytes) :
    (continuation following low high value octets).2.length ≤ octets.length := by
  induction octets generalizing following low high value with
  | nil => cases following <;> simp [continuation]
  | cons octet rest ih =>
      cases following with
      | zero => simp [continuation]
      | succ more =>
          unfold continuation
          split
          · have shorter :=
              ih more 0x80 0xBF (value * 64 + (octet.toNat - 0x80))
            simp only [List.length_cons]
            omega
          · simp

/-- A piece leaves no more than what followed its first octet. -/
theorem piece_length_le (octet : UInt8) (rest : Bytes) :
    (piece octet rest).2.length ≤ rest.length := by
  unfold piece
  split
  · exact Nat.le_refl _
  · exact continuation_length_le _ _ _ _ _

/-- Put the pieces of `octets` after the pieces already found, which are held
in reverse. -/
def decodeOnto (found : List (Option Char)) (octets : Bytes) :
    List (Option Char) :=
  match octets with
  | [] => found.reverse
  | octet :: rest =>
      decodeOnto ((piece octet rest).1 :: found) (piece octet rest).2
  termination_by octets.length
  decreasing_by
    have shorter := piece_length_le octet rest
    simp only [List.length_cons]
    omega

/-- The pieces of `octets` in order: a scalar value for a well-formed sequence,
`none` for each maximal invalid subpart. -/
def decode (octets : Bytes) : List (Option Char) :=
  decodeOnto [] octets

/-- Text in which each invalid subpart is replaced by U+FFFD. -/
def repair (octets : Bytes) : String :=
  String.ofList ((decode octets).map fun found => found.getD '\uFFFD')

/-- The text that `octets` encode, none when some part of them is invalid. -/
def text? (octets : Bytes) : Option String :=
  let found := decode octets
  if found.all Option.isSome then some (String.ofList (found.filterMap id))
  else none

/-- The octets that encode `text`. -/
def encode (text : String) : Bytes :=
  text.toList.flatMap String.utf8EncodeChar

end Text.Utf8
end EngineGateway
