import EngineGateway.Text.Utf8

/-!
# The engines' code page

Engines speak Windows-1252, peers speak Unicode.  Text is converted at the
border between them in both directions, and carriage returns are dropped in
both.  What has no counterpart on the other side becomes a question mark: five
octets of the code page are unassigned, and most characters lie outside it.
-/

namespace EngineGateway.Text.CodePage

/-- Characters of the octets `0x80` to `0x9F`; unassigned octets have none. -/
def upperControls : List (Option Char) :=
  [some '\u20AC', none, some '\u201A', some '\u0192',
   some '\u201E', some '\u2026', some '\u2020', some '\u2021',
   some '\u02C6', some '\u2030', some '\u0160', some '\u2039',
   some '\u0152', none, some '\u017D', none,
   none, some '\u2018', some '\u2019', some '\u201C',
   some '\u201D', some '\u2022', some '\u2013', some '\u2014',
   some '\u02DC', some '\u2122', some '\u0161', some '\u203A',
   some '\u0153', none, some '\u017E', some '\u0178']

/-- Stands for whatever cannot be converted. -/
def replacement : UInt8 := 0x3F

/-- The carriage return, which no converted text contains. -/
def carriageReturn : UInt8 := 0x0D

/-- The character of an octet, none for an unassigned one. -/
def decodeByte (octet : UInt8) : Option Char :=
  if octet < 0x80 ∨ 0xA0 ≤ octet then
    some (Char.ofNat octet.toNat)
  else
    (upperControls[octet.toNat - 0x80]?).join

/-- The octet of a character, none for a character outside the code page. -/
def encodeChar (character : Char) : Option UInt8 :=
  let code := character.toNat
  if code < 0x80 ∨ 0xA0 ≤ code ∧ code < 0x100 then
    some (UInt8.ofNat code)
  else
    (upperControls.findIdx? (· == some character)).map fun index =>
      UInt8.ofNat (0x80 + index)

/-- Whether octets are text as they stand: ASCII without carriage returns. -/
def isPlain (octets : Bytes) : Bool :=
  octets.all fun octet => octet < 0x80 && octet != carriageReturn

def toText (octets : Bytes) : String :=
  String.ofList <| (octets.filter (· != carriageReturn)).map fun octet =>
    (decodeByte octet).getD '?'

/-- The octet that one piece of incoming UTF-8 becomes, if any. -/
def encodePiece : Option Char → Option UInt8
  | none => some replacement
  | some character =>
      if character = '\r' then none
      else some ((encodeChar character).getD replacement)

/-- UTF-8 octets, which need not be valid, as engine octets. -/
def ofUtf8 (octets : Bytes) : Bytes :=
  (Utf8.decode octets).filterMap encodePiece

def ofText (text : String) : Bytes :=
  ofUtf8 (Utf8.encode text)

/-- Engine octets as text, one character for each octet where they are text as
they stand. -/
def readReply (octets : Bytes) : String :=
  if isPlain octets then
    String.ofList (octets.map fun octet => Char.ofNat octet.toNat)
  else
    toText octets

end EngineGateway.Text.CodePage
