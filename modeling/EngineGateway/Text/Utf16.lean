import EngineGateway.Text.Utf8

/-!
# UTF-16 with repair

A character is one unit or, above `0xFFFF`, a pair of surrogates.  When units
are read, a surrogate without its partner becomes the replacement character.
-/

namespace EngineGateway.Text.Utf16

def encodeChar (character : Char) : List UInt16 :=
  let code := character.toNat
  if code < 0x10000 then [UInt16.ofNat code]
  else
    let offset := code - 0x10000
    [UInt16.ofNat (0xD800 + offset / 0x400), UInt16.ofNat (0xDC00 + offset % 0x400)]

def encode (text : String) : List UInt16 :=
  text.toList.flatMap encodeChar

/-- A surrogate that comes first. -/
def isHigh (unit : UInt16) : Bool :=
  0xD800 ≤ unit && unit < 0xDC00

/-- A surrogate that comes second. -/
def isLow (unit : UInt16) : Bool :=
  0xDC00 ≤ unit && unit < 0xE000

/-- The character of a pair of surrogates. -/
def joinPair (high low : UInt16) : Char :=
  Char.ofNat (0x10000 + (high.toNat - 0xD800) * 0x400 + (low.toNat - 0xDC00))

def single (unit : UInt16) : Char :=
  if isHigh unit || isLow unit then '\uFFFD' else Char.ofNat unit.toNat

def decode : List UInt16 → List Char
  | [] => []
  | [unit] => [single unit]
  | first :: second :: rest =>
      if isHigh first && isLow second then joinPair first second :: decode rest
      else single first :: decode (second :: rest)

end EngineGateway.Text.Utf16
