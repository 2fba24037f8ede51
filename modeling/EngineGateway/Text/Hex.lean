import EngineGateway.Text.Utf8

/-!
# Octets in hexadecimal

Every octet is written with two lower-case digits.  Digits of either case are
read.
-/

namespace EngineGateway.Text

def hexDigit? (character : Char) : Option Nat :=
  let code := character.toNat
  if '0' ≤ character ∧ character ≤ '9' then some (code - 0x30)
  else if 'a' ≤ character ∧ character ≤ 'f' then some (code - 0x57)
  else if 'A' ≤ character ∧ character ≤ 'F' then some (code - 0x37)
  else none

def hexPair (octet : UInt8) : List Char :=
  [Nat.digitChar (octet.toNat / 16), Nat.digitChar (octet.toNat % 16)]

def toHex (octets : Bytes) : String :=
  String.ofList (octets.flatMap hexPair)

/-- The octets that pairs of digits stand for.  Reading ends before the first
pair that is none. -/
def ofHex : List Char → Bytes
  | high :: low :: rest =>
      match hexDigit? high, hexDigit? low with
      | some high, some low => UInt8.ofNat (high * 16 + low) :: ofHex rest
      | _, _ => []
  | _ => []

/-- A number after `0x` with at least so many digits. -/
def hexNumber (least number : Nat) : String :=
  let digits := Nat.toDigits 16 number
  String.ofList ("0x".toList ++ List.replicate (least - digits.length) '0' ++ digits)

end EngineGateway.Text
