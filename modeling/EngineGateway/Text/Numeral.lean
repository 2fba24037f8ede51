/-!
# Decimal integers of bounded size

A numeral is an optional sign and at least one ASCII digit.  Characters are
judged from left to right, so of two faults the one further left is reported.
-/

namespace EngineGateway.Text

/-- Why text is no integer of the wanted range. -/
inductive NumeralError where
  | empty
  | invalidDigit
  | tooLarge
  | tooSmall
  deriving Repr, DecidableEq

def NumeralError.message : NumeralError → String
  | .empty => "cannot parse integer from empty string"
  | .invalidDigit => "invalid digit found in string"
  | .tooLarge => "number too large to fit in target type"
  | .tooSmall => "number too small to fit in target type"

def digit? (character : Char) : Option Nat :=
  if '0' ≤ character ∧ character ≤ '9' then
    some (character.toNat - '0'.toNat)
  else
    none

/-- Append digits to `value`.  A value above `limit` is refused as `excess` at
the digit that makes it so. -/
def readDigits (limit : Nat) (excess : NumeralError) (value : Nat) :
    List Char → Except NumeralError Nat
  | [] => .ok value
  | character :: rest =>
      match digit? character with
      | none => .error .invalidDigit
      | some digit =>
          if limit < value * 10 + digit then .error excess
          else readDigits limit excess (value * 10 + digit) rest

/-- Digits of which there must be one. -/
def readMagnitude (limit : Nat) (excess : NumeralError) :
    List Char → Except NumeralError Nat
  | [] => .error .invalidDigit
  | digits => readDigits limit excess 0 digits

/-- An integer from 0 to `limit`, with an optional plus sign. -/
def readNat (limit : Nat) : List Char → Except NumeralError Nat
  | [] => .error .empty
  | '+' :: digits => readMagnitude limit .tooLarge digits
  | digits => readMagnitude limit .tooLarge digits

/-- An integer from `-(limit + 1)` to `limit`, with an optional sign. -/
def readInt (limit : Nat) : List Char → Except NumeralError Int
  | [] => .error .empty
  | '+' :: digits => (readMagnitude limit .tooLarge digits).map Int.ofNat
  | '-' :: digits =>
      (readMagnitude (limit + 1) .tooSmall digits).map fun value => -Int.ofNat value
  | digits => (readMagnitude limit .tooLarge digits).map Int.ofNat

/-- Largest value of 16, 32 and 64 unsigned bits, and of 32 and 64 signed bits. -/
def maxWord16 : Nat := 0xFFFF
def maxWord32 : Nat := 0xFFFFFFFF
def maxWord64 : Nat := 0xFFFFFFFFFFFFFFFF
def maxInt32 : Nat := 0x7FFFFFFF
def maxInt64 : Nat := 0x7FFFFFFFFFFFFFFF

end EngineGateway.Text
