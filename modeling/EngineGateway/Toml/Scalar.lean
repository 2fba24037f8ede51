import EngineGateway.Text.Hex
import EngineGateway.Text.Numeral
import EngineGateway.Toml.Reader
import EngineGateway.Toml.Value

/-!
# Strings, numbers and points in time in TOML

Strings stand between quotation marks, which take escapes, or between
apostrophes, which take none.  Three marks in a row delimit a string of several
lines.
-/

namespace EngineGateway.Toml

open Reader

/-! ## Characters -/

/-- A space or a tab. -/
def isSpace (character : Char) : Bool :=
  character == ' ' || character == '\t'

/-- A tab or a character that is no control. -/
def isWritten (character : Char) : Bool :=
  character == '\t' || (0x20 ≤ character.toNat && character.toNat != 0x7F)

def lineBreak : Reader Unit :=
  mark '\n' <|> word ['\r', '\n']

/-- Spaces, tabs and ends of lines. -/
def layout : Reader Unit := do
  let _ ← many (lineBreak <|> do let _ ← satisfying isSpace)

/-! ## Strings -/

/-- The value of digits in a base. -/
def valueIn (base : Nat) (digits : List Char) : Nat :=
  (digits.filterMap Text.hexDigit?).foldl (fun value digit => value * base + digit) 0

/-- A digit of a base of up to sixteen. -/
def isDigitIn (base : Nat) (character : Char) : Bool :=
  (Text.hexDigit? character).any (· < base)

/-- The character with a number of so many hexadecimal digits. -/
def numbered (digits : Nat) : Reader Char := do
  let value := valueIn 16 (← exactly (isDigitIn 16) digits)
  guard (value.isValidChar)
  return Char.ofNat value

def escaped : Reader Char := do
  mark '\\'
  match ← satisfying fun _ => true with
  | 'b' => return '\x08'
  | 't' => return '\t'
  | 'n' => return '\n'
  | 'f' => return '\x0c'
  | 'r' => return '\r'
  | '"' => return '"'
  | '\\' => return '\\'
  | 'u' => numbered 4
  | 'U' => numbered 8
  | _ => failure

/-- A character of a string with escapes. -/
def basicCharacter : Reader Char :=
  escaped <|> satisfying fun character =>
    isWritten character && character != '"' && character != '\\'

/-- A character of a string without escapes. -/
def literalCharacter : Reader Char :=
  satisfying fun character => isWritten character && character != '\''

/-- A mark inside a string that three such marks end.  Of up to five marks in a
row the last three end the string. -/
def loneMark (delimiter : Char) : Reader Char := fun text =>
  if (text.takeWhile (· == delimiter)).length ∈ [1, 2, 4, 5] then
    satisfying (· == delimiter) text
  else
    none

/-- A backslash at the end of a line, which swallows layout up to the next
character. -/
def joinedLine : Reader Unit := do
  mark '\\'
  let _ ← run isSpace
  lineBreak
  layout

/-- A string on one line. -/
def shortText (delimiter : Char) (character : Reader Char) : Reader String := do
  mark delimiter
  let content ← many character
  mark delimiter
  return String.ofList content

/-- A string on several lines.  A line break right after the delimiter does not
belong to it. -/
def longText (delimiter : Char) (piece : Reader (List Char)) : Reader String := do
  let delimiters := [delimiter, delimiter, delimiter]
  word delimiters
  let _ ← perhaps lineBreak
  let content ← many <|
    piece <|> (do lineBreak; return ['\n']) <|> (do return [← loneMark delimiter])
  word delimiters
  return String.ofList content.flatten

/-- A string that can serve as a key. -/
def keyText : Reader String :=
  shortText '"' basicCharacter <|> shortText '\'' literalCharacter

def anyText : Reader String :=
  longText '"' ((do return [← basicCharacter]) <|> do joinedLine; return []) <|>
    longText '\'' (do return [← literalCharacter]) <|> keyText

/-! ## Numbers -/

/-- Digits without the single underscores between them. -/
def joinDigits (isDigit : Char → Bool) : List Char → Option (List Char)
  | [] => none
  | [digit] => if isDigit digit then some [digit] else none
  | digit :: '_' :: rest =>
      if isDigit digit then (joinDigits isDigit rest).map (digit :: ·) else none
  | digit :: rest =>
      if isDigit digit then (joinDigits isDigit rest).map (digit :: ·) else none

/-- A natural number in decimal without leading zeros. -/
def decimal? (literal : List Char) : Option Nat := do
  let digits ← joinDigits Char.isDigit literal
  guard (digits.length = 1 || digits.head? != some '0')
  return valueIn 10 digits

def naturalIn? (base : Nat) (literal : List Char) : Option Nat :=
  (joinDigits (isDigitIn base) literal).map (valueIn base)

/-- An integer of 64 bits.  Only one in decimal has a sign. -/
def integer? (literal : List Char) : Option Int := do
  let value : Int ←
    match literal with
    | '0' :: 'x' :: digits => (naturalIn? 16 digits).map Int.ofNat
    | '0' :: 'o' :: digits => (naturalIn? 8 digits).map Int.ofNat
    | '0' :: 'b' :: digits => (naturalIn? 2 digits).map Int.ofNat
    | '-' :: digits => (decimal? digits).map fun value => -Int.ofNat value
    | '+' :: digits => (decimal? digits).map Int.ofNat
    | digits => (decimal? digits).map Int.ofNat
  guard (-(Int.ofNat Text.maxInt64 + 1) ≤ value ∧ value ≤ Int.ofNat Text.maxInt64)
  return value

/-- A literal without its sign. -/
def unsigned : List Char → List Char
  | '+' :: rest | '-' :: rest => rest
  | literal => literal

/-- The exponent behind the mark of a fractional number. -/
def isExponent (literal : List Char) : Bool :=
  (joinDigits Char.isDigit (unsigned literal)).isSome

/-- A fractional number: a whole part and then a fraction, an exponent or both,
or one of the two special names. -/
def isFraction (literal : List Char) : Bool :=
  let literal := unsigned literal
  let isExponentMark (character : Char) := character == 'e' || character == 'E'
  let mantissa := literal.takeWhile fun character => !isExponentMark character
  let exponent := literal.dropWhile fun character => !isExponentMark character
  let whole := mantissa.takeWhile (· != '.')
  let fraction := mantissa.dropWhile (· != '.')
  literal == "inf".toList || literal == "nan".toList ||
    (decimal? whole).isSome && !(fraction.isEmpty && exponent.isEmpty) &&
      (fraction.isEmpty || (joinDigits Char.isDigit (fraction.drop 1)).isSome) &&
      (exponent.isEmpty || isExponent (exponent.drop 1))

/-! ## Points in time -/

/-- A number of two digits within bounds. -/
def twoDigits (low high : Nat) : Reader Nat := do
  let value := valueIn 10 (← exactly Char.isDigit 2)
  guard (low ≤ value ∧ value ≤ high)
  return value

def daysIn (year month : Nat) : Nat :=
  if month = 2 then
    if year % 4 = 0 ∧ (year % 100 ≠ 0 ∨ year % 400 = 0) then 29 else 28
  else if month ∈ [4, 6, 9, 11] then 30
  else 31

def date : Reader Unit := do
  let year := valueIn 10 (← exactly Char.isDigit 4)
  mark '-'
  let month ← twoDigits 1 12
  mark '-'
  let _ ← twoDigits 1 (daysIn year month)

def timeOfDay : Reader Unit := do
  let _ ← twoDigits 0 23
  mark ':'
  let _ ← twoDigits 0 59
  mark ':'
  let _ ← twoDigits 0 60
  let _ ← perhaps do
    mark '.'
    someRun Char.isDigit

/-- The distance from universal time. -/
def zone : Reader Unit :=
  (do let _ ← satisfying fun character => character == 'Z' || character == 'z') <|> do
    let _ ← satisfying fun character => character == '+' || character == '-'
    let _ ← twoDigits 0 23
    mark ':'
    let _ ← twoDigits 0 59

/-- A time of the day after the mark that separates it from the date. -/
def timeAfterDate : Reader Unit := do
  let _ ← satisfying fun character =>
    character == 'T' || character == 't' || character == ' '
  timeOfDay
  let _ ← perhaps zone

def moment : Reader Unit :=
  (do date; let _ ← perhaps timeAfterDate) <|> timeOfDay

def spelled (reader : Reader Unit) : Reader String := fun text => do
  let (_, rest) ← reader text
  return (String.ofList (text.take (text.length - rest.length)), rest)

/-! ## Scalars -/

/-- A character of a number or a truth value. -/
def isLiteral (character : Char) : Bool :=
  character.isAlphanum || ['+', '-', '_', '.'].contains character

/-- The value of a number or a truth value. -/
def literalValue? (literal : List Char) : Option Value :=
  if literal == "true".toList then some (.boolean true)
  else if literal == "false".toList then some (.boolean false)
  else if isFraction literal then some (.fraction (String.ofList literal))
  else (integer? literal).map .integer

/-- A value that is neither an array nor a table. -/
def scalar : Reader Value :=
  .text <$> anyText <|> .moment <$> spelled moment <|> do
    match literalValue? (← run isLiteral) with
    | some value => return value
    | none => failure

end EngineGateway.Toml
