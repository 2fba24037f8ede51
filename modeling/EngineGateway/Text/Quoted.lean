import EngineGateway.Text.Blank

/-!
# Quoted text in messages

Messages quote foreign text so that every character of it can be seen.  The
quotation mark and the backslash are escaped, the usual controls have their
letter, and a character that prints nothing of its own is written with its
number in hexadecimal.
-/

namespace EngineGateway.Text

/-- Ranges of characters that print nothing of their own: controls, format
characters, separators other than the space, private use and noncharacters. -/
def unprintedRanges : List (Nat × Nat) :=
  [(0x00, 0x1F), (0x7F, 0xA0), (0xAD, 0xAD), (0x600, 0x605), (0x61C, 0x61C),
   (0x6DD, 0x6DD), (0x70F, 0x70F), (0x890, 0x891), (0x8E2, 0x8E2),
   (0x1680, 0x1680), (0x180E, 0x180E), (0x2000, 0x200F), (0x2028, 0x202F),
   (0x205F, 0x206F), (0x3000, 0x3000), (0xE000, 0xF8FF), (0xFDD0, 0xFDEF),
   (0xFEFF, 0xFEFF), (0xFFF0, 0xFFFB), (0xFFFE, 0xFFFF), (0x110BD, 0x110BD),
   (0x110CD, 0x110CD), (0x13430, 0x1343F), (0x1BCA0, 0x1BCA3),
   (0x1D173, 0x1D17A), (0xE0000, 0xE00FF), (0xE01F0, 0x10FFFF)]

/-- A character that shows itself. -/
def isPrinted (character : Char) : Bool :=
  !unprintedRanges.any fun range =>
    range.1 ≤ character.toNat && character.toNat ≤ range.2

/-- The number of a character in lower-case hexadecimal between braces. -/
def numberEscape (character : Char) : List Char :=
  "\\u\x7b".toList ++ Nat.toDigits 16 character.toNat ++ ['\x7d']

/-- One character as it stands inside quotation marks. -/
def quoteChar (character : Char) : List Char :=
  match character with
  | '"' => ['\\', '"']
  | '\\' => ['\\', '\\']
  | '\n' => ['\\', 'n']
  | '\r' => ['\\', 'r']
  | '\t' => ['\\', 't']
  | '\x00' => ['\\', '0']
  | other => if isPrinted other then [other] else numberEscape other

/-- Text between quotation marks with every character made visible. -/
def quote (text : String) : String :=
  String.ofList ('"' :: text.toList.flatMap quoteChar ++ ['"'])

end EngineGateway.Text
