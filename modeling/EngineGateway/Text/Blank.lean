/-!
# Blank characters

The characters with the Unicode property White_Space, and the trimming and
splitting of text at them.
-/

namespace EngineGateway.Text

/-- A character with the property White_Space. -/
def isBlank (character : Char) : Bool :=
  let code := character.toNat
  (0x09 ≤ code && code ≤ 0x0D) || code == 0x20 || code == 0x85 ||
    code == 0xA0 || code == 0x1680 || (0x2000 ≤ code && code ≤ 0x200A) ||
    code == 0x2028 || code == 0x2029 || code == 0x202F || code == 0x205F ||
    code == 0x3000

/-- Characters without the blanks in front. -/
def trimStart (characters : List Char) : List Char :=
  characters.dropWhile isBlank

/-- Characters without the blanks at the end. -/
def trimEnd (characters : List Char) : List Char :=
  (characters.reverse.dropWhile isBlank).reverse

/-- Text without the blanks at both ends. -/
def trim (text : String) : String :=
  String.ofList (trimEnd (trimStart text.toList))

/-- The first run of characters that are not blank, empty if there is none. -/
def firstWord (text : String) : List Char :=
  (trimStart text.toList).takeWhile fun character => !isBlank character

/-- What stands before the first `mark` and what stands after it. -/
def splitAtFirst? (mark : Char) (characters : List Char) :
    Option (List Char × List Char) :=
  match characters.dropWhile (· != mark) with
  | [] => none
  | _ :: after => some (characters.takeWhile (· != mark), after)

end EngineGateway.Text
