/-!
# Reading from the front of a text

A reader takes some characters from the front of a text and leaves the rest, or
it does not fit the text at all.  `first <|> second` reads with `second` where
`first` does not fit.
-/

namespace EngineGateway.Toml

/-- Takes a value from the front of a text. -/
abbrev Reader (α : Type) := StateT (List Char) Option α

namespace Reader

variable {α : Type}

def satisfying (accept : Char → Bool) : Reader Char
  | [] => none
  | character :: rest => if accept character then some (character, rest) else none

def mark (character : Char) : Reader Unit := do
  let _ ← satisfying (· == character)

def word : List Char → Reader Unit
  | [] => return ()
  | character :: rest => do
      mark character
      word rest

/-- The longest run of characters with a given property, which may be empty. -/
def run (accept : Char → Bool) : Reader (List Char) := fun text =>
  some (text.takeWhile accept, text.dropWhile accept)

/-- The longest run of characters with a given property, which is not empty. -/
def someRun (accept : Char → Bool) : Reader (List Char) := do
  let first ← satisfying accept
  return first :: (← run accept)

/-- A given number of characters with a given property. -/
def exactly (accept : Char → Bool) : Nat → Reader (List Char)
  | 0 => return []
  | count + 1 => do
      let first ← satisfying accept
      return first :: (← exactly accept count)

def atEnd : Reader Unit
  | [] => some ((), [])
  | _ :: _ => none

def perhaps (item : Reader α) : Reader (Option α) :=
  some <$> item <|> pure none

/-- Up to a given number of items. -/
def atMost (item : Reader α) : Nat → Reader (List α)
  | 0 => return []
  | count + 1 => do
      match ← perhaps item with
      | none => return []
      | some first => return first :: (← atMost item count)

/-- As many items as there are.  An item takes at least one character, so there
are no more of them than characters. -/
def many (item : Reader α) : Reader (List α) := fun text =>
  atMost item text.length text

end Reader
end EngineGateway.Toml
