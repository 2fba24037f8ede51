import EngineGateway.Toml.Scalar

/-!
# TOML documents

A document is a list of lines.  A line gives a value to a key or opens a table
for the lines after it, and each may end in a comment.  Keys are given once.

This is the reading with which the program runs.  The settings take any other
way to read documents just as well.
-/

namespace EngineGateway.Toml

open Reader

/-! ## Keys and values -/

/-- A key with dots: the path to a table and a name in it. -/
structure DottedKey where
  path : List String
  name : String
  deriving Repr, DecidableEq

def spaces : Reader Unit := do
  let _ ← run isSpace

def keyPart : Reader String :=
  keyText <|> String.ofList <$>
    someRun fun character => character.isAlphanum || character == '_' || character == '-'

def dottedKey : Reader DottedKey := do
  let first ← keyPart
  let rest ← many do
    spaces
    mark '.'
    spaces
    keyPart
  let parts := first :: rest
  return ⟨parts.dropLast, rest.getLastD first⟩

/-- A comment up to the end of its line. -/
def comment : Reader Unit := do
  mark '#'
  let _ ← run isWritten

/-- What may stand between the items of an array. -/
def gaps : Reader Unit := do
  let _ ← many <|
    comment <|> lineBreak <|> do let _ ← satisfying isSpace

def separated {α : Type} (gap : Reader Unit) (item : Reader α) : Reader (List α) := do
  match ← perhaps item with
  | none => return []
  | some first =>
      let rest ← many do
        gap
        mark ','
        gap
        item
      return first :: rest

def assignment (value : Reader Value) : Reader (DottedKey × Value) := do
  let key ← dottedKey
  spaces
  mark '='
  spaces
  return (key, ← value)

/-- Give values to keys one after another. -/
def assignAll (standing : Standing) (entries : Entries) :
    List (DottedKey × Value) → Option Entries
  | [] => some entries
  | (key, value) :: rest => do
      assignAll standing (← Entries.assign key.path key.name value standing entries) rest

/-- A value in which arrays and tables are nested up to a depth. -/
def value : Nat → Reader Value
  | 0 => scalar
  | depth + 1 =>
      scalar <|>
      (do
        mark '['
        gaps
        let items ← separated gaps (value depth)
        gaps
        if !items.isEmpty then
          let _ ← perhaps (mark ',')
        gaps
        mark ']'
        return .array items) <|>
      (do
        mark '{'
        spaces
        let pairs ← separated spaces (assignment (value depth))
        spaces
        mark '}'
        match assignAll .closed [] pairs with
        | some entries => return .table .closed entries
        | none => failure)

/-- How deep arrays and tables may be nested. -/
def nestingLimit : Nat := 79

/-! ## Lines -/

/-- What a line says. -/
inductive Line where
  | blank
  | assign (key : DottedKey) (value : Value)
  | openTable (key : DottedKey)
  | openItem (key : DottedKey)
  deriving Repr

def header (opening closing : List Char) : Reader DottedKey := do
  word opening
  spaces
  let key ← dottedKey
  spaces
  word closing
  return key

/-- A line without the break at its end. -/
def line : Reader Line := do
  spaces
  let said ←
    (do
      let (key, value) ← assignment (value nestingLimit)
      return .assign key value) <|>
    .openItem <$> header ['[', '['] [']', ']'] <|>
    .openTable <$> header ['['] [']'] <|>
    pure .blank
  spaces
  let _ ← perhaps comment
  return said

/-- All lines of a document, which may start with a byte order mark. -/
def lines : Reader (List Line) := do
  let _ ← perhaps (mark '\uFEFF')
  let first ← line
  let rest ← many do
    lineBreak
    line
  atEnd
  return first :: rest

/-! ## Documents -/

/-- The lines read so far: the whole table, and the path to the table that is
open. -/
structure Document where
  entries : Entries
  path : List String
  deriving Repr

/-- A document without lines. -/
def Document.empty : Document :=
  ⟨[], []⟩

def Document.add (document : Document) : Line → Option Document
  | .blank => some document
  | .assign key value => do
      let entries ← Entries.alter false (Entries.assign key.path key.name value)
        document.path .header document.entries
      return { document with entries := entries }
  | .openTable key => do
      return ⟨← Entries.openTable key.path key.name document.entries, key.path ++ [key.name]⟩
  | .openItem key => do
      return ⟨← Entries.openItem key.path key.name document.entries, key.path ++ [key.name]⟩

/-- Read a document line by line. -/
def parse? : Reading := fun text => do
  let (said, _) ← lines text.toList
  let document ← said.foldlM Document.add Document.empty
  return document.entries

end EngineGateway.Toml
