/-!
# Values of a TOML document

A document is a table.  Tables come about in four ways, and the way decides
what may still be added to a table: a table that a header has named is not
named again, a table that dotted keys have made is only added to by dotted
keys, and a table written as a value stays as it is.
-/

namespace EngineGateway.Toml

/-- How a table came about. -/
inductive Standing where
  /-- On the way to a table with a header of its own. -/
  | implied
  /-- By a dotted key. -/
  | dotted
  /-- By a header. -/
  | header
  /-- As a value between braces. -/
  | closed
  deriving Repr, DecidableEq

/-- A value.  Fractional numbers and points in time are kept as they are
written. -/
inductive Value where
  | text (content : String)
  | integer (value : Int)
  | boolean (value : Bool)
  | fraction (literal : String)
  | moment (literal : String)
  | array (items : List Value)
  | table (standing : Standing) (entries : List (String × Value))
  /-- Tables under headers of one name, the last one first. -/
  | tables (items : List (List (String × Value)))
  deriving Repr

/-- The content of a table in the order of writing. -/
abbrev Entries := List (String × Value)

/-- A way to read documents: the table that a text describes, none if the text is
no document. -/
abbrev Reading := String → Option Entries

namespace Entries

/-- Give a key that is present another value. -/
def replace (entries : Entries) (key : String) (value : Value) : Entries :=
  entries.map fun entry => if entry.1 = key then (key, value) else entry

/-- Make a change to the table that a path leads to.  Tables that are missing
on the way are made.  A dotted path does not lead into a table that has a
header, and no path leads into a value. -/
def alter (isDotted : Bool) (change : Standing → Entries → Option Entries) :
    List String → Standing → Entries → Option Entries
  | [], standing, entries => change standing entries
  | key :: path, _, entries =>
      match entries.lookup key with
      | none => do
          let standing : Standing := if isDotted then .dotted else .implied
          let inner ← alter isDotted change path standing []
          return entries ++ [(key, .table standing inner)]
      | some (.table standing inner) => do
          guard (standing != .closed && !(isDotted && standing == .header))
          let inner ← alter isDotted change path standing inner
          return entries.replace key (.table standing inner)
      | some (.tables (last :: earlier)) => do
          let last ← alter isDotted change path .header last
          return entries.replace key (.tables (last :: earlier))
      | some _ => none

/-- Give a value to a dotted key: a path and a name.  The name must be new, and
if there is a path, it must lead to a table that dotted keys have made. -/
def assign (path : List String) (name : String) (value : Value) :
    Standing → Entries → Option Entries :=
  let change (standing : Standing) (entries : Entries) : Option Entries := do
    guard (path.isEmpty || standing == .dotted)
    guard (entries.lookup name).isNone
    return entries ++ [(name, value)]
  alter true change path

/-- Open what a header names: something fresh under a new name, or what is there
already if it can be opened again. -/
def openHeader (fresh : Value) (again : Value → Option Value) (path : List String)
    (name : String) (entries : Entries) : Option Entries :=
  let change (_ : Standing) (entries : Entries) : Option Entries :=
    match entries.lookup name with
    | none => some (entries ++ [(name, fresh)])
    | some value => (again value).map (entries.replace name)
  alter false change path .header entries

/-- Open the table that a header names. -/
def openTable : List String → String → Entries → Option Entries :=
  openHeader (.table .header []) fun
    | .table .implied inner => some (.table .header inner)
    | _ => none

/-- Open one more table of the array that a header names. -/
def openItem : List String → String → Entries → Option Entries :=
  openHeader (.tables [[]]) fun
    | .tables items => some (.tables ([] :: items))
    | _ => none

end Entries
end EngineGateway.Toml
