import EngineGateway.Script.Wire

/-!
# Units of a message

An engine takes a message in units of bounded size.  A message is first cut
into pieces, right after each command terminator; then neighbouring pieces are
joined again into units as long as a unit stays below the limit.  A single
piece at or over the limit is a unit of its own, which the sender may refuse.
-/

namespace EngineGateway.Script

/-- Cut `octets` after each terminator.  `done` holds the pieces already cut,
the last one first, and `current` the octets since then, the last one first.
What follows the last terminator is returned apart. -/
def cutOnto (done : List Bytes) (current : Bytes) :
    Bytes → List Bytes × Bytes
  | [] => (done, current.reverse)
  | 0x65 :: 0x6E :: 0x64 :: 0x6D :: rest =>
      cutOnto ((0x6D :: 0x64 :: 0x6E :: 0x65 :: current).reverse :: done) [] rest
  | octet :: rest => cutOnto done (octet :: current) rest

/-- Add the octets after the last terminator to the pieces, which are held in
reverse.  A tail no longer than a terminator joins the piece before it. -/
def placeTail (done : List Bytes) (tail : Bytes) : List Bytes :=
  match tail, done with
  | [], _ => done
  | _, [] => [tail]
  | _, last :: earlier =>
      if tail.length ≤ terminator.length then (last ++ tail) :: earlier
      else tail :: done

/-- The pieces of a message, each ending with a terminator except perhaps the
last one. -/
def pieces (message : Bytes) : List Bytes :=
  let (done, tail) := cutOnto [] [] message
  (placeTail done tail).reverse

/-- Join neighbouring pieces.  `closed` holds the finished groups and `group`
the open one, both in reverse; `size` counts the octets of the open group. -/
def groupOnto (limit : Nat) (closed : List (List Bytes)) (group : List Bytes)
    (size : Nat) : List Bytes → List (List Bytes)
  | [] => (group.reverse :: closed).reverse
  | piece :: rest =>
      if size + piece.length < limit then
        groupOnto limit closed (piece :: group) (size + piece.length) rest
      else
        groupOnto limit (group.reverse :: closed) [piece] piece.length rest

/-- Pieces in groups: each group takes as many pieces as stay below the limit
together.  Without a limit every piece stays alone. -/
def groups (limit : Nat) : List Bytes → List (List Bytes)
  | [] => []
  | first :: rest =>
      if limit = 0 then (first :: rest).map fun piece => [piece]
      else groupOnto limit [] [first] first.length rest

def units (limit : Nat) (message : Bytes) : List Bytes :=
  (groups limit (pieces message)).map List.flatten

/-- Where a run of octets starts and where it stops. -/
structure Span where
  start : Nat
  stop : Nat
  deriving Repr, DecidableEq

/-- The spans of consecutive parts, the first of which starts at `position`. -/
def spansFrom (position : Nat) : List Bytes → List Span
  | [] => []
  | part :: rest =>
      ⟨position, position + part.length⟩ :: spansFrom (position + part.length) rest

/-- Where the units of a message lie in it. -/
def unitSpans (limit : Nat) (message : Bytes) : List Span :=
  spansFrom 0 (units limit message)

end EngineGateway.Script
