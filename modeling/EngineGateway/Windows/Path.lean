/-!
# Directories of files

The parts of a path are separated by slashes.  Empty parts, and parts that are
a single point, name nothing, except for a point at the very start.
-/

namespace EngineGateway.Windows

/-- A reversed path without the slashes and points at its end that name
nothing.  The slash of the root stays. -/
def dropNameless : List Char → List Char
  | ['/'] => ['/']
  | '/' :: rest => dropNameless rest
  | '.' :: '/' :: rest => dropNameless ('/' :: rest)
  | other => other
  termination_by path => path.length

/-- The directory of a file, none for the root and for an empty path. -/
def directoryOf? (path : List Char) : Option (List Char) :=
  match dropNameless path.reverse with
  | [] | ['/'] => none
  | named => some (dropNameless (named.dropWhile (· != '/'))).reverse

end EngineGateway.Windows
