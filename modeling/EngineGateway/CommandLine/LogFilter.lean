import EngineGateway.Text.Blank
import EngineGateway.Text.Numeral

/-!
# Which lines are logged

A filter is a list of rules between commas.  A rule names a level for all
targets that start with a given text, or for all targets; the rule with the
longest text decides about a target, and of two rules for the same text the
later one.
-/

namespace EngineGateway.CommandLine

/-- How much is logged, from nothing to everything. -/
inductive LogLevel where
  | off
  | error
  | warn
  | info
  | debug
  | trace
  deriving Repr, DecidableEq

namespace LogLevel

/-- All levels in ascending order. -/
def all : List LogLevel :=
  [.off, .error, .warn, .info, .debug, .trace]

def name : LogLevel → String
  | .off => "off"
  | .error => "error"
  | .warn => "warn"
  | .info => "info"
  | .debug => "debug"
  | .trace => "trace"

/-- Read a level: its position or its name in letters of either case. -/
def read? (text : List Char) : Option LogLevel :=
  match Text.readNat Text.maxWord64 text with
  | .ok position => all[position]?
  | .error _ => all.find? fun level => level.name.toList == text.map Char.toLower

/-- Lines of the level `info` are logged. -/
def showsInfo : LogLevel → Bool
  | .off | .error | .warn => false
  | .info | .debug | .trace => true

end LogLevel

/-- A level for targets that start with a text; all targets start with the
empty one. -/
structure LogRule where
  target : List Char
  level : LogLevel
  deriving Repr, DecidableEq

namespace LogRule

/-- A target can start with the character. -/
def canStart (character : Char) : Bool :=
  character.isAlphanum || character == '-' || character == ':' || character == '_' ||
    0x80 ≤ character.toNat

/-- Read a rule: a level, a target, or a target with its level after an equals
sign.  A target alone asks for everything. -/
def read? (text : List Char) : Option LogRule :=
  let text := Text.trimEnd (Text.trimStart text)
  if !text.head?.any canStart then none
  else
    match text.takeWhile (· != '='), text.dropWhile (· != '=') with
    | target, [] => some ((LogLevel.read? target).elim ⟨target, .trace⟩ (⟨[], ·⟩))
    | target, [_] => some ⟨target, .trace⟩
    | target, _ :: level => (LogLevel.read? level).map (⟨target, ·⟩)

end LogRule

/-- The rules of a filter.  Where none applies, nothing is logged. -/
abbrev LogFilter := List LogRule

namespace LogFilter

def ofLevel (level : LogLevel) : LogFilter :=
  [⟨[], level⟩]

/-- Read a filter.  One without any rule lets errors pass. -/
def read? (text : String) : Option LogFilter := do
  let pieces := (text.toList.splitOn ',').filter fun piece => !piece.isEmpty
  let rules ← pieces.mapM LogRule.read?
  return if rules.isEmpty then ofLevel .error else rules

/-- The rule that decides about a target. -/
def ruleFor? (filter : LogFilter) (target : String) : Option LogRule :=
  let fitting := filter.filter fun rule => rule.target.isPrefixOf target.toList
  fitting.foldl (fun best rule =>
    match best with
    | none => some rule
    | some other =>
        if other.target.length ≤ rule.target.length then some rule else best) none

/-- Lines of the level `info` about a target are logged. -/
def showsInfo (filter : LogFilter) (target : String) : Bool :=
  (filter.ruleFor? target).any fun rule => rule.level.showsInfo

end LogFilter
end EngineGateway.CommandLine
