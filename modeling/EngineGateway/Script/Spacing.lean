import EngineGateway.Text.Utf8

/-!
# Spacing of scripts

Before a script is sent, its spacing is put in order: line ends are line feeds
and no string is left open.  For engines with bracketed strings every run of
white space outside strings also shrinks to its first octet, because such an
engine does not survive two blanks in a row.

The text is read from left to right by a scanner that knows whether it stands
inside a string.
-/

namespace EngineGateway.Script

/-- How strings are written. -/
inductive StringStyle where
  /-- Between brackets, with nothing escaped: the first `]` closes. -/
  | bracketed
  /-- Between quotation marks, with a backslash before an octet taken as is. -/
  | quoted
  deriving Repr, DecidableEq

def StringStyle.opening : StringStyle → UInt8
  | .bracketed => 0x5B
  | .quoted => 0x22

def StringStyle.closing : StringStyle → UInt8
  | .bracketed => 0x5D
  | .quoted => 0x22

/-- The octet that takes the meaning from the next one in a quoted string. -/
def backslash : UInt8 := 0x5C

/-- Space, tab, line feed, vertical tab or form feed. -/
def isSpace (octet : UInt8) : Bool :=
  octet == 0x20 || octet == 0x09 || octet == 0x0A || octet == 0x0B ||
    octet == 0x0C

/-- Where a scanner stands and what it has written. -/
structure Scan where
  /-- Inside a string. -/
  inString : Bool
  /-- Right after a backslash inside a quoted string. -/
  escaped : Bool
  /-- First octet of the white space just passed, not written yet. -/
  pending : Option UInt8
  /-- Octets written so far, the last one first. -/
  written : Bytes
  deriving Repr, DecidableEq

namespace Scan

/-- Before the first octet. -/
def start : Scan :=
  ⟨false, false, none, []⟩

/-- Write the white space that is pending. -/
def flush (scan : Scan) : Scan :=
  match scan.pending with
  | none => scan
  | some space => { scan with pending := none, written := space :: scan.written }

def insideString (style : StringStyle) (scan : Scan) (octet : UInt8) : Scan :=
  let scan := { scan with written := octet :: scan.written }
  match style with
  | .bracketed => { scan with inString := octet != style.closing }
  | .quoted =>
      if scan.escaped then { scan with escaped := false }
      else if octet = backslash then { scan with escaped := true }
      else { scan with inString := octet != style.closing }

def outsideString (style : StringStyle) (scan : Scan) (octet : UInt8) : Scan :=
  if style = .bracketed ∧ isSpace octet then
    { scan with pending := scan.pending.or (some octet) }
  else
    let scan := scan.flush
    { scan with
      inString := octet == style.opening
      written := octet :: scan.written }

/-- Pass one octet that is not part of a line end. -/
def pass (style : StringStyle) (scan : Scan) (octet : UInt8) : Scan :=
  if scan.inString then scan.insideString style octet
  else scan.outsideString style octet

/-- Pass all octets.  A carriage return before a line feed is dropped, and so
is any other one outside strings. -/
def run (style : StringStyle) (scan : Scan) : Bytes → Scan
  | [] => scan
  | 0x0D :: 0x0A :: rest => run style (scan.pass style 0x0A) rest
  | octet :: rest =>
      if octet = 0x0D ∧ scan.inString = false then run style scan rest
      else run style (scan.pass style octet) rest

/-- Everything written, with white space still pending and with the end of a
string that is still open. -/
def finish (style : StringStyle) (scan : Scan) : Bytes :=
  let scan := scan.flush
  if scan.inString then (style.closing :: scan.written).reverse
  else scan.written.reverse

end Scan

/-- A script with its spacing made fit for the engine. -/
def normalizeSpacing (style : StringStyle) (script : Bytes) : Bytes :=
  (Scan.start.run style script).finish style

end EngineGateway.Script
