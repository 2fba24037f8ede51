import EngineGateway.Text.Blank
import EngineGateway.Text.Numeral

/-!
# Routing directives

Scripts reach other peers by writing a line of one of these forms:

* `ws://address[protocol]` or `ws://address[protocol]:message`
* `ws[protocol]` or `ws[protocol]:message`

with `wss` in place of `ws` for an encrypted connection.  The long form names a
remote end to which a relay is opened; the short form reaches only peers that
already speak the protocol.
-/

namespace EngineGateway

/-- What a directive line asks for. -/
structure Directive where
  /-- The remote end is to be reached over an encrypted connection. -/
  secure : Bool
  host : Option String
  port : Option Nat
  protocol : String
  message : Option String
  deriving Repr, DecidableEq

namespace Directive

/-- A directive without a protocol reaches nobody. -/
def isRoutable (directive : Directive) : Bool :=
  !directive.protocol.isEmpty

/-- Scheme of the address of the remote end. -/
def scheme (directive : Directive) : String :=
  if directive.secure then "wss" else "ws"

/-- Address of the remote end, if the directive names one. -/
def url (directive : Directive) : Option String :=
  directive.host.map fun host =>
    match directive.port with
    | some port => directive.scheme ++ "://" ++ host ++ ":" ++ toString port
    | none => directive.scheme ++ "://" ++ host

def blank (secure : Bool) : Directive :=
  ⟨secure, none, none, "", none⟩

/-- The message after the closing bracket: what follows a colon, if anything. -/
def messageOf : List Char → Option String
  | ':' :: character :: rest => some (String.ofList (character :: rest))
  | _ => none

def ofBracketed (secure : Bool) (text : List Char) : Directive :=
  match Text.splitAtFirst? ']' text with
  | none => blank secure
  | some (protocol, tail) =>
      { blank secure with
        protocol := String.ofList protocol
        message := messageOf tail }

/-- Host and port of an address.  A port that is no number is left out. -/
def readAddress (address : List Char) : List Char × Option Nat :=
  match Text.splitAtFirst? ':' address with
  | none => (address, none)
  | some (host, port) => (host, (Text.readNat Text.maxWord16 port).toOption)

def ofAddressed (secure : Bool) (text : List Char) : Directive :=
  let (host, port) := readAddress (text.takeWhile (· != '['))
  let bracketed :=
    match text.dropWhile (· != '[') with
    | [] => blank secure
    | _ :: rest => ofBracketed secure rest
  { bracketed with
    host := if host.isEmpty then none else some (String.ofList host)
    port := port }

/-- Read one line, none if it is not a directive. -/
def parse? (line : String) : Option Directive :=
  match line.toList with
  | 'w' :: 's' :: 's' :: ':' :: '/' :: '/' :: rest => some (ofAddressed true rest)
  | 'w' :: 's' :: ':' :: '/' :: '/' :: rest => some (ofAddressed false rest)
  | 'w' :: 's' :: 's' :: '[' :: rest => some (ofBracketed true rest)
  | 'w' :: 's' :: '[' :: rest => some (ofBracketed false rest)
  | _ => none

end Directive
end EngineGateway
