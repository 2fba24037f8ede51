import EngineGateway.Text.Hex
import EngineGateway.Text.Numeral

/-!
# Network addresses

Addresses of version 4 and 6, their text, and where the machines behind them
are.  Traffic between peers and the gateway is not encrypted, so what matters
about an address is whether it lies on the same machine or a private network.
-/

namespace EngineGateway.Net

/-- An address: four octets or eight groups of 16 bits. -/
inductive Address where
  | v4 (first second third fourth : UInt8)
  | v6 (first second third fourth fifth sixth seventh eighth : UInt16)
  deriving Repr, DecidableEq

namespace Address

/-- The machine itself, in version 4. -/
def localhost : Address := .v4 127 0 0 1

def octetsOf (group : UInt16) : UInt8 × UInt8 :=
  ((group >>> 8).toUInt8, group.toUInt8)

def groupOf (high low : UInt8) : UInt16 :=
  (high.toUInt16 <<< 8) ||| low.toUInt16

/-- The address of version 4 that stands for the same machine, for an address
of version 4 and for one of the form `::ffff:a.b.c.d`. -/
def asV4? : Address → Option (UInt8 × UInt8 × UInt8 × UInt8)
  | v4 first second third fourth => some (first, second, third, fourth)
  | v6 0 0 0 0 0 0xFFFF seventh eighth =>
      let (first, second) := octetsOf seventh
      let (third, fourth) := octetsOf eighth
      some (first, second, third, fourth)
  | v6 _ _ _ _ _ _ _ _ => none

/-! ## Writing -/

/-- Four octets in decimal with points between them. -/
def renderV4 (first second third fourth : UInt8) : String :=
  toString first.toNat ++ "." ++ toString second.toNat ++ "." ++
    toString third.toNat ++ "." ++ toString fourth.toNat

/-- A group in hexadecimal without leading zeros. -/
def renderGroup (group : UInt16) : String :=
  String.ofList (Nat.toDigits 16 group.toNat)

def renderGroups (groups : List UInt16) : String :=
  String.intercalate ":" (groups.map renderGroup)

/-- The longest run of zero groups as its start and length, the first one of
several.  `current` is the run that reaches up to `position`. -/
def longestZeros (position : Nat) (current longest : Nat × Nat) :
    List UInt16 → Nat × Nat
  | [] => longest
  | group :: rest =>
      if group = 0 then
        let start := if current.2 = 0 then position else current.1
        let extended := (start, current.2 + 1)
        let longest := if longest.2 < extended.2 then extended else longest
        longestZeros (position + 1) extended longest rest
      else
        longestZeros (position + 1) (0, 0) longest rest

/-- Groups with the longest run of at least two zero groups left out. -/
def renderV6 (groups : List UInt16) : String :=
  let (start, length) := longestZeros 0 (0, 0) (0, 0) groups
  if 1 < length then
    renderGroups (groups.take start) ++ "::" ++
      renderGroups (groups.drop (start + length))
  else
    renderGroups groups

def render : Address → String
  | v4 first second third fourth => renderV4 first second third fourth
  | v6 0 0 0 0 0 0xFFFF seventh eighth =>
      let (first, second) := octetsOf seventh
      let (third, fourth) := octetsOf eighth
      "::ffff:" ++ renderV4 first second third fourth
  | v6 first second third fourth fifth sixth seventh eighth =>
      renderV6 [first, second, third, fourth, fifth, sixth, seventh, eighth]

/-! ## Reading -/

/-- What reading the start of some text yields, and the rest of the text. -/
abbrev Read (α : Type) := List Char → Option (α × List Char)

def readMark (mark : Char) : Read Unit
  | character :: rest => if character = mark then some ((), rest) else none
  | [] => none

/-- Read the mark that separates items, which stands before each item but the
one at index 0. -/
def readSeparator (mark : Char) (index : Nat) (text : List Char) :
    Option (List Char) :=
  if index = 0 then some text else (readMark mark text).map Prod.snd

/-- Read a decimal number of one to three digits without a leading zero, up to
255. -/
def readOctet : Read UInt8 := fun text =>
  let digits := text.takeWhile Char.isDigit
  if digits.isEmpty || 3 < digits.length ||
      (1 < digits.length && digits.head? == some '0') then none
  else
    match Text.readNat 255 digits with
    | .ok value => some (UInt8.ofNat value, text.dropWhile Char.isDigit)
    | .error _ => none

/-- Read four octets with points between them. -/
def readV4 : Read (UInt8 × UInt8 × UInt8 × UInt8) := fun text => do
  let (first, text) ← readOctet text
  let (_, text) ← readMark '.' text
  let (second, text) ← readOctet text
  let (_, text) ← readMark '.' text
  let (third, text) ← readOctet text
  let (_, text) ← readMark '.' text
  let (fourth, text) ← readOctet text
  return ((first, second, third, fourth), text)

/-- Read a group: one to four hexadecimal digits. -/
def readGroup : Read UInt16 := fun text =>
  let digits := text.takeWhile fun character => (Text.hexDigit? character).isSome
  if digits.isEmpty || 4 < digits.length then none
  else
    let value := (digits.filterMap Text.hexDigit?).foldl (fun sum digit => sum * 16 + digit) 0
    some (UInt16.ofNat value, text.drop digits.length)

/-- Groups read in a row. -/
structure GroupRun where
  groups : List UInt16
  /-- The last two groups were written as four octets. -/
  endsWithV4 : Bool
  rest : List Char

/-- Put a group in front of a run. -/
def GroupRun.cons (group : UInt16) (run : GroupRun) : GroupRun :=
  { run with groups := group :: run.groups }

/-- Read up to `room` groups, the first of which has the given index.  Where
two groups have room, four octets may stand for them and end the run. -/
def readGroups (index : Nat) (room : Nat) (text : List Char) : GroupRun :=
  match room with
  | 0 => ⟨[], false, text⟩
  | left + 1 =>
      let embedded :=
        if left = 0 then none
        else (readSeparator ':' index text).bind readV4
      match embedded with
      | some ((first, second, third, fourth), rest) =>
          ⟨[groupOf first second, groupOf third fourth], true, rest⟩
      | none =>
          match (readSeparator ':' index text).bind readGroup with
          | none => ⟨[], false, text⟩
          | some (group, rest) => (readGroups (index + 1) left rest).cons group

def ofGroups? : List UInt16 → Option Address
  | [first, second, third, fourth, fifth, sixth, seventh, eighth] =>
      some (.v6 first second third fourth fifth sixth seventh eighth)
  | _ => none

/-- Read an address of version 6.  Two colons stand for the groups that are
missing, at least one. -/
def readV6 : Read Address := fun text => do
  let head := readGroups 0 8 text
  if head.groups.length = 8 then
    let address ← ofGroups? head.groups
    return (address, head.rest)
  else if head.endsWithV4 then
    none
  else
    let (_, text) ← readMark ':' head.rest
    let (_, text) ← readMark ':' text
    let tail := readGroups 0 (7 - head.groups.length) text
    let missing := 8 - head.groups.length - tail.groups.length
    let address ← ofGroups? (head.groups ++ List.replicate missing 0 ++ tail.groups)
    return (address, tail.rest)

/-- The wording of a refusal to read an address. -/
def invalidSyntax : String := "invalid IP address syntax"

/-- The address that a text writes, none if it is no address. -/
def parse? (text : String) : Option Address :=
  match readV4 text.toList with
  | some ((first, second, third, fourth), rest) =>
      if rest.isEmpty then some (.v4 first second third fourth) else none
  | none =>
      match readV6 text.toList with
      | some (address, []) => some address
      | _ => none

end Address

/-! ## Origins -/

/-- Where the machine behind an address is. -/
inductive Origin where
  | localHost
  | privateNetwork
  | linkLocal
  | uniqueLocal
  | publicNetwork
  deriving Repr, DecidableEq

/-- Everything but the public network. -/
def Origin.isPrivate : Origin → Bool
  | .publicNetwork => false
  | _ => true

/-- Origin of an address of version 4. -/
def originOfV4 (first second : UInt8) : Origin :=
  if first = 127 then .localHost
  else if first = 10 ∨ first = 172 ∧ second &&& 0xF0 = 16 ∨
      first = 192 ∧ second = 168 then .privateNetwork
  else if first = 169 ∧ second = 254 then .linkLocal
  else .publicNetwork

/-- Origin of an address.  An address that stands for one of version 4 is
judged as that one. -/
def Address.origin (address : Address) : Origin :=
  match address.asV4? with
  | some (first, second, _, _) => originOfV4 first second
  | none =>
      match address with
      | .v6 0 0 0 0 0 0 0 1 => .localHost
      | .v6 first _ _ _ _ _ _ _ =>
          if first &&& 0xFFC0 = 0xFE80 then .linkLocal
          else if first &&& 0xFE00 = 0xFC00 then .uniqueLocal
          else .publicNetwork
      | .v4 _ _ _ _ => .publicNetwork

/-- The machine behind the address is local or on a private network. -/
def Address.isPrivate (address : Address) : Bool :=
  address.origin.isPrivate

end EngineGateway.Net
