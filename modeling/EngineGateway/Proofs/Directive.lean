import EngineGateway.Directive
import EngineGateway.Proofs.Text.Numeral
import EngineGateway.Proofs.Text.Split

/-!
# What a directive is

The grammar of directives says for every line which directive is written in it, if any
that reaches someone.  Each part of a line ends at the first of the characters that may end
it, so there is only one way to take a line apart, and it is the one that is found.

The address of a directive followed by its protocol and message is such a line.  So a
directive that was read and names a host is read again from what it is written as, and its
address alone tells which end it names.
-/

namespace EngineGateway.Directive

open Text

/-! ## Grammar -/

/-- Text that is left out where it is empty. -/
def nonempty? (text : List Char) : Option String :=
  if text = [] then none else some (String.ofList text)

/-- The number of a port, none for text that writes no number of 16 bits. -/
inductive Port : List Char → Option Nat → Prop where
  | number {text : List Char} {port : Nat} : Decimal text port → port < 0x10000 →
      Port text (some port)
  | other {text : List Char} : (∀ port, Decimal text port → 0x10000 ≤ port) → Port text none

/-- Host and port: the host ends at the first colon. -/
inductive Address : List Char → List Char → Option Nat → Prop where
  | bare {host : List Char} : ':' ∉ host → Address host host none
  | ported {host text : List Char} {port : Option Nat} : ':' ∉ host → Port text port →
      Address (host ++ ':' :: text) host port

/-- What is behind the protocol, and the message in it. -/
inductive Message : List Char → Option String → Prop where
  | said {text : List Char} : Message (':' :: text) (nonempty? text)
  | silent {tail : List Char} : tail.head? ≠ some ':' → Message tail none

/-- A protocol up to the first closing bracket, and what is behind it. -/
inductive Bracketed : List Char → String → Option String → Prop where
  | mk {protocol tail : List Char} {message : Option String} : protocol ≠ [] →
      ']' ∉ protocol → Message tail message →
      Bracketed (protocol ++ ']' :: tail) (String.ofList protocol) message

/-- The characters of the scheme of a line. -/
def schemeOf (secure : Bool) : List Char :=
  if secure then ['w', 's', 's'] else ['w', 's']

/-- The line has the directive written in it. -/
inductive Written : List Char → Directive → Prop where
  | short {secure : Bool} {text : List Char} {protocol : String} {message : Option String} :
      Bracketed text protocol message →
      Written (schemeOf secure ++ '[' :: text) ⟨secure, none, none, protocol, message⟩
  | long {secure : Bool} {address host text : List Char} {port : Option Nat}
      {protocol : String} {message : Option String} :
      '[' ∉ address → Address address host port → Bracketed text protocol message →
      Written (schemeOf secure ++ [':', '/', '/'] ++ address ++ '[' :: text)
        ⟨secure, nonempty? host, port, protocol, message⟩

/-! ## Reading -/

theorem readWord16_iff {text : List Char} {number : Nat} :
    readNat maxWord16 text = .ok number ↔ Decimal text number ∧ number < 0x10000 :=
  readNat_eq_ok_iff.trans (and_congr_right fun _ => Nat.lt_succ_iff.symm)

theorem port_iff {text : List Char} {port : Option Nat} :
    (readNat maxWord16 text).toOption = port ↔ Port text port := by
  constructor
  · rintro rfl
    cases read : readNat maxWord16 text with
    | ok number =>
        obtain ⟨decimal, small⟩ := readWord16_iff.mp read
        exact .number decimal small
    | error fault =>
        refine .other fun number decimal => Nat.le_of_not_lt fun small => ?_
        cases read.symm.trans (readWord16_iff.mpr ⟨decimal, small⟩)
  · rintro (⟨decimal, small⟩ | large)
    · rw [readWord16_iff.mpr ⟨decimal, small⟩]
      rfl
    · cases read : readNat maxWord16 text with
      | ok number =>
          obtain ⟨decimal, small⟩ := readWord16_iff.mp read
          exact absurd (large number decimal) (Nat.not_le_of_lt small)
      | error fault => rfl

theorem address_iff {address host : List Char} {port : Option Nat} :
    readAddress address = (host, port) ↔ Address address host port := by
  constructor
  · intro read
    by_cases colon : ':' ∈ address
    · obtain ⟨before, after, rfl, clear⟩ := List.eq_append_cons_of_mem colon
      rw [readAddress, splitAtFirst?_split clear] at read
      obtain ⟨rfl, same⟩ := Prod.mk.inj read
      exact .ported clear (port_iff.mp same)
    · rw [readAddress, splitAtFirst?_of_not_mem colon] at read
      cases read
      exact .bare colon
  · rintro (clear | ⟨clear, same⟩)
    · rw [readAddress, splitAtFirst?_of_not_mem clear]
    · rw [readAddress, splitAtFirst?_split clear]
      exact congrArg _ (port_iff.mpr same)

theorem message_iff {tail : List Char} {message : Option String} :
    messageOf tail = message ↔ Message tail message := by
  constructor
  · rintro rfl
    rcases tail with _ | ⟨character, text⟩
    · exact .silent nofun
    · by_cases colon : character = ':'
      · subst colon
        cases text <;> exact .said
      · have silent : messageOf (character :: text) = none := by
          unfold messageOf
          split
          · next same => exact absurd (List.cons.inj same).1 colon
          · rfl
        rw [silent]
        exact .silent (by simpa using colon)
  · rintro (_ | silent)
    · next text => cases text <;> rfl
    · unfold messageOf
      split
      · exact absurd rfl silent
      · rfl

theorem isRoutable_iff {directive : Directive} :
    directive.isRoutable = true ↔ directive.protocol ≠ "" := by
  simp [isRoutable]

theorem ofBracketed_split (secure : Bool) {protocol : List Char} (clear : ']' ∉ protocol)
    (tail : List Char) :
    ofBracketed secure (protocol ++ ']' :: tail) =
      ⟨secure, none, none, String.ofList protocol, messageOf tail⟩ := by
  rw [ofBracketed, splitAtFirst?_split clear]
  rfl

theorem ofBracketed_of_not_mem (secure : Bool) {text : List Char} (clear : ']' ∉ text) :
    ofBracketed secure text = blank secure := by
  rw [ofBracketed, splitAtFirst?_of_not_mem clear]

theorem ofBracketed_host (secure : Bool) (text : List Char) :
    (ofBracketed secure text).host = none := by
  unfold ofBracketed
  split <;> rfl

/-- The bracketed part of a line is read as the grammar has it, if it has a protocol. -/
theorem bracketed_iff {secure : Bool} {text : List Char} {directive : Directive} :
    ofBracketed secure text = directive ∧ directive.isRoutable = true ↔
      ∃ protocol message, Bracketed text protocol message ∧
        directive = ⟨secure, none, none, protocol, message⟩ := by
  rw [isRoutable_iff]
  constructor
  · rintro ⟨rfl, routable⟩
    by_cases closed : ']' ∈ text
    · obtain ⟨protocol, tail, rfl, clear⟩ := List.eq_append_cons_of_mem closed
      rw [ofBracketed_split secure clear] at routable ⊢
      have filled : protocol ≠ [] := by
        rintro rfl
        exact routable rfl
      exact ⟨_, _, .mk filled clear (message_iff.mp rfl), rfl⟩
    · rw [ofBracketed_of_not_mem secure closed] at routable
      exact absurd rfl routable
  · rintro ⟨_, _, ⟨filled, clear, same⟩, rfl⟩
    rw [ofBracketed_split secure clear, message_iff.mpr same]
    exact ⟨rfl, by simpa using filled⟩

theorem ofAddressed_split (secure : Bool) {address : List Char} (clear : '[' ∉ address)
    (text : List Char) :
    ofAddressed secure (address ++ '[' :: text) =
      { ofBracketed secure text with
        host := nonempty? (readAddress address).1
        port := (readAddress address).2 } := by
  simp only [ofAddressed, takeWhile_split clear, dropWhile_split clear, nonempty?,
    List.isEmpty_iff]

/-- Without a bracket there is no protocol. -/
theorem ofAddressed_of_not_mem (secure : Bool) {text : List Char} (clear : '[' ∉ text) :
    (ofAddressed secure text).isRoutable = false := by
  simp [ofAddressed, List.dropWhile_eq_nil_iff.mpr (passed_of_not_mem clear), blank, isRoutable]

/-- What follows the slashes of a line is read as the grammar has it, if it has a protocol. -/
theorem addressed_iff {secure : Bool} {text : List Char} {directive : Directive} :
    ofAddressed secure text = directive ∧ directive.isRoutable = true ↔
      ∃ address rest host port protocol message, text = address ++ '[' :: rest ∧
        '[' ∉ address ∧ Address address host port ∧ Bracketed rest protocol message ∧
        directive = ⟨secure, nonempty? host, port, protocol, message⟩ := by
  constructor
  · rintro ⟨rfl, routable⟩
    by_cases opened : '[' ∈ text
    · obtain ⟨address, rest, rfl, clear⟩ := List.eq_append_cons_of_mem opened
      rw [ofAddressed_split secure clear] at routable ⊢
      obtain ⟨protocol, message, bracketed, same⟩ := bracketed_iff.mp ⟨rfl, routable⟩
      rw [same]
      exact ⟨_, _, _, _, _, _, rfl, clear, address_iff.mp rfl, bracketed, rfl⟩
    · rw [ofAddressed_of_not_mem secure opened] at routable
      cases routable
  · rintro ⟨address, rest, host, port, protocol, message, rfl, clear, split, bracketed, rfl⟩
    obtain ⟨same, routable⟩ := bracketed_iff.mpr ⟨_, _, bracketed, rfl⟩
    rw [ofAddressed_split secure clear, address_iff.mpr split, same]
    exact ⟨rfl, routable⟩

/-- A line starts with a scheme and goes on with an address or with a bracket. -/
theorem parse?_eq_some_iff {line : String} {directive : Directive} :
    parse? line = some directive ↔ ∃ secure rest,
      line.toList = schemeOf secure ++ [':', '/', '/'] ++ rest ∧
        ofAddressed secure rest = directive ∨
      line.toList = schemeOf secure ++ '[' :: rest ∧ ofBracketed secure rest = directive := by
  constructor
  · intro read
    unfold parse? at read
    split at read
    · next rest same => exact ⟨true, rest, .inl ⟨same, Option.some.inj read⟩⟩
    · next rest same => exact ⟨false, rest, .inl ⟨same, Option.some.inj read⟩⟩
    · next rest same => exact ⟨true, rest, .inr ⟨same, Option.some.inj read⟩⟩
    · next rest same => exact ⟨false, rest, .inr ⟨same, Option.some.inj read⟩⟩
    · cases read
  · rintro ⟨secure, rest, ⟨same, rfl⟩ | ⟨same, rfl⟩⟩
    all_goals cases secure <;> simp [parse?, same, schemeOf]

/-- The directives that reach someone are those of the grammar. -/
theorem parse?_routable_iff {line : String} {directive : Directive} :
    parse? line = some directive ∧ directive.isRoutable = true ↔
      Written line.toList directive := by
  rw [parse?_eq_some_iff]
  constructor
  · rintro ⟨⟨secure, rest, ⟨same, read⟩ | ⟨same, read⟩⟩, routable⟩
    · obtain ⟨address, text, host, port, protocol, message, rfl, clear, split, bracketed, rfl⟩ :=
        addressed_iff.mp ⟨read, routable⟩
      rw [same, ← List.append_assoc]
      exact .long clear split bracketed
    · obtain ⟨protocol, message, bracketed, rfl⟩ := bracketed_iff.mp ⟨read, routable⟩
      rw [same]
      exact .short bracketed
  · generalize line.toList = characters
    rintro (bracketed | ⟨clear, split, bracketed⟩)
    · obtain ⟨read, routable⟩ := bracketed_iff.mpr ⟨_, _, bracketed, rfl⟩
      exact ⟨⟨_, _, .inr ⟨rfl, read⟩⟩, routable⟩
    · obtain ⟨read, routable⟩ :=
        addressed_iff.mpr ⟨_, _, _, _, _, _, rfl, clear, split, bracketed, rfl⟩
      exact ⟨⟨_, _, .inl ⟨List.append_assoc _ _ _, read⟩⟩, routable⟩

/-! ## Writing -/

/-- The directive names a host that holds none of the characters that end one, and its port
has 16 bits. -/
structure Endpoint (directive : Directive) : Prop where
  host : ∃ host, directive.host = some host ∧ host ≠ "" ∧ ':' ∉ host.toList ∧
    '[' ∉ host.toList
  port : ∀ port ∈ directive.port, port < 0x10000

/-- The protocol is there and does not hold the bracket that ends it either, and the
message is not empty. -/
structure Printable (directive : Directive) : Prop extends Endpoint directive where
  protocol : directive.protocol ≠ "" ∧ ']' ∉ directive.protocol.toList
  message : directive.message ≠ some ""

/-- What is written behind the address. -/
def ending (directive : Directive) : String :=
  "[" ++ directive.protocol ++ "]" ++
    match directive.message with
    | some message => ":" ++ message
    | none => ""

/-- The characters of a port as it is written behind a host. -/
def portText : Option Nat → List Char
  | some port => ':' :: (toString port).toList
  | none => []

theorem nonempty?_toList {text : String} (filled : text ≠ "") :
    nonempty? text.toList = some text := by
  simp [nonempty?, filled]

theorem exists_url {directive : Directive} {host : String} (named : directive.host = some host) :
    ∃ address, directive.url = some address ∧
      address.toList = schemeOf directive.secure ++ [':', '/', '/'] ++
        (host.toList ++ portText directive.port) := by
  rcases directive with ⟨secure, _, port, _, _⟩
  obtain rfl := named
  refine ⟨_, rfl, ?_⟩
  cases port <;> cases secure <;> simp [scheme, schemeOf, portText]

theorem address_portText {host : List Char} (colon : ':' ∉ host) {port : Option Nat}
    (small : ∀ number ∈ port, number < 0x10000) : Address (host ++ portText port) host port := by
  cases port with
  | none => simpa [portText] using Address.bare colon
  | some number =>
      exact .ported colon (.number (.plain (digits_toString number)) (small number rfl))

theorem not_mem_portText (port : Option Nat) : '[' ∉ portText port := by
  cases port with
  | none => nofun
  | some number =>
      rintro (_ | ⟨_, member⟩)
      exact absurd ((digits_toString number).digits _ member) (by decide)

theorem Printable.bracketed {directive : Directive} (printable : Printable directive) :
    ∃ text, directive.ending.toList = '[' :: text ∧
      Bracketed text directive.protocol directive.message := by
  rcases directive with ⟨secure, host, port, protocol, message⟩
  have filled : protocol.toList ≠ [] := by simpa using printable.protocol.1
  have ends : ∀ tail, Message tail message →
      Bracketed (protocol.toList ++ ']' :: tail) protocol message := by
    intro tail said
    have bracketed := Bracketed.mk filled printable.protocol.2 said
    rwa [String.ofList_toList] at bracketed
  cases message with
  | none => exact ⟨_, by simp [ending], ends [] (.silent nofun)⟩
  | some message =>
      have named : nonempty? message.toList = some message :=
        nonempty?_toList fun empty => printable.message (congrArg some empty)
      exact ⟨_, by simp [ending], ends (':' :: message.toList) (named ▸ .said)⟩

/-- The address and what is written behind it are a line with the directive in it. -/
theorem Printable.written {directive : Directive} (printable : Printable directive) :
    ∃ address, directive.url = some address ∧
      Written (address ++ directive.ending).toList directive := by
  obtain ⟨host, named, filled, colon, bracket⟩ := printable.host
  obtain ⟨address, same, characters⟩ := exists_url named
  obtain ⟨text, behind, bracketed⟩ := printable.bracketed
  refine ⟨address, same, ?_⟩
  have clear : '[' ∉ host.toList ++ portText directive.port := by
    simp [bracket, not_mem_portText]
  have written := @Written.long directive.secure _ _ _ _ _ _ clear
    (address_portText colon printable.port) bracketed
  rw [nonempty?_toList filled, ← named] at written
  rwa [String.toList_append, characters, behind]

/-- What is written for a directive is read as that directive. -/
theorem Printable.reads {directive : Directive} (printable : Printable directive) :
    ∃ address, directive.url = some address ∧
      parse? (address ++ directive.ending) = some directive := by
  obtain ⟨address, same, written⟩ := printable.written
  exact ⟨address, same, (parse?_routable_iff.mpr written).1⟩

/-! ## Writing what was read -/

theorem nonempty?_eq_some {text : List Char} {result : String}
    (same : nonempty? text = some result) : result ≠ "" ∧ result.toList = text := by
  unfold nonempty? at same
  split at same
  · cases same
  · next filled =>
      obtain rfl := Option.some.inj same
      exact ⟨by simpa using filled, String.toList_ofList⟩

theorem ofAddressed_address (secure : Bool) (text : List Char) :
    ∃ address host port, '[' ∉ address ∧ Address address host port ∧
      (ofAddressed secure text).host = nonempty? host ∧ (ofAddressed secure text).port = port := by
  have clear : '[' ∉ text.takeWhile (· != '[') := by
    intro member
    simpa using List.mem_takeWhile_imp member
  obtain ⟨host, port, read⟩ : ∃ host port, readAddress (text.takeWhile (· != '[')) = (host, port) :=
    ⟨_, _, rfl⟩
  refine ⟨_, host, port, clear, address_iff.mp read, ?_, ?_⟩
  all_goals simp only [ofAddressed, read, nonempty?, List.isEmpty_iff]

/-- A directive that was read and names a host names an end. -/
theorem endpoint_of_parse? {line : String} {directive : Directive}
    (read : parse? line = some directive) (named : directive.host.isSome = true) :
    Endpoint directive := by
  obtain ⟨name, named⟩ := Option.isSome_iff_exists.mp named
  obtain ⟨secure, rest, ⟨_, rfl⟩ | ⟨_, rfl⟩⟩ := parse?_eq_some_iff.mp read
  · obtain ⟨address, host, port, clear, split, same, number⟩ := ofAddressed_address secure rest
    obtain ⟨filled, characters⟩ := nonempty?_eq_some (same.symm.trans named)
    rcases split with colon | ⟨colon, written⟩
    · exact ⟨⟨name, named, filled, characters ▸ colon, characters ▸ clear⟩,
        by simp [number]⟩
    · refine ⟨⟨name, named, filled, characters ▸ colon, ?_⟩, ?_⟩
      · rw [characters]
        exact fun member => clear (List.mem_append_left _ member)
      · rw [number]
        rintro _ rfl
        cases written with
        | number _ small => exact small
  · rw [ofBracketed_host] at named
    cases named

theorem Bracketed.clear {text : List Char} {protocol : String} {message : Option String}
    (bracketed : Bracketed text protocol message) :
    (protocol ≠ "" ∧ ']' ∉ protocol.toList) ∧ message ≠ some "" := by
  obtain ⟨filled, clear, said⟩ := bracketed
  refine ⟨⟨by simpa using filled, by simpa using clear⟩, ?_⟩
  intro empty
  cases said with
  | said => exact (nonempty?_eq_some empty).1 rfl
  | silent _ => cases empty

/-- A directive that was read, reaches someone and names a host can be written. -/
theorem printable_of_parse? {line : String} {directive : Directive}
    (read : parse? line = some directive) (routable : directive.isRoutable = true)
    (named : directive.host.isSome = true) : Printable directive := by
  have names := endpoint_of_parse? read named
  have written := parse?_routable_iff.mp ⟨read, routable⟩
  generalize line.toList = characters at written
  cases written with
  | short bracketed => exact ⟨names, bracketed.clear.1, bracketed.clear.2⟩
  | long _ _ bracketed => exact ⟨names, bracketed.clear.1, bracketed.clear.2⟩

/-- Directives with the same address name the same end, and reach it in the same way. -/
theorem Endpoint.url_inj {directive other : Directive} (names : Endpoint directive)
    (too : Endpoint other) (same : directive.url = other.url) :
    directive.secure = other.secure ∧ directive.host = other.host ∧
      directive.port = other.port := by
  -- With one protocol and no message both are written in the same way, and so read back.
  have reads {directive : Directive} (names : Endpoint directive) :
      ∃ address, directive.url = some address ∧ parse? (address ++ "[p]") =
        some ⟨directive.secure, directive.host, directive.port, "p", none⟩ :=
    @Printable.reads ⟨directive.secure, directive.host, directive.port, "p", none⟩
      ⟨⟨names.host, names.port⟩, (by decide : "p" ≠ "" ∧ ']' ∉ "p".toList), nofun⟩
  obtain ⟨address, first, read⟩ := reads names
  obtain ⟨_, second, again⟩ := reads too
  obtain rfl := Option.some.inj (first.symm.trans (same.trans second))
  obtain ⟨secure, host, port, _⟩ := Directive.mk.inj (Option.some.inj (read.symm.trans again))
  exact ⟨secure, host, port⟩

/-- The lines of the grammar are those that are read as a directive that reaches someone,
and as that directive.  A directive that can be written is read back from its address and
what is written behind it, and every directive that was read, reaches someone and names a
host can be.  No two directives that were read have the same address unless they go to the
same port of the same host, both encrypted or both not. -/
theorem directives_read_back :
    (∀ line directive, parse? line = some directive ∧ directive.isRoutable = true ↔
      Written line.toList directive) ∧
    (∀ directive, Printable directive → ∃ address, directive.url = some address ∧
      parse? (address ++ directive.ending) = some directive) ∧
    (∀ line directive, parse? line = some directive → directive.isRoutable = true →
      directive.host.isSome = true → ∃ address, directive.url = some address ∧
        parse? (address ++ directive.ending) = some directive) ∧
    ∀ line other first second, parse? line = some first → parse? other = some second →
      first.host.isSome = true → first.url = second.url →
        first.secure = second.secure ∧ first.host = second.host ∧
          first.port = second.port := by
  refine ⟨fun _ _ => parse?_routable_iff, fun _ => Printable.reads, ?again, ?apart⟩
  case again =>
    intro line directive read routable named
    exact (printable_of_parse? read routable named).reads
  case apart =>
    intro line other first second read too named same
    have both : second.host.isSome = true := by
      have urls := congrArg Option.isSome same
      simpa only [url, Option.isSome_map, named, eq_comm] using urls
    exact (endpoint_of_parse? read named).url_inj (endpoint_of_parse? too both) same

/-- A message may have brackets in it, and a port may be written in several ways. -/
theorem directives_read_back_hall :
    (∃ address, url ⟨true, some "hall", none, "chat", some "[x]:"⟩ = some address ∧
      parse? (address ++ ending ⟨true, some "hall", none, "chat", some "[x]:"⟩) =
        some ⟨true, some "hall", none, "chat", some "[x]:"⟩) ∧
    (∃ address, url ⟨false, some "hall", some 80, "chat", none⟩ = some address ∧
      parse? (address ++ ending ⟨false, some "hall", some 80, "chat", none⟩) =
        some ⟨false, some "hall", some 80, "chat", none⟩) ∧
    url ⟨false, some "hall", some 80, "chat", none⟩ ≠
      url ⟨false, some "hall", some 800, "chat", none⟩ := by
  have written : parse? "ws://hall:+080[chat]" =
      some ⟨false, some "hall", some 80, "chat", none⟩ := by decide
  have other : parse? "ws://hall:800[chat]" =
      some ⟨false, some "hall", some 800, "chat", none⟩ := by decide
  refine ⟨directives_read_back.2.1 _ ?_, directives_read_back.2.2.1 _ _ written rfl rfl, ?_⟩
  · exact ⟨⟨⟨"hall", rfl, by decide⟩, nofun⟩, by decide, by decide⟩
  · intro same
    have ports := (directives_read_back.2.2.2 _ _ _ _ written other rfl same).2.2
    cases ports

end EngineGateway.Directive
