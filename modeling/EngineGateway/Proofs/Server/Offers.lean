import EngineGateway.Proofs.Server.Admission
import EngineGateway.Proofs.Server.Registries
import EngineGateway.Proofs.Text.Utf8

/-!
# Subprotocols that clients offer

A header with an octet that no header may hold offers nothing.  Any other header consists of
items between commas, and each item is blank or a name with blanks around it.  The names are
offered in order, one header after the other.  Names written into one header with commas between
them are offered again.

A client that is admitted is told the first name that it has offered, and the registry lists it
once under every name, however often the name was offered, and under no other.
-/

namespace EngineGateway.Server

open Engine Net Peer Gateway Text

/-! ## What headers offer -/

/-- Separates the items of a header. -/
def comma : UInt8 := 0x2C

/-- The text that octets of a header stand for. -/
def textOf (octets : Bytes) : String :=
  String.ofList (octets.map characterOf)

/-- Octets that may name a protocol in a header: there is no comma among them and no blank at
either end. -/
structure Name (octets : Bytes) : Prop where
  filled : octets ≠ []
  allowed : ∀ octet ∈ octets, isHeaderOctet octet = true
  single : comma ∉ octets
  starts : ∀ first ∈ octets.head?, ¬ IsBlankOctet first
  ends : ∀ last ∈ octets.getLast?, ¬ IsBlankOctet last

/-- What an item of a header offers. -/
inductive ItemOffers : Bytes → List String → Prop where
  | blank {item : Bytes} : (∀ octet ∈ item, IsBlankOctet octet) → ItemOffers item []
  | name {before name after : Bytes} :
      (∀ octet ∈ before, IsBlankOctet octet) → Name name →
      (∀ octet ∈ after, IsBlankOctet octet) →
      ItemOffers (before ++ name ++ after) [textOf name]

/-- Sources offer one after the other. -/
inductive InTurn {source : Type} (offers : source → List String → Prop) :
    List source → List String → Prop where
  | nil : InTurn offers [] []
  | cons {first : source} {rest : List source} {offered later : List String} :
      offers first offered → InTurn offers rest later →
      InTurn offers (first :: rest) (offered ++ later)

/-- What a header offers. -/
inductive HeaderOffers : Bytes → List String → Prop where
  | unreadable {header : Bytes} {octet : UInt8} :
      octet ∈ header → isHeaderOctet octet = false → HeaderOffers header []
  | items {items : List Bytes} {offered : List String} :
      items ≠ [] → (∀ item ∈ items, comma ∉ item) → InTurn ItemOffers items offered →
      HeaderOffers ([comma].intercalate items) offered

/-- What headers offer. -/
def Offers (headers : List Bytes) (offered : List String) : Prop :=
  InTurn HeaderOffers headers offered

section InTurn

variable {source : Type} {offers : source → List String → Prop} {sources : List source}
  {offered : List String} {reading : source → List String}

/-- What is read from each source is read from all of them in turn. -/
theorem InTurn.read (reads : ∀ {one part}, offers one part → reading one = part)
    (turns : InTurn offers sources offered) : sources.flatMap reading = offered := by
  induction turns with
  | nil => rfl
  | cons first _ ih => rw [List.flatMap_cons, reads first, ih]

theorem inTurn_flatMap (each : ∀ one ∈ sources, offers one (reading one)) :
    InTurn offers sources (sources.flatMap reading) := by
  induction sources with
  | nil => exact .nil
  | cons first rest ih =>
      obtain ⟨here, later⟩ := List.forall_mem_cons.mp each
      exact .cons here (ih later)

theorem inTurn_map {spell : String → source}
    (each : ∀ protocol ∈ offered, offers (spell protocol) [protocol]) :
    InTurn offers (offered.map spell) offered := by
  induction offered with
  | nil => exact .nil
  | cons first rest ih =>
      obtain ⟨here, later⟩ := List.forall_mem_cons.mp each
      exact .cons here (ih later)

/-- What holds of each offer holds of every one. -/
theorem InTurn.forall_mem {holds : String → Prop}
    (each : ∀ {one part}, offers one part → ∀ protocol ∈ part, holds protocol)
    (turns : InTurn offers sources offered) : ∀ protocol ∈ offered, holds protocol := by
  induction turns with
  | nil => simp
  | cons first _ ih => exact List.forall_mem_append.mpr ⟨each first, ih⟩

/-- What holds of a source that offers anything holds of every one. -/
theorem InTurn.forall_source {holds : source → Prop}
    (each : ∀ {one part}, offers one part → holds one)
    (turns : InTurn offers sources offered) : ∀ one ∈ sources, holds one := by
  induction turns with
  | nil => simp
  | cons first _ ih => exact List.forall_mem_cons.mpr ⟨each first, ih⟩

end InTurn

/-! ## Items -/

section Items

variable {item name : Bytes} {offered : List String}

theorem isHeaderOctet_comma : isHeaderOctet comma = true := by decide

/-- The character of an octet is a comma if the octet is one. -/
theorem characterOf_comma : characterOf comma = ',' := by decide

theorem comma_mem_map (octets : Bytes) : ',' ∈ octets.map characterOf ↔ comma ∈ octets := by
  rw [← characterOf_comma, List.mem_map_of_injective characterOf_injective]

theorem solid_characterOf {octet : UInt8} (allowed : isHeaderOctet octet = true) :
    isBlank (characterOf octet) = false ↔ ¬ IsBlankOctet octet := by
  rw [← isBlank_characterOf octet allowed, Bool.not_eq_true]

theorem Name.bare (named : Name name) : Bare (name.map characterOf) where
  starts first here := by
    rw [List.head?_map] at here
    obtain ⟨octet, begins, rfl⟩ := Option.map_eq_some_iff.mp here
    have allowed := named.allowed octet (List.mem_of_mem_head? begins)
    exact (solid_characterOf allowed).mpr (named.starts octet begins)
  ends last here := by
    rw [List.getLast?_map] at here
    obtain ⟨octet, closes, rfl⟩ := Option.map_eq_some_iff.mp here
    have allowed := named.allowed octet (List.mem_of_mem_getLast? closes)
    exact (solid_characterOf allowed).mpr (named.ends octet closes)

/-- The octets of a text that is not empty and has no blank at either end are a name. -/
theorem name_of_bare (filled : name ≠ []) (allowed : ∀ octet ∈ name, isHeaderOctet octet = true)
    (single : comma ∉ name) (bare : Bare (name.map characterOf)) : Name name where
  filled := filled
  allowed := allowed
  single := single
  starts first here := by
    apply (solid_characterOf (allowed first (List.mem_of_mem_head? here))).mp
    exact bare.starts (characterOf first) (by simp [Option.mem_def.mp here])
  ends last here := by
    apply (solid_characterOf (allowed last (List.mem_of_mem_getLast? here))).mp
    exact bare.ends (characterOf last) (by simp [Option.mem_def.mp here])

/-- What the server takes from an item. -/
def taken (item : Bytes) : Option String :=
  let protocol := trimmed (item.map characterOf)
  if protocol.isEmpty then none else some (String.ofList protocol)

theorem ItemOffers.taken (offers : ItemOffers item offered) : (taken item).toList = offered := by
  cases offers with
  | blank blank =>
      have nothing : trimmed (item.map characterOf) = [] := by
        have none : Bare [] := ⟨by simp, by simp⟩
        simpa [trimmed] using
          @trimEnd_trimStart _ _ [] (isBlank_of_blankOctets blank) none (by simp)
      simp [Server.taken, nothing]
  | @name before name after blankBefore named blankAfter =>
      have kept : trimmed ((before ++ name ++ after).map characterOf) = name.map characterOf := by
        rw [List.map_append, List.map_append]
        exact trimEnd_trimStart (isBlank_of_blankOctets blankBefore) named.bare
          (isBlank_of_blankOctets blankAfter)
      have filled : (name.map characterOf).isEmpty = false := by simpa using named.filled
      simp only [Server.taken]
      rw [kept]
      simp [filled, textOf]

theorem ItemOffers.allowed (offers : ItemOffers item offered) :
    ∀ octet ∈ item, isHeaderOctet octet = true := by
  cases offers with
  | blank blank => exact fun octet member => isHeaderOctet_of_blank octet (blank octet member)
  | name blankBefore named blankAfter =>
      simp only [List.forall_mem_append]
      exact ⟨⟨fun octet member => isHeaderOctet_of_blank octet (blankBefore octet member),
        named.allowed⟩, fun octet member => isHeaderOctet_of_blank octet (blankAfter octet member)⟩

/-- Every item of octets that are allowed offers nothing or a name. -/
theorem exists_itemOffers (allowed : ∀ octet ∈ item, isHeaderOctet octet = true)
    (single : comma ∉ item) : ∃ offered, ItemOffers item offered := by
  obtain ⟨before, after, whole, blankBefore, bare, blankAfter⟩ :=
    exists_bare (item.map characterOf)
  obtain ⟨front, last, rfl, sameFront, rfl⟩ := List.map_eq_append_iff.mp whole
  obtain ⟨first, name, rfl, rfl, same⟩ := List.map_eq_append_iff.mp sameFront
  rw [← same] at bare
  simp only [List.forall_mem_append] at allowed
  have blankFirst := blankOctets_of_isBlank allowed.1.1 blankBefore
  have blankLast := blankOctets_of_isBlank allowed.2 blankAfter
  by_cases filled : name = []
  · subst filled
    refine ⟨[], .blank ?_⟩
    rw [List.append_nil, List.forall_mem_append]
    exact ⟨blankFirst, blankLast⟩
  · have alone : comma ∉ name := fun member => single (by simp [member])
    have named := name_of_bare filled allowed.1.2 alone bare
    exact ⟨[textOf name], .name blankFirst named blankLast⟩

end Items

/-! ## Headers -/

section Headers

variable {header name : Bytes} {headers items : List Bytes} {offered : List String}

theorem map_intercalate {α β : Type} (convert : α → β) (mark : α) (parts : List (List α)) :
    ([mark].intercalate parts).map convert =
      [convert mark].intercalate (parts.map (List.map convert)) := by
  induction parts with
  | nil => rfl
  | cons part rest ih =>
      cases rest with
      | nil => simp [List.intercalate]
      | cons next later =>
          rw [List.intercalate_cons_cons, List.map_append, List.map_append, ih]
          simp [List.intercalate_cons_cons]

theorem headerText?_of_allowed (allowed : ∀ octet ∈ header, isHeaderOctet octet = true) :
    headerText? header = some (header.map characterOf) :=
  if_pos (List.all_eq_true.mpr allowed)

theorem headerText?_of_forbidden {octet : UInt8} (member : octet ∈ header)
    (forbidden : isHeaderOctet octet = false) : headerText? header = none := by
  refine if_neg fun all => ?_
  rw [List.all_eq_true.mp all octet member] at forbidden
  cases forbidden

theorem forall_mem_intercalate {holds : UInt8 → Prop} (mark : holds comma) :
    (∀ octet ∈ [comma].intercalate items, holds octet) ↔
      ∀ item ∈ items, ∀ octet ∈ item, holds octet := by
  induction items with
  | nil => simp [List.intercalate]
  | cons item rest ih =>
      cases rest with
      | nil => simp [List.intercalate]
      | cons next later =>
          rw [List.intercalate_cons_cons, List.forall_mem_append, List.forall_mem_append, ih]
          simp [mark, or_imp, forall_and]

/-- The server takes the items of a header one after the other. -/
theorem protocolsOf_items (filled : items ≠ []) (single : ∀ item ∈ items, comma ∉ item) :
    protocolsOf (([comma].intercalate items).map characterOf) =
      items.flatMap fun item => (taken item).toList := by
  have parted : (([comma].intercalate items).map characterOf).splitOn ',' =
      items.map (List.map characterOf) := by
    rw [map_intercalate, characterOf_comma]
    refine List.splitOn_intercalate ',' ?_ (by simpa using filled)
    rw [List.forall_mem_map]
    exact fun item member => mt (comma_mem_map item).mp (single item member)
  rw [protocolsOf, splitAtCommas, parted, List.map_map, List.filterMap_map,
    List.filterMap_eq_flatMap_toList]
  rfl

/-- What the server reads from a single header. -/
def offeredIn (header : Bytes) : List String :=
  (headerText? header).elim [] protocolsOf

theorem offeredProtocols_eq (headers : List Bytes) :
    offeredProtocols headers = headers.flatMap offeredIn := by
  rw [offeredProtocols, List.filterMap_eq_flatMap_toList, List.flatMap_assoc]
  refine List.flatMap_congr fun header _ => ?_
  cases read : headerText? header with
  | none => simp [offeredIn, read]
  | some text => simp [offeredIn, read]

/-- The server reads from a header what it offers. -/
theorem HeaderOffers.read (offers : HeaderOffers header offered) :
    offeredIn header = offered := by
  cases offers with
  | unreadable member forbidden =>
      rw [offeredIn, headerText?_of_forbidden member forbidden]
      rfl
  | items filled single turns =>
      have allowed := (forall_mem_intercalate isHeaderOctet_comma).mpr
        (turns.forall_source ItemOffers.allowed)
      rw [offeredIn, headerText?_of_allowed allowed]
      exact (protocolsOf_items filled single).trans (turns.read ItemOffers.taken)

/-- Every header consists of items between commas. -/
theorem exists_items (header : Bytes) :
    ∃ items, items ≠ [] ∧ (∀ item ∈ items, comma ∉ item) ∧ [comma].intercalate items = header := by
  induction header with
  | nil => exact ⟨[[]], by simp, by simp, rfl⟩
  | cons octet rest ih =>
      obtain ⟨items, filled, single, rfl⟩ := ih
      obtain ⟨item, others, rfl⟩ := List.exists_cons_of_ne_nil filled
      by_cases mark : octet = comma
      · subst mark
        exact ⟨[] :: item :: others, by simp, by simpa using single,
          List.intercalate_cons_cons⟩
      · obtain ⟨first, later⟩ := List.forall_mem_cons.mp single
        refine ⟨(octet :: item) :: others, by simp,
          List.forall_mem_cons.mpr ⟨?_, later⟩, ?_⟩
        · exact List.not_mem_cons_of_ne_of_not_mem (Ne.symm mark) first
        · cases others with
          | nil => rfl
          | cons next more => rw [List.intercalate_cons_cons, List.intercalate_cons_cons]; rfl

/-- Every header offers what the server reads from it. -/
theorem headerOffers_offeredIn (header : Bytes) : HeaderOffers header (offeredIn header) := by
  by_cases allowed : ∀ octet ∈ header, isHeaderOctet octet = true
  · obtain ⟨items, filled, single, rfl⟩ := exists_items header
    have each := (forall_mem_intercalate isHeaderOctet_comma).mp allowed
    have offers : HeaderOffers ([comma].intercalate items)
        (items.flatMap fun item => (taken item).toList) := by
      refine .items filled single (inTurn_flatMap fun item member => ?_)
      obtain ⟨offered, offers⟩ := exists_itemOffers (each item member) (single item member)
      rwa [offers.taken]
    rwa [offers.read]
  · simp only [not_forall] at allowed
    obtain ⟨octet, member, forbidden⟩ := allowed
    have offers := HeaderOffers.unreadable member (Bool.eq_false_iff.mpr forbidden)
    rwa [offers.read]

/-- The server reads from headers what they offer. -/
theorem offeredProtocols_iff : offeredProtocols headers = offered ↔ Offers headers offered := by
  rw [offeredProtocols_eq]
  constructor
  · rintro rfl
    exact inTurn_flatMap fun header _ => headerOffers_offeredIn header
  · exact InTurn.read HeaderOffers.read

/-! ## Names and a header for them -/

/-- Whatever names a protocol has a text with these octets. -/
theorem Name.encode (named : Name name) : Utf8.encode (textOf name) = name := by
  have small : ∀ octet, isHeaderOctet octet = true →
      octet.toNat < 0x80 ∧ (characterOf octet).toNat = octet.toNat := by
    decide +kernel
  have single : ∀ octet ∈ name, String.utf8EncodeChar (characterOf octet) = [octet] := by
    intro octet member
    obtain ⟨low, makes⟩ := small octet (named.allowed octet member)
    exact Utf8.encode_one low makes
  rw [Utf8.encode, textOf, String.toList_ofList, List.flatMap_map, List.flatMap_congr single,
    List.flatMap_singleton']

/-- Every protocol that is offered is the text of a name. -/
theorem Offers.named (offers : Offers headers offered) :
    ∀ protocol ∈ offered, Name (Utf8.encode protocol) ∧
      textOf (Utf8.encode protocol) = protocol := by
  refine offers.forall_mem fun offers => ?_
  cases offers with
  | unreadable => simp
  | items filled single turns =>
      refine turns.forall_mem fun offers => ?_
      cases offers with
      | blank => simp
      | name _ named _ => simp [named.encode, named]

theorem encode_intercalate (protocols : List String) :
    Utf8.encode (",".intercalate protocols) =
      [comma].intercalate (protocols.map Utf8.encode) := by
  have mark : String.utf8EncodeChar ',' = [comma] := by decide
  rw [Utf8.encode, String.toList_intercalate]
  induction protocols with
  | nil => rfl
  | cons protocol rest ih =>
      cases rest with
      | nil => simp [Utf8.encode]
      | cons next later =>
          simp only [List.map_cons, List.intercalate_cons_cons, List.flatMap_append] at ih ⊢
          rw [ih]
          simp [Utf8.encode, mark]

/-- A header that names protocols, with commas between them, offers these. -/
theorem headerOffers_intercalate
    (named : ∀ protocol ∈ offered, Name (Utf8.encode protocol) ∧
      textOf (Utf8.encode protocol) = protocol) :
    HeaderOffers (Utf8.encode (",".intercalate offered)) offered := by
  rw [encode_intercalate]
  cases offered with
  | nil =>
      have offers : HeaderOffers ([comma].intercalate [[]]) ([] ++ []) :=
        .items (by simp) (by simp) (.cons (.blank (by simp)) .nil)
      exact offers
  | cons first rest =>
      refine .items (by simp) ?_ (inTurn_map fun protocol member => ?_)
      · rw [List.forall_mem_map]
        exact fun protocol member => (named protocol member).1.single
      · obtain ⟨name, same⟩ := named protocol member
        have offers := @ItemOffers.name [] _ [] (by simp) name (by simp)
        rwa [List.nil_append, List.append_nil, same] at offers

/-- A protocol that is offered is a text that is not empty, without blanks at its ends and
without a comma, and a header may hold it. -/
theorem Offers.plain (offers : Offers headers offered) {protocol : String}
    (member : protocol ∈ offered) :
    protocol ≠ "" ∧ Text.trim protocol = protocol ∧ ',' ∉ protocol.toList ∧
      headerText? (Utf8.encode protocol) = some protocol.toList := by
  obtain ⟨named, same⟩ := offers.named protocol member
  have letters : protocol.toList = (Utf8.encode protocol).map characterOf := by
    conv_lhs => rw [← same, textOf, String.toList_ofList]
  refine ⟨?_, ?_, ?_, ?_⟩
  · rintro rfl
    exact named.filled rfl
  · have kept := @trimEnd_trimStart [] _ [] (by simp) named.bare (by simp)
    rw [List.nil_append, List.append_nil] at kept
    rw [Text.trim, letters, kept, ← letters, String.ofList_toList]
  · rw [letters, comma_mem_map]
    exact named.single
  · rw [headerText?_of_allowed named.allowed, ← letters]

end Headers

/-! ## Admitted clients -/

section Admitted

variable {σ : Type}

/-- A client that is admitted is told the first protocol that it offers, and is tracked. -/
theorem answerKnock_admitted {server : Server σ} {knock : Knock} {id : PeerId}
    {protocol : Option String}
    (admitted : (server.answerKnock knock).1.reception = some (.admitted id protocol)) :
    let entry := server.registry.clientEntry (offeredProtocols knock.protocols)
    protocol = (offeredProtocols knock.protocols).head? ∧ id = entry.id ∧
      server.registry.Newcomer entry ∧
      (server.answerKnock knock).2.registry = server.registry.insert entry := by
  unfold answerKnock receive at admitted ⊢
  obtain ⟨refusal, refused⟩ | ⟨room, accepted⟩ := server.registry.connect_cases knock.address
    (server.trustsForwarded && namesSecureScheme knock.forwarded)
    (offeredProtocols knock.protocols)
  · simp [refused] at admitted
  · simp only [accepted, Option.some.injEq, Reception.admitted.injEq] at admitted ⊢
    exact ⟨admitted.2.symm, admitted.1.symm, Registry.newcomer_client room _, rfl⟩

/-- A client that is admitted is listed under the protocols that it offers. -/
theorem listed_of_admitted {server : Server σ} (sound : Sound server.registry) {knock : Knock}
    {id : PeerId} {protocol : Option String}
    (admitted : (server.answerKnock knock).1.reception = some (.admitted id protocol)) :
    let after := (server.answerKnock knock).2.registry
    (∀ name, (after.index.subscribers name).count id =
        if name ∈ offeredProtocols knock.protocols then 1 else 0) ∧
      ∃ entry, after.find? id = some entry ∧ entry.protocols.Nodup ∧
        ∀ name, name ∈ entry.protocols ↔ name ∈ offeredProtocols knock.protocols := by
  obtain ⟨-, rfl, new, inserted⟩ := answerKnock_admitted admitted
  rw [inserted]
  have named : "" ∉ offeredProtocols knock.protocols :=
    fun member => ((offeredProtocols_iff.mp rfl).plain member).1 rfl
  have later := sound.insert new
  let entry := server.registry.clientEntry (offeredProtocols knock.protocols)
  have member : entry ∈ (server.registry.insert entry).entries :=
    Registry.mem_insert.mpr (.inr rfl)
  have spoken (name : String) :
      name ∈ entry.protocols ↔ name ∈ offeredProtocols knock.protocols :=
    Registry.mem_protocols_clientEntry named
  refine ⟨fun name => ?_, entry, later.tracked.find?_id member, new.fluent.distinct, spoken⟩
  have live := (sound.tracked.live_newcomer new).mpr ⟨rfl, nofun⟩
  exact (later.count_subscribers member live name).trans (if_congr (spoken name) rfl rfl)

end Admitted

/-- What is read from the headers of a request are the protocols that they offer, in order.
These are not empty, have no blank at either end and no comma, and one header with commas
between them offers the same.

Whenever the server admits a client, that is told the first protocol, and no protocol exactly
if it offers none.  The index has one line for a protocol at most.  It lists the client once
under each protocol that the client offers, even if that is offered more than once, and under no
other, and these are the protocols that the registry keeps for the client. -/
theorem subprotocols_negotiated (σ ω : Type) [Transport σ ω] :
    (∀ headers offered, offeredProtocols headers = offered ↔ Offers headers offered) ∧
    (∀ headers, ∀ protocol ∈ offeredProtocols headers,
      protocol ≠ "" ∧ Text.trim protocol = protocol ∧ ',' ∉ protocol.toList ∧
        headerText? (Utf8.encode protocol) = some protocol.toList) ∧
    (∀ headers, offeredProtocols [Utf8.encode (",".intercalate (offeredProtocols headers))] =
      offeredProtocols headers) ∧
    ∀ (maxPeers : Nat) (trustsForwarded : Bool) (world : ω) (history : List ((ω → ω) × Event σ)),
      ∀ moment ∈ (empty maxPeers trustsForwarded : Server σ).moments world history,
      ∀ knock id protocol, moment.event = .knocks knock →
        moment.trace.reception = some (.admitted id protocol) →
          let offered := offeredProtocols knock.protocols
          let index := moment.after.registry.index
          protocol = offered.head? ∧ (protocol.isSome ↔ offered ≠ []) ∧
          (index.map Prod.fst).Nodup ∧
          (∀ name, (index.subscribers name).count id = if name ∈ offered then 1 else 0) ∧
          ∃ entry, moment.after.registry.find? id = some entry ∧ entry.protocols.Nodup ∧
            ∀ name, name ∈ entry.protocols ↔ name ∈ offered := by
  have reads (headers : List Bytes) : Offers headers (offeredProtocols headers) :=
    offeredProtocols_iff.mp rfl
  refine ⟨fun _ _ => offeredProtocols_iff, fun headers _ => (reads headers).plain, ?_, ?_⟩
  · intro headers
    rw [offeredProtocols_eq, List.flatMap_singleton]
    exact (headerOffers_intercalate (reads headers).named).read
  · intro maxPeers trustsForwarded world history moment member knock id protocol knocks admitted
    obtain ⟨same, sound⟩ := sound_moments maxPeers trustsForwarded world history moment member
    rw [knocks] at same
    rw [same] at admitted ⊢
    obtain ⟨first, -, -, -⟩ := answerKnock_admitted admitted
    refine ⟨first, ?_, (sound_answerKnock sound knock).listed.tidy.distinct,
      listed_of_admitted sound admitted⟩
    rw [first, List.isSome_head?]

/-- A client that offers two protocols twice, between blanks and a header that cannot be read. -/
def repeatingKnock : Knock where
  address := .v4 127 0 0 1
  protocols := [[0x61, 0x2C, 0x20, 0x2C, 0x62, 0x09], [0x63, 0xFF], [0x62, 0x2C, 0x61]]
  forwarded := []

theorem subprotocols_negotiated_repeatingKnock :
    let moment := (empty 1 false : Server Foretold).moment () (.knocks repeatingKnock)
    offeredProtocols repeatingKnock.protocols = ["a", "b", "b", "a"] ∧
    moment.trace.reception = some (.admitted 1 (some "a")) ∧
    (moment.after.registry.index.subscribers "a").count 1 = 1 ∧
    (moment.after.registry.index.subscribers "b").count 1 = 1 ∧
    (moment.after.registry.index.subscribers "c").count 1 = 0 := by
  intro moment
  have offered : offeredProtocols repeatingKnock.protocols = ["a", "b", "b", "a"] := by
    decide
  have admitted : moment.trace.reception = some (.admitted 1 (some "a")) := by
    decide
  have negotiated := (subprotocols_negotiated Foretold Unit).2.2.2 1 false ()
    [(id, .knocks repeatingKnock)] moment (.head _) repeatingKnock 1 (some "a") rfl admitted
  simp only [offered] at negotiated
  obtain ⟨-, -, -, listed, -⟩ := negotiated
  refine ⟨offered, admitted, ?_, ?_, ?_⟩
  · exact listed "a"
  · exact listed "b"
  · exact listed "c"

end EngineGateway.Server
