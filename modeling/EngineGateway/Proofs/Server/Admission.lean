import EngineGateway.Proofs.Engine.Calls
import EngineGateway.Proofs.Net.Blocks
import EngineGateway.Proofs.Server.Steps
import EngineGateway.Proofs.Text.Blank

/-!
# Who is admitted

A client gets a place if a place is free and it comes from nearby or over a trusted
encrypted connection.  Only the gateway's own settings make a connection trusted:
where headers that name the scheme are not believed, they change nothing that ever
happens, and where they are believed, the first of them has to say `https`.
-/

namespace EngineGateway.Server

open Engine Net Peer Gateway

/-! ## The header that names the scheme -/

/-- A blank of a header. -/
def IsBlankOctet (octet : UInt8) : Prop :=
  octet = 0x09 ∨ octet = 0x20

instance : DecidablePred IsBlankOctet :=
  fun octet => inferInstanceAs (Decidable (octet = 0x09 ∨ octet = 0x20))

/-- A letter in lower case, for letters in upper case. -/
def lowered (octet : UInt8) : UInt8 :=
  if 0x41 ≤ octet ∧ octet ≤ 0x5A then octet + 0x20 else octet

/-- The letters of `https`. -/
def httpsOctets : Bytes :=
  [0x68, 0x74, 0x74, 0x70, 0x73]

/-- A header that says `https` in letters of either case, with blanks around it. -/
def SaysHttps (header : Bytes) : Prop :=
  ∃ before scheme after, header = before ++ scheme ++ after ∧
    (∀ octet ∈ before, IsBlankOctet octet) ∧ (∀ octet ∈ after, IsBlankOctet octet) ∧
    scheme.map lowered = httpsOctets

/-- The character that an octet of a header stands for. -/
def characterOf (octet : UInt8) : Char :=
  Char.ofNat octet.toNat

/-- A property of octets is decided by looking at all of them. -/
instance (priority := low) {holds : UInt8 → Prop} [DecidablePred holds] :
    Decidable (∀ octet, holds octet) :=
  decidable_of_iff (∀ number : Fin 256, holds (.ofFin number))
    ⟨fun every octet => every octet.toFin, fun every number => every (.ofFin number)⟩

theorem isBlank_characterOf : ∀ octet, isHeaderOctet octet = true →
    (Text.isBlank (characterOf octet) = true ↔ IsBlankOctet octet) := by
  decide +kernel

theorem toLower_characterOf : ∀ octet,
    (characterOf octet).toLower = characterOf (lowered octet) := by
  decide +kernel

theorem isHeaderOctet_of_blank : ∀ octet, IsBlankOctet octet → isHeaderOctet octet = true := by
  decide +kernel

/-- The letters of `https` may stand in a header, and none of them is a blank. -/
theorem letter_of_https : ∀ octet, lowered octet ∈ httpsOctets →
    isHeaderOctet octet = true ∧ Text.isBlank (characterOf octet) = false := by
  decide +kernel

theorem characterOf_injective : Function.Injective characterOf := by
  have inverse : ∀ octet, UInt8.ofNat (characterOf octet).toNat = octet := by
    decide +kernel
  intro octet other same
  have number := congrArg (fun character => UInt8.ofNat character.toNat) same
  rwa [inverse, inverse] at number

/-- The trimmed text of octets is `https` in either case exactly if the octets spell
it. -/
theorem toLower_characters (scheme : Bytes) :
    (scheme.map characterOf).map Char.toLower = "https".toList ↔
      scheme.map lowered = httpsOctets := by
  have word : "https".toList = httpsOctets.map characterOf := by decide
  have letters : (scheme.map characterOf).map Char.toLower =
      (scheme.map lowered).map characterOf := by
    rw [List.map_map, List.map_map]
    exact List.map_congr_left fun octet _ => toLower_characterOf octet
  rw [word, letters]
  exact (List.map_injective_iff.mpr characterOf_injective).eq_iff

theorem isBlank_of_blankOctets {octets : Bytes}
    (blank : ∀ octet ∈ octets, IsBlankOctet octet) :
    ∀ character ∈ octets.map characterOf, Text.isBlank character = true := by
  rw [List.forall_mem_map]
  intro octet member
  have known := blank octet member
  exact (isBlank_characterOf octet (isHeaderOctet_of_blank octet known)).mpr known

theorem blankOctets_of_isBlank {octets : Bytes}
    (allowed : ∀ octet ∈ octets, isHeaderOctet octet = true)
    (blank : ∀ character ∈ octets.map characterOf, Text.isBlank character = true) :
    ∀ octet ∈ octets, IsBlankOctet octet := by
  intro octet member
  exact (isBlank_characterOf octet (allowed octet member)).mp
    (blank _ (List.mem_map_of_mem member))

/-- A header that can be read as a text says `https` if the trimmed text does. -/
theorem saysHttps_of_trimmed {header : Bytes}
    (allowed : ∀ octet ∈ header, isHeaderOctet octet = true)
    (named : (trimmed (header.map characterOf)).map Char.toLower = "https".toList) :
    SaysHttps header := by
  obtain ⟨before, after, whole, blankBefore, _, blankAfter⟩ :=
    Text.exists_bare (header.map characterOf)
  obtain ⟨front, last, rfl, sameFront, rfl⟩ := List.map_eq_append_iff.mp whole
  obtain ⟨first, scheme, rfl, rfl, same⟩ := List.map_eq_append_iff.mp sameFront
  refine ⟨first, scheme, last, rfl, ?_, ?_, ?_⟩
  · exact blankOctets_of_isBlank (fun octet member => allowed octet (by simp [member]))
      blankBefore
  · exact blankOctets_of_isBlank (fun octet member => allowed octet (by simp [member]))
      blankAfter
  · rw [← toLower_characters, same]
    exact named

/-- A header that says `https` can be read as a text, and the trimmed text does. -/
theorem SaysHttps.reads {header : Bytes} (spelt : SaysHttps header) :
    (∀ octet ∈ header, isHeaderOctet octet = true) ∧
      (trimmed (header.map characterOf)).map Char.toLower = "https".toList := by
  obtain ⟨first, scheme, last, rfl, blankBefore, blankAfter, letters⟩ := spelt
  have known : ∀ octet ∈ scheme, isHeaderOctet octet = true ∧
      Text.isBlank (characterOf octet) = false := by
    intro octet member
    apply letter_of_https
    rw [← letters]
    exact List.mem_map_of_mem member
  constructor
  · intro octet member
    rw [List.mem_append, List.mem_append] at member
    rcases member with (before | inside) | after
    · exact isHeaderOctet_of_blank octet (blankBefore octet before)
    · exact (known octet inside).1
    · exact isHeaderOctet_of_blank octet (blankAfter octet after)
  · have solid : ∀ character ∈ scheme.map characterOf, Text.isBlank character = false := by
      rw [List.forall_mem_map]
      exact fun octet member => (known octet member).2
    rw [List.map_append, List.map_append, trimmed, Text.trimEnd_trimStart
      (isBlank_of_blankOctets blankBefore) (Text.bare_of_solid solid)
      (isBlank_of_blankOctets blankAfter), toLower_characters]
    exact letters

/-- A header names the encrypted scheme exactly if it says `https`. -/
theorem namesSecureScheme_cons (header : Bytes) (rest : List Bytes) :
    namesSecureScheme (header :: rest) = true ↔ SaysHttps header := by
  have read : namesSecureScheme (header :: rest) = true ↔
      header.all isHeaderOctet = true ∧
        (trimmed (header.map characterOf)).map Char.toLower = "https".toList := by
    by_cases allowed : header.all isHeaderOctet = true
    · have text : headerText? header = some (header.map characterOf) := if_pos allowed
      simp only [namesSecureScheme, List.head?_cons, Option.bind_some, text, allowed, true_and,
        beq_iff_eq]
    · have unread : headerText? header = none := if_neg allowed
      simp only [namesSecureScheme, List.head?_cons, Option.bind_some, unread, allowed,
        Bool.false_eq_true, false_and]
  rw [read, List.all_eq_true]
  exact ⟨fun named => saysHttps_of_trimmed named.1 named.2, SaysHttps.reads⟩

/-! ## The decision -/

variable {σ ω : Type}

/-- The registry admits a client that is trusted or comes from nearby, if a place is
free.  Whoever is neither trusted nor from nearby is refused for that, whether or not a
place is free, and a refusal changes nothing. -/
theorem connect_decides (registry : Registry) (address : Address) (trusted : Bool)
    (protocols : List String) :
    ((∃ id, (registry.connect address trusted protocols).1 = .ok id) ↔
      (trusted = true ∨ Near address) ∧ registry.entries.length < registry.maxPeers) ∧
    ((registry.connect address trusted protocols).1 = .error (.originRejected address) ↔
      ¬ (trusted = true ∨ Near address)) ∧
    ∀ refusal, (registry.connect address trusted protocols).1 = .error refusal →
      (registry.connect address trusted protocols).2 = registry := by
  have foreign : (!trusted && !address.isPrivate) = true ↔
      ¬ (trusted = true ∨ Near address) := by
    rw [← address.isPrivate_iff]
    simp
  unfold Registry.connect
  split_ifs with rejected full
  · simp [foreign.mp rejected]
  · simp [not_not.mp (mt foreign.mpr rejected), full]
  · simp [not_not.mp (mt foreign.mpr rejected), Nat.lt_of_not_le full]

/-- The server believes that the client came over an encrypted connection. -/
def Trusts (server : Server σ) (knock : Knock) : Prop :=
  server.trustsForwarded = true ∧
    ∃ header rest, knock.forwarded = header :: rest ∧ SaysHttps header

theorem trusts_iff (server : Server σ) (knock : Knock) :
    (server.trustsForwarded && namesSecureScheme knock.forwarded) = true ↔
      server.Trusts knock := by
  rw [Bool.and_eq_true, Trusts]
  cases headers : knock.forwarded with
  | nil => simp [namesSecureScheme]
  | cons header rest =>
      simp [namesSecureScheme_cons]

/-- The server admits a client exactly if it trusts it or it comes from nearby, and a
place is free.  A refusal leaves the server as it was. -/
theorem answerKnock_decides (server : Server σ) (knock : Knock) :
    ((∃ id protocol, (server.answerKnock knock).1.reception = some (.admitted id protocol)) ↔
      (server.Trusts knock ∨ Near knock.address) ∧
        server.registry.entries.length < server.registry.maxPeers) ∧
    ∀ refusal, (server.answerKnock knock).1.reception = some (.refused refusal) →
      (server.answerKnock knock).2 = server := by
  have decided := connect_decides server.registry knock.address
    (server.trustsForwarded && namesSecureScheme knock.forwarded)
    (offeredProtocols knock.protocols)
  rw [trusts_iff] at decided
  cases verdict : server.registry.connect knock.address
      (server.trustsForwarded && namesSecureScheme knock.forwarded)
      (offeredProtocols knock.protocols) with
  | mk result registry =>
      simp only [verdict] at decided
      cases result with
      | ok id =>
          simpa [answerKnock, receive, verdict] using decided.1
      | error refusal =>
          constructor
          · simpa [answerKnock, receive, verdict] using decided.1
          · intro _ _
            have same : registry = server.registry := decided.2.2 refusal rfl
            simp only [answerKnock, receive, verdict, List.append_nil, same]
            rfl

/-! ## Headers that are not believed -/

/-- The event without the headers in which a client's scheme is named. -/
def Event.schemeless : Event σ → Event σ
  | .knocks knock => .knocks { knock with forwarded := [] }
  | event => event

/-- The history without the headers in which the schemes of clients are named. -/
def schemeless (history : List ((ω → ω) × Event σ)) : List ((ω → ω) × Event σ) :=
  history.map fun happening => (happening.1, happening.2.schemeless)

/-- The moment without the headers in which a client's scheme is named. -/
def Moment.schemeless (moment : Moment σ ω) : Moment σ ω :=
  { moment with event := moment.event.schemeless }

variable [Transport σ ω]

/-- What the server believes is a matter of its settings. -/
theorem Steps.trustsForwarded {server : Server σ} {world : ω} {event : Event σ}
    {result : Trace × Server σ} (steps : Steps server world event result) :
    result.2.trustsForwarded = server.trustsForwarded := by
  have boxed (server : Server σ) (session : Nat) (mailbox : Mailbox σ) :
      (server.setMailbox session mailbox).trustsForwarded = server.trustsForwarded := by
    unfold setMailbox
    split_ifs <;> rfl
  cases steps with
  | submits => exact boxed _ _ _
  | works => exact boxed _ _ _
  | asks => exact boxed _ _ _
  | shutsDown => exact boxed _ _ _
  | _ => rfl

theorem step_schemeless {server : Server σ} (distrusts : server.trustsForwarded = false)
    (event : Event σ) : (server.step event.schemeless : StateM ω _) = server.step event := by
  cases event with
  | knocks knock =>
      simp only [Event.schemeless, step, answerKnock, receive, distrusts, Bool.false_and]
  | _ => rfl

theorem moments_schemeless {server : Server σ} (distrusts : server.trustsForwarded = false)
    (world : ω) (history : List ((ω → ω) × Event σ)) :
    server.moments world (schemeless history) =
      (server.moments world history).map Moment.schemeless := by
  induction history generalizing server world with
  | nil => rfl
  | cons first rest ih =>
      rcases first with ⟨change, event⟩
      have kept : (server.moment (change world) event).after.trustsForwarded = false := by
        rw [← distrusts]
        exact (steps_step server (change world) event).trustsForwarded
      have later := ih kept ((server.step event).run (change world)).2
      simp only [schemeless, List.map_cons, moments, moment, Moment.schemeless,
        step_schemeless distrusts]
      exact congrArg (List.cons _) later

/-- The registry admits whoever is trusted or comes from nearby while a place is free,
and nobody else, where an address of version 6 that stands for one of version 4 is
judged as that one.  A refusal changes nothing.  Where headers that name the scheme are
not believed, histories that differ in nothing else are the same moment by moment.
Where they are believed, a client that does not come from nearby has to bring one, and
the first of them has to say `https`. -/
theorem admission (σ ω : Type) [Transport σ ω] :
    (∀ (registry : Registry) (address : Address) (trusted : Bool) (protocols : List String),
      ((∃ id, (registry.connect address trusted protocols).1 = .ok id) ↔
        (trusted = true ∨ Near address) ∧ registry.entries.length < registry.maxPeers) ∧
      ∀ refusal, (registry.connect address trusted protocols).1 = .error refusal →
        (registry.connect address trusted protocols).2 = registry) ∧
    (∀ first second third fourth,
      Near (.mapped first second third fourth) ↔ Near (.v4 first second third fourth)) ∧
    (∀ (server : Server σ) (world : ω) (history other : List ((ω → ω) × Event σ)),
      server.trustsForwarded = false → schemeless history = schemeless other →
        (server.moments world history).map Moment.schemeless =
          (server.moments world other).map Moment.schemeless) ∧
    ∀ (server : Server σ) (knock : Knock),
      ((∃ id protocol,
          (server.answerKnock knock).1.reception = some (.admitted id protocol)) ↔
        (Near knock.address ∨ server.trustsForwarded = true ∧
          ∃ header rest, knock.forwarded = header :: rest ∧ SaysHttps header) ∧
        server.registry.entries.length < server.registry.maxPeers) ∧
      ∀ refusal, (server.answerKnock knock).1.reception = some (.refused refusal) →
        (server.answerKnock knock).2 = server := by
  refine ⟨?_, ?_, ?_, ?_⟩
  · intro registry address trusted protocols
    have decided := connect_decides registry address trusted protocols
    exact ⟨decided.1, decided.2.2⟩
  · intro first second third fourth
    rw [← Address.isPrivate_iff, ← Address.isPrivate_iff, Address.isPrivate_mapped]
  · intro server world history other distrusts same
    rw [← moments_schemeless distrusts, ← moments_schemeless distrusts, same]
  · intro server knock
    have decided := answerKnock_decides server knock
    rw [or_comm] at decided
    exact decided

/-- A client on the public network that came over an encrypted connection. -/
def publicKnock : Knock where
  address := .v4 8 8 8 8
  protocols := []
  forwarded := [[0x20, 0x48, 0x54, 0x54, 0x50, 0x73]]

theorem admission_publicKnock :
    let trusting : Server Foretold := empty 1 true
    let doubting : Server Foretold := empty 1 false
    let plain := { publicKnock with forwarded := [] }
    (∃ id protocol,
      (trusting.answerKnock publicKnock).1.reception = some (.admitted id protocol)) ∧
    (doubting.answerKnock publicKnock).2 = doubting ∧
    ((doubting.moments () [(id, .knocks publicKnock)]).map Moment.schemeless =
      (doubting.moments () [(id, .knocks plain)]).map Moment.schemeless) := by
  intro trusting doubting plain
  have general := admission Foretold Unit
  refine ⟨?_, ?_, ?_⟩
  · apply (general.2.2.2 trusting publicKnock).1.mpr
    refine ⟨.inr ⟨rfl, _, _, rfl, ?_⟩, by decide⟩
    exact ⟨[0x20], [0x48, 0x54, 0x54, 0x50, 0x73], [], rfl,
      by simp [IsBlankOctet], by simp, by decide⟩
  · exact (general.2.2.2 doubting publicKnock).2 (.originRejected publicKnock.address) (by decide)
  · exact general.2.2.1 doubting () _ _ rfl rfl

end EngineGateway.Server
