import EngineGateway.Peer.Registry

/-!
# Handshakes of clients

A client opens its connection with a request that may offer subprotocols.  The
headers of a request are octets; a header that is no plain text counts as
absent.  The registry decides whether the client is admitted, and an admitted
client is told the first protocol that it has offered.
-/

namespace EngineGateway.Server

open Peer

/-- The octet may stand in the text of a header. -/
def isHeaderOctet (octet : UInt8) : Bool :=
  octet == 0x09 || (0x20 ≤ octet && octet < 0x7F)

/-- The text of a header, none if an octet of it is not allowed there. -/
def headerText? (octets : Bytes) : Option (List Char) :=
  if octets.all isHeaderOctet then
    some (octets.map fun octet => Char.ofNat octet.toNat)
  else
    none

/-- Text cut at commas. -/
def splitAtCommas (text : List Char) : List (List Char) :=
  text.splitOn ','

/-- Text without the blanks at both ends. -/
def trimmed (text : List Char) : List Char :=
  Text.trimEnd (Text.trimStart text)

/-- The protocols that the text of a header offers. -/
def protocolsOf (text : List Char) : List String :=
  ((splitAtCommas text).map trimmed).filterMap fun protocol =>
    if protocol.isEmpty then none else some (String.ofList protocol)

/-- The protocols that headers offer, in the order of the offer. -/
def offeredProtocols (headers : List Bytes) : List String :=
  (headers.filterMap headerText?).flatMap protocolsOf

/-- The first of the headers that name the scheme of the client says that the
client came over an encrypted connection. -/
def namesSecureScheme (headers : List Bytes) : Bool :=
  match headers.head?.bind headerText? with
  | none => false
  | some text => (trimmed text).map Char.toLower == "https".toList

/-- The request of a client. -/
structure Knock where
  address : Net.Address
  /-- Headers that offer subprotocols. -/
  protocols : List Bytes
  /-- Headers in which a terminator of encrypted connections names the scheme of
  the client. -/
  forwarded : List Bytes
  deriving Repr, DecidableEq

/-- What a client is told. -/
inductive Reception where
  /-- The connection is opened with the first of the offered protocols. -/
  | admitted (id : PeerId) (protocol : Option String)
  | refused (refusal : Refusal)
  deriving Repr, DecidableEq

/-- The status code of a refusal. -/
def statusOf : Refusal → Nat
  | .originRejected _ => 403
  | .full _ => 503

/-- Receive a client.  Headers that name its scheme count only where they are
trusted. -/
def receive (registry : Registry) (trustsForwarded : Bool) (knock : Knock) :
    Reception × Registry :=
  let offered := offeredProtocols knock.protocols
  let trusted := trustsForwarded && namesSecureScheme knock.forwarded
  match registry.connect knock.address trusted offered with
  | (.ok id, registry) => (.admitted id offered.head?, registry)
  | (.error refusal, registry) => (.refused refusal, registry)

end EngineGateway.Server
