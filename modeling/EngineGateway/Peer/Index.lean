import EngineGateway.Peer.Frame

/-!
# Subscribers by protocol

For each subprotocol the peers that speak it, in the order in which they came.
The index may still name peers that are gone; whoever uses it checks.
-/

namespace EngineGateway.Peer

/-- Protocols with their subscribers.  No protocol is listed twice. -/
abbrev Index := List (String × List PeerId)

namespace Index

def subscribers (index : Index) (protocol : String) : List PeerId :=
  (index.lookup protocol).getD []

/-- List a peer under a protocol, after those already there. -/
def add (protocol : String) (peer : PeerId) : Index → Index
  | [] => [(protocol, [peer])]
  | (listed, ids) :: rest =>
      if listed = protocol then (listed, ids ++ [peer]) :: rest
      else (listed, ids) :: add protocol peer rest

/-- List a peer under each of several protocols. -/
def addAll (protocols : List String) (peer : PeerId) (index : Index) : Index :=
  protocols.foldl (fun index protocol => index.add protocol peer) index

/-- Keep only some of the subscribers of one protocol.  A protocol without
subscribers is not listed. -/
def keepUnder (protocol : String) (keep : PeerId → Bool) (index : Index) : Index :=
  index.filterMap fun (listed, ids) =>
    if listed = protocol then
      let kept := ids.filter keep
      if kept.isEmpty then none else some (listed, kept)
    else
      some (listed, ids)

/-- Keep only some of the subscribers of every protocol. -/
def keep (keep : PeerId → Bool) (index : Index) : Index :=
  index.filterMap fun (listed, ids) =>
    let kept := ids.filter keep
    if kept.isEmpty then none else some (listed, kept)

end Index
end EngineGateway.Peer
