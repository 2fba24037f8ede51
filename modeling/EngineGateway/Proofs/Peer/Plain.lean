import EngineGateway.Proofs.Peer.Channel

/-!
# The registry without its lists

The two lists of ids are there to find peers quickly, and nothing that can be
seen of the registry depends on them.  The plain registry knows the tracked peers
and the attached engine only.  It announces by going through all live peers that
are open, and routes by going through all live peers that speak the protocol.
Forgetting the lists takes every history of the registry to the same history of
the plain registry.
-/

namespace EngineGateway.Peer

/-- The tracked peers and the attached engine. -/
structure Plain where
  maxPeers : Nat
  nextId : PeerId
  entries : List Entry
  engine : Option Engine.Identity
  deriving Repr, DecidableEq

/-- Forget the lists. -/
def Registry.plain (registry : Registry) : Plain :=
  ⟨registry.maxPeers, registry.nextId, registry.entries, registry.engine⟩

namespace Plain

/-- No peers and no engine. -/
def empty (maxPeers : Nat) : Plain :=
  ⟨maxPeers, 1, [], none⟩

/-- A registry with these peers in which nothing is listed. -/
def bare (plain : Plain) : Registry :=
  ⟨plain.maxPeers, plain.nextId, plain.entries, [], [], none⟩

/-- The live peers. -/
def living (plain : Plain) : List Entry :=
  plain.entries.filter fun entry => plain.bare.isLive entry.id

/-- Queue a text for every live peer that satisfies a condition. -/
def tell (plain : Plain) (hears : Entry → Bool) (text : String) : List Delivery :=
  (plain.living.filter hears).flatMap fun entry => Registry.post entry (.text text)

def insert (plain : Plain) (entry : Entry) : Plain :=
  { plain with
    nextId := plain.nextId + 1
    entries := plain.entries ++ [entry] }

def update (plain : Plain) (id : PeerId) (change : Entry → Entry) : Plain :=
  { plain with entries := plain.entries.map (Registry.changed id change) }

def connect (plain : Plain) (address : Net.Address) (trusted : Bool)
    (protocols : List String) : Except Refusal PeerId × Plain :=
  if !trusted && !address.isPrivate then
    (.error (.originRejected address), plain)
  else if plain.maxPeers ≤ plain.entries.length then
    (.error (.full plain.maxPeers), plain)
  else
    (.ok plain.nextId, plain.insert (plain.bare.clientEntry protocols))

/-- A late peer is told about an engine that is already attached. -/
def markOpen (plain : Plain) (id : PeerId) : List Delivery × Plain :=
  match plain.bare.find? id with
  | none => ([], plain)
  | some entry =>
      (match plain.engine with
        | none => []
        | some engine => Registry.post entry (.text (engine.statusLine .opened)),
       plain.update id Entry.opened)

def release (plain : Plain) (id : PeerId) : Plain :=
  { plain with entries := plain.entries.filter (·.id != id) }

/-- Every live open peer is told that an engine has come. -/
def attach (plain : Plain) (engine : Engine.Identity) : List Delivery × Plain :=
  (plain.tell Entry.isOpen (engine.statusLine .opened),
   { plain with engine := some engine })

def collect (plain : Plain) : Nat × Plain :=
  (plain.entries.length - plain.living.length, { plain with entries := plain.living })

/-- Every live open peer is told that the engine has gone, and the relays that
the engine opened are forgotten with everything that hangs on them. -/
def detach (plain : Plain) : Option Engine.Identity × List Delivery × Plain :=
  match plain.engine with
  | none => (none, [], plain)
  | some engine =>
      let remaining := plain.entries.filter fun entry => !entry.isGameOriginated
      (some engine, plain.tell Entry.isOpen (engine.statusLine .closed),
       { plain with engine := none, entries := remaining }.collect.2)

/-- The peer speaks the protocol of a directive and, if the directive names an
address, leads there. -/
def hears (directive : Directive) (entry : Entry) : Bool :=
  entry.protocols.contains directive.protocol &&
    (directive.url.isNone || entry.url == directive.url)

/-- A relay is opened unless a live peer that speaks the protocol already leads
to the address or all places are taken. -/
def openRelay (plain : Plain) (directive : Directive) (parent : Option PeerId) :
    List RelayRequest × Plain :=
  match directive.url with
  | none => ([], plain)
  | some url =>
      if plain.living.any (hears directive) || plain.maxPeers ≤ plain.entries.length then
        ([], plain)
      else
        ([⟨plain.nextId, url, directive.protocol⟩],
         plain.insert (plain.bare.relayEntry url directive.protocol parent))

/-- The message is told to every live peer that hears the directive. -/
def route (plain : Plain) (directive : Directive) (parent : Option PeerId) :
    List RelayRequest × List Delivery × Plain :=
  if directive.isRoutable then
    let (relays, routed) := plain.openRelay directive parent
    (relays, directive.message.toList.flatMap (routed.tell (hears directive)), routed)
  else
    ([], [], plain)

def send (plain : Plain) (id : PeerId) (frame : Frame) : List Delivery :=
  match plain.living.find? (·.id == id) with
  | none => []
  | some entry => Registry.post entry frame

/-- Carry out one operation. -/
def apply (plain : Plain) : Operation → Outcome × Plain
  | .connect address trusted protocols =>
      match plain.connect address trusted protocols with
      | (.ok id, plain) => (⟨.admitted id, []⟩, plain)
      | (.error refusal, plain) => (⟨.refused refusal, []⟩, plain)
  | .markOpen id =>
      let (sent, plain) := plain.markOpen id
      (⟨.done, sent⟩, plain)
  | .release id => (⟨.done, []⟩, plain.release id)
  | .attach engine =>
      let (sent, plain) := plain.attach engine
      (⟨.done, sent⟩, plain)
  | .detach =>
      let (engine, sent, plain) := plain.detach
      (⟨.detached engine, sent⟩, plain)
  | .collect =>
      let (count, plain) := plain.collect
      (⟨.collected count, []⟩, plain)
  | .route directive parent =>
      let (requests, sent, plain) := plain.route directive parent
      (⟨.relays requests, sent⟩, plain)
  | .send id frame =>
      let sent := plain.send id frame
      (⟨.sent !sent.isEmpty, sent⟩, plain)
  | .hangUp id => (⟨.done, []⟩, plain.update id Entry.silenced)

/-- Carry out operations one after another. -/
def run (plain : Plain) : List Operation → List Outcome × Plain
  | [] => ([], plain)
  | operation :: rest =>
      let (outcome, plain) := plain.apply operation
      let (outcomes, plain) := plain.run rest
      (outcome :: outcomes, plain)

end Plain

/-- The outcomes look the same to whoever asked and to every peer. -/
structure Outcome.Same (outcome expected : Outcome) : Prop where
  answer : outcome.answer = expected.answer
  frames : ∀ id, framesTo id outcome.sent = framesTo id expected.sent

theorem Outcome.Same.refl (outcome : Outcome) : outcome.Same outcome :=
  ⟨rfl, fun _ => rfl⟩

variable {registry : Registry}

/-! ## Finding peers -/

/-- The lists have no part in liveness. -/
theorem isLive_bare (id : PeerId) :
    registry.plain.bare.isLive id = registry.isLive id := by
  rw [Bool.eq_iff_iff, Registry.isLive_iff, Registry.isLive_iff]
  constructor
  · exact fun live => Registry.live_of_entries live rfl
  · exact fun live => Registry.live_of_entries live rfl

theorem mem_living (tracked : Tracked registry) {entry : Entry} :
    entry ∈ registry.plain.living ↔
      registry.find? entry.id = some entry ∧ Live registry entry.id := by
  rw [Plain.living, List.mem_filter, isLive_bare, Registry.isLive_iff,
    tracked.find?_eq_some]
  simp [Registry.plain]

/-- A frame told to the live peers that satisfy a condition is queued for each
of them once. -/
theorem framesTo_living (tracked : Tracked registry) (hears : Entry → Bool)
    (frame : Frame) (id : PeerId)
    [Decidable (LivesWith registry (hears · = true) id)] :
    framesTo id ((registry.plain.living.filter hears).flatMap fun entry =>
        Registry.post entry frame) =
      if LivesWith registry (hears · = true) id then [frame] else [] := by
  have distinct : (registry.plain.living.filter hears).Pairwise
      fun entry later => entry.id ≠ later.id :=
    (tracked.ordered.imp fun less => Nat.ne_of_lt less).sublist
      (List.filter_sublist.trans List.filter_sublist)
  rw [framesTo_flatMap_post distinct]
  refine if_congr ?_ rfl rfl
  simp only [List.mem_filter, mem_living tracked]
  constructor
  · rintro ⟨entry, ⟨⟨found, live⟩, heard⟩, rfl, _⟩
    exact ⟨entry, found, live, heard⟩
  · rintro ⟨entry, found, live, heard⟩
    rcases tracked.find?_eq_some.mp found with ⟨member, rfl⟩
    rcases (Registry.live_iff_of_find? found).mp live with ⟨listening, _⟩
    exact ⟨entry, ⟨⟨found, live⟩, heard⟩, rfl, listening⟩

/-- Looking for a live peer among all live peers. -/
theorem find?_living (tracked : Tracked registry) (id : PeerId) :
    registry.plain.living.find? (·.id == id) = registry.findLive? id := by
  -- The live peers are the tracked ones of a registry that has forgotten the others.
  have kept : registry.plain.living = registry.living.entries := by
    simp only [Plain.living, isLive_bare]
    rfl
  rw [kept]
  ext entry
  rw [Registry.findLive?_eq_some, tracked.find?_eq_some]
  refine (tracked.restrict _).find?_eq_some.trans ?_
  simp only [Registry.restrict, List.mem_filter, Registry.isLive_iff]
  constructor
  · rintro ⟨⟨member, live⟩, rfl⟩
    exact ⟨⟨member, rfl⟩, live⟩
  · rintro ⟨⟨member, rfl⟩, live⟩
    exact ⟨⟨member, live⟩, rfl⟩

/-! ## One operation -/

theorem plain_connect (address : Net.Address) (trusted : Bool) (protocols : List String) :
    registry.plain.connect address trusted protocols =
      ((registry.connect address trusted protocols).1,
        (registry.connect address trusted protocols).2.plain) := by
  unfold Registry.connect
  split_ifs with rejected full
  · exact if_pos rejected
  · exact (if_neg rejected).trans (if_pos full)
  · exact (if_neg rejected).trans (if_neg full)

theorem plain_markOpen (id : PeerId) :
    registry.plain.markOpen id =
      ((registry.markOpen id).1, (registry.markOpen id).2.plain) := by
  have same : registry.plain.bare.find? id = registry.find? id := rfl
  cases found : registry.find? id with
  | none => simp [Plain.markOpen, Registry.markOpen, same, found]
  | some entry =>
      rw [Registry.markOpen_snd found]
      simp only [Plain.markOpen, Registry.markOpen, same, found]
      rfl

theorem plain_collect :
    registry.plain.collect = (registry.collect.1, registry.collect.2.plain) := by
  simp only [Plain.collect, Plain.living, isLive_bare]
  rfl

theorem Sound.framesTo_tell (sound : Sound registry) (text : String) (id : PeerId) :
    framesTo id (registry.announce text) =
      framesTo id (registry.plain.tell Entry.isOpen text) := by
  classical
  rw [sound.orderly.framesTo_announce, Plain.tell, framesTo_living sound.tracked]

theorem Sound.plain_attach (sound : Sound registry) (engine : Engine.Identity) :
    (∀ id, framesTo id (registry.attach engine).1 =
      framesTo id (registry.plain.attach engine).1) ∧
    (registry.attach engine).2.plain = (registry.plain.attach engine).2 := by
  refine ⟨fun id => ?_, rfl⟩
  exact (sound.withEngine (some engine)).framesTo_tell _ id

theorem Sound.plain_detach (sound : Sound registry) :
    registry.detach.1 = registry.plain.detach.1 ∧
    (∀ id, framesTo id registry.detach.2.1 = framesTo id registry.plain.detach.2.1) ∧
    registry.detach.2.2.plain = registry.plain.detach.2.2 := by
  have same : registry.plain.engine = registry.engine := rfl
  cases attached : registry.engine with
  | none => simp [Registry.detach_of_none attached, Plain.detach, same, attached]
  | some engine =>
      simp only [Registry.detach_of_some attached, Plain.detach, same, attached]
      refine ⟨trivial, fun id => (sound.withEngine none).framesTo_tell _ id, ?_⟩
      exact (congrArg Prod.snd plain_collect).symm

theorem Sound.plain_send (sound : Sound registry) (id : PeerId) (frame : Frame) :
    registry.send id frame = registry.plain.send id frame := by
  rw [Plain.send, find?_living sound.tracked]
  rfl

theorem hears_iff {directive : Directive} {entry : Entry} :
    Plain.hears directive entry = true ↔ entry.Hears directive := by
  simp [Plain.hears, Entry.Hears]

/-- A relay is connected already if a live peer that hears the directive is. -/
theorem Sound.isConnected_eq (sound : Sound registry) {directive : Directive}
    {url : String} (addressed : directive.url = some url) :
    registry.isConnected (registry.liveSubscribers directive.protocol) url =
      registry.plain.living.any (Plain.hears directive) := by
  rw [Bool.eq_iff_iff, Registry.isConnected, List.any_eq_true, List.any_eq_true]
  simp only [mem_living sound.tracked, hears_iff, Registry.liveSubscribers,
    List.mem_filter, Registry.isLive_iff]
  constructor
  · rintro ⟨id, ⟨listed, live⟩, leads⟩
    rcases Registry.exists_of_live live with ⟨entry, found, _⟩
    rcases sound.tracked.find?_eq_some.mp found with ⟨member, rfl⟩
    refine ⟨entry, ⟨found, live⟩, sound.listed.speaks _ entry member listed, .inr ?_⟩
    simpa [found, addressed] using leads
  · rintro ⟨entry, ⟨found, live⟩, speaks, leads⟩
    rcases sound.tracked.find?_eq_some.mp found with ⟨member, _⟩
    refine ⟨entry.id, ⟨sound.listed.complete entry member live _ speaks, live⟩, ?_⟩
    simpa [found, addressed] using leads

section OpenRelay

variable {directive : Directive} {url : String} {parent : Option PeerId}

theorem Plain.openRelay_taken {plain : Plain} (addressed : directive.url = some url)
    (taken : (plain.living.any (hears directive) ||
      decide (plain.maxPeers ≤ plain.entries.length)) = true) :
    plain.openRelay directive parent = ([], plain) := by
  simp only [openRelay, addressed, if_pos taken]

theorem Plain.openRelay_free {plain : Plain} (addressed : directive.url = some url)
    (free : ¬ (plain.living.any (hears directive) ||
      decide (plain.maxPeers ≤ plain.entries.length)) = true) :
    plain.openRelay directive parent =
      ([⟨plain.nextId, url, directive.protocol⟩],
        plain.insert (plain.bare.relayEntry url directive.protocol parent)) := by
  simp only [openRelay, addressed, if_neg free]

end OpenRelay

theorem Sound.plain_openRelay (sound : Sound registry) (directive : Directive)
    (parent : Option PeerId) :
    registry.plain.openRelay directive parent =
      (((registry.prune directive.protocol).openRelay directive parent
          (registry.liveSubscribers directive.protocol)).1,
        ((registry.prune directive.protocol).openRelay directive parent
          (registry.liveSubscribers directive.protocol)).2.plain) := by
  cases addressed : directive.url with
  | none => simp only [Registry.openRelay, Plain.openRelay, addressed]; rfl
  | some url =>
      have connected := sound.isConnected_eq addressed
      by_cases taken : (registry.isConnected (registry.liveSubscribers directive.protocol)
          url || decide (registry.maxPeers ≤ registry.entries.length)) = true
      · rw [(registry.prune directive.protocol).openRelay_taken addressed taken,
          Plain.openRelay_taken addressed (connected ▸ taken)]
        rfl
      · rw [(registry.prune directive.protocol).openRelay_free addressed taken,
          Plain.openRelay_free addressed (connected ▸ taken)]
        rfl

theorem Sound.plain_route (sound : Sound registry) (directive : Directive)
    (parent : Option PeerId)
    (below : ∀ sender, parent = some sender → sender < registry.nextId) :
    (registry.route directive parent).1 = (registry.plain.route directive parent).1 ∧
    (∀ id, framesTo id (registry.route directive parent).2.1 =
      framesTo id (registry.plain.route directive parent).2.1) ∧
    (registry.route directive parent).2.2.plain =
      (registry.plain.route directive parent).2.2 := by
  classical
  cases routable : directive.isRoutable with
  | false => simp [Registry.route, Plain.route, routable]
  | true =>
      have routed : Sound _ := (sound.prune directive.protocol).openRelay routable
        below (registry.liveSubscribers directive.protocol)
      rw [sound.route_eq routable, Plain.route, if_pos routable,
        sound.plain_openRelay directive parent]
      simp only [← sound.liveSubscribers_eq]
      refine ⟨trivial, fun id => ?_, trivial⟩
      cases carries : directive.message with
      | none => simp [Registry.forward, carries]
      | some message =>
          simp only [routed.framesTo_forward carries, Option.toList_some,
            List.flatMap_cons, List.flatMap_nil, List.append_nil, Plain.tell]
          rw [framesTo_living routed.tracked]
          simp only [hears_iff]

/-- Forgetting the lists takes an operation to the same operation. -/
theorem Sound.plain_apply (sound : Sound registry) {operation : Operation}
    (grounded : operation.Grounded registry) :
    (registry.apply operation).1.Same (registry.plain.apply operation).1 ∧
    (registry.apply operation).2.plain = (registry.plain.apply operation).2 := by
  cases operation with
  | connect address trusted protocols =>
      simp only [Registry.apply, Plain.apply, plain_connect]
      split <;> rename_i outcome <;> simp [outcome, Outcome.Same.refl]
  | markOpen id =>
      simp only [Registry.apply, Plain.apply, plain_markOpen]
      exact ⟨.refl _, trivial⟩
  | release id => exact ⟨.refl _, rfl⟩
  | attach engine =>
      rcases sound.plain_attach engine with ⟨frames, after⟩
      exact ⟨⟨rfl, frames⟩, after⟩
  | detach =>
      rcases sound.plain_detach with ⟨answer, frames, after⟩
      exact ⟨⟨congrArg Answer.detached answer, frames⟩, after⟩
  | collect =>
      simp only [Registry.apply, Plain.apply, plain_collect]
      exact ⟨.refl _, trivial⟩
  | route directive parent =>
      obtain ⟨answer, frames, after⟩ := sound.plain_route directive parent grounded.below
      exact ⟨⟨congrArg Answer.relays answer, frames⟩, after⟩
  | send id frame =>
      simp only [Registry.apply, Plain.apply, sound.plain_send]
      exact ⟨.refl _, trivial⟩
  | hangUp id => exact ⟨.refl _, rfl⟩

/-- Forgetting the lists takes a history to the same history. -/
theorem Sound.plain_run (sound : Sound registry) {operations : List Operation}
    (lawful : registry.Lawful operations) :
    List.Forall₂ Outcome.Same (registry.run operations).1
      (registry.plain.run operations).1 ∧
    (registry.run operations).2.plain = (registry.plain.run operations).2 := by
  induction operations generalizing registry with
  | nil => exact ⟨.nil, rfl⟩
  | cons operation rest ih =>
      rcases lawful with ⟨grounded, lawful⟩
      rcases sound.plain_apply grounded with ⟨same, after⟩
      rcases ih (sound.apply grounded) lawful with ⟨later, last⟩
      simp only [Registry.run, Plain.run]
      rw [← after]
      exact ⟨.cons same later, last⟩

end EngineGateway.Peer
