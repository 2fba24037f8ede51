import EngineGateway.Proofs.Peer.Lasting

/-!
# Collecting goes unseen

Peers that are not live may be forgotten at any time.  A registry that has forgotten
some of them differs from one that still tracks them in nothing that whoever uses the
registry or any live peer can see, as long as places do not run out: the same peers
live in both, and they are told the same and change in the same way.
-/

namespace EngineGateway.Peer

variable {lean full : Registry} {id : PeerId} {hears : Entry → Prop}

/-! ## Registries that have forgotten peers -/

/-- The lean registry is the full one without some peers, none of which is live. -/
structure Leaner (lean full : Registry) : Prop where
  entries : lean.entries.Sublist full.entries
  living : ∀ entry ∈ full.entries, Live full entry.id → entry ∈ lean.entries
  maxPeers : lean.maxPeers = full.maxPeers
  nextId : lean.nextId = full.nextId
  engine : lean.engine = full.engine

theorem Leaner.refl (registry : Registry) : Leaner registry registry where
  entries := .refl _
  living _ member _ := member
  maxPeers := rfl
  nextId := rfl
  engine := rfl

/-- The lists of the registries have no part in this. -/
theorem Leaner.of_plain {leanNext fullNext : Registry} (leaner : Leaner lean full)
    (sameLeft : leanNext.plain = lean.plain) (sameRight : fullNext.plain = full.plain) :
    Leaner leanNext fullNext := by
  have leanEntries : leanNext.entries = lean.entries := congrArg Plain.entries sameLeft
  have fullEntries : fullNext.entries = full.entries := congrArg Plain.entries sameRight
  constructor
  · rw [leanEntries, fullEntries]
    exact leaner.entries
  · intro entry member live
    rw [fullEntries] at member
    rw [leanEntries]
    exact leaner.living entry member (Registry.live_of_entries live fullEntries)
  · exact (congrArg Plain.maxPeers sameLeft).trans
      (leaner.maxPeers.trans (congrArg Plain.maxPeers sameRight).symm)
  · exact (congrArg Plain.nextId sameLeft).trans
      (leaner.nextId.trans (congrArg Plain.nextId sameRight).symm)
  · exact (congrArg Plain.engine sameLeft).trans
      (leaner.engine.trans (congrArg Plain.engine sameRight).symm)

/-! ## The same peers live -/

section Tracked

variable (leanTracked : Tracked lean) (fullTracked : Tracked full)
include leanTracked fullTracked

theorem Leaner.live_iff (leaner : Leaner lean full) : Live lean id ↔ Live full id := by
  constructor
  · apply Registry.live_of_shrunk
    intro id entry found
    rcases leanTracked.find?_eq_some.mp found with ⟨member, rfl⟩
    exact ⟨entry, fullTracked.find?_id (leaner.entries.subset member), rfl,
      fun listening => listening⟩
  · intro live
    -- All peers of the chain above a live peer are live, so none of them is forgotten.
    have kept : ∀ {id entry}, full.find? id = some entry → Live full id →
        lean.find? id = some entry := by
      intro id entry found live
      rcases fullTracked.find?_eq_some.mp found with ⟨member, rfl⟩
      exact leanTracked.find?_id (leaner.living entry member live)
    induction live with
    | root found listening orphan =>
        exact .root (kept found (.root found listening orphan)) listening orphan
    | child found listening below above ih =>
        exact .child (kept found (.child found listening below above)) listening below ih

theorem Leaner.livesWith_iff (leaner : Leaner lean full) :
    LivesWith lean hears id ↔ LivesWith full hears id := by
  constructor
  · intro lives
    rcases lives with ⟨entry, found, live, heard⟩
    rcases leanTracked.find?_eq_some.mp found with ⟨member, rfl⟩
    exact ⟨entry, fullTracked.find?_id (leaner.entries.subset member),
      (leaner.live_iff leanTracked fullTracked).mp live, heard⟩
  · intro lives
    rcases lives with ⟨entry, found, live, heard⟩
    rcases fullTracked.find?_eq_some.mp found with ⟨member, rfl⟩
    exact ⟨entry, leanTracked.find?_id (leaner.living entry member live),
      (leaner.live_iff leanTracked fullTracked).mpr live, heard⟩

theorem Leaner.findLive?_eq (leaner : Leaner lean full) :
    lean.findLive? id = full.findLive? id := by
  have same (entry : Entry) : lean.findLive? id = some entry ↔ full.findLive? id = some entry := by
    have lives : LivesWith lean (· = entry) id ↔ LivesWith full (· = entry) id :=
      leaner.livesWith_iff leanTracked fullTracked
    simpa [LivesWith, and_assoc] using lives
  exact Option.ext same

end Tracked

/-! ## Changes on both sides -/

theorem Leaner.restrict (leaner : Leaner lean full) (tracked : Tracked full)
    (kept : Entry → Bool) : Leaner (lean.restrict kept) (full.restrict kept) where
  entries := leaner.entries.filter kept
  living entry member live := by
    rcases List.mem_filter.mp member with ⟨before, stays⟩
    have known := leaner.living entry before (tracked.live_of_restrict live)
    exact List.mem_filter.mpr ⟨known, stays⟩
  maxPeers := leaner.maxPeers
  nextId := leaner.nextId
  engine := leaner.engine

theorem Leaner.update (leaner : Leaner lean full) (tracked : Tracked full)
    {change : Entry → Entry} (harmless : Harmless change) (id : PeerId) :
    Leaner (lean.update id change) (full.update id change) where
  entries := leaner.entries.map _
  living entry member live := by
    have before := tracked.live_of_update harmless live
    rcases Registry.mem_update.mp member with ⟨old, known, rfl⟩
    rw [(harmless.changed id).id] at before
    exact Registry.mem_update.mpr ⟨old, leaner.living old known before, rfl⟩
  maxPeers := leaner.maxPeers
  nextId := leaner.nextId
  engine := leaner.engine

theorem Leaner.insert (leaner : Leaner lean full) (tracked : Tracked full) {entry : Entry}
    (new : full.Newcomer entry) : Leaner (lean.insert entry) (full.insert entry) where
  entries := leaner.entries.append (.refl _)
  living other member live := by
    rcases Registry.mem_insert.mp member with before | rfl
    · have older := tracked.issued other before
      have lives := (tracked.live_insert new older).mp live
      exact Registry.mem_insert.mpr (.inl (leaner.living other before lives))
    · exact Registry.mem_insert.mpr (.inr rfl)
  maxPeers := leaner.maxPeers
  nextId := congrArg (· + 1) leaner.nextId
  engine := leaner.engine

theorem Leaner.withEngine (leaner : Leaner lean full) (engine : Option Engine.Identity) :
    Leaner { lean with engine := engine } { full with engine := engine } where
  entries := leaner.entries
  living entry member live := leaner.living entry member (Registry.live_of_entries live rfl)
  maxPeers := leaner.maxPeers
  nextId := leaner.nextId
  engine := rfl

/-! ## Collecting -/

/-- Collecting on one side only is what makes a registry lean. -/
theorem Leaner.collected (leaner : Leaner lean full) (leanTracked : Tracked lean)
    (fullTracked : Tracked full) : Leaner lean.collect.2 full where
  entries := List.filter_sublist.trans leaner.entries
  living entry member live := by
    refine List.mem_filter.mpr ⟨leaner.living entry member live, ?_⟩
    exact Registry.isLive_iff.mpr ((leaner.live_iff leanTracked fullTracked).mpr live)
  maxPeers := leaner.maxPeers
  nextId := leaner.nextId
  engine := leaner.engine

theorem Leaner.collect (leaner : Leaner lean full) (leanTracked : Tracked lean)
    (fullTracked : Tracked full) : Leaner lean.collect.2 full.collect.2 := by
  have same : lean.living = lean.restrict fun entry => full.isLive entry.id := by
    unfold Registry.living
    congr 1
    funext entry
    rw [Bool.eq_iff_iff, Registry.isLive_iff, Registry.isLive_iff]
    exact leaner.live_iff leanTracked fullTracked
  have alive : Leaner lean.living full.living := by
    rw [same]
    exact leaner.restrict fullTracked _
  exact alive.of_plain rfl rfl

theorem Leaner.detach (leaner : Leaner lean full) (leanSound : Sound lean)
    (fullSound : Sound full) : Leaner lean.detach.2.2 full.detach.2.2 := by
  cases attached : full.engine with
  | none =>
      have alone : lean.engine = none := leaner.engine.trans attached
      rw [Registry.detach_of_none attached, Registry.detach_of_none alone]
      exact leaner
  | some engine =>
      have present : lean.engine = some engine := leaner.engine.trans attached
      rw [Registry.detach_of_some attached, Registry.detach_of_some present]
      have remaining : Leaner lean.withoutEngine full.withoutEngine :=
        (leaner.withEngine none).restrict (fullSound.withEngine none).tracked _
      exact remaining.collect leanSound.withoutEngine.tracked fullSound.withoutEngine.tracked

/-! ## The other operations -/

/-- Only the place limit keeps the operation from tracking a new peer. -/
def Operation.Hindered (registry : Registry) : Operation → Prop
  | .connect address trusted _ =>
      (trusted = true ∨ address.isPrivate = true) ∧
        registry.maxPeers ≤ registry.entries.length
  | .route directive _ =>
      directive.isRoutable = true ∧ directive.url ≠ none ∧
        (∀ id, ¬ LivesWith registry (Entry.Hears directive) id) ∧
        registry.maxPeers ≤ registry.entries.length
  | _ => False

theorem Leaner.connect (leaner : Leaner lean full) (tracked : Tracked full)
    (address : Net.Address) (trusted : Bool) (protocols : List String)
    (free : ¬ (Operation.connect address trusted protocols).Hindered full) :
    (lean.connect address trusted protocols).1 = (full.connect address trusted protocols).1 ∧
      Leaner (lean.connect address trusted protocols).2
        (full.connect address trusted protocols).2 := by
  by_cases rejected : (!trusted && !address.isPrivate) = true
  · simp only [Registry.connect, if_pos rejected]
    exact ⟨trivial, leaner⟩
  · have near : trusted = true ∨ address.isPrivate = true := by
      by_contra neither
      simp_all
    have room : full.entries.length < full.maxPeers :=
      Nat.lt_of_not_le fun taken => free ⟨near, taken⟩
    have leanRoom : ¬ lean.maxPeers ≤ lean.entries.length := by
      have fewer := leaner.entries.length_le
      rw [leaner.maxPeers]
      omega
    simp only [Registry.connect, if_neg rejected, if_neg leanRoom,
      if_neg (Nat.not_le.mpr room), leaner.nextId]
    exact ⟨trivial, leaner.insert tracked (Registry.newcomer_client room protocols)⟩

/-- Whether or not the peer is tracked, it is open from now on if it is. -/
theorem Registry.plain_markOpen_snd (registry : Registry) (id : PeerId) :
    (registry.markOpen id).2.plain = (registry.update id Entry.opened).plain := by
  cases found : registry.find? id with
  | some entry =>
      rw [Registry.markOpen_snd found]
      rfl
  | none =>
      rw [Registry.update_of_absent found]
      simp only [Registry.markOpen, found]

theorem Leaner.markOpen (leaner : Leaner lean full) (tracked : Tracked full) (id : PeerId) :
    Leaner (lean.markOpen id).2 (full.markOpen id).2 :=
  (leaner.update tracked harmless_opened id).of_plain (lean.plain_markOpen_snd id)
    (full.plain_markOpen_snd id)

section Route

variable {directive : Directive} {parent : Option PeerId}

theorem Leaner.route (leaner : Leaner lean full) (leanSound : Sound lean)
    (fullSound : Sound full) (grounded : (Operation.route directive parent).Grounded full)
    (free : ¬ (Operation.route directive parent).Hindered full) :
    (lean.route directive parent).1 = (full.route directive parent).1 ∧
      Leaner (lean.route directive parent).2.2 (full.route directive parent).2.2 := by
  have hearers (id : PeerId) : LivesWith lean (Entry.Hears directive) id ↔
      LivesWith full (Entry.Hears directive) id :=
    leaner.livesWith_iff leanSound.tracked fullSound.tracked
  have fewer := leaner.entries.length_le
  have places := leaner.maxPeers
  rcases leanSound.route_cases directive parent with
    ⟨leanNone, ⟨leanIndex, leanAfter⟩, leanServed⟩ |
    ⟨url, routable, addressed, unheard, room, leanOpened, leanAfter⟩
  · rcases fullSound.route_cases directive parent with
      ⟨fullNone, ⟨fullIndex, fullAfter⟩, _⟩ |
      ⟨url, routable, addressed, unheard, room, _, _⟩
    · rw [leanNone, fullNone, leanAfter, fullAfter]
      exact ⟨rfl, leaner.of_plain rfl rfl⟩
    · exfalso
      rcases leanServed routable (by simp [addressed]) with ⟨id, lives⟩ | taken
      · exact unheard id ((hearers id).mp lives)
      · omega
  · rcases fullSound.route_cases directive parent with
      ⟨_, _, fullServed⟩ | ⟨other, _, same, _, fullRoom, fullOpened, fullAfter⟩
    · exfalso
      have named : directive.url ≠ none := by simp [addressed]
      have nobody (id : PeerId) : ¬ LivesWith full (Entry.Hears directive) id :=
        fun lives => unheard id ((hearers id).mpr lives)
      rcases fullServed routable named with ⟨id, lives⟩ | taken
      · exact nobody id lives
      · exact free ⟨routable, named, nobody, taken⟩
    · rw [addressed] at same
      cases same
      have space : (full.prune directive.protocol).entries.length <
          (full.prune directive.protocol).maxPeers := fullRoom
      have new : (full.prune directive.protocol).Newcomer
          (full.relayEntry url directive.protocol parent) :=
        Registry.newcomer_relay space url (protocol_ne routable) grounded.below
      have pruned : Leaner (lean.prune directive.protocol) (full.prune directive.protocol) :=
        leaner.of_plain rfl rfl
      have relay : lean.relayEntry url directive.protocol parent =
          full.relayEntry url directive.protocol parent := by
        simp only [Registry.relayEntry, leaner.nextId]
      rw [leanOpened, fullOpened, leanAfter, fullAfter, leaner.nextId, relay]
      exact ⟨rfl, pruned.insert (fullSound.prune _).tracked new⟩

end Route

/-! ## What is seen of an operation -/

/-- The answer without the number of peers that were forgotten. -/
def Answer.visible : Answer → Answer
  | .collected _ => .done
  | answer => answer

/-- The answer to whoever asked, and the frames for each peer. -/
structure Impression where
  answer : Answer
  frames : PeerId → List Frame

/-- What an operation answers and queues.  Of the frames only those count that are for
peers which are live before or after the operation, as a relay is that it opens. -/
def Registry.impression (registry : Registry) (operation : Operation) : Impression where
  answer := (registry.apply operation).1.answer.visible
  frames id :=
    if registry.isLive id || (registry.apply operation).2.isLive id then
      framesTo id (registry.apply operation).1.sent
    else
      []

/-- What admitting a client comes to, as an operation. -/
theorem Registry.apply_connect (registry : Registry) (address : Net.Address) (trusted : Bool)
    (protocols : List String) :
    registry.apply (.connect address trusted protocols) =
      (⟨match (registry.connect address trusted protocols).1 with
        | .ok id => .admitted id
        | .error refusal => .refused refusal, []⟩,
       (registry.connect address trusted protocols).2) := by
  simp only [Registry.apply]
  split <;> rename_i verdict <;> rw [verdict]

section Apply

variable {operation : Operation}

/-- Following an operation on both sides gives the same answers. -/
theorem Leaner.apply (leaner : Leaner lean full) (leanSound : Sound lean)
    (fullSound : Sound full) (grounded : operation.Grounded full)
    (free : ¬ operation.Hindered full) :
    (lean.apply operation).1.answer.visible = (full.apply operation).1.answer.visible ∧
      Leaner (lean.apply operation).2 (full.apply operation).2 := by
  cases operation with
  | connect address trusted protocols =>
      rcases leaner.connect fullSound.tracked address trusted protocols free with
        ⟨same, after⟩
      rw [Registry.apply_connect, Registry.apply_connect, same]
      exact ⟨rfl, after⟩
  | markOpen id => exact ⟨rfl, leaner.markOpen fullSound.tracked id⟩
  | release id => exact ⟨rfl, leaner.restrict fullSound.tracked _⟩
  | attach engine => exact ⟨rfl, leaner.withEngine (some engine)⟩
  | detach =>
      have same : lean.detach.1 = full.detach.1 := by
        simp only [Registry.detach, leaner.engine]
        cases full.engine <;> rfl
      exact ⟨congrArg Answer.detached same, leaner.detach leanSound fullSound⟩
  | collect => exact ⟨rfl, leaner.collect leanSound.tracked fullSound.tracked⟩
  | route directive parent =>
      rcases leaner.route leanSound fullSound grounded free with ⟨same, after⟩
      exact ⟨congrArg Answer.relays same, after⟩
  | send id frame =>
      have same : lean.send id frame = full.send id frame := by
        simp only [Registry.send, leaner.findLive?_eq leanSound.tracked fullSound.tracked]
      simp only [Registry.apply, same]
      exact ⟨trivial, leaner⟩
  | hangUp id => exact ⟨rfl, leaner.update fullSound.tracked harmless_silenced id⟩

/-- A peer whose connection is established is the only one that is told something. -/
theorem Registry.framesTo_markOpen_other {registry : Registry} {other : PeerId}
    (differs : other ≠ id) : framesTo other (registry.markOpen id).1 = [] := by
  cases found : registry.find? id with
  | none => simp only [Registry.markOpen, found, framesTo_nil]
  | some entry =>
      have named := Registry.id_of_find? found
      simp only [Registry.markOpen, found]
      cases registry.engine with
      | none => rfl
      | some engine => simp [framesTo_post, named, differs.symm]

/-- Following an operation on both sides tells a live peer the same. -/
theorem Leaner.framesTo_apply (leaner : Leaner lean full) (leanSound : Sound lean)
    (fullSound : Sound full) (grounded : operation.Grounded full)
    (free : ¬ operation.Hindered full)
    (live : Live full id ∨ Live (full.apply operation).2 id) :
    framesTo id (lean.apply operation).1.sent = framesTo id (full.apply operation).1.sent := by
  classical
  have announced (engine : Option Engine.Identity) (text : String) :
      framesTo id ({ lean with engine := engine }.announce text) =
        framesTo id ({ full with engine := engine }.announce text) := by
    rw [(leanSound.withEngine engine).orderly.framesTo_announce,
      (fullSound.withEngine engine).orderly.framesTo_announce,
      (leaner.withEngine engine).livesWith_iff (leanSound.withEngine engine).tracked
        (fullSound.withEngine engine).tracked]
  cases operation with
  | connect address trusted protocols => simp only [Registry.apply_connect]
  | markOpen opening =>
      by_cases own : id = opening
      · subst own
        have before : Live full id := by
          rcases live with before | after
          · exact before
          · exact livesWith_true.mp
              (fullSound.livesWith_of_markOpen lasting_true (livesWith_true.mpr after))
        rcases Registry.exists_of_live before with ⟨entry, found, _⟩
        have lives : LivesWith lean (· = entry) id :=
          (leaner.livesWith_iff leanSound.tracked fullSound.tracked).mpr
            ⟨entry, found, before, rfl⟩
        rcases lives with ⟨_, leanFound, _, rfl⟩
        show framesTo id (lean.markOpen id).1 = framesTo id (full.markOpen id).1
        simp only [Registry.markOpen, found, leanFound, leaner.engine]
      · show framesTo id (lean.markOpen opening).1 = framesTo id (full.markOpen opening).1
        rw [Registry.framesTo_markOpen_other own, Registry.framesTo_markOpen_other own]
  | release gone => rfl
  | attach engine => exact announced (some engine) _
  | detach =>
      show framesTo id lean.detach.2.1 = framesTo id full.detach.2.1
      simp only [Registry.detach, leaner.engine]
      cases full.engine with
      | none => rfl
      | some engine => exact announced none _
  | collect => rfl
  | route directive parent =>
      have sameRelays := (leaner.route leanSound fullSound grounded free).1
      have leanBelow : ∀ sender, parent = some sender → sender < lean.nextId := by
        rw [leaner.nextId]
        exact grounded.below
      have reached : Reached lean directive parent (lean.route directive parent).1 id ↔
          Reached full directive parent (full.route directive parent).1 id := by
        simp only [Reached, sameRelays,
          leaner.livesWith_iff leanSound.tracked fullSound.tracked,
          leaner.live_iff leanSound.tracked fullSound.tracked]
      show framesTo id (lean.route directive parent).2.1 =
        framesTo id (full.route directive parent).2.1
      rw [leanSound.framesTo_route leanBelow, fullSound.framesTo_route grounded.below]
      exact if_congr reached rfl rfl
  | send receiver frame =>
      show framesTo id (lean.send receiver frame) = framesTo id (full.send receiver frame)
      simp only [Registry.send, leaner.findLive?_eq leanSound.tracked fullSound.tracked]
  | hangUp leaving => rfl

theorem Leaner.grounded (leaner : Leaner lean full) (grounded : operation.Grounded full) :
    operation.Grounded lean := by
  cases operation with
  | route directive parent =>
      cases parent with
      | none => trivial
      | some sender =>
          show sender < lean.nextId
          rw [leaner.nextId]
          exact grounded
  | _ => trivial

/-- Nothing that is seen of an operation tells the registries apart. -/
theorem Leaner.impression_eq (leaner : Leaner lean full) (leanSound : Sound lean)
    (fullSound : Sound full) (grounded : operation.Grounded full)
    (free : ¬ operation.Hindered full) :
    lean.impression operation = full.impression operation := by
  rcases leaner.apply leanSound fullSound grounded free with ⟨sameAnswer, after⟩
  have leanNext := leanSound.apply (leaner.grounded grounded)
  have fullNext := fullSound.apply grounded
  have sameBefore (id : PeerId) : lean.isLive id = full.isLive id := by
    rw [Bool.eq_iff_iff, Registry.isLive_iff, Registry.isLive_iff]
    exact leaner.live_iff leanSound.tracked fullSound.tracked
  have sameAfter (id : PeerId) :
      (lean.apply operation).2.isLive id = (full.apply operation).2.isLive id := by
    rw [Bool.eq_iff_iff, Registry.isLive_iff, Registry.isLive_iff]
    exact after.live_iff leanNext.tracked fullNext.tracked
  unfold Registry.impression
  rw [sameAnswer]
  congr 1
  funext id
  rw [sameBefore, sameAfter]
  split_ifs with live
  · rw [Bool.or_eq_true, Registry.isLive_iff, Registry.isLive_iff] at live
    exact leaner.framesTo_apply leanSound fullSound grounded free live
  · rfl

end Apply

/-! ## Histories with collections in between -/

/-- An operation of a history, or a collection that is put in between. -/
inductive Incident where
  | act (operation : Operation)
  | collection
  deriving Repr, DecidableEq

/-- The operation, if it is not a collection in between. -/
def Incident.operation? : Incident → Option Operation
  | .act operation => some operation
  | .collection => none

/-- What is seen of the operations of a history. -/
def Registry.impressions (registry : Registry) : List Incident → List Impression
  | [] => []
  | .act operation :: rest =>
      registry.impression operation :: (registry.apply operation).2.impressions rest
  | .collection :: rest => registry.collect.2.impressions rest

/-- No operation of the history is hindered by the place limit. -/
def Registry.Unhindered (registry : Registry) : List Operation → Prop
  | [] => True
  | operation :: rest =>
      ¬ operation.Hindered registry ∧ (registry.apply operation).2.Unhindered rest

/-- However lean the registry has become, the same is seen of a history as in the full
registry without the collections. -/
theorem Leaner.impressions_eq (leaner : Leaner lean full) (leanSound : Sound lean)
    (fullSound : Sound full) {history : List Incident}
    (lawful : full.Lawful (history.filterMap Incident.operation?))
    (free : full.Unhindered (history.filterMap Incident.operation?)) :
    lean.impressions history =
      full.impressions ((history.filterMap Incident.operation?).map .act) := by
  induction history generalizing lean full with
  | nil => rfl
  | cons incident rest ih =>
      cases incident with
      | collection =>
          have leaner := leaner.collected leanSound.tracked fullSound.tracked
          exact ih leaner leanSound.collect fullSound lawful free
      | act operation =>
          rcases lawful with ⟨grounded, following⟩
          rcases free with ⟨now, later⟩
          have same := leaner.impression_eq leanSound fullSound grounded now
          have after := (leaner.apply leanSound fullSound grounded now).2
          have others := ih after (leanSound.apply (leaner.grounded grounded))
            (fullSound.apply grounded) following later
          exact congrArg₂ List.cons same others

/-- Collections are not seen.  Wherever a history has led, and whatever comes next without
being hindered by the place limit, collections that are put in between at any points change
no answer and none of the frames that are queued for live peers. -/
theorem collecting_unseen {maxPeers : Nat} {past : List Operation} {history : List Incident}
    (lawful : (Registry.empty maxPeers).Lawful past)
    (following : ((Registry.empty maxPeers).run past).2.Lawful
      (history.filterMap Incident.operation?))
    (free : ((Registry.empty maxPeers).run past).2.Unhindered
      (history.filterMap Incident.operation?)) :
    ((Registry.empty maxPeers).run past).2.impressions history =
      ((Registry.empty maxPeers).run past).2.impressions
        ((history.filterMap Incident.operation?).map .act) := by
  have sound := (Sound.empty maxPeers).run lawful
  exact (Leaner.refl _).impressions_eq sound sound following free

/-- A client has a relay opened, and then its frames are no longer taken. -/
def deafVisit : List Operation :=
  [.connect .localhost true ["brain"], .route farGreeting (some 1), .hangUp 1]

/-- Another client comes, and the engine has the same relay opened. -/
def laterVisit : List Operation :=
  [.connect .localhost true [], .route farGreeting none]

theorem collecting_unseen_deafVisit :
    let registry := ((Registry.empty 4).run deafVisit).2
    registry.collect.1 = 2 ∧
    registry.impressions (.collection :: laterVisit.map .act ++ [.collection]) =
      registry.impressions (laterVisit.map .act) := by
  intro registry
  refine ⟨by decide, ?_⟩
  apply collecting_unseen
  · decide
  · decide
  · refine ⟨?_, ?_, trivial⟩
    · intro taken
      exact absurd taken.2 (by decide)
    · intro taken
      exact absurd taken.2.2.2 (by decide)

end EngineGateway.Peer
