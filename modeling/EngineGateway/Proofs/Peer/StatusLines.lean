import EngineGateway.Proofs.Peer.Channel

/-!
# Status lines

Peers learn about engines from status lines: all open peers when an engine comes
or goes, and a peer that opens later about the engine that is there already.  A
peer hears these lines in turn, the coming of an engine and then its going, as
long as engines are attached one after another and no connection is established
twice.

The invariant for one peer relates what it has been told to the attached engine.
It holds the peer to what the registry knows only while the peer is live and
open: a peer that is not live any more is told nothing, and never lives again.
-/

namespace EngineGateway.Peer

open Engine (Identity)

/-! ## What a peer is told -/

/-- The line that says that an engine has come. -/
def openedLine (engine : Identity) : Frame := .text (engine.statusLine .opened)

/-- The line that says that an engine has gone. -/
def closedLine (engine : Identity) : Frame := .text (engine.statusLine .closed)

/-- The lines about the whole stay of an engine. -/
def stay (engine : Identity) : List Frame := [openedLine engine, closedLine engine]

/-- The operation tells peers about engines. -/
def Operation.announces : Operation → Bool
  | .markOpen _ | .attach _ | .detach => true
  | .connect .. | .release _ | .collect | .route .. | .send .. | .hangUp _ => false

/-- What an operation tells a peer about engines. -/
def Registry.tells (registry : Registry) (id : PeerId) (operation : Operation) :
    List Frame :=
  if operation.announces then framesTo id (registry.apply operation).1.sent else []

/-- What a history tells a peer about engines, in the order of queueing. -/
def Registry.statusFrames (registry : Registry) (id : PeerId) :
    List Operation → List Frame
  | [] => []
  | operation :: rest =>
      registry.tells id operation ++ (registry.apply operation).2.statusFrames id rest

/-! ## What is asked of a history -/

/-- The operation attaches no engine while another is attached. -/
def Operation.InTurn (registry : Registry) : Operation → Prop
  | .attach _ => registry.engine = none
  | _ => True

instance (registry : Registry) (operation : Operation) :
    Decidable (operation.InTurn registry) := by
  unfold Operation.InTurn
  split <;> infer_instance

/-- Engines are attached one after another. -/
def Registry.InTurn (registry : Registry) : List Operation → Prop
  | [] => True
  | operation :: rest =>
      operation.InTurn registry ∧ (registry.apply operation).2.InTurn rest

instance Registry.decidableInTurn :
    (registry : Registry) → (operations : List Operation) →
      Decidable (registry.InTurn operations)
  | _, [] => isTrue trivial
  | registry, operation :: rest =>
      have := Registry.decidableInTurn (registry.apply operation).2 rest
      inferInstanceAs (Decidable (_ ∧ _))

/-- The peers whose connection an operation establishes. -/
def Operation.opens : Operation → List PeerId
  | .markOpen id => [id]
  | _ => []

/-! ## The lines take turns -/

/-- The lines are about one engine after another.  The last of these engines is
still there if one is given. -/
inductive Alternates : List Frame → Option Identity → Prop where
  | nil : Alternates [] none
  | opened {lines : List Frame} (engine : Identity) :
      Alternates lines none → Alternates (lines ++ [openedLine engine]) (some engine)
  | closed {lines : List Frame} {engine : Identity} :
      Alternates lines (some engine) → Alternates (lines ++ [closedLine engine]) none

/-- Lines that take turns are those of whole stays and perhaps one more that has
begun. -/
theorem Alternates.eq_stays {lines : List Frame} {current : Option Identity}
    (alternates : Alternates lines current) :
    ∃ engines : List Identity,
      lines = engines.flatMap stay ++ current.toList.map openedLine := by
  induction alternates with
  | nil => exact ⟨[], rfl⟩
  | opened engine _ ih =>
      rcases ih with ⟨engines, rfl⟩
      exact ⟨engines, by simp⟩
  | @closed _ engine _ ih =>
      rcases ih with ⟨engines, rfl⟩
      exact ⟨engines ++ [engine], by simp [stay]⟩

theorem Alternates.prefix_stays {lines : List Frame} {current : Option Identity}
    (alternates : Alternates lines current) :
    ∃ engines : List Identity, lines <+: engines.flatMap stay := by
  rcases alternates.eq_stays with ⟨engines, rfl⟩
  cases current with
  | none => exact ⟨engines, by simp⟩
  | some engine => exact ⟨engines ++ [engine], [closedLine engine], by simp [stay]⟩

theorem Alternates.getLast?_some {lines : List Frame} {engine : Identity}
    (alternates : Alternates lines (some engine)) :
    lines.getLast? = some (openedLine engine) := by
  cases alternates with
  | opened => simp

theorem Alternates.getLast?_none {lines : List Frame} (alternates : Alternates lines none) :
    lines = [] ∨ ∃ engine, lines.getLast? = some (closedLine engine) := by
  cases alternates with
  | nil => exact .inl rfl
  | @closed _ engine => exact .inr ⟨engine, by simp⟩

/-! ## The invariant -/

/-- The peer is live and its connection is established. -/
abbrev LivesOpen (registry : Registry) (id : PeerId) : Prop :=
  LivesWith registry (·.isOpen = true) id

/-- How the lines that a peer has been told go with the registry and with the
connections that have been established. -/
structure Told (registry : Registry) (opened : List PeerId) (id : PeerId)
    (lines : List Frame) : Prop where
  alternates : ∃ current, Alternates lines current ∧
    (LivesOpen registry id → registry.engine = current)
  silent : id ∉ opened → lines = [] ∧ ¬ LivesOpen registry id

theorem Told.empty (maxPeers : Nat) (id : PeerId) :
    Told (Registry.empty maxPeers) [] id [] where
  alternates := ⟨none, .nil, fun _ => rfl⟩
  silent _ := by
    refine ⟨rfl, ?_⟩
    rintro ⟨entry, found, _⟩
    simp [Registry.empty, Registry.find?] at found

variable {registry : Registry} {opened : List PeerId} {id : PeerId} {lines : List Frame}

/-- Nothing is lost while the engine stays the same and nobody comes to life. -/
theorem Told.shrink (told : Told registry opened id lines) {next : Registry}
    (same : next.engine = registry.engine)
    (shrunk : LivesOpen next id → LivesOpen registry id) :
    Told next opened id lines where
  alternates := by
    rcases told.alternates with ⟨current, alternates, now⟩
    exact ⟨current, alternates, fun lives => same.trans (now (shrunk lives))⟩
  silent fresh := by
    rcases told.silent fresh with ⟨nothing, asleep⟩
    exact ⟨nothing, fun lives => asleep (shrunk lives)⟩

/-! ## Nobody comes to life -/

theorem Sound.livesOpen_of_insert (sound : Sound registry) {entry : Entry}
    (new : registry.Newcomer entry) (lives : LivesOpen (registry.insert entry) id) :
    LivesOpen registry id := by
  rcases (sound.tracked.livesWith_insert new).mp lives with before | ⟨_, already, _⟩
  · exact before
  · simp [new.unopened] at already

theorem Sound.livesOpen_of_route (sound : Sound registry) {directive : Directive}
    {parent : Option PeerId}
    (below : ∀ sender, parent = some sender → sender < registry.nextId)
    (lives : LivesOpen (registry.route directive parent).2.2 id) :
    LivesOpen registry id := by
  unfold Registry.route at lives
  split_ifs at lives with routable
  · have pruned := sound.prune directive.protocol
    suffices before : LivesOpen (registry.prune directive.protocol) id from
      livesWith_of_entries before rfl
    obtain nothing | ⟨url, _, _, room, relayed⟩ :=
      (registry.prune directive.protocol).openRelay_cases directive parent
        (registry.liveSubscribers directive.protocol)
    · simpa only [nothing] using lives
    · simp only [relayed] at lives
      exact pruned.livesOpen_of_insert
        (Registry.newcomer_relay room url (protocol_ne routable) below) lives
  · exact lives

theorem Sound.livesOpen_of_markOpen (sound : Sound registry) {other : PeerId}
    (differs : id ≠ other) (lives : LivesOpen (registry.markOpen other).2 id) :
    LivesOpen registry id := by
  cases found : registry.find? other with
  | none => simpa only [Registry.markOpen, found] using lives
  | some entry =>
      rw [Registry.markOpen_snd found] at lives
      obtain ⟨old, before, live, already⟩ := sound.tracked.livesWith_of_update
        harmless_opened (livesWith_of_entries lives rfl)
      have same := Registry.id_of_find? before
      rw [Registry.changed, if_neg (same ▸ differs)] at already
      exact ⟨old, before, live, already⟩

theorem Sound.livesOpen_of_hangUp (sound : Sound registry) {other : PeerId}
    (lives : LivesOpen (registry.hangUp other) id) : LivesOpen registry id := by
  obtain ⟨old, before, live, already⟩ :=
    sound.tracked.livesWith_of_update harmless_silenced lives
  refine ⟨old, before, live, ?_⟩
  unfold Registry.changed at already
  split_ifs at already <;> exact already

/-- A peer that is live and open was so before, unless its connection has just
been established. -/
theorem Sound.livesOpen_of_apply (sound : Sound registry) {operation : Operation}
    (grounded : operation.Grounded registry) (other : id ∉ operation.opens)
    (lives : LivesOpen (registry.apply operation).2 id) : LivesOpen registry id := by
  cases operation with
  | connect address trusted protocols =>
      obtain ⟨refusal, refused⟩ | ⟨room, admitted⟩ :=
        registry.connect_cases address trusted protocols
      · simpa only [Registry.apply, refused] using lives
      · simp only [Registry.apply, admitted] at lives
        exact sound.livesOpen_of_insert (Registry.newcomer_client room protocols) lives
  | markOpen opening =>
      exact sound.livesOpen_of_markOpen (by simpa [Operation.opens] using other) lives
  | release gone => exact sound.tracked.livesWith_of_restrict lives
  | attach engine => exact livesWith_of_entries lives rfl
  | detach => exact sound.livesWith_of_detach lives
  | collect => exact sound.livesWith_of_collect lives
  | route directive parent =>
      exact sound.livesOpen_of_route grounded.below lives
  | send receiver frame => exact lives
  | hangUp silent => exact sound.livesOpen_of_hangUp lives

/-! ## One operation -/

theorem Told.grow (told : Told registry opened id lines) (more : List PeerId) :
    Told registry (opened ++ more) id lines where
  alternates := told.alternates
  silent fresh := told.silent fun before => fresh (List.mem_append_left more before)

open Classical in
/-- An announcement that is the turn of the attached engine. -/
theorem Told.announced (told : Told registry opened id lines) {next : Registry}
    {line : Frame} (shrunk : LivesOpen next id → LivesOpen registry id)
    (turn : ∀ lines, Alternates lines registry.engine →
      Alternates (lines ++ [line]) next.engine) :
    Told next opened id (lines ++ if LivesOpen registry id then [line] else []) := by
  rcases told.alternates with ⟨current, alternates, now⟩
  by_cases lives : LivesOpen registry id
  · rw [if_pos lives]
    refine ⟨⟨next.engine, turn lines (now lives ▸ alternates), fun _ => rfl⟩, ?_⟩
    exact fun fresh => absurd lives (told.silent fresh).2
  · rw [if_neg lives, List.append_nil]
    refine ⟨⟨current, alternates, fun later => absurd (shrunk later) lives⟩, ?_⟩
    exact fun fresh => ⟨(told.silent fresh).1, fun later => lives (shrunk later)⟩

open Classical in
/-- An announcement is for the peers that are live and open, whichever engine is
attached. -/
theorem Orderly.framesTo_announce_with (orderly : Orderly registry)
    (engine : Option Identity) (text : String) (id : PeerId) :
    framesTo id ({ registry with engine := engine }.announce text) =
      if LivesOpen registry id then [.text text] else [] := by
  refine ((orderly.withEngine engine).framesTo_announce text id).trans (if_congr ?_ rfl rfl)
  exact ⟨fun lives => livesWith_of_entries lives rfl,
    fun lives => livesWith_of_entries lives rfl⟩

theorem Told.attach (told : Told registry opened id lines) (sound : Sound registry)
    (alone : registry.engine = none) (engine : Identity) :
    Told (registry.attach engine).2 opened id
      (lines ++ framesTo id (registry.attach engine).1) := by
  rw [Registry.attach, sound.orderly.framesTo_announce_with]
  refine told.announced (fun lives => livesWith_of_entries lives rfl) ?_
  intro lines alternates
  exact .opened engine (alone ▸ alternates)

theorem Told.detach (told : Told registry opened id lines) (sound : Sound registry) :
    Told registry.detach.2.2 opened id
      (lines ++ framesTo id registry.detach.2.1) := by
  cases attached : registry.engine with
  | none =>
      simpa only [Registry.detach_of_none attached, framesTo_nil, List.append_nil] using told
  | some engine =>
      have lost : LivesOpen registry.detach.2.2 id → LivesOpen registry id :=
        sound.livesWith_of_detach
      rw [Registry.detach_of_some attached] at lost ⊢
      rw [sound.orderly.framesTo_announce_with]
      refine told.announced lost fun lines alternates => ?_
      exact .closed (attached ▸ alternates)

theorem engine_markOpen (other : PeerId) :
    (registry.markOpen other).2.engine = registry.engine := by
  cases found : registry.find? other with
  | none => simp only [Registry.markOpen, found]
  | some entry =>
      rw [Registry.markOpen_snd found]
      rfl

theorem Told.markOpen (told : Told registry opened id lines) (sound : Sound registry)
    (fresh : id ∉ opened) :
    Told (registry.markOpen id).2 (opened ++ [id]) id
      (lines ++ framesTo id (registry.markOpen id).1) := by
  rcases told.silent fresh with ⟨rfl, asleep⟩
  refine ⟨?_, fun absent => absurd (List.mem_append_right opened (.head _)) absent⟩
  rw [List.nil_append]
  cases found : registry.find? id with
  | none =>
      simp only [Registry.markOpen, found, framesTo_nil]
      exact ⟨none, .nil, fun lives => absurd lives asleep⟩
  | some entry =>
      have named := Registry.id_of_find? found
      by_cases listening : entry.isListening = true
      · refine ⟨registry.engine, ?_, fun _ => engine_markOpen id⟩
        cases attached : registry.engine with
        | none =>
            simp only [Registry.markOpen, found, attached, framesTo_nil]
            exact .nil
        | some engine =>
            simp only [Registry.markOpen, found, attached, framesTo_post, named,
              listening, and_self, if_true]
            exact .opened engine .nil
      · refine ⟨none, ?_, fun lives => absurd ?_ listening⟩
        · have unheard : framesTo id (registry.markOpen id).1 = [] := by
            cases attached : registry.engine <;>
              simp [Registry.markOpen, found, attached, framesTo_post, listening]
          rw [unheard]
          exact .nil
        · rw [Registry.markOpen_snd found] at lives
          obtain ⟨old, before, live, _⟩ := sound.tracked.livesWith_of_update
            harmless_opened (livesWith_of_entries lives rfl)
          obtain rfl := Option.some.inj (found.symm.trans before)
          exact ((Registry.live_iff_of_find? before).mp live).1

/-- Establishing the connection of one peer tells another nothing. -/
theorem framesTo_markOpen_of_ne {other : PeerId} (differs : id ≠ other) :
    framesTo id (registry.markOpen other).1 = [] := by
  cases found : registry.find? other with
  | none => simp [Registry.markOpen, found]
  | some entry =>
      have named : entry.id ≠ id := (Registry.id_of_find? found).trans_ne differs.symm
      cases attached : registry.engine <;>
        simp [Registry.markOpen, found, attached, framesTo_post, named]

theorem engine_apply_of_quiet {operation : Operation}
    (quiet : operation.announces = false) :
    (registry.apply operation).2.engine = registry.engine := by
  cases operation with
  | connect address trusted protocols =>
      obtain ⟨refusal, refused⟩ | ⟨_, admitted⟩ :=
        registry.connect_cases address trusted protocols
      · simp only [Registry.apply, refused]
      · simp only [Registry.apply, admitted, Registry.insert]
  | markOpen | attach | detach => simp [Operation.announces] at quiet
  | release | collect | send | hangUp => rfl
  | route directive parent =>
      simp only [Registry.apply, Registry.route]
      split_ifs
      · obtain nothing | ⟨url, _, _, _, relayed⟩ :=
          (registry.prune directive.protocol).openRelay_cases directive parent
            (registry.liveSubscribers directive.protocol)
        · simp only [nothing]
          rfl
        · simp only [relayed]
          rfl
      · rfl

/-- The invariant is kept by every operation. -/
theorem Told.apply (told : Told registry opened id lines) (sound : Sound registry)
    {operation : Operation} (grounded : operation.Grounded registry)
    (inTurn : operation.InTurn registry) (once : (opened ++ operation.opens).Nodup) :
    Told (registry.apply operation).2 (opened ++ operation.opens) id
      (lines ++ registry.tells id operation) := by
  cases announces : operation.announces with
  | false =>
      have opensNone : operation.opens = [] := by
        cases operation <;> first | rfl | simp [Operation.announces] at announces
      rw [Registry.tells, announces, opensNone, List.append_nil]
      simp only [Bool.false_eq_true, if_false, List.append_nil]
      exact told.shrink (engine_apply_of_quiet announces)
        (sound.livesOpen_of_apply grounded (by simp [opensNone]))
  | true =>
      rw [Registry.tells, announces, if_pos rfl]
      cases operation with
      | markOpen other =>
          -- The late line is queued whether or not the peer is live.  Later ones go to
          -- live peers only, and only this operation makes a peer live and open.
          by_cases same : id = other
          · subst same
            have fresh : id ∉ opened := fun before =>
              (List.nodup_append.mp once).2.2 id before id (.head _) rfl
            exact told.markOpen sound fresh
          · simp only [Registry.apply, framesTo_markOpen_of_ne same, List.append_nil]
            exact (told.shrink (engine_markOpen other)
              (sound.livesOpen_of_markOpen same)).grow [other]
      | attach engine =>
          exact (told.attach sound inTurn engine).grow []
      | detach => exact (told.detach sound).grow []
      | connect | release | collect | route | send | hangUp =>
          simp [Operation.announces] at announces

/-! ## Whole histories -/

/-- The invariant is kept by every history. -/
theorem Told.run (told : Told registry opened id lines) (sound : Sound registry)
    {operations : List Operation} (lawful : registry.Lawful operations)
    (inTurn : registry.InTurn operations)
    (once : (opened ++ operations.flatMap Operation.opens).Nodup) :
    Told (registry.run operations).2 (opened ++ operations.flatMap Operation.opens) id
      (lines ++ registry.statusFrames id operations) := by
  induction operations generalizing registry opened lines with
  | nil => simpa [Registry.statusFrames, Registry.run] using told
  | cons operation rest ih =>
      rcases lawful with ⟨grounded, lawful⟩
      rcases inTurn with ⟨first, inTurn⟩
      rw [List.flatMap_cons, ← List.append_assoc] at once ⊢
      have next := told.apply sound grounded first (List.nodup_append.mp once).1
      have later := ih next (sound.apply grounded) lawful inTurn once
      rw [List.append_assoc lines] at later
      exact later

/-- A client opens while one engine is attached and hears of it, of its going,
and of the engine after it. -/
def twoEngines : List Operation :=
  let first : Identity := ⟨.socket, 2, 286, "Albia", none⟩
  let second : Identity := ⟨.dde, 1, 0, "Norn", none⟩
  [.connect .localhost true ["brain"], .attach first, .markOpen 1, .detach,
    .attach second]

end EngineGateway.Peer
