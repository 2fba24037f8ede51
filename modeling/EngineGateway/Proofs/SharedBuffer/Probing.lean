import EngineGateway.Proofs.World
import EngineGateway.Rehearsal.Stage

/-!
# Which buffer decides a search

The names of engines are tried in order, and a name under which nothing can be opened is
passed over.  The first buffer that can be opened decides the search.  If the engine behind
it says its version, it is found; if the engine has exited, if its mutex cannot be taken, or
if what it says is no version, the search fails, and engines with later names are not looked
for.
-/

namespace EngineGateway.SharedBuffer

open Engine Discovery

variable {ο γ ω : Type}

/-! ## Asking for the version -/

section Asking

variable [Channel γ ω]

/-- What sending a unit over a new link comes to, and the world afterwards. -/
inductive Asks (channel : γ) (unit : Bytes) (world : ω) : Except Fault Bytes → ω → Prop where
  | exited {later : ω} :
      (Channel.creatorAlive channel).run world = (false, later) →
      Asks channel unit world (.error .engineExited) later
  | locked {checked later : ω} {fault : Fault} :
      (Channel.creatorAlive channel).run world = (true, checked) →
      (Channel.lock channel).run checked = (.error fault, later) →
      Asks channel unit world (.error fault) later
  | exchanged {checked taken answered : ω} {outcome : Except Fault Bytes} :
      (Channel.creatorAlive channel).run world = (true, checked) →
      (Channel.lock channel).run checked = (.ok (), taken) →
      (Channel.transact channel (request unit)).run taken = (outcome, answered) →
      Asks channel unit world outcome ((Channel.unlock channel).run answered).2

/-- What an engine says when it is asked for its version. -/
inductive Greets (channel : γ) (world : ω) : Except DiscoveryError Identity → Prop where
  | silent {fault : Fault} {later : ω} :
      Asks channel (Text.CodePage.ofText versionQuery) world (.error fault) later →
      Greets channel world (.error (.transport fault))
  | garbled {reply : Bytes} {later : ω} :
      Asks channel (Text.CodePage.ofText versionQuery) world (.ok reply) later →
      parseVersionReply? (Text.CodePage.toText reply) = none →
      Greets channel world (.error (.handshake
        ("unexpected version reply: " ++ Text.quote (Text.CodePage.toText reply))))
  | named {reply : Bytes} {later : ω} {major minor : Int} {name : String} :
      Asks channel (Text.CodePage.ofText versionQuery) world (.ok reply) later →
      parseVersionReply? (Text.CodePage.toText reply) = some (major, minor, name) →
      Greets channel world (.ok ⟨.sharedBuffer, major, minor, name,
        ((Channel.workingDirectory channel).run later).1⟩)

variable {channel : γ} {unit : Bytes} {world : ω}

theorem run_isClosed (channel : γ) (world : ω) :
    (Link.ofChannel channel).isClosed.run world =
      ((!((Channel.creatorAlive channel).run world).1,
          ⟨channel, !((Channel.creatorAlive channel).run world).1⟩),
        ((Channel.creatorAlive channel).run world).2) := rfl

theorem run_exchangeAll (channel : γ) (unit : Bytes) (world : ω) :
    (Link.exchangeAll channel [unit]).run world =
      (Channel.transact channel (request unit)).run world := by
  simp only [Link.exchangeAll, run_bind]
  rcases (Channel.transact channel (request unit)).run world with ⟨fault | reply, later⟩
  · rfl
  · simp only [run_bind, run_pure, Except.map, List.append_nil]

/-- Sending over a new link does what asking says, and the link stays with its channel. -/
theorem Asks.run_sendUnits {outcome : Except Fault Bytes} {later : ω}
    (asks : Asks channel unit world outcome later) (filled : unit ≠ []) :
    ∃ closed, ((Link.ofChannel channel).sendUnits [unit]).run world =
      ((outcome.map .text, ⟨channel, closed⟩), later) := by
  have something : [unit].all List.isEmpty = false := by simp [filled]
  cases asks with
  | exited alive =>
      refine ⟨true, ?_⟩
      simp only [Link.sendUnits, run_bind, run_isClosed, alive]
      rfl
  | locked alive lock =>
      refine ⟨false, ?_⟩
      simp only [Link.sendUnits, run_bind, run_isClosed, alive, something, Bool.not_true,
        Bool.false_eq_true, if_false, lock]
      rfl
  | @exchanged checked taken answered _ alive lock sent =>
      simp only [Link.sendUnits, run_bind, run_isClosed, alive, something, Bool.not_true,
        Bool.false_eq_true, if_false, lock, run_exchangeAll, sent]
      cases outcome with
      | error fault => exact ⟨fault.isFatal, rfl⟩
      | ok reply => exact ⟨false, rfl⟩

/-- A session comes about exactly if the engine says its version. -/
theorem Greets.run_attach {result : Except DiscoveryError Identity}
    (greets : Greets channel world result) :
    ∃ link, ((Session.attach (Link.ofChannel channel)).run world).1 =
      result.map fun identity => ⟨link, identity, false, false⟩ := by
  have filled : Text.CodePage.ofText versionQuery ≠ [] := by decide +kernel
  cases greets with
  | silent asks =>
      obtain ⟨closed, sent⟩ := asks.run_sendUnits filled
      refine ⟨⟨channel, closed⟩, ?_⟩
      simp only [Session.attach, Transport.handshake, askVersion, run_bind, sent]
      rfl
  | garbled asks unread =>
      obtain ⟨closed, sent⟩ := asks.run_sendUnits filled
      refine ⟨⟨channel, closed⟩, ?_⟩
      simp only [Session.attach, Transport.handshake, askVersion, run_bind, sent, Except.map,
        Reply.content, Identity.ofVersionReply, unread]
      rfl
  | named asks read =>
      obtain ⟨closed, sent⟩ := asks.run_sendUnits filled
      refine ⟨⟨channel, closed⟩, ?_⟩
      simp only [Session.attach, Transport.handshake, askVersion, run_bind, sent, Except.map,
        Reply.content, Identity.ofVersionReply, read]
      rfl

theorem exists_asks (channel : γ) (unit : Bytes) (world : ω) :
    ∃ outcome later, Asks channel unit world outcome later := by
  rcases alive : (Channel.creatorAlive channel).run world with ⟨_ | _, checked⟩
  · exact ⟨_, _, .exited alive⟩
  · rcases lock : (Channel.lock channel).run checked with ⟨fault | _, taken⟩
    · exact ⟨_, _, .locked alive lock⟩
    · exact ⟨_, _, .exchanged alive lock rfl⟩

theorem exists_greets (channel : γ) (world : ω) : ∃ result, Greets channel world result := by
  obtain ⟨outcome, later, asks⟩ :=
    exists_asks channel (Text.CodePage.ofText versionQuery) world
  cases outcome with
  | error fault => exact ⟨_, .silent asks⟩
  | ok reply =>
      cases read : parseVersionReply? (Text.CodePage.toText reply) with
      | none => exact ⟨_, .garbled asks read⟩
      | some version => exact ⟨_, .named asks read⟩

end Asking

/-! ## Names -/

section Names

variable [Opener ο γ ω]

/-- Under none of the names a buffer can be opened. -/
inductive Passes (opener : ο) : List String → ω → ω → Prop where
  | nil (world : ω) : Passes opener [] world world
  | cons {name : String} {rest : List String} {world passed later : ω}
      {outcome : Except Fault (Option γ)} :
      (Opener.openChannel opener name).run world = (outcome, passed) →
      (∀ channel, outcome ≠ .ok (some channel)) → Passes opener rest passed later →
      Passes opener (name :: rest) world later

/-- The first buffer that can be opened under one of the names, and the world after that. -/
inductive Opens (opener : ο) : List String → ω → γ → ω → Prop where
  | here {name : String} {rest : List String} {world opened : ω} {channel : γ} :
      (Opener.openChannel opener name).run world = (.ok (some channel), opened) →
      Opens opener (name :: rest) world channel opened
  | later {name : String} {rest : List String} {world passed opened : ω}
      {outcome : Except Fault (Option γ)} {channel : γ} :
      (Opener.openChannel opener name).run world = (outcome, passed) →
      (∀ channel, outcome ≠ .ok (some channel)) → Opens opener rest passed channel opened →
      Opens opener (name :: rest) world channel opened

variable {opener : ο} {names : List String} {world opened later : ω} {channel : γ}

theorem passes_or_opens (opener : ο) (names : List String) (world : ω) :
    (∃ later, Passes opener names world later) ∨
      ∃ channel opened, Opens opener names world channel opened := by
  induction names generalizing world with
  | nil => exact .inl ⟨world, .nil world⟩
  | cons name rest ih =>
      rcases tried : (Opener.openChannel opener name).run world with ⟨fault | _ | channel, after⟩
      · exact (ih after).imp (fun ⟨later, passes⟩ => ⟨later, .cons tried nofun passes⟩)
          fun ⟨channel, opened, opens⟩ => ⟨channel, opened, .later tried nofun opens⟩
      · exact (ih after).imp (fun ⟨later, passes⟩ => ⟨later, .cons tried nofun passes⟩)
          fun ⟨channel, opened, opens⟩ => ⟨channel, opened, .later tried nofun opens⟩
      · exact .inr ⟨channel, after, .here tried⟩

/-- Names behind the first that can be opened make no difference. -/
theorem Opens.append (opens : Opens opener names world channel opened) (behind : List String) :
    Opens opener (names ++ behind) world channel opened := by
  induction opens with
  | here tried => exact .here tried
  | later tried shut _ ih => exact .later tried shut ih

variable [Channel γ ω]

/-- A name under which nothing can be opened is passed over. -/
theorem run_attachFirst_of_shut {name : String} {rest : List String} {passed : ω}
    {outcome : Except Fault (Option γ)}
    (tried : (Opener.openChannel opener name).run world = (outcome, passed))
    (shut : ∀ channel, outcome ≠ .ok (some channel)) :
    (attachFirst opener (name :: rest)).run world = (attachFirst opener rest).run passed := by
  simp only [attachFirst, run_bind, tried]
  rcases outcome with fault | _ | channel
  · rfl
  · rfl
  · exact absurd rfl (shut channel)

theorem Passes.run_attachFirst (passes : Passes opener names world later) :
    (attachFirst opener names).run world = (.ok none, later) := by
  induction passes with
  | nil => rfl
  | cons tried shut _ ih => rw [run_attachFirst_of_shut tried shut, ih]

theorem Opens.run_attachFirst (opens : Opens opener names world channel opened) :
    (attachFirst opener names).run world =
      ((((Session.attach (Link.ofChannel channel)).run opened).1).map some,
        ((Session.attach (Link.ofChannel channel)).run opened).2) := by
  induction opens with
  | here tried =>
      simp only [attachFirst, run_bind, tried]
      rfl
  | later tried shut _ ih => rw [run_attachFirst_of_shut tried shut, ih]

/-- What a search comes to, with the identity of the engine that is found. -/
inductive Ends (opener : ο) (names : List String) (world : ω) :
    Except DiscoveryError (Option Identity) → Prop where
  | missed {later : ω} : Passes opener names world later → Ends opener names world (.ok none)
  | failed {channel : γ} {opened : ω} {error : DiscoveryError} :
      Opens opener names world channel opened → Greets channel opened (.error error) →
      Ends opener names world (.error error)
  | found {channel : γ} {opened : ω} {identity : Identity} :
      Opens opener names world channel opened → Greets channel opened (.ok identity) →
      Ends opener names world (.ok (some identity))

theorem exists_ends (opener : ο) (names : List String) (world : ω) :
    ∃ outcome, Ends opener names world outcome := by
  rcases passes_or_opens opener names world with ⟨later, passes⟩ | ⟨channel, opened, opens⟩
  · exact ⟨_, .missed passes⟩
  · obtain ⟨error | identity, greets⟩ := exists_greets channel opened
    · exact ⟨_, .failed opens greets⟩
    · exact ⟨_, .found opens greets⟩

theorem Ends.run_attachFirst {outcome : Except DiscoveryError (Option Identity)}
    (ends : Ends opener names world outcome) :
    ((attachFirst opener names).run world).1.map (Option.map Session.identity) = outcome := by
  cases ends with
  | missed passes =>
      rw [passes.run_attachFirst]
      rfl
  | failed opens greets =>
      obtain ⟨link, attached⟩ := greets.run_attach
      rw [opens.run_attachFirst, attached]
      rfl
  | found opens greets =>
      obtain ⟨link, attached⟩ := greets.run_attach
      rw [opens.run_attachFirst, attached]
      rfl

theorem ends_iff {outcome : Except DiscoveryError (Option Identity)} :
    ((attachFirst opener names).run world).1.map (Option.map Session.identity) = outcome ↔
      Ends opener names world outcome := by
  constructor
  · rintro rfl
    obtain ⟨outcome, ends⟩ := exists_ends opener names world
    rw [ends.run_attachFirst]
    exact ends
  · exact Ends.run_attachFirst

end Names

/-- The first buffer that can be opened decides.  Whatever opening and the channels do, a
search finds an engine exactly if the engine behind that buffer says its version.  It finds
nothing exactly if no buffer can be opened, whether for want of an engine or because of an
error.  If the engine behind the first buffer does not say its version, because it has
exited or cannot be asked or answers something else, the search fails with the reason for
that, whichever engines have later names. -/
theorem first_buffer_decides {ο γ ω : Type} [Opener ο γ ω] [Channel γ ω] (finder : Finder ο)
    (policy : Policy) (world : ω) :
    let search (names : List String) : Attempt (Link γ) × Finder ο × Policy :=
      ((Connector.discover ({ finder with names := names } : Finder ο) policy).run world).1
    (∀ outcome : Except DiscoveryError (Option Identity),
      (search finder.names).1.map (Option.map Session.identity) = outcome ↔
        Ends finder.opener finder.names world outcome) ∧
    (search finder.names).2 = (finder, policy) ∧
    (∀ (channel : γ) (opened : ω) (error : DiscoveryError) (behind : List String),
      Opens finder.opener finder.names world channel opened →
      Greets channel opened (.error error) →
        (search (finder.names ++ behind)).1 = .error error) := by
  intro search
  refine ⟨?_, rfl, ?_⟩
  · intro outcome
    show ((attachFirst finder.opener finder.names).run world).1.map
      (Option.map Session.identity) = outcome ↔ _
    exact ends_iff
  · intro channel opened error behind opens greets
    obtain ⟨link, attached⟩ := greets.run_attach
    show ((attachFirst finder.opener (finder.names ++ behind)).run world).1 = .error error
    rw [(opens.append behind).run_attachFirst, attached]
    rfl

/-! ## An engine that has exited -/

open Rehearsal

/-- An engine that answers the version query, running or not. -/
def namedChannel (name : String) (dead : Bool) : ScriptedChannel where
  name := name
  capacity := 1024
  version := .ok (Text.CodePage.ofText ("2 286 \"" ++ name ++ "\""))
  dead := dead
  openError := none
  directory := none
  replies := []
  lockErrors := []

/-- One engine has exited and has left its buffer behind, another one is running. -/
def staleStage : Stage where
  channels := [namedChannel "Creatures 3" true, namedChannel "Docking Station" false]

/-- Looks for the engine that has exited. -/
def staleFinder : Finder StageOpener :=
  ⟨⟨[0, 1]⟩, ["Creatures 3"]⟩

/-- The buffer that was left behind makes the search fail before the other engine is looked
for. -/
theorem first_buffer_decides_staleStage :
    (∃ opened, Opens staleFinder.opener staleFinder.names staleStage (⟨0⟩ : ChannelAt) opened ∧
      Greets (⟨0⟩ : ChannelAt) opened (.error (.transport .engineExited))) ∧
    ((Connector.discover ({ staleFinder with
        names := staleFinder.names ++ ["Docking Station"] } : Finder StageOpener)
      Policy.start).run staleStage).1.1 = .error (.transport .engineExited) := by
  have opens : Opens staleFinder.opener staleFinder.names staleStage (⟨0⟩ : ChannelAt)
      { staleStage with calls := [.openChannel "Creatures 3"] } := .here rfl
  have exited : Greets (⟨0⟩ : ChannelAt) { staleStage with calls := [.openChannel "Creatures 3"] }
      (.error (.transport .engineExited)) := .silent (.exited rfl)
  exact ⟨⟨_, opens, exited⟩,
    (first_buffer_decides staleFinder .start staleStage).2.2 _ _ _ _ opens exited⟩

/-- A search for the running engine alone finds it. -/
theorem running_engine_found :
    ∃ session, ((attachFirst (⟨[0, 1]⟩ : StageOpener) ["Docking Station"]).run
      staleStage).1 = .ok (some session) := by
  have found : ((attachFirst (⟨[0, 1]⟩ : StageOpener) ["Docking Station"]).run
      staleStage).1.toOption.join.isSome = true := by
    decide +kernel
  rcases attempt : ((attachFirst (⟨[0, 1]⟩ : StageOpener) ["Docking Station"]).run
      staleStage).1 with error | _ | session
  · rw [attempt] at found
    cases found
  · rw [attempt] at found
    cases found
  · exact ⟨session, rfl⟩

/-- An engine that is running and says its version may stay unfound, because a name before
its own leads to a buffer that was left behind. -/
theorem not_every_running_engine_found :
    ¬ ∀ (finder : Finder StageOpener) (stage : Stage),
      (∃ name ∈ finder.names, ∃ session,
        ((attachFirst finder.opener [name]).run stage).1 = .ok (some session)) →
      ∃ session, ((Connector.discover finder Policy.start).run stage).1.1 =
        .ok (some session) := by
  intro every
  obtain ⟨session, found⟩ := every ⟨⟨[0, 1]⟩, ["Creatures 3", "Docking Station"]⟩ staleStage
    ⟨"Docking Station", .tail _ (.head _), running_engine_found⟩
  have opens : Opens (⟨[0, 1]⟩ : StageOpener) ["Creatures 3", "Docking Station"] staleStage
      (⟨0⟩ : ChannelAt) { staleStage with calls := [.openChannel "Creatures 3"] } := .here rfl
  obtain ⟨link, failed⟩ := (Greets.silent (.exited rfl) : Greets (⟨0⟩ : ChannelAt)
    { staleStage with calls := [.openChannel "Creatures 3"] } _).run_attach
  have attempt : ((attachFirst (⟨[0, 1]⟩ : StageOpener)
      ["Creatures 3", "Docking Station"]).run staleStage).1 = .ok (some session) := found
  rw [opens.run_attachFirst, failed] at attempt
  cases attempt

end EngineGateway.SharedBuffer
