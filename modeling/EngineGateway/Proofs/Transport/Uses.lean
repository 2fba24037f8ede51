import EngineGateway.Proofs.Engine.Calls

/-!
# Uses of a transport

A logged world is a world together with the calls that have been made in it.  What a
program does there is described by the calls that it adds, whatever the world makes of
them.  A transport is used again and again, to send units or to ask whether it is
closed, and each use has its own calls.
-/

namespace EngineGateway

/-- A world and the calls that have been made in it. -/
structure Logged (κ ω : Type) where
  world : ω
  calls : List κ

namespace Logged

variable {α β κ ω : Type}

/-- Act on the world and log calls. -/
def noting (action : StateM ω α) (calls : α → List κ) : StateM (Logged κ ω) α :=
  fun logged =>
    let (value, world) := action logged.world
    (value, ⟨world, logged.calls ++ calls value⟩)

/-- Wherever the program is run, it adds calls that fit its value. -/
def Makes (program : StateM (Logged κ ω) α) (fit : α → List κ → Prop) : Prop :=
  ∀ logged, ∃ calls, (program.run logged).2.calls = logged.calls ++ calls ∧
    fit (program.run logged).1 calls

namespace Makes

variable {program : StateM (Logged κ ω) α} {next : α → StateM (Logged κ ω) β}
variable {fit : α → List κ → Prop} {result : β → List κ → Prop}

theorem pure {value : α} (fits : fit value []) :
    Makes (Pure.pure value : StateM (Logged κ ω) α) fit := by
  intro logged
  exact ⟨[], (List.append_nil logged.calls).symm, fits⟩

theorem noting {action : StateM ω α} {calls : α → List κ}
    (fits : ∀ value, fit value (calls value)) : Makes (Logged.noting action calls) fit := by
  intro logged
  exact ⟨calls (action logged.world).1, rfl, fits _⟩

theorem bind (first : Makes program fit)
    (second : ∀ value calls, fit value calls →
      Makes (next value) fun final more => result final (calls ++ more)) :
    Makes (program >>= next) result := by
  intro logged
  rcases first logged with ⟨calls, added, fits⟩
  rcases second _ calls fits (program.run logged).2 with ⟨more, continued, fits⟩
  refine ⟨calls ++ more, ?_, fits⟩
  rw [run_bind, continued, added, List.append_assoc]

/-- A call, and what follows it. -/
theorem noting_bind {action : StateM ω α} {calls : α → List κ}
    (second : ∀ value, Makes (next value) fun final more => result final (calls value ++ more)) :
    Makes (Logged.noting action calls >>= next) result := by
  have noted : Makes (Logged.noting action calls) fun value made => made = calls value :=
    .noting fun _ => rfl
  refine noted.bind ?_
  rintro value _ rfl
  exact second value

/-- Looking at the world makes no calls. -/
theorem get_bind {next : Logged κ ω → StateM (Logged κ ω) β}
    (second : ∀ logged, Makes (next logged) result) : Makes (MonadState.get >>= next) result := by
  intro logged
  exact second logged logged

theorem weaken {other : α → List κ → Prop} (makes : Makes program fit)
    (weaker : ∀ value calls, fit value calls → other value calls) : Makes program other := by
  intro logged
  rcases makes logged with ⟨calls, added, fits⟩
  exact ⟨calls, added, weaker _ calls fits⟩

end Makes

/-- Logging makes no difference: wherever the program is run, it comes to the same value and
the same world without a log, and the calls that it adds fit the value. -/
def Mirrors (plain : StateM ω α) (logging : StateM (Logged κ ω) α)
    (fit : α → List κ → Prop) : Prop :=
  ∀ world calls, ∃ added, fit (plain.run world).1 added ∧
    logging.run ⟨world, calls⟩ = ((plain.run world).1, ⟨(plain.run world).2, calls ++ added⟩)

namespace Mirrors

variable {plain : StateM ω α} {logging : StateM (Logged κ ω) α}
variable {next : α → StateM ω β} {nextLogging : α → StateM (Logged κ ω) β}
variable {fit : α → List κ → Prop} {result : β → List κ → Prop}

theorem pure {value : α} (fits : fit value []) :
    Mirrors (Pure.pure value : StateM ω α) (Pure.pure value) fit := by
  intro world calls
  refine ⟨[], fits, ?_⟩
  rw [List.append_nil]
  rfl

theorem noting {action : StateM ω α} {calls : α → List κ}
    (fits : ∀ value, fit value (calls value)) :
    Mirrors action (Logged.noting action calls) fit := by
  intro world earlier
  exact ⟨calls (action.run world).1, fits _, rfl⟩

theorem bind (first : Mirrors plain logging fit)
    (second : ∀ value calls, fit value calls →
      Mirrors (next value) (nextLogging value) fun final more => result final (calls ++ more)) :
    Mirrors (plain >>= next) (logging >>= nextLogging) result := by
  intro world earlier
  obtain ⟨calls, fits, same⟩ := first world earlier
  obtain ⟨more, fits, continued⟩ :=
    second _ calls fits (plain.run world).2 (earlier ++ calls)
  refine ⟨calls ++ more, fits, ?_⟩
  rw [run_bind, same, continued, List.append_assoc]
  rfl

/-- A call, and what follows it. -/
theorem noting_bind {action : StateM ω α} {calls : α → List κ}
    (second : ∀ value, Mirrors (next value) (nextLogging value)
      fun final more => result final (calls value ++ more)) :
    Mirrors (action >>= next) (Logged.noting action calls >>= nextLogging) result := by
  have noted : Mirrors action (Logged.noting action calls) fun value made =>
      made = calls value := .noting fun _ => rfl
  refine noted.bind ?_
  rintro value _ rfl
  exact second value

theorem weaken {other : α → List κ → Prop} (mirrors : Mirrors plain logging fit)
    (weaker : ∀ value calls, fit value calls → other value calls) :
    Mirrors plain logging other := by
  intro world earlier
  obtain ⟨calls, fits, same⟩ := mirrors world earlier
  exact ⟨calls, weaker _ calls fits, same⟩

end Mirrors
end Logged

namespace Engine

variable {σ κ ω : Type}

/-- What a transport may be used for. -/
inductive Use where
  | send (units : List Bytes)
  /-- Whether it is closed. -/
  | check
  deriving DecidableEq

/-- What a use comes to. -/
inductive Outcome where
  | reply (reply : Except Fault Reply)
  | gone (gone : Bool)

def use [Transport σ ω] (transport : σ) : Use → StateM ω (Outcome × σ)
  | .send units => do
      let (reply, transport) ← Transport.sendUnits transport units
      return (.reply reply, transport)
  | .check => do
      let (gone, transport) ← Transport.isClosed transport
      return (.gone gone, transport)

/-- A use of a transport, and what came of it. -/
structure Usage (σ κ ω : Type) where
  before : σ
  use : Use
  outcome : Outcome
  /-- The calls that were made. -/
  calls : List κ
  after : σ
  worldAfter : ω

namespace Usage

/-- The use of a transport in a world. -/
def of [Transport σ (Logged κ ω)] (transport : σ) (world : ω) (use : Use) : Usage σ κ ω :=
  let program : StateM (Logged κ ω) (Outcome × σ) := Engine.use transport use
  let (answer, logged) := program.run ⟨world, []⟩
  { before := transport
    use := use
    outcome := answer.1
    calls := logged.calls
    after := answer.2
    worldAfter := logged.world }

section Fits

variable [Transport σ (Logged κ ω)] {transport : σ}

/-- What sending makes is what the use of a transport for sending makes. -/
theorem send_fits {units : List Bytes} {fit : Except Fault Reply × σ → List κ → Prop}
    (makes : Logged.Makes (Transport.sendUnits (ω := Logged κ ω) transport units) fit)
    (world : ω) :
    ∃ reply, (of transport world (.send units) : Usage σ κ ω).outcome = .reply reply ∧
      fit (reply, (of transport world (.send units) : Usage σ κ ω).after)
        (of transport world (.send units) : Usage σ κ ω).calls := by
  rcases makes ⟨world, []⟩ with ⟨calls, added, fits⟩
  refine ⟨_, rfl, ?_⟩
  rw [List.nil_append] at added
  rw [← added] at fits
  exact fits

theorem check_fits {fit : Bool × σ → List κ → Prop}
    (makes : Logged.Makes (ω := ω) (Transport.isClosed transport) fit) (world : ω) :
    ∃ gone, (of transport world .check : Usage σ κ ω).outcome = .gone gone ∧
      fit (gone, (of transport world .check : Usage σ κ ω).after)
        (of transport world .check : Usage σ κ ω).calls := by
  rcases makes ⟨world, []⟩ with ⟨calls, added, fits⟩
  refine ⟨_, rfl, ?_⟩
  rw [List.nil_append] at added
  rw [← added] at fits
  exact fits

end Fits

/-- Units that were sent met a fault that ends the connection. -/
def Fatal (usage : Usage σ κ ω) : Prop :=
  ∃ fault, usage.outcome = .reply (.error fault) ∧ fault.Ends

/-- The transport is closed: it fails to send, says so when it is asked, and makes no
calls for either. -/
def Shut (usage : Usage σ κ ω) : Prop :=
  usage.calls = [] ∧
    match usage.use with
    | .send _ => ∃ fault, usage.outcome = .reply (.error fault)
    | .check => usage.outcome = .gone true

end Usage

/-- The uses of a transport one after another.  Before each of them the world may
change. -/
def usages [Transport σ (Logged κ ω)] (transport : σ) (world : ω) :
    List ((ω → ω) × Use) → List (Usage σ κ ω)
  | [] => []
  | (change, use) :: rest =>
      let usage : Usage σ κ ω := .of transport (change world) use
      usage :: usages usage.after usage.worldAfter rest

variable [Transport σ (Logged κ ω)]

/-- Each of the uses is the use of some transport in some world. -/
theorem eq_of_mem_usages {transport : σ} {world : ω} {uses : List ((ω → ω) × Use)}
    {usage : Usage σ κ ω} (member : usage ∈ usages transport world uses) :
    ∃ earlier world, usage = .of earlier world usage.use := by
  induction uses generalizing transport world with
  | nil => cases member
  | cons first rest ih =>
      rcases first with ⟨change, use⟩
      rcases List.mem_cons.mp member with rfl | later
      · exact ⟨transport, change world, rfl⟩
      · exact ih later

/-- The transport turns down all units at once, and stays as it is. -/
structure Refuses (κ ω : Type) [Transport σ (Logged κ ω)] (transport : σ) : Prop where
  sends : ∃ fault, ∀ units,
    Transport.sendUnits (ω := Logged κ ω) transport units = pure (.error fault, transport)
  checks : Transport.isClosed (ω := Logged κ ω) transport = pure (true, transport)

theorem Refuses.shut {transport : σ} (refuses : Refuses κ ω transport) (world : ω) (use : Use) :
    (Usage.of transport world use : Usage σ κ ω).Shut ∧
      (Usage.of transport world use : Usage σ κ ω).after = transport := by
  rcases refuses with ⟨⟨fault, sends⟩, checks⟩
  cases use with
  | send units =>
      simp only [Usage.of, Engine.use, sends, run_bind, run_pure, Usage.Shut]
      exact ⟨⟨trivial, fault, rfl⟩, trivial⟩
  | check =>
      simp only [Usage.of, Engine.use, checks, run_bind, run_pure, Usage.Shut]
      exact ⟨⟨trivial, trivial⟩, trivial⟩

theorem Refuses.all_shut {transport : σ} (refuses : Refuses κ ω transport) (world : ω)
    (uses : List ((ω → ω) × Use)) :
    ∀ usage ∈ (usages transport world uses : List (Usage σ κ ω)), usage.Shut := by
  induction uses generalizing world with
  | nil =>
      intro usage member
      cases member
  | cons first rest ih =>
      rcases first with ⟨change, use⟩
      rcases refuses.shut (change world) use with ⟨shut, same⟩
      intro usage member
      rcases List.mem_cons.mp member with rfl | later
      · exact shut
      · rw [same] at later
        exact ih _ usage later

/-- A use that leaves the transport refusing shuts it for all later uses. -/
theorem shut_after {closes : Usage σ κ ω → Prop}
    (ends : ∀ transport world use, closes (.of transport world use) →
      Refuses κ ω (Usage.of transport world use : Usage σ κ ω).after)
    (transport : σ) (world : ω) (uses : List ((ω → ω) × Use)) :
    (usages transport world uses : List (Usage σ κ ω)).Pairwise fun earlier later =>
      closes earlier → later.Shut := by
  induction uses generalizing transport world with
  | nil => exact .nil
  | cons first rest ih =>
      rcases first with ⟨change, use⟩
      refine List.pairwise_cons.mpr ⟨?_, ih _ _⟩
      intro usage later closing
      exact (ends transport (change world) use closing).all_shut _ _ usage later

end Engine
end EngineGateway
