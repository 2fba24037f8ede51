import EngineGateway.Proofs.SharedBuffer.Bracket
import EngineGateway.Windows.Memory

/-!
# The mutex of a shared buffer

The mutex of an engine is taken by a wait for it that succeeds, also when the one who
held it has ended, and it is held until it is released.  It is followed here through
everything that is asked of the system.  Whatever the waits come to, a link never holds
the mutex between two uses, and never releases it without holding it.
-/

namespace EngineGateway.Windows

open Engine SharedBuffer Logged

/-- What the system is asked about mutexes. -/
inductive MutexCall where
  | waited (objects : List Handle) (outcome : Nat)
  | released (mutex : Handle)
  deriving DecidableEq

variable {ω : Type}

instance [Memory ω] : Memory (Logged MutexCall ω) where
  openProcess process := noting (Processes.openProcess process) fun _ => []
  exitCode process := noting (Processes.exitCode process) fun _ => []
  modulePath process limit := noting (Processes.modulePath process limit) fun _ => []
  close handle := noting (Processes.close handle) fun _ => []
  openMapping name := noting (Memory.openMapping name) fun _ => []
  mapView mapping := noting (Memory.mapView mapping) fun _ => []
  unmapView view := noting (Memory.unmapView view) fun _ => []
  openMutex name := noting (Memory.openMutex name) fun _ => []
  openEvent name := noting (Memory.openEvent name) fun _ => []
  image view logged := Memory.image view logged.world
  setImage view image := noting (Memory.setImage view image) fun _ => []
  waitFor objects time :=
    noting (Memory.waitFor objects time) fun outcome => [.waited objects outcome]
  releaseMutex mutex := noting (Memory.releaseMutex mutex) fun _ => [.released mutex]
  resetEvent event := noting (Memory.resetEvent event) fun _ => []
  pulseEvent event := noting (Memory.pulseEvent event) fun _ => []
  lastError := noting Memory.lastError fun _ => []

/-! ## Following the mutex -/

/-- The call takes the mutex. -/
def MutexCall.takes (mutex : Handle) : MutexCall → Bool
  | .waited objects outcome =>
      objects == [mutex] && (outcome == signalled || outcome == abandoned)
  | .released _ => false

/-- Whether the mutex is held after calls, if it was or was not held before them.  There is
no answer if it has been taken while it was held, or released while it was not. -/
def follow (mutex : Handle) : Bool → List MutexCall → Option Bool
  | held, [] => some held
  | held, call :: rest =>
      if call.takes mutex then
        if held then none else follow mutex true rest
      else if call = .released mutex then
        if held then follow mutex false rest else none
      else follow mutex held rest

section Follow

variable {mutex : Handle} {held : Bool} {first second : List MutexCall}

theorem follow_append (mutex : Handle) (held : Bool) (first second : List MutexCall) :
    follow mutex held (first ++ second) =
      (follow mutex held first).bind fun held => follow mutex held second := by
  induction first generalizing held with
  | nil => rfl
  | cons call rest ih =>
      simp only [List.cons_append, follow]
      split_ifs
      · rfl
      · exact ih true
      · exact ih false
      · rfl
      · exact ih held

/-- A wait for something else. -/
def MutexCall.IsWaitForResult (call : MutexCall) : Prop :=
  ∃ process result outcome, call = .waited [process, result] outcome

theorem follow_of_waits (waits : ∀ call ∈ first, call.IsWaitForResult) :
    follow mutex held first = some held := by
  induction first with
  | nil => rfl
  | cons call rest ih =>
      rcases waits call (.head _) with ⟨process, result, outcome, rfl⟩
      have others := ih fun other member => waits other (.tail _ member)
      simpa [follow, MutexCall.takes] using others

end Follow

/-! ## Single operations -/

namespace Buffer

/-- What taking the mutex comes to, and which calls it makes. -/
inductive Locks (buffer : Buffer) : Except Fault Unit → List MutexCall → Prop where
  | taken : Locks buffer (.ok ()) [.waited [buffer.mutex] signalled]
  | abandoned {fault : Fault} :
      Locks buffer (.error fault)
        [.waited [buffer.mutex] Windows.abandoned, .released buffer.mutex]
  | missed {fault : Fault} {outcome : Nat} :
      outcome ≠ signalled → outcome ≠ Windows.abandoned →
      Locks buffer (.error fault) [.waited [buffer.mutex] outcome]

/-- The mutex is held exactly if taking it succeeds. -/
theorem Locks.follow {buffer : Buffer} {outcome : Except Fault Unit} {calls : List MutexCall}
    (locks : buffer.Locks outcome calls) :
    Windows.follow buffer.mutex false calls = some outcome.isOk := by
  cases locks with
  | taken => simp [Windows.follow, MutexCall.takes, Except.isOk, Except.toBool]
  | abandoned => simp [Windows.follow, MutexCall.takes, Except.isOk, Except.toBool]
  | missed free left =>
      simp [Windows.follow, MutexCall.takes, free, left, Except.isOk, Except.toBool]

variable [Memory ω]

theorem makes_creatorAlive (buffer : Buffer) :
    Makes (ω := ω) buffer.creatorAlive fun _ (calls : List MutexCall) => calls = [] := by
  unfold creatorAlive
  cases buffer.process with
  | none => exact .pure rfl
  | some process => exact .noting_bind fun _ => .pure rfl

theorem makes_lock (buffer : Buffer) : Makes (ω := ω) buffer.lock buffer.Locks := by
  refine Makes.noting_bind fun outcome => ?_
  split_ifs with free left failed
  · rw [free]
    exact .pure .taken
  · rw [left]
    exact .noting_bind fun _ => .pure .abandoned
  · exact .noting_bind fun _ => .pure (.missed free left)
  · refine Makes.bind buffer.makes_creatorAlive ?_
    rintro alive _ rfl
    cases alive with
    | true => exact .pure (.missed free left)
    | false => exact .pure (.missed free left)

theorem makes_awaitResult (buffer : Buffer) (process : Handle) (times : Nat) :
    Makes (ω := ω) (buffer.awaitResult process times) fun _ (calls : List MutexCall) =>
      ∀ call ∈ calls, call.IsWaitForResult := by
  induction times with
  | zero => exact .pure (List.forall_mem_nil _)
  | succ times ih =>
      refine Makes.noting_bind fun outcome => ?_
      have wait : ∀ {more : List MutexCall}, (∀ call ∈ more, call.IsWaitForResult) →
          ∀ call ∈ [.waited [process, buffer.result] outcome] ++ more,
            call.IsWaitForResult := by
        intro more others
        exact List.forall_mem_cons.mpr ⟨⟨process, buffer.result, outcome, rfl⟩, others⟩
      split_ifs
      · exact .pure (wait (List.forall_mem_nil _))
      · exact .pure (wait (List.forall_mem_nil _))
      · exact ih.weaken fun _ _ others => wait others
      · exact .noting_bind fun _ => .pure (wait (List.forall_mem_nil _))

theorem makes_transact (buffer : Buffer) (request : Bytes) :
    Makes (ω := ω) (buffer.transact request) fun _ (calls : List MutexCall) =>
      ∀ call ∈ calls, call.IsWaitForResult := by
  have nothing : ∀ call ∈ ([] : List MutexCall), call.IsWaitForResult := List.forall_mem_nil _
  refine Makes.get_bind fun logged => ?_
  simp only
  split_ifs
  · exact .pure nothing
  · refine Makes.noting_bind fun _ => Makes.noting_bind fun _ => Makes.noting_bind fun _ => ?_
    cases buffer.process with
    | none => exact .pure nothing
    | some process =>
        refine Makes.bind (buffer.makes_awaitResult process waitCount) fun outcome calls waits => ?_
        have same : ([] ++ ([] ++ ([] ++ (calls ++ [])))) = calls := List.append_nil calls
        cases outcome with
        | error fault =>
            refine .pure ?_
            rw [same]
            exact waits
        | ok _ =>
            refine Makes.get_bind fun after => .pure ?_
            rw [same]
            exact waits

end Buffer

/-! ## Links -/

section Link

variable [Memory ω]

/-- What a use of a link keeps: the mutex is free again, and the buffer is the same. -/
def Frees (link : Link Buffer) {α : Type} (result : α × Link Buffer)
    (calls : List MutexCall) : Prop :=
  follow link.channel.mutex false calls = some false ∧ result.2.channel = link.channel

theorem makes_isClosed (link : Link Buffer) :
    Makes (ω := ω) link.isClosed fun result (calls : List MutexCall) =>
      calls = [] ∧ result.2.channel = link.channel := by
  unfold Link.isClosed
  split_ifs
  · exact .pure ⟨rfl, rfl⟩
  · refine Makes.bind link.channel.makes_creatorAlive ?_
    rintro alive _ rfl
    exact .pure ⟨rfl, rfl⟩

theorem makes_exchangeAll (buffer : Buffer) (units : List Bytes) :
    Makes (ω := ω) (Link.exchangeAll buffer units) fun _ (calls : List MutexCall) =>
      ∀ call ∈ calls, call.IsWaitForResult := by
  induction units with
  | nil => exact .pure (List.forall_mem_nil _)
  | cons unit rest ih =>
      refine Makes.bind (buffer.makes_transact (request unit)) fun outcome calls waits => ?_
      cases outcome with
      | error fault =>
          refine .pure ?_
          rw [List.append_nil]
          exact waits
      | ok reply =>
          refine Makes.bind ih fun _ more others => .pure ?_
          rw [List.append_nil]
          exact List.forall_mem_append.mpr ⟨waits, others⟩

/-- Exchanges between taking the mutex and giving it back. -/
theorem follow_held {mutex : Handle} {waits : List MutexCall}
    (exchanges : ∀ call ∈ waits, call.IsWaitForResult) :
    follow mutex false (.waited [mutex] signalled :: (waits ++ [.released mutex])) =
      some false := by
  have taken : follow mutex false (.waited [mutex] signalled :: (waits ++ [.released mutex])) =
      follow mutex true (waits ++ [.released mutex]) := by
    simp [follow, MutexCall.takes]
  rw [taken, follow_append, follow_of_waits exchanges]
  simp [follow, MutexCall.takes]

theorem makes_sendUnits (link : Link Buffer) (units : List Bytes) :
    Makes (ω := ω) (link.sendUnits units) (Frees link) := by
  refine Makes.bind (makes_isClosed link) ?_
  rintro ⟨gone, checked⟩ _ ⟨rfl, same⟩
  simp only
  split_ifs
  · exact .pure ⟨rfl, same⟩
  · exact .pure ⟨rfl, same⟩
  · refine Makes.bind checked.channel.makes_lock fun outcome calls locks => ?_
    cases outcome with
    | error fault =>
        refine .pure ⟨?_, same⟩
        rw [List.nil_append, List.append_nil, ← same]
        exact locks.follow
    | ok _ =>
        refine Makes.bind (makes_exchangeAll checked.channel units) fun result waits exchanges => ?_
        refine Makes.noting_bind fun _ => ?_
        have free : follow link.channel.mutex false
            ([] ++ (calls ++ (waits ++ ([.released checked.channel.mutex] ++ [])))) =
              some false := by
          cases locks
          rw [← same]
          exact follow_held exchanges
        cases result with
        | ok reply => exact .pure ⟨free, same⟩
        | error fault => exact .pure ⟨free, same⟩

theorem frees_of_use (link : Link Buffer) (world : ω) (use : Use) :
    let usage : Usage (Link Buffer) MutexCall ω := .of link world use
    follow link.channel.mutex false usage.calls = some false ∧
      usage.after.channel = link.channel := by
  intro usage
  cases use with
  | send units =>
      have makes : Makes (Transport.sendUnits (ω := Logged MutexCall ω) link units)
          (Frees link) := makes_sendUnits link units
      rcases Usage.send_fits makes world with ⟨reply, _, frees⟩
      exact frees
  | check =>
      have makes : Makes (Transport.isClosed (ω := Logged MutexCall ω) link) fun result calls =>
          calls = [] ∧ result.2.channel = link.channel := makes_isClosed link
      rcases Usage.check_fits makes world with ⟨gone, _, nothing, same⟩
      refine ⟨?_, same⟩
      show follow link.channel.mutex false usage.calls = some false
      rw [nothing]
      rfl

theorem follow_usages (link : Link Buffer) (world : ω) (uses : List ((ω → ω) × Use)) :
    follow link.channel.mutex false
      ((usages link world uses : List (Usage (Link Buffer) MutexCall ω)).flatMap Usage.calls) =
        some false := by
  induction uses generalizing link world with
  | nil => rfl
  | cons first rest ih =>
      rcases first with ⟨change, use⟩
      rcases frees_of_use link (change world) use with ⟨free, same⟩
      let usage : Usage (Link Buffer) MutexCall ω := .of link (change world) use
      have later := ih usage.after usage.worldAfter
      rw [same] at later
      simp only [usages, List.flatMap_cons]
      rw [follow_append, free]
      exact later

end Link

/-- The mutex of an engine is held for the requests and for nothing else.  Whatever the
calls to a channel come to, each use of a link makes its requests after the mutex has been
taken and gives it back once after them; if the mutex cannot be taken nothing follows, and
it is left alone exactly if the link is closed or has nothing to send.  Whatever waiting for
the mutex comes to, an attempt to take it that fails leaves it free, an abandoned mutex is
given back once, and no sequence of uses leaves it held or gives it back unheld. -/
theorem mutex_given_back :
    (∀ {γ ω : Type} [Channel γ ω] (link : Link γ) (world : ω) (uses : List ((ω → ω) × Use)),
      ∀ usage ∈ (usages link world uses : List (LinkUsage γ ω)),
        Bracketed usage.calls ∧ (Idle usage ↔ ∀ call ∈ usage.calls, call.IsCheck)) ∧
    (∀ {ω : Type} [Memory ω] (buffer : Buffer),
      Makes (ω := ω) buffer.lock fun outcome calls =>
        buffer.Locks outcome calls ∧ follow buffer.mutex false calls = some outcome.isOk) ∧
    (∀ {ω : Type} [Memory ω] (link : Link Buffer) (world : ω) (uses : List ((ω → ω) × Use)),
      follow link.channel.mutex false
        ((usages link world uses : List (Usage (Link Buffer) MutexCall ω)).flatMap
          Usage.calls) = some false) := by
  refine ⟨?_, ?_, ?_⟩
  · intro γ ω _ link world uses usage member
    exact bracketed_of_usages member
  · intro ω _ buffer
    exact buffer.makes_lock.weaken fun _ _ locks => ⟨locks, locks.follow⟩
  · intro ω _ link world uses
    exact follow_usages link world uses

end EngineGateway.Windows
