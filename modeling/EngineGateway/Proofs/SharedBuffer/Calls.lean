import EngineGateway.Proofs.Transport.Uses
import EngineGateway.SharedBuffer.Channel

/-!
# The calls to a shared buffer

Sending asks first whether the process that made the buffer is still running.  If so,
and if there is something to send, the mutex is taken, requests are made, and the mutex
is given back.  All ways that this can go are listed here.
-/

namespace EngineGateway.SharedBuffer

open Engine Logged

/-- A call to a channel, with what it came to. -/
inductive Call where
  | lock (outcome : Except Fault Unit)
  | unlock
  | transact (request : Bytes) (outcome : Except Fault Bytes)
  | alive (alive : Bool)
  | directory (found : Option String)

variable {γ ω : Type}

instance [Channel γ ω] : Channel γ (Logged Call ω) where
  lock channel := noting (Channel.lock channel) fun outcome => [.lock outcome]
  unlock channel := noting (Channel.unlock channel) fun _ => [.unlock]
  capacity channel logged := Channel.capacity channel logged.world
  transact channel request :=
    noting (Channel.transact channel request) fun outcome => [.transact request outcome]
  creatorAlive channel := noting (Channel.creatorAlive channel) fun alive => [.alive alive]
  workingDirectory channel :=
    noting (Channel.workingDirectory channel) fun found => [.directory found]

/-- A request to the engine. -/
def Call.IsExchange (call : Call) : Prop :=
  ∃ request outcome, call = .transact request outcome

/-- A look whether the process is running. -/
def Call.IsCheck (call : Call) : Prop :=
  ∃ alive, call = .alive alive

/-- What is called when units are exchanged. -/
theorem mem_exchange {call : Call} {exchanges : List Call}
    (requests : ∀ call ∈ exchanges, call.IsExchange)
    (member : call ∈ .alive true :: .lock (.ok ()) :: exchanges ++ [.unlock]) :
    call = .alive true ∨ call = .lock (.ok ()) ∨ call.IsExchange ∨ call = .unlock := by
  rcases List.mem_append.mp member with before | last
  · rcases List.mem_cons.mp before with check | later
    · exact .inl check
    · rcases List.mem_cons.mp later with taken | exchange
      · exact .inr (.inl taken)
      · exact .inr (.inr (.inl (requests call exchange)))
  · exact .inr (.inr (.inr (List.mem_singleton.mp last)))

namespace Link

/-- What checking a link comes to, and which calls it makes. -/
inductive Checks (link : Link γ) : Bool × Link γ → List Call → Prop where
  | closed : link.closed = true → Checks link (true, link) []
  | running : link.closed = false → Checks link (false, link) [.alive true]
  | exited :
      link.closed = false → Checks link (true, { link with closed := true }) [.alive false]

/-- What sending units comes to, and which calls it makes. -/
inductive Sends (link : Link γ) (units : List Bytes) :
    Except Fault Reply × Link γ → List Call → Prop where
  | closed : link.closed = true → Sends link units (.error .engineExited, link) []
  | exited :
      link.closed = false →
      Sends link units (.error .engineExited, { link with closed := true }) [.alive false]
  | nothing :
      link.closed = false → units.all List.isEmpty = true →
      Sends link units (.ok (.text []), link) [.alive true]
  | refused {fault : Fault} :
      link.closed = false → units.all List.isEmpty = false →
      Sends link units (.error fault, link) [.alive true, .lock (.error fault)]
  | replied {reply : Bytes} {exchanges : List Call} :
      link.closed = false → units.all List.isEmpty = false →
      (∀ call ∈ exchanges, call.IsExchange) →
      Sends link units (.ok (.text reply), link)
        (.alive true :: .lock (.ok ()) :: exchanges ++ [.unlock])
  | failed {fault : Fault} {exchanges : List Call} :
      link.closed = false → units.all List.isEmpty = false →
      (∀ call ∈ exchanges, call.IsExchange) →
      Sends link units (.error fault, { link with closed := link.closed || fault.isFatal })
        (.alive true :: .lock (.ok ()) :: exchanges ++ [.unlock])

variable [Channel γ ω]

theorem makes_isClosed (link : Link γ) :
    Makes (ω := ω) (link.isClosed) link.Checks := by
  rcases link with ⟨channel, closed⟩
  cases closed with
  | true => exact .pure (.closed rfl)
  | false =>
      refine Makes.noting_bind fun alive => ?_
      cases alive with
      | true => exact .pure (.running rfl)
      | false => exact .pure (.exited rfl)

/-- Exchanging units only makes requests. -/
theorem makes_exchangeAll (channel : γ) (units : List Bytes) :
    Makes (ω := ω) (exchangeAll channel units) fun _ (calls : List Call) =>
      ∀ call ∈ calls, call.IsExchange := by
  induction units with
  | nil => exact .pure (List.forall_mem_nil _)
  | cons unit rest ih =>
      refine Makes.noting_bind fun outcome => ?_
      have first : ∀ {more : List Call}, (∀ call ∈ more, call.IsExchange) →
          ∀ call ∈ [.transact (request unit) outcome] ++ more, call.IsExchange := by
        intro more others
        exact List.forall_mem_cons.mpr ⟨⟨_, _, rfl⟩, others⟩
      cases outcome with
      | error fault => exact .pure (first (List.forall_mem_nil _))
      | ok reply =>
          refine Makes.bind ih fun _ calls others => .pure ?_
          rw [List.append_nil]
          exact first others

theorem makes_sendUnits (link : Link γ) (units : List Bytes) :
    Makes (ω := ω) (link.sendUnits units) (link.Sends units) := by
  refine Makes.bind link.makes_isClosed ?_
  rintro ⟨gone, checked⟩ calls checks
  cases checks with
  | closed closed => exact .pure (.closed closed)
  | exited going => exact .pure (.exited going)
  | running going =>
      simp only [Bool.false_eq_true, if_false]
      split_ifs with empty
      · exact .pure (.nothing going empty)
      · have something : units.all List.isEmpty = false := Bool.not_eq_true _ ▸ empty
        refine Makes.noting_bind fun outcome => ?_
        cases outcome with
        | error fault => exact .pure (.refused going something)
        | ok _ =>
            refine Makes.bind (makes_exchangeAll link.channel units) fun result calls requests => ?_
            refine Makes.noting_bind fun _ => ?_
            cases result with
            | ok reply => exact .pure (.replied going something requests)
            | error fault => exact .pure (.failed going something requests)

end Link

/-- A use of a link to a shared buffer. -/
abbrev LinkUsage (γ ω : Type) : Type :=
  Usage (Link γ) Call ω

section Usage

variable [Channel γ ω] (link : Link γ) (world : ω)

theorem usage_send (units : List Bytes) :
    ∃ reply, (Usage.of link world (.send units) : LinkUsage γ ω).outcome = .reply reply ∧
      link.Sends units (reply, (Usage.of link world (.send units) : LinkUsage γ ω).after)
        (Usage.of link world (.send units) : LinkUsage γ ω).calls := by
  have makes : Makes (Transport.sendUnits (ω := Logged Call ω) link units) (link.Sends units) :=
    link.makes_sendUnits units
  exact Usage.send_fits makes world

theorem usage_check :
    ∃ gone, (Usage.of link world .check : LinkUsage γ ω).outcome = .gone gone ∧
      link.Checks (gone, (Usage.of link world .check : LinkUsage γ ω).after)
        (Usage.of link world .check : LinkUsage γ ω).calls := by
  have makes : Makes (Transport.isClosed (ω := Logged Call ω) link) link.Checks :=
    link.makes_isClosed
  exact Usage.check_fits makes world

end Usage
end EngineGateway.SharedBuffer
