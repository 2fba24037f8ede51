import EngineGateway.Proofs.Engine.Delivery
import EngineGateway.Proofs.Transport.Uses
import EngineGateway.SharedBuffer.Channel

/-!
# Room for requests

A session plans the units of a script with the limit of its transport, the transport
puts a mark in front of them, and the channel writes them with a NUL behind.  The
limit leaves room for both, so what the session does not refuse fits into the buffer,
and what does not fit is refused before the mutex is asked for.
-/

namespace EngineGateway.SharedBuffer

open Engine Logged

/-- A call that a script leads to.  Requests are noted with the world in which they
are made. -/
inductive RoomCall (ω : Type) where
  | locked (outcome : Except Fault Unit)
  | asked (world : ω) (request : Bytes) (outcome : Except Fault Bytes)

variable {γ ω : Type}

instance [Channel γ ω] : Channel γ (Logged (RoomCall ω) ω) where
  lock channel := noting (Channel.lock channel) fun outcome => [.locked outcome]
  unlock channel := noting (Channel.unlock channel) fun _ => []
  capacity channel logged := Channel.capacity channel logged.world
  transact channel request := do
    let logged ← get
    noting (Channel.transact channel request) fun outcome =>
      [.asked logged.world request outcome]
  creatorAlive channel := noting (Channel.creatorAlive channel) fun _ => []
  workingDirectory channel := noting (Channel.workingDirectory channel) fun _ => []

variable [Channel γ ω]

/-- The call takes the mutex or fails to. -/
def RoomCall.IsLock (call : RoomCall ω) : Prop :=
  ∃ outcome, call = .locked outcome

/-- The call asks the engine to take one of the units. -/
def RoomCall.Carries (channel : γ) (units : List Bytes) (call : RoomCall ω) : Prop :=
  ∃ world, ∃ unit ∈ units,
    call = .asked world (request unit) ((Channel.transact channel (request unit)).run world).1

theorem RoomCall.Carries.tail {channel : γ} {unit : Bytes} {rest : List Bytes}
    {call : RoomCall ω} (carries : call.Carries channel rest) :
    call.Carries channel (unit :: rest) := by
  rcases carries with ⟨world, other, member, same⟩
  exact ⟨world, other, .tail _ member, same⟩

/-- A request is made once and comes to what the channel makes of it. -/
theorem transact_asks (channel : γ) (unit : Bytes) :
    Makes (ω := ω) (Channel.transact channel (request unit))
      fun _ (calls : List (RoomCall ω)) => ∀ call ∈ calls, call.Carries channel [unit] := by
  intro logged
  refine ⟨[.asked logged.world (request unit) _], rfl, ?_⟩
  exact List.forall_mem_singleton.mpr ⟨logged.world, unit, .head _, rfl⟩

theorem exchangeAll_asks (channel : γ) (units : List Bytes) :
    Makes (ω := ω) (Link.exchangeAll channel units)
      fun _ (calls : List (RoomCall ω)) => ∀ call ∈ calls, call.Carries channel units := by
  induction units with
  | nil => exact .pure (List.forall_mem_nil _)
  | cons unit rest ih =>
      refine (transact_asks channel unit).bind fun outcome calls requests => ?_
      have first : ∀ call ∈ calls, call.Carries channel (unit :: rest) := by
        intro call member
        rcases requests call member with ⟨world, other, same, asked⟩
        rw [List.mem_singleton.mp same] at asked
        exact ⟨world, unit, .head _, asked⟩
      cases outcome with
      | error fault =>
          refine .pure ?_
          rw [List.append_nil]
          exact first
      | ok reply =>
          refine Makes.bind ih fun _ more others => .pure ?_
          rw [List.append_nil]
          intro call member
          rcases List.mem_append.mp member with now | later
          · exact first call now
          · exact (others call later).tail

/-- Sending units asks for the mutex and makes requests for the units, and does nothing
else that depends on the room. -/
theorem sendUnits_asks (link : Link γ) (units : List Bytes) :
    Makes (ω := ω) (link.sendUnits units)
      fun _ (calls : List (RoomCall ω)) =>
        ∀ call ∈ calls, call.IsLock ∨ call.Carries link.channel units := by
  have checked : Makes (ω := ω) link.isClosed fun result (calls : List (RoomCall ω)) =>
      calls = [] ∧ result.2.channel = link.channel := by
    unfold Link.isClosed
    split_ifs
    · exact .pure ⟨rfl, rfl⟩
    · exact .noting_bind fun _ => .pure ⟨rfl, rfl⟩
  refine checked.bind ?_
  rintro ⟨gone, checked⟩ _ ⟨rfl, same⟩
  simp only
  split_ifs
  · exact .pure (List.forall_mem_nil _)
  · exact .pure (List.forall_mem_nil _)
  · refine Makes.noting_bind fun outcome => ?_
    have locks : ∀ {calls : List (RoomCall ω)},
        (∀ call ∈ calls, call.Carries link.channel units) →
        ∀ call ∈ [.locked outcome] ++ calls, call.IsLock ∨ call.Carries link.channel units := by
      intro calls requests call member
      rcases List.mem_cons.mp member with rfl | later
      · exact .inl ⟨outcome, rfl⟩
      · exact .inr (requests call later)
    cases outcome with
    | error fault => exact .pure (locks (List.forall_mem_nil _))
    | ok _ =>
        rw [same]
        refine Makes.bind (exchangeAll_asks link.channel units) fun result calls requests => ?_
        refine Makes.noting_bind fun _ => ?_
        have all := locks requests
        cases result with
        | ok reply =>
            refine .pure ?_
            simpa using all
        | error fault =>
            refine .pure ?_
            simpa using all

/-! ## Sessions -/

/-- A look at the room of the buffer leaves the world as it is. -/
theorem limited_eq (session : Session (Link γ)) (world : ω) : session.limited world = world :=
  rfl

/-- The calls that a script leads to. -/
def roomCalls (session : Session (Link γ)) (text : String) (world : ω) : List (RoomCall ω) :=
  let program : StateM (Logged (RoomCall ω) ω) (Response × Session (Link γ)) :=
    session.send text
  (program.run ⟨world, []⟩).2.calls

/-- A request is shorter than the room that the limit was taken from. -/
theorem request_lt {unit : Bytes} {room : Nat} (something : unit ≠ [])
    (within : unit.length ≤ room - (Script.executeMark.length + 1)) :
    (request unit).length < room := by
  have filled : 0 < unit.length := List.length_pos_iff.mpr something
  have mark : Script.executeMark.length = 8 := rfl
  unfold request
  split_ifs
  · omega
  · rw [List.length_append]
    omega

variable {session : Session (Link γ)} {text : String} {world : ω}

/-- Nothing is called for a script that is refused. -/
theorem roomCalls_of_refused (going : session.closed = false) {fault : Fault}
    (plan : session.plan text world = .error fault) : roomCalls session text world = [] := by
  have noted : session.plan text (⟨world, []⟩ : Logged (RoomCall ω) ω) = .error fault := plan
  simp only [roomCalls, (Session.send_of_refused going noted).2, limited_eq]

/-- A script leads to no calls, or to calls for the units that it is planned as. -/
theorem roomCalls_cases (session : Session (Link γ)) (text : String) (world : ω) :
    roomCalls session text world = [] ∨
      ∃ units, session.plan text world = .ok units ∧
        ∀ call ∈ roomCalls session text world,
          call.IsLock ∨ call.Carries session.transport.channel units := by
  cases state : session.closed with
  | true =>
      left
      simp only [roomCalls, (Session.send_of_ended state).2]
  | false =>
      cases plan : session.plan text world with
      | error fault => exact .inl (roomCalls_of_refused state plan)
      | ok units =>
          have noted : session.plan text (⟨world, []⟩ : Logged (RoomCall ω) ω) = .ok units := plan
          by_cases filled : units = []
          · subst filled
            left
            simp only [roomCalls, (Session.send_of_nothing state noted).2]
          · right
            refine ⟨units, rfl, ?_⟩
            rcases sendUnits_asks (ω := ω) session.transport units ⟨world, []⟩ with
              ⟨calls, added, asks⟩
            rw [List.nil_append] at added
            have same : roomCalls session text world = calls := by
              simp only [roomCalls, (Session.send_of_units state noted filled).2, limited_eq]
              exact added
            rw [same]
            exact asks

/-- Every request is shorter than the room that the buffer has when a script is sent. -/
theorem asked_lt {earlier : ω} {asked : Bytes} {outcome : Except Fault Bytes}
    (member : .asked earlier asked outcome ∈ roomCalls session text world) :
    asked.length < Channel.capacity session.transport.channel world ∧
      outcome = ((Channel.transact session.transport.channel asked).run earlier).1 := by
  rcases roomCalls_cases session text world with silent | ⟨units, plan, asks⟩
  · rw [silent] at member
    cases member
  · rcases asks _ member with ⟨_, other⟩ | ⟨moment, unit, planned, same⟩
    · cases other
    · cases same
      have carries : Carries (some (session.transport.unitLimit world))
          (scriptBytes session.identity text) units := by
        apply Planned.carries
        rw [← plan]
        exact session.planned text world
      exact ⟨request_lt (carries.filled unit planned) (carries.within _ rfl unit planned), rfl⟩

/-- A script with a part over the limit that cannot be split is refused by the session
itself, which tells the first unit over the limit and stays as it is. -/
theorem overlong_refused (going : session.closed = false)
    (long : Overlong (some (session.transport.unitLimit world))
      (scriptBytes session.identity text)) :
    roomCalls session text world = [] ∧
      ∃ unit, FirstOver (session.transport.unitLimit world)
          (scriptBytes session.identity text) unit ∧
        ((session.send text).run world).1 =
          (.error (Fault.tooLong unit.length (session.transport.unitLimit world)).message,
            session) := by
  have planned : Planned (some (session.transport.unitLimit world))
      (scriptBytes session.identity text) (session.plan text world) := session.planned text world
  obtain ⟨fault, plan⟩ := (planned.overlong_iff (Overlong.ne_nil long)).mpr long
  rw [plan] at planned
  obtain ⟨bound, unit, limited, first, rfl⟩ := planned.firstOver
  cases limited
  refine ⟨roomCalls_of_refused going plan, unit, first, ?_⟩
  rw [(Session.send_of_refused going plan).2]

end EngineGateway.SharedBuffer
