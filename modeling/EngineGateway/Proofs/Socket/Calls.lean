import EngineGateway.Proofs.Socket.Writing
import EngineGateway.Rehearsal.Machine

/-!
# The calls to a scripting socket

Every unit of a message goes over a connection of its own.  Once all of it has been taken, the
reply is read up to the first read that comes back short.  A read that stalls is made once
more, and what has been read before stays read.  The first unit that fails ends the message:
no connection is opened for the units behind it, and nothing is returned of what the units
before it have brought.
-/

namespace EngineGateway.Socket

open Engine Logged

variable {κ ω : Type}

/-! ## Reads -/

namespace ReadOutcome

/-- The read timed out or would have blocked. -/
def Stalls : ReadOutcome → Prop
  | .data _ => False
  | .failed error =>
      Fault.ofSystemError error = .timeout ∨ Fault.ofSystemError error = .wouldBlock

/-- What the outcome is to the one who reads. -/
def result : ReadOutcome → Except Fault Bytes
  | .data content => .ok content
  | .failed error => .error (readFault error)

end ReadOutcome

/-- The outcomes that a read uses up, and its result.  A read that stalls is made once more, and
then counts as it is. -/
inductive ReadsOnce : List ReadOutcome → Except Fault Bytes → Prop where
  | once {outcome : ReadOutcome} : ¬ outcome.Stalls → ReadsOnce [outcome] outcome.result
  | again {first second : ReadOutcome} :
      first.Stalls → ReadsOnce [first, second] second.result

/-- The outcomes that the reads of a reply use up, and its result.  A reply is read up to the
first read that is shorter than it could have been. -/
inductive ReadsReply : List ReadOutcome → Except Fault Bytes → Prop where
  | last {used : List ReadOutcome} {content : Bytes} :
      ReadsOnce used (.ok content) → content.length < Script.receiveSize →
      ReadsReply used (.ok content)
  | more {used later : List ReadOutcome} {content : Bytes} {result : Except Fault Bytes} :
      ReadsOnce used (.ok content) → Script.receiveSize ≤ content.length →
      ReadsReply later result → ReadsReply (used ++ later) (result.map (content ++ ·))
  | failed {used : List ReadOutcome} {fault : Fault} :
      ReadsOnce used (.error fault) → ReadsReply used (.error fault)

/-- Only a read that stalls can be made again. -/
theorem spend?_readFault (error : SystemError) :
    ((ReadOutcome.failed error).Stalls ∧
      Budget.full.spend? (readFault error) = some ⟨maxTransientRetries, 0⟩) ∨
    (¬ (ReadOutcome.failed error).Stalls ∧ Budget.full.spend? (readFault error) = none) := by
  cases met : Fault.ofSystemError error <;>
    simp [ReadOutcome.Stalls, readFault, met, Budget.spend?, Fault.faultClass, Budget.full]

/-- A read that has been made again is not made a third time. -/
theorem spend?_readFault_again (error : SystemError) :
    (Budget.mk maxTransientRetries 0).spend? (readFault error) = none := by
  cases met : Fault.ofSystemError error <;>
    simp [readFault, met, Budget.spend?, Fault.faultClass]

section Attempts

variable {budget : Budget} {incoming rest : List ReadOutcome} {result : Except Fault Bytes}

theorem retryWithin_nil : retryWithin budget readOnce [] = (.ok [], []) :=
  retryWithin_of_ok rfl

theorem retryWithin_data (content : Bytes) :
    retryWithin budget readOnce (.data content :: rest) = (.ok content, rest) :=
  retryWithin_of_ok rfl

theorem retryWithin_failed (error : SystemError) :
    retryWithin budget readOnce (.failed error :: rest) =
      match budget.spend? (readFault error) with
      | none => (.error (readFault error), rest)
      | some less => retryWithin less readOnce rest :=
  retryWithin_of_error rfl

/-- A read that is made again takes one outcome.  Behind the last one the far side has closed,
and the read brings nothing. -/
theorem exists_outcome_of_again
    (read : retryWithin ⟨maxTransientRetries, 0⟩ readOnce incoming = (result, rest)) :
    ∃ outcome : ReadOutcome, result = outcome.result ∧
      (outcome :: rest = incoming ∨ incoming = [] ∧ outcome = .data []) := by
  cases incoming with
  | nil =>
      rw [retryWithin_nil] at read
      cases read
      exact ⟨.data [], rfl, .inr ⟨rfl, rfl⟩⟩
  | cons outcome later =>
      cases outcome with
      | data content =>
          rw [retryWithin_data] at read
          cases read
          exact ⟨.data content, rfl, .inl rfl⟩
      | failed error =>
          rw [retryWithin_failed, spend?_readFault_again] at read
          cases read
          exact ⟨.failed error, rfl, .inl rfl⟩

/-- A read takes outcomes from the front.  Behind the last of them a read brings nothing. -/
theorem readsOnce_of_read (read : withRetries readOnce incoming = (result, rest)) :
    ∃ used, ReadsOnce used result ∧
      (used ++ rest = incoming ∨ used = incoming ++ [.data []] ∧ result = .ok []) := by
  rw [withRetries] at read
  cases incoming with
  | nil =>
      rw [retryWithin_nil] at read
      cases read
      exact ⟨[.data []], .once id, .inr ⟨rfl, rfl⟩⟩
  | cons outcome later =>
      cases outcome with
      | data content =>
          rw [retryWithin_data] at read
          cases read
          exact ⟨[.data content], .once id, .inl rfl⟩
      | failed error =>
          rw [retryWithin_failed] at read
          rcases spend?_readFault error with ⟨stalls, paid⟩ | ⟨fails, spent⟩
          · rw [paid] at read
            obtain ⟨outcome, rfl, rfl | ⟨rfl, rfl⟩⟩ := exists_outcome_of_again read
            · exact ⟨[.failed error, outcome], .again stalls, .inl rfl⟩
            · exact ⟨[.failed error, .data []], .again stalls, .inr ⟨rfl, rfl⟩⟩
          · rw [spent] at read
            cases read
            exact ⟨[.failed error], .once fails, .inl rfl⟩

theorem front_of_took {used : List ReadOutcome} {nothing : Prop}
    (took : used ++ rest = incoming ∨ used = incoming ++ [.data []] ∧ nothing) :
    used <+: incoming ++ [.data []] := by
  rcases took with rfl | ⟨rfl, _⟩
  · rw [List.append_assoc]
    exact List.prefix_append _ _
  · exact List.prefix_refl _

/-- The reads of a reply take outcomes from the front, and go past the last one only once. -/
theorem readsReply_of_readReply (reply : Bytes) (incoming : List ReadOutcome) :
    ∃ used result, used <+: incoming ++ [.data []] ∧ ReadsReply used result ∧
      readReply reply incoming = result.map (reply ++ ·) := by
  fun_induction readReply reply incoming with
  | case1 reply incoming fault rest read =>
      obtain ⟨used, reads, took⟩ := readsOnce_of_read read
      exact ⟨used, _, front_of_took took, .failed reads, rfl⟩
  | case2 reply incoming content rest read short =>
      obtain ⟨used, reads, took⟩ := readsOnce_of_read read
      exact ⟨used, _, front_of_took took, .last reads short, rfl⟩
  | case3 reply incoming content rest read full _ ih =>
      obtain ⟨used, reads, took⟩ := readsOnce_of_read read
      have within : used ++ rest = incoming := by
        rcases took with within | ⟨_, nothing⟩
        · exact within
        · obtain rfl := Except.ok.inj nothing
          exact absurd (by decide) full
      obtain ⟨later, result, front, replies, same⟩ := ih
      refine ⟨used ++ later, _, ?_, .more reads (Nat.le_of_not_lt full) replies, ?_⟩
      · rw [← within, List.append_assoc]
        exact (List.prefix_append_right_inj used).mpr front
      · rw [same]
        cases result with
        | error fault => rfl
        | ok more => exact congrArg Except.ok (List.append_assoc _ _ _)

theorem exists_readsReply (incoming : List ReadOutcome) :
    ∃ used, used <+: incoming ++ [.data []] ∧ ReadsReply used (readReply [] incoming) := by
  obtain ⟨used, result, front, replies, same⟩ := readsReply_of_readReply [] incoming
  refine ⟨used, front, ?_⟩
  rw [same]
  cases result <;> exact replies

end Attempts

/-! ## Exchanges -/

namespace NetworkCall

/-- The endpoint to which a connection is opened. -/
def endpoint? : NetworkCall κ → Option Endpoint
  | .connect endpoint _ => some endpoint
  | .write _ _ _ | .incoming _ _ => none

end NetworkCall

/-- How the exchange of a unit goes, and which calls it makes.  They all belong to one
connection. -/
inductive Exchanged (endpoint : Endpoint) (patience : Patience) (unit : Bytes) :
    Except Fault Bytes → List (NetworkCall κ) → Prop where
  /-- There is no connection. -/
  | unreached {error : SystemError} :
      Exchanged endpoint patience unit (.error (.ofSystemError error))
        [.connect endpoint (.error error)]
  /-- There is no time in which anything could be written. -/
  | hasty {connection : κ} :
      patience.transfer = 0 →
      Exchanged endpoint patience unit (.error (.ofSystemError (.kinded .invalidInput none)))
        [.connect endpoint (.ok connection)]
  /-- The unit is not written to its end. -/
  | unsent {connection : κ} {writes : List (NetworkCall κ)} {fault : Fault} :
      (∀ call ∈ writes, call.WritesTo connection) → Unwritten connection fault writes →
      Exchanged endpoint patience unit (.error fault)
        (.connect endpoint (.ok connection) :: writes)
  /-- All of the unit is taken, and the reply is read. -/
  | replied {connection : κ} {writes : List (NetworkCall κ)} {incoming used : List ReadOutcome}
      {result : Except Fault Bytes} :
      (∀ call ∈ writes, call.WritesTo connection) →
      writes.flatMap NetworkCall.taken = framed unit →
      used <+: incoming ++ [.data []] → ReadsReply used result →
      Exchanged endpoint patience unit result
        (.connect endpoint (.ok connection) :: writes ++ [.incoming connection incoming])

/-- An exchange opens one connection. -/
theorem Exchanged.endpoints {endpoint : Endpoint} {patience : Patience} {unit : Bytes}
    {result : Except Fault Bytes} {calls : List (NetworkCall κ)}
    (exchanged : Exchanged endpoint patience unit result calls) :
    calls.filterMap NetworkCall.endpoint? = [endpoint] := by
  have silent : ∀ {connection : κ} {writes : List (NetworkCall κ)},
      (∀ call ∈ writes, call.WritesTo connection) →
      writes.filterMap NetworkCall.endpoint? = [] := by
    intro connection writes each
    rw [List.filterMap_eq_nil_iff]
    intro call member
    obtain ⟨octets, outcome, rfl⟩ := each call member
    rfl
  cases exchanged with
  | unreached => rfl
  | hasty _ => rfl
  | unsent each _ => simp [NetworkCall.endpoint?, silent each]
  | replied each _ _ _ => simp [NetworkCall.endpoint?, silent each]

variable [Network κ ω]

theorem makes_exchange (endpoint : Endpoint) (patience : Patience) (unit : Bytes) :
    Makes (ω := ω) (exchange endpoint patience unit)
      fun result (calls : List (NetworkCall κ)) =>
        Exchanged endpoint patience unit result calls := by
  refine Makes.noting_bind fun outcome => ?_
  cases outcome with
  | error error => exact .pure .unreached
  | ok connection =>
      simp only
      split_ifs with untimed
      · exact .pure (.hasty untimed)
      · refine Makes.bind (makes_writesAll _ _ _) fun written writes all => ?_
        cases written with
        | error fault => exact .pure (by simpa using .unsent all.writesTo all.unwritten)
        | ok _ =>
            refine Makes.noting_bind fun incoming => .pure ?_
            obtain ⟨used, front, replies⟩ := exists_readsReply incoming
            have whole := all.flatMap_taken.2.mpr rfl
            simpa using Exchanged.replied all.writesTo whole front replies

/-! ## Messages -/

/-- The exchange of a unit: the calls that are made for it, and what it comes to. -/
structure Exchange (κ : Type) where
  unit : Bytes
  calls : List (NetworkCall κ)
  outcome : Except Fault Bytes

/-- What sending units over an open link comes to if these are the exchanges, where the octets
have been received before. -/
inductive Link.Sends (link : Link) :
    Bytes → List Bytes → Except Fault Reply × Link → List (Exchange κ) → Prop where
  | nil {joined : Bytes} : Sends link joined [] (.ok (.text joined), link) []
  | next {joined unit reply : Bytes} {rest : List Bytes} {sent : Except Fault Reply × Link}
      {calls : List (NetworkCall κ)} {exchanges : List (Exchange κ)} :
      Sends link (joined ++ reply) rest sent exchanges →
      Sends link joined (unit :: rest) sent (⟨unit, calls, .ok reply⟩ :: exchanges)
  | failed {joined unit : Bytes} {rest : List Bytes} {fault : Fault}
      {calls : List (NetworkCall κ)} :
      Sends link joined (unit :: rest)
        (.error fault, { link with closed := link.closed || fault.isFatal })
        [⟨unit, calls, .error fault⟩]

/-- Either all units are exchanged, and the replies are joined, or an exchange fails, and it is
the last one. -/
theorem Link.Sends.replied_or_failed {link : Link} {joined : Bytes} {units : List Bytes}
    {sent : Except Fault Reply × Link} {exchanges : List (Exchange κ)}
    (sends : link.Sends joined units sent exchanges) :
    (∃ replies : List Bytes, exchanges.map Exchange.unit = units ∧
      exchanges.map Exchange.outcome = replies.map .ok ∧
      sent = (.ok (.text (joined ++ replies.flatten)), link)) ∨
    ∃ (earlier : List (Exchange κ)) (failing : Exchange κ) (replies later : List Bytes)
        (fault : Fault), exchanges = earlier ++ [failing] ∧
      units = earlier.map Exchange.unit ++ failing.unit :: later ∧
      earlier.map Exchange.outcome = replies.map .ok ∧ failing.outcome = .error fault ∧
      sent = (.error fault, { link with closed := link.closed || fault.isFatal }) := by
  induction sends with
  | nil => exact .inl ⟨[], rfl, rfl, by simp⟩
  | @next joined unit reply rest sent calls exchanges _ ih =>
      rcases ih with ⟨replies, all, each, rfl⟩ |
        ⟨earlier, failing, replies, later, fault, rfl, rfl, each, fails, rfl⟩
      · exact .inl ⟨reply :: replies, by simp [all], by simp [each], by simp⟩
      · exact .inr ⟨⟨unit, calls, .ok reply⟩ :: earlier, failing, reply :: replies, later, fault,
          rfl, rfl, by simp [each], fails, rfl⟩
  | @failed joined unit rest fault calls =>
      exact .inr ⟨[], _, [], rest, fault, rfl, rfl, rfl, rfl, rfl⟩

theorem Link.makes_exchangeOnto (link : Link) (joined : Bytes) (units : List Bytes) :
    Makes (ω := ω) (link.exchangeOnto joined units) fun sent (calls : List (NetworkCall κ)) =>
      ∃ exchanges : List (Exchange κ), exchanges.flatMap Exchange.calls = calls ∧
        (∀ exchange ∈ exchanges,
          Exchanged link.endpoint link.patience exchange.unit exchange.outcome exchange.calls) ∧
        link.Sends joined units sent exchanges := by
  induction units generalizing joined with
  | nil => exact .pure ⟨[], rfl, List.forall_mem_nil _, .nil⟩
  | cons unit rest ih =>
      refine Makes.bind (makes_exchange link.endpoint link.patience unit) ?_
      intro outcome calls exchanged
      cases outcome with
      | error fault =>
          refine .pure ⟨[⟨unit, calls, .error fault⟩], rfl, ?_, .failed⟩
          exact List.forall_mem_singleton.mpr exchanged
      | ok reply =>
          refine (ih (joined ++ reply)).weaken ?_
          rintro sent more ⟨exchanges, rfl, each, sends⟩
          refine ⟨⟨unit, calls, .ok reply⟩ :: exchanges, ?_, ?_, .next sends⟩
          · exact List.flatMap_cons
          · exact List.forall_mem_cons.mpr ⟨exchanged, each⟩

theorem Exchange.endpoints {endpoint : Endpoint} {patience : Patience}
    {exchanges : List (Exchange κ)}
    (each : ∀ exchange ∈ exchanges,
      Exchanged endpoint patience exchange.unit exchange.outcome exchange.calls) :
    (exchanges.flatMap Exchange.calls).filterMap NetworkCall.endpoint? =
      List.replicate exchanges.length endpoint := by
  induction exchanges with
  | nil => rfl
  | cons exchange exchanges ih =>
      have first := (each exchange (.head _)).endpoints
      have later := ih fun other member => each other (.tail _ member)
      rw [List.flatMap_cons, List.filterMap_append, first, later, List.length_cons,
        List.replicate_succ, List.singleton_append]

/-- An engine that answers the first request and resets the connection of the second. -/
def moodyEngine : Rehearsal.Machine where
  port := 5
  version := []
  script := [.answer [0x31] false, .reset]

end EngineGateway.Socket
