import EngineGateway.Proofs.Transport.Uses
import EngineGateway.Socket.Network

/-!
# Writing a unit

A connection takes as much as it likes of the octets that it is offered, or it stalls, or it
fails.  Every write offers what the writes before it have left, so at every moment the octets
that have been taken are the first ones of the unit.  Writing ends with success exactly when
all of them have been taken.  A stall is waited out a few times for each unit, however much is
taken in between, and everything else that goes wrong ends the writing at once.
-/

namespace EngineGateway.Socket

open Engine Logged

variable {κ ω : Type}

/-- The system reports that the operation would block, by number or by kind. -/
def wouldBlock : SystemError → Bool
  | .numbered 11 | .kinded .wouldBlock _ => true
  | .numbered _ | .kinded _ _ => false

theorem ofSystemError_eq_wouldBlock {error : SystemError} :
    Fault.ofSystemError error = .wouldBlock ↔ wouldBlock error = true := by
  cases error with
  | numbered code =>
      simp only [Fault.ofSystemError, Fault.ofNumber?]
      split <;> simp_all [wouldBlock]
  | kinded kind text => cases kind <;> simp [Fault.ofSystemError, Fault.ofKind?, wouldBlock]

/-- A call to the network, with what it came to. -/
inductive NetworkCall (κ : Type) where
  | connect (endpoint : Endpoint) (outcome : Except SystemError κ)
  | write (connection : κ) (octets : Bytes) (outcome : Except SystemError Nat)
  | incoming (connection : κ) (outcomes : List ReadOutcome)

instance [Network κ ω] : Network κ (Logged (NetworkCall κ) ω) where
  connect endpoint patience :=
    noting (Network.connect endpoint patience) fun outcome => [.connect endpoint outcome]
  write connection octets :=
    noting (Network.write connection octets) fun outcome => [.write connection octets outcome]
  incoming connection :=
    noting (Network.incoming connection) fun outcomes => [.incoming connection outcomes]

namespace NetworkCall

/-- The octets that are taken from what is written. -/
def taken : NetworkCall κ → Bytes
  | .write _ octets (.ok count) => octets.take count
  | .write _ _ (.error _) | .connect _ _ | .incoming _ _ => []

/-- The call writes to the connection. -/
def WritesTo (connection : κ) (call : NetworkCall κ) : Prop :=
  ∃ octets outcome, call = .write connection octets outcome

/-- The call is a write that would have blocked. -/
def stalls : NetworkCall κ → Bool
  | .write _ _ (.error error) => wouldBlock error
  | .write _ _ (.ok _) | .connect _ _ | .incoming _ _ => false

end NetworkCall

/-! ## The writes of some octets -/

/-- Writing to the connection fails with the last of the writes: it takes nothing, or it
fails. -/
inductive Unwritten (connection : κ) : Fault → List (NetworkCall κ) → Prop where
  | gone (writes : List (NetworkCall κ)) (octets : Bytes) :
      Unwritten connection .brokenPipe (writes ++ [.write connection octets (.ok 0)])
  | refused (writes : List (NetworkCall κ)) (octets : Bytes) (error : SystemError) :
      Unwritten connection (.ofSystemError error)
        (writes ++ [.write connection octets (.error error)])

theorem Unwritten.behind {connection : κ} {fault : Fault} {writes : List (NetworkCall κ)}
    (unwritten : Unwritten connection fault writes) (first : NetworkCall κ) :
    Unwritten connection fault (first :: writes) := by
  cases unwritten with
  | gone writes octets => exact .gone (first :: writes) octets
  | refused writes octets error => exact .refused (first :: writes) octets error

/-- How octets are written if this many stalls may still be waited out: the writes that are
made, and what they come to. -/
inductive WritesAll (connection : κ) :
    Nat → Bytes → Except Fault Unit → List (NetworkCall κ) → Prop where
  | done {retries : Nat} : WritesAll connection retries [] (.ok ()) []
  | took {retries count : Nat} {octets : Bytes} {result : Except Fault Unit}
      {later : List (NetworkCall κ)} :
      octets ≠ [] → WritesAll connection retries (octets.drop (count + 1)) result later →
      WritesAll connection retries octets result
        (.write connection octets (.ok (count + 1)) :: later)
  /-- The far side is gone. -/
  | gone {retries : Nat} {octets : Bytes} :
      octets ≠ [] →
      WritesAll connection retries octets (.error .brokenPipe) [.write connection octets (.ok 0)]
  | stalled {retries : Nat} {octets : Bytes} {error : SystemError} {result : Except Fault Unit}
      {later : List (NetworkCall κ)} :
      octets ≠ [] → Fault.ofSystemError error = .wouldBlock →
      WritesAll connection retries octets result later →
      WritesAll connection (retries + 1) octets result
        (.write connection octets (.error error) :: later)
  | failed {retries : Nat} {octets : Bytes} {error : SystemError} :
      octets ≠ [] → (Fault.ofSystemError error = .wouldBlock → retries = 0) →
      WritesAll connection retries octets (.error (.ofSystemError error))
        [.write connection octets (.error error)]

namespace WritesAll

variable {connection : κ} {retries : Nat} {octets : Bytes} {result : Except Fault Unit}
  {writes earlier later : List (NetworkCall κ)} {write : NetworkCall κ}

theorem writesTo (all : WritesAll connection retries octets result writes) :
    ∀ write ∈ writes, write.WritesTo connection := by
  induction all with
  | done => exact List.forall_mem_nil _
  | took _ _ ih => exact List.forall_mem_cons.mpr ⟨⟨_, _, rfl⟩, ih⟩
  | gone _ => exact List.forall_mem_singleton.mpr ⟨_, _, rfl⟩
  | stalled _ _ _ ih => exact List.forall_mem_cons.mpr ⟨⟨_, _, rfl⟩, ih⟩
  | failed _ _ => exact List.forall_mem_singleton.mpr ⟨_, _, rfl⟩

/-- What the writes have taken are the first octets, and writing succeeds if none are left. -/
theorem taken_append_rest (all : WritesAll connection retries octets result writes) :
    ∃ rest, octets = writes.flatMap NetworkCall.taken ++ rest ∧ (result = .ok () ↔ rest = []) := by
  induction all with
  | done => exact ⟨[], rfl, by simp⟩
  | @took retries count octets result later some _ ih =>
      obtain ⟨rest, same, whole⟩ := ih
      refine ⟨rest, ?_, whole⟩
      rw [List.flatMap_cons, List.append_assoc, ← same]
      exact (List.take_append_drop _ _).symm
  | @gone _ octets some => exact ⟨octets, rfl, by simp [some]⟩
  | stalled _ _ _ ih => exact ih
  | @failed _ octets _ some _ => exact ⟨octets, rfl, by simp [some]⟩

/-- After some of the writes the octets that they have left are written in the same way, with
the retries that the stalls among them have left. -/
theorem behind (all : WritesAll connection retries octets result (earlier ++ write :: later)) :
    ∃ left rest, retries = earlier.countP NetworkCall.stalls + left ∧
      octets = earlier.flatMap NetworkCall.taken ++ rest ∧
      WritesAll connection left rest result (write :: later) := by
  -- The induction is on the earlier writes: the first of them has used up octets or a retry.
  induction earlier generalizing retries octets with
  | nil => exact ⟨retries, octets, (Nat.zero_add _).symm, rfl, all⟩
  | cons first earlier ih =>
      rw [List.cons_append] at all
      generalize behind : earlier ++ write :: later = others at all
      cases all with
      | @took _ count _ _ _ _ all =>
          subst behind
          obtain ⟨left, rest, paid, same, all⟩ := ih all
          refine ⟨left, rest, paid, ?_, all⟩
          rw [List.flatMap_cons, List.append_assoc, ← same]
          exact (List.take_append_drop _ _).symm
      | gone _ => simp at behind
      | failed _ _ => simp at behind
      | @stalled _ _ error _ _ _ stalls all =>
          subst behind
          obtain ⟨left, rest, paid, same, all⟩ := ih all
          refine ⟨left, rest, ?_, same, all⟩
          have counted : (NetworkCall.write connection octets (.error error)).stalls = true :=
            ofSystemError_eq_wouldBlock.mp stalls
          rw [List.countP_cons_of_pos counted, paid]
          omega

theorem unwritten {fault : Fault}
    (all : WritesAll connection retries octets (.error fault) writes) :
    Unwritten connection fault writes := by
  generalize failed : Except.error fault = result at all
  induction all with
  | done => cases failed
  | took _ _ ih => exact (ih failed).behind _
  | gone _ =>
      cases failed
      exact .gone [] _
  | stalled _ _ _ ih => exact (ih failed).behind _
  | failed _ _ =>
      cases failed
      exact .refused [] _ _

theorem length_le (all : WritesAll connection retries octets result writes) :
    writes.length ≤ octets.length + retries := by
  have something {octets : Bytes} (some : octets ≠ []) : 0 < octets.length :=
    List.length_pos_iff.mpr some
  induction all with
  | done => exact Nat.zero_le _
  | took some _ ih =>
      have := something some
      rw [List.length_drop] at ih
      rw [List.length_cons]
      omega
  | gone some =>
      have := something some
      rw [List.length_singleton]
      omega
  | stalled _ _ _ ih =>
      rw [List.length_cons]
      omega
  | failed some _ =>
      have := something some
      rw [List.length_singleton]
      omega

end WritesAll

/-! ## What a connection takes -/

/-- How octets are brought to a connection: the writes that are made, and what they come to. -/
structure Written (connection : κ) (octets : Bytes) (result : Except Fault Unit)
    (writes : List (NetworkCall κ)) : Prop where
  linked : ∀ write ∈ writes, write.WritesTo connection
  /-- Every write offers what the writes before it have left. -/
  offers : ∀ earlier offered outcome later,
    writes = earlier ++ .write connection offered outcome :: later →
    octets = earlier.flatMap NetworkCall.taken ++ offered
  /-- At every moment the octets that have been taken are the first ones. -/
  front : ∀ made, made <+: writes → made.flatMap NetworkCall.taken <+: octets
  whole : writes.flatMap NetworkCall.taken = octets ↔ result = .ok ()
  /-- A write that takes nothing is the last one. -/
  gone : ∀ earlier offered later,
    writes = earlier ++ .write connection offered (.ok 0) :: later →
    later = [] ∧ result = .error .brokenPipe
  /-- A stall is followed by another write unless five others have come before it. -/
  stalled : ∀ earlier offered error later,
    writes = earlier ++ .write connection offered (.error error) :: later →
    wouldBlock error = true →
    if earlier.countP NetworkCall.stalls < 5 then later ≠ []
    else later = [] ∧ result = .error .wouldBlock
  /-- A write that fails in another way is the last one. -/
  failed : ∀ earlier offered error later,
    writes = earlier ++ .write connection offered (.error error) :: later →
    wouldBlock error = false →
    later = [] ∧ result = .error (.ofSystemError error)
  /-- Nothing else makes writing fail. -/
  unwritten : ∀ fault, result = .error fault → Unwritten connection fault writes
  retried : writes.dropLast.countP NetworkCall.stalls ≤ 5
  ends : writes.length ≤ octets.length + 5

theorem flatMap_taken_prefix {octets : Bytes} {calls made : List (NetworkCall κ)}
    (front : calls.flatMap NetworkCall.taken <+: octets) (before : made <+: calls) :
    made.flatMap NetworkCall.taken <+: octets := by
  obtain ⟨more, rfl⟩ := before
  rw [List.flatMap_append] at front
  exact (List.prefix_append _ _).trans front

namespace WritesAll

variable {connection : κ} {octets : Bytes} {result : Except Fault Unit}
  {writes : List (NetworkCall κ)}

theorem flatMap_taken {retries : Nat}
    (all : WritesAll connection retries octets result writes) :
    writes.flatMap NetworkCall.taken <+: octets ∧
      (writes.flatMap NetworkCall.taken = octets ↔ result = .ok ()) := by
  obtain ⟨rest, rfl, whole⟩ := all.taken_append_rest
  refine ⟨List.prefix_append _ _, ?_⟩
  rw [whole, List.self_eq_append_right]

/-- No more stalls are waited out than there are retries. -/
theorem retried {retries : Nat} (all : WritesAll connection retries octets result writes) :
    writes.dropLast.countP NetworkCall.stalls ≤ retries := by
  rcases writes.eq_nil_or_concat' with rfl | ⟨earlier, last, rfl⟩
  · exact Nat.zero_le _
  · obtain ⟨left, rest, paid, _, _⟩ := all.behind
    rw [List.dropLast_concat, paid]
    exact Nat.le_add_right _ _

theorem written (all : WritesAll connection 5 octets result writes) :
    Written connection octets result writes where
  linked := all.writesTo
  offers earlier offered outcome later split := by
    subst split
    obtain ⟨left, rest, _, same, behind⟩ := all.behind
    cases behind <;> exact same
  front made before := flatMap_taken_prefix all.flatMap_taken.1 before
  whole := all.flatMap_taken.2
  gone earlier offered later split := by
    subst split
    obtain ⟨left, rest, _, _, behind⟩ := all.behind
    cases behind
    exact ⟨rfl, rfl⟩
  stalled earlier offered error later split stalls := by
    subst split
    obtain ⟨left, rest, paid, _, behind⟩ := all.behind
    cases behind with
    | @stalled left _ _ _ _ _ _ more =>
        rw [if_pos (by omega)]
        rintro rfl
        cases more
        contradiction
    | failed _ spent =>
        have stalls := ofSystemError_eq_wouldBlock.mpr stalls
        rw [if_neg (by rw [paid, spent stalls]; exact Nat.lt_irrefl _), stalls]
        exact ⟨rfl, rfl⟩
  failed earlier offered error later split other := by
    subst split
    obtain ⟨left, rest, _, _, behind⟩ := all.behind
    cases behind with
    | stalled _ stalls _ =>
        rw [ofSystemError_eq_wouldBlock, other] at stalls
        cases stalls
    | failed _ _ => exact ⟨rfl, rfl⟩
  unwritten fault failed := by
    subst failed
    exact all.unwritten
  retried := all.retried
  ends := all.length_le

end WritesAll

theorem makes_writesAll [Network κ ω] (connection : κ) (retries : Nat) (octets : Bytes) :
    Makes (ω := ω) (writeAll connection retries octets)
      fun result (calls : List (NetworkCall κ)) =>
        WritesAll connection retries octets result calls := by
  induction retries, octets using writeAll.induct with
  | case1 retries octets nothing =>
      rw [writeAll, if_pos nothing, List.isEmpty_iff.mp nothing]
      exact .pure .done
  | case2 retries octets something taken stalled =>
      rw [writeAll, if_neg something]
      have some : octets ≠ [] := fun nothing => something (List.isEmpty_iff.mpr nothing)
      refine Makes.noting_bind fun outcome => ?_
      cases outcome with
      | ok count =>
          cases count with
          | zero => exact .pure (.gone some)
          | succ count => exact (taken count).weaken fun _ _ later => .took some later
      | error error =>
          have again := stalled error
          by_cases stalls : Fault.ofSystemError error = .wouldBlock
          · have transient := Fault.faultClass_eq_transient.mpr stalls
            cases retries with
            | zero =>
                simp only [transient]
                exact .pure (.failed some fun _ => rfl)
            | succ left =>
                simp only [transient] at again ⊢
                exact again.weaken fun _ _ later => .stalled some stalls later
          · have other : (Fault.ofSystemError error).faultClass ≠ .transient :=
              fun transient => stalls (Fault.faultClass_eq_transient.mp transient)
            simp only
            split
            · exact absurd ‹_› other
            · exact .pure (.failed some fun same => absurd same stalls)

/-- While a unit is exchanged nothing but its first octets is ever taken, and all of them are
exactly if the reply is read. -/
theorem makes_taken_exchange [Network κ ω] (endpoint : Endpoint) (patience : Patience)
    (unit : Bytes) :
    Makes (ω := ω) (exchange endpoint patience unit) fun _ (calls : List (NetworkCall κ)) =>
      calls.flatMap NetworkCall.taken <+: framed unit ∧
      (calls.flatMap NetworkCall.taken = framed unit ↔
        ∃ connection outcomes, .incoming connection outcomes ∈ calls) := by
  have unsent : [] ≠ framed unit := by simp [framed, Script.flushMark]
  refine Makes.noting_bind fun outcome => ?_
  cases outcome with
  | error error =>
      refine .pure ⟨List.nil_prefix, iff_of_false unsent ?_⟩
      rintro ⟨_, _, member⟩
      simp at member
  | ok connection =>
      simp only
      split_ifs
      · refine .pure ⟨List.nil_prefix, iff_of_false unsent ?_⟩
        rintro ⟨_, _, member⟩
        simp at member
      · refine Makes.bind (makes_writesAll _ _ _) fun written writes all => ?_
        obtain ⟨front, whole⟩ := all.flatMap_taken
        cases written with
        | error fault =>
            refine .pure ⟨by simpa [NetworkCall.taken] using front, iff_of_false ?_ ?_⟩
            · simpa [NetworkCall.taken] using whole
            · rintro ⟨_, _, member⟩
              simp only [List.append_nil, List.singleton_append, List.mem_cons,
                reduceCtorEq, false_or] at member
              obtain ⟨_, _, same⟩ := all.writesTo _ member
              cases same
        | ok _ =>
            refine Makes.noting_bind fun incoming => .pure ⟨?_, iff_of_true ?_ ?_⟩
            · simpa [NetworkCall.taken] using front
            · simpa [NetworkCall.taken] using whole
            · exact ⟨connection, incoming, by simp⟩

/-- The octets that an engine is to receive for a unit: the unit, and `rscr` on a line of its
own. -/
theorem framed_eq (unit : Bytes) :
    framed unit = unit ++ [0x0A, 0x72, 0x73, 0x63, 0x72, 0x0A] :=
  rfl

/-- Writing loses and repeats no octets.  However the connection behaves, what it has taken is
at every moment a front part of the unit with the mark behind it, and it is all of that exactly
if writing succeeds; this is when the reply is read.  A write that takes nothing is a broken
pipe, only five stalls are waited out for a unit, any other error ends the writing, and there
are never more writes than octets and stalls that may be waited out. -/
theorem octets_taken_in_order [Network κ ω] (unit : Bytes) :
    let due := unit ++ [0x0A, 0x72, 0x73, 0x63, 0x72, 0x0A]
    (∀ (connection : κ) (logged : Logged (NetworkCall κ) ω),
      let written := (writeAll connection maxTransientRetries (framed unit)).run logged
      ∃ writes, written.2.calls = logged.calls ++ writes ∧
        Written connection due written.1 writes) ∧
    ∀ (endpoint : Endpoint) (patience : Patience) (logged : Logged (NetworkCall κ) ω),
      let exchanged := (exchange endpoint patience unit).run logged
      ∃ calls, exchanged.2.calls = logged.calls ++ calls ∧
        (∀ made, made <+: calls → made.flatMap NetworkCall.taken <+: due) ∧
        (calls.flatMap NetworkCall.taken = due ↔
          ∃ connection outcomes, .incoming connection outcomes ∈ calls) := by
  intro due
  have framed : framed unit = due := framed_eq unit
  constructor
  · intro connection logged
    have writing := makes_writesAll (ω := ω) connection maxTransientRetries due
    obtain ⟨writes, added, all⟩ := writing logged
    rw [framed]
    exact ⟨writes, added, all.written⟩
  · intro endpoint patience logged
    obtain ⟨calls, added, front, whole⟩ := makes_taken_exchange endpoint patience unit logged
    rw [framed] at front whole
    exact ⟨calls, added, fun made before => flatMap_taken_prefix front before, whole⟩

/-- The one connection there is.  Its next writes come to these outcomes; behind them it takes
all that it is offered. -/
structure Trickle where
  outcomes : List (Except SystemError Nat)

instance : Network Unit Trickle where
  connect _ _ := return .ok ()
  write _ octets := fun trickle =>
    match trickle.outcomes with
    | [] => (.ok octets.length, trickle)
    | outcome :: rest => (outcome, ⟨rest⟩)
  incoming _ := return []

/-- Write the unit `ab`. -/
def trickled (outcomes : List (Except SystemError Nat)) :
    Except Fault Unit × Logged (NetworkCall Unit) Trickle :=
  (writeAll () maxTransientRetries (framed [0x61, 0x62])).run ⟨⟨outcomes⟩, []⟩

/-- What is taken in pieces, with stalls in between, is the whole unit.  A connection that goes
after two octets has not taken it, and the sixth stall is not waited out. -/
theorem octets_taken_in_order_trickle :
    let stall : Except SystemError Nat := .error (.numbered 11)
    (trickled [.ok 1, stall, .ok 3, stall]).2.calls.flatMap NetworkCall.taken =
      [0x61, 0x62, 0x0A, 0x72, 0x73, 0x63, 0x72, 0x0A] ∧
    (trickled [.ok 2, .ok 0]).2.calls.flatMap NetworkCall.taken ≠
      [0x61, 0x62, 0x0A, 0x72, 0x73, 0x63, 0x72, 0x0A] ∧
    Unwritten () .wouldBlock (trickled (List.replicate 9 stall)).2.calls ∧
    (trickled (List.replicate 9 stall)).2.calls.dropLast.countP NetworkCall.stalls ≤ 5 ∧
    ∀ patience : Patience, ((exchange ⟨.localhost, 5⟩ patience [0x61, 0x62]).run
        (⟨⟨[.ok 1, stall]⟩, []⟩ : Logged (NetworkCall Unit) Trickle)).2.calls.flatMap
          NetworkCall.taken <+: [0x61, 0x62, 0x0A, 0x72, 0x73, 0x63, 0x72, 0x0A] := by
  intro stall
  -- Each run makes exactly the writes of which the theorem speaks.
  have each (outcomes : List (Except SystemError Nat)) :
      Written () [0x61, 0x62, 0x0A, 0x72, 0x73, 0x63, 0x72, 0x0A] (trickled outcomes).1
        (trickled outcomes).2.calls := by
    obtain ⟨writes, added, written⟩ :=
      (octets_taken_in_order [0x61, 0x62]).1 () (⟨⟨outcomes⟩, []⟩ : Logged _ Trickle)
    rw [List.nil_append] at added
    rw [trickled, added]
    exact written
  refine ⟨(each _).whole.mpr (by decide +kernel), ?_, (each _).unwritten _ (by decide +kernel),
    (each _).retried, fun patience => ?_⟩
  · intro whole
    have broken : (trickled [.ok 2, .ok 0]).1 = .error .brokenPipe := by decide +kernel
    rw [(each _).whole.mp whole] at broken
    cases broken
  · obtain ⟨calls, added, front, _⟩ := (octets_taken_in_order [0x61, 0x62]).2 ⟨.localhost, 5⟩
      patience (⟨⟨[.ok 1, stall]⟩, []⟩ : Logged (NetworkCall Unit) Trickle)
    rw [added]
    exact front calls (List.prefix_refl _)

end EngineGateway.Socket
