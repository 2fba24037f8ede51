import EngineGateway.Proofs.Engine.Calls

/-!
# What is delivered to a transport

A script that is sent to an open session reaches the transport in one call or not
at all.  The units of the call join to the octets of the script.  Each of them
keeps to the limit, and all but the last end with a terminator.  A script is held
back if there is nothing to send, or if some part of it that cannot be split is
over the limit; then the first unit over the limit is told, and the session goes
on.
-/

namespace EngineGateway.Engine

variable {σ ω : Type}

/-! ## Plans -/

section Plans

variable {limit : Option Nat} {octets : Bytes} {units : List Bytes}

/-- Some part of a message that cannot be split is over the limit. -/
def Overlong (limit : Option Nat) (octets : Bytes) : Prop :=
  ∃ bound, limit = some bound ∧
    ∃ piece, Script.Unsplittable octets piece ∧ bound < piece.length

/-- No part of an empty message is over any limit. -/
theorem Overlong.ne_nil (long : Overlong limit octets) : octets ≠ [] := by
  rcases long with ⟨bound, _, piece, unsplittable, longer⟩
  intro nothing
  have short := unsplittable.inside.length_le
  rw [nothing, List.length_nil] at short
  omega

/-- The units carry the octets within the limit, cut only after terminators. -/
structure Carries (limit : Option Nat) (octets : Bytes) (units : List Bytes) : Prop where
  joined : units.flatten = octets
  filled : ∀ unit ∈ units, unit ≠ []
  within : ∀ bound, limit = some bound → ∀ unit ∈ units, unit.length ≤ bound
  cut : ∀ unit ∈ units.dropLast, Script.terminator <:+ unit

/-- The unit is the first one of a message that is over the limit. -/
structure FirstOver (bound : Nat) (octets unit : Bytes) : Prop where
  longer : bound < unit.length
  first : ∃ earlier later, Script.units bound octets = earlier ++ unit :: later ∧
    ∀ other ∈ earlier, other.length ≤ bound

theorem Planned.carries (planned : Planned limit octets (.ok units)) :
    Carries limit octets units := by
  cases planned with
  | nothing => exact ⟨rfl, by simp, by simp, by simp⟩
  | whole filled => exact ⟨by simp, by simpa using filled, by simp, by simp⟩
  | @units bound _ _ within =>
      constructor
      · exact Script.flatten_units bound octets
      · intro unit member
        exact Script.ne_nil_of_mem_units member
      · intro other same
        obtain rfl := Option.some.inj same
        exact within
      · intro unit member
        exact Script.ended_of_mem_dropLast_units member

theorem Planned.firstOver {fault : Fault} (planned : Planned limit octets (.error fault)) :
    ∃ bound unit, limit = some bound ∧ FirstOver bound octets unit ∧
      fault = .tooLong unit.length bound := by
  cases planned with
  | @oversized bound _ unit earlier later parts before longer =>
      exact ⟨bound, unit, rfl, ⟨longer, earlier, later, parts, before⟩, rfl⟩

/-- A message is refused exactly if some part that cannot be split is over the
limit. -/
theorem Planned.overlong_iff {plan : Except Fault (List Bytes)}
    (planned : Planned limit octets plan) (something : octets ≠ []) :
    (∃ fault, plan = .error fault) ↔ Overlong limit octets := by
  rw [planned.refused_iff, Overlong]
  simp only [Script.exists_oversized_unit_iff, Script.mem_pieces_iff something]

end Plans

/-! ## Sending -/

section Sending

variable [Transport σ ω] {session : Session σ}

/-- What becomes of a script that is sent to an open session.  If it comes to no
octets, nothing is sent and the reply is empty.  Otherwise the transport is asked for
its limit, and the script is sent in one call that carries all of its octets, unless
some part that cannot be split is over the limit: then nothing is sent, the first
unit over the limit is told, and the session stays as it is. -/
theorem script_sent_at_once (going : session.closed = false) (text : String) (world : ω) :
    let octets :=
      if session.identity.isDde then
        Script.normalizeSpacing .bracketed (Text.CodePage.ofText text)
      else Text.CodePage.ofText text
    let limit := ((Transport.unitLimit session.transport).run world).1
    let calls := heard (session.send text) world
    let sent := (session.send text).run world
    (octets = [] → calls = [] ∧ sent.1 = (.text "", session)) ∧
    (octets ≠ [] → ¬ Overlong limit octets →
      ∃ units outcome, calls = [.limit limit, .send units outcome] ∧
        Carries limit octets units) ∧
    (octets ≠ [] → Overlong limit octets →
      calls = [.limit limit] ∧ ∃ bound unit, limit = some bound ∧
        FirstOver bound octets unit ∧
        sent.1 = (.error ("message is too long! " ++ toString unit.length ++ " vs " ++
          toString bound), session)) := by
  intro octets limit calls sent
  have planned : Planned limit octets (session.plan text world) := session.planned text world
  refine ⟨?_, ?_, ?_⟩
  · intro nothing
    have plan : session.plan text world = .ok [] := if_pos (List.isEmpty_iff.mpr nothing)
    obtain ⟨silent, empty⟩ := Session.send_of_nothing going plan
    exact ⟨silent, congrArg Prod.fst empty⟩
  · intro something short
    cases plan : session.plan text world with
    | error fault => exact absurd ((planned.overlong_iff something).mp ⟨fault, plan⟩) short
    | ok units =>
        rw [plan] at planned
        have filled : units ≠ [] := mt planned.eq_nil_iff.mp something
        exact ⟨units, _, (Session.send_of_units going plan filled).1, planned.carries⟩
  · intro something long
    obtain ⟨fault, plan⟩ := (planned.overlong_iff something).mpr long
    rw [plan] at planned
    obtain ⟨bound, unit, limited, first, rfl⟩ := planned.firstOver
    obtain ⟨asked, told⟩ := Session.send_of_refused going plan
    exact ⟨asked, bound, unit, limited, first, congrArg Prod.fst told⟩

/-- No part of a script that is sent is over the limit. -/
theorem Session.not_overlong {text : String} {world : ω} {units : List Bytes}
    (plan : session.plan text world = .ok units) :
    ¬ Overlong (session.limit world) (scriptBytes session.identity text) := by
  intro long
  obtain ⟨fault, refused⟩ :=
    ((session.planned text world).overlong_iff long.ne_nil).mpr long
  rw [plan] at refused
  cases refused

end Sending

/-- A script of two commands is sent as two units where it would be too long as one.
A script for a first-generation engine is sent without the blank that it could not
bear.  A script is held back where its only part is over the limit. -/
theorem script_sent_at_once_foretold :
    let early : Session Foretold :=
      { Session.foretold none [] with identity := ⟨.dde, 1, 0, "Creatures", none⟩ }
    (∃ units outcome, heard ((Session.foretold (some 12) []).send "outs 1endmouts 2") () =
        [.limit (some 12), .send units outcome] ∧
      units.flatten = Text.CodePage.ofText "outs 1endmouts 2" ∧
      ∀ unit ∈ units, unit.length ≤ 12) ∧
    (∃ units outcome, heard (early.send "outs  1") () = [.limit none, .send units outcome] ∧
      units.flatten = Text.CodePage.ofText "outs 1") ∧
    heard ((Session.foretold (some 4) []).send "outv 12") () = [.limit (some 4)] := by
  intro early
  refine ⟨?_, ?_, ?_⟩
  · have plan : (Session.foretold (some 12) []).plan "outs 1endmouts 2" () =
        .ok [Text.CodePage.ofText "outs 1endm", Text.CodePage.ofText "outs 2"] := by
      decide +kernel
    obtain ⟨units, outcome, called, carries⟩ :=
      (@script_sent_at_once _ _ _ (Session.foretold (some 12) []) rfl "outs 1endmouts 2"
        ()).2.1 (by decide +kernel) (Session.not_overlong plan)
    exact ⟨units, outcome, called, carries.joined, carries.within 12 rfl⟩
  · have unlimited : ¬ Overlong none (scriptBytes early.identity "outs  1") := by
      rintro ⟨bound, limited, _⟩
      cases limited
    obtain ⟨units, outcome, called, carries⟩ :=
      (@script_sent_at_once _ _ _ early rfl "outs  1" ()).2.1 (by decide +kernel) unlimited
    refine ⟨units, outcome, called, carries.joined.trans ?_⟩
    decide +kernel
  · have long : Overlong (some 4) (Text.CodePage.ofText "outv 12") :=
      ⟨4, rfl, _, .whole (by decide +kernel), by decide +kernel⟩
    exact ((@script_sent_at_once _ _ _ (Session.foretold (some 4) []) rfl "outv 12"
      ()).2.2 (by decide +kernel) long).1

end EngineGateway.Engine
