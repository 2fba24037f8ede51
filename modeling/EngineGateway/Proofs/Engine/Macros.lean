import EngineGateway.Proofs.Engine.Delivery
import EngineGateway.Proofs.Script.Gaps

/-!
# Macros of first-generation engines

An engine that is reached through a DDE conversation does not survive two blanks in a row
outside of brackets.  The spacing of every script is put in order before it is handed to the
transport, and a transport without a limit, such as a DDE conversation, gets it in one piece.
-/

namespace EngineGateway.Engine

variable {σ ω : Type} [Transport σ ω] {session : Session σ} {text : String} {world : ω}

/-- A call sends what the session has planned. -/
theorem Session.Sends.plan_of_sent {calls : List TransportCall} {response : Response}
    {after : Session σ} (sends : session.Sends text world calls response after)
    {units : List Bytes} {outcome : Except Fault Reply} (sent : .send units outcome ∈ calls) :
    session.plan text world = .ok units ∧ units ≠ [] := by
  cases sends with
  | ended _ => cases sent
  | refused _ _ => simp at sent
  | nothing _ _ => cases sent
  | failed _ plan filled _ =>
      simp only [List.mem_cons, reduceCtorEq, TransportCall.send.injEq, List.not_mem_nil,
        or_false, false_or] at sent
      exact ⟨sent.1 ▸ plan, sent.1 ▸ filled⟩
  | answered _ plan filled _ =>
      simp only [List.mem_cons, reduceCtorEq, TransportCall.send.injEq, List.not_mem_nil,
        or_false, false_or] at sent
      exact ⟨sent.1 ▸ plan, sent.1 ▸ filled⟩

/-- What is sent in a call joins to the octets of the script. -/
theorem Session.flatten_of_sent {units : List Bytes} {outcome : Except Fault Reply}
    (sent : .send units outcome ∈ heard (session.send text) world) :
    units.flatten = scriptBytes session.identity text := by
  have planned := session.planned text world
  rw [((session.send_sends text world).plan_of_sent sent).1] at planned
  exact planned.carries.joined

/-- Without a limit a script is sent whole. -/
theorem Session.whole_of_sent {units : List Bytes} {outcome : Except Fault Reply}
    (unlimited : ((Transport.unitLimit session.transport).run world).1 = none)
    (sent : .send units outcome ∈ heard (session.send text) world) :
    units = [units.flatten] := by
  obtain ⟨plan, filled⟩ := (session.send_sends text world).plan_of_sent sent
  have planned := session.planned text world
  rw [plan, Session.limit, unlimited] at planned
  generalize scriptBytes session.identity text = octets at planned
  cases planned with
  | nothing => exact absurd rfl filled
  | whole _ => simp

theorem settled_scriptBytes {identity : Identity} (dde : identity.isDde = true)
    (text : String) : Script.Settled (scriptBytes identity text) := by
  simp only [scriptBytes, dde, if_true]
  exact Script.settled_normalizeSpacing _

/-- Whatever a script for an engine with bracketed strings looks like, it comes out with all
strings closed, without carriage returns outside of them and without two blanks in a row
outside of them.  So does all that a session with a first-generation engine hands to its
transport.  Without carriage returns nothing else changes: strings stay as they are, a gap
between them shrinks to its first octet, and what has been changed stays as it is. -/
theorem macros_spaced :
    (∀ script, Script.Settled (Script.normalizeSpacing .bracketed script)) ∧
    (∀ (σ ω : Type) [Transport σ ω] (session : Session σ) (text : String) (world : ω)
      (units : List Bytes) (outcome : Except Fault Reply), session.identity.isDde = true →
      .send units outcome ∈ heard (session.send text) world →
      Script.Settled units.flatten ∧
        (((Transport.unitLimit session.transport).run world).1 = none →
          units = [units.flatten])) ∧
    ∀ script, 0x0D ∉ script →
      (∀ out, Script.normalizeSpacing .bracketed script = out ↔ Script.Tightens script out) ∧
      Script.normalizeSpacing .bracketed (Script.normalizeSpacing .bracketed script) =
        Script.normalizeSpacing .bracketed script := by
  refine ⟨Script.settled_normalizeSpacing, ?_, ?_⟩
  · intro σ ω _ session text world units outcome dde sent
    refine ⟨?_, fun unlimited => Session.whole_of_sent unlimited sent⟩
    rw [Session.flatten_of_sent sent]
    exact settled_scriptBytes dde text
  · intro script unreturned
    exact ⟨fun _ => Script.normalizeSpacing_eq_iff unreturned,
      Script.normalizeSpacing_again unreturned⟩

/-- A session with a first-generation engine whose next reply is known. -/
def Session.firstGeneration : Session Foretold where
  transport := ⟨none, [.ok (.text [])]⟩
  identity := ⟨.dde, 1, 0, "Creatures", none⟩
  closed := false
  reconnect := false

/-- A macro with two gaps, a string with blanks in it and a string that is left open. -/
def looseMacro : String := "outs [a  b]  \t endm outs [c"

/-- The gap outside of the strings shrinks, the one inside stays, and the last string is
closed.  Nothing is left to change after that. -/
theorem macros_spaced_looseMacro :
    let sent := Text.CodePage.ofText "outs [a  b] endm outs [c]"
    .send [sent] (.ok (.text [])) ∈ heard (Session.firstGeneration.send looseMacro) () ∧
    Script.Settled sent ∧ Script.normalizeSpacing .bracketed sent = sent := by
  intro sent
  have plan : Session.firstGeneration.plan looseMacro () = .ok [sent] := by decide +kernel
  have called := (Session.send_of_units rfl plan (by simp)).1
  have member : .send [sent] (.ok (.text [])) ∈
      heard (Session.firstGeneration.send looseMacro) () := by
    rw [called]
    exact .tail _ (.head _)
  have settled := (macros_spaced.2.1 _ _ Session.firstGeneration looseMacro () [sent] _ rfl
    member).1
  have tightened : Script.normalizeSpacing .bracketed
      (Text.CodePage.ofText looseMacro) = sent := by decide +kernel
  have again := (macros_spaced.2.2 (Text.CodePage.ofText looseMacro) (by decide +kernel)).2
  rw [tightened] at again
  exact ⟨member, by simpa using settled, again⟩

end EngineGateway.Engine
