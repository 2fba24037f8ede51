import EngineGateway.Proofs.SharedBuffer.Calls

/-!
# Requests under the mutex

Whatever the calls of a use of a link come to, the mutex is taken at most once.  If that
succeeds the requests follow, and then it is given back; if it fails nothing follows.  It
is not asked for exactly if there is nothing to do.
-/

namespace EngineGateway.SharedBuffer

open Engine

/-- Requests are made only while the mutex is held, and a mutex that has been taken is
given back once, at the end. -/
inductive Bracketed : List Call → Prop where
  | untouched {checks : List Call} : (∀ call ∈ checks, call.IsCheck) → Bracketed checks
  | refused {checks : List Call} {fault : Fault} :
      (∀ call ∈ checks, call.IsCheck) → Bracketed (checks ++ [.lock (.error fault)])
  | held {checks exchanges : List Call} :
      (∀ call ∈ checks, call.IsCheck) → (∀ call ∈ exchanges, call.IsExchange) →
      Bracketed (checks ++ .lock (.ok ()) :: (exchanges ++ [.unlock]))

variable {γ ω : Type}

/-- The link is closed, or the engine is found to have exited, or there is nothing to
send. -/
def Idle (usage : LinkUsage γ ω) : Prop :=
  usage.before.closed = true ∨ .alive false ∈ usage.calls ∨
    match usage.use with
    | .send units => units.all List.isEmpty = true
    | .check => True

namespace Link

theorem isCheck_alive (alive : Bool) : ∀ call ∈ [Call.alive alive], call.IsCheck :=
  List.forall_mem_singleton.mpr ⟨alive, rfl⟩

section Shapes

variable {link after : Link γ} {units : List Bytes} {calls : List Call}

theorem Checks.isCheck {gone : Bool} (checks : link.Checks (gone, after) calls) :
    ∀ call ∈ calls, call.IsCheck := by
  cases checks with
  | closed _ => exact List.forall_mem_nil _
  | running _ => exact isCheck_alive true
  | exited _ => exact isCheck_alive false

theorem Sends.bracketed {reply : Except Fault Reply}
    (sends : link.Sends units (reply, after) calls) : Bracketed calls := by
  cases sends with
  | closed _ => exact .untouched (List.forall_mem_nil _)
  | exited _ => exact .untouched (isCheck_alive false)
  | nothing _ _ => exact .untouched (isCheck_alive true)
  | refused _ _ => exact .refused (isCheck_alive true)
  | replied _ _ requests => exact .held (isCheck_alive true) requests
  | failed _ _ requests => exact .held (isCheck_alive true) requests

/-- An engine through which units are exchanged has not been found to have exited. -/
theorem not_exited {exchanges : List Call} (requests : ∀ call ∈ exchanges, call.IsExchange) :
    .alive false ∉ .alive true :: .lock (.ok ()) :: exchanges ++ [.unlock] := by
  intro member
  rcases mem_exchange requests member with other | other | ⟨_, _, other⟩ | other <;> cases other

theorem Sends.isCheck_of_idle {reply : Except Fault Reply}
    (sends : link.Sends units (reply, after) calls)
    (idle : link.closed = true ∨ .alive false ∈ calls ∨ units.all List.isEmpty = true) :
    ∀ call ∈ calls, call.IsCheck := by
  cases sends with
  | closed _ => exact List.forall_mem_nil _
  | exited _ => exact isCheck_alive false
  | nothing _ _ => exact isCheck_alive true
  | refused going something =>
      rw [going, something] at idle
      rcases idle with closed | exited | empty
      · cases closed
      · rcases List.mem_cons.mp exited with other | later
        · cases other
        · cases List.mem_singleton.mp later
      · cases empty
  | replied going something requests =>
      rw [going, something] at idle
      rcases idle with closed | exited | empty
      · cases closed
      · exact absurd exited (not_exited requests)
      · cases empty
  | failed going something requests =>
      rw [going, something] at idle
      rcases idle with closed | exited | empty
      · cases closed
      · exact absurd exited (not_exited requests)
      · cases empty

/-- An attempt to take the mutex is not a look at the engine. -/
theorem not_isCheck_lock (outcome : Except Fault Unit) : ¬ Call.IsCheck (.lock outcome) := by
  rintro ⟨_, other⟩
  cases other

/-- Where there is something to send and the engine runs, the mutex is asked for. -/
theorem Sends.idle_of_isCheck {reply : Except Fault Reply}
    (sends : link.Sends units (reply, after) calls) (checks : ∀ call ∈ calls, call.IsCheck) :
    link.closed = true ∨ .alive false ∈ calls ∨ units.all List.isEmpty = true := by
  cases sends with
  | closed closed => exact .inl closed
  | exited _ => exact .inr (.inl (.head _))
  | nothing _ empty => exact .inr (.inr empty)
  | refused _ _ => exact absurd (checks _ (.tail _ (.head _))) (not_isCheck_lock _)
  | replied _ _ _ => exact absurd (checks _ (.tail _ (.head _))) (not_isCheck_lock _)
  | failed _ _ _ => exact absurd (checks _ (.tail _ (.head _))) (not_isCheck_lock _)

end Shapes
end Link

/-- One use of a link. -/
theorem bracketed_of_use [Channel γ ω] (link : Link γ) (world : ω) (use : Use) :
    let usage : LinkUsage γ ω := .of link world use
    Bracketed usage.calls ∧ (Idle usage ↔ ∀ call ∈ usage.calls, call.IsCheck) := by
  intro usage
  cases use with
  | send units =>
      rcases usage_send link world units with ⟨reply, _, sends⟩
      exact ⟨sends.bracketed, sends.isCheck_of_idle, sends.idle_of_isCheck⟩
  | check =>
      rcases usage_check link world with ⟨gone, _, checks⟩
      exact ⟨.untouched checks.isCheck, fun _ => checks.isCheck, fun _ => .inr (.inr trivial)⟩

/-- Any number of uses. -/
theorem bracketed_of_usages [Channel γ ω] {link : Link γ} {world : ω}
    {uses : List ((ω → ω) × Use)} {usage : LinkUsage γ ω}
    (member : usage ∈ (usages link world uses : List (LinkUsage γ ω))) :
    Bracketed usage.calls ∧ (Idle usage ↔ ∀ call ∈ usage.calls, call.IsCheck) := by
  rcases eq_of_mem_usages member with ⟨earlier, world, same⟩
  rw [same]
  exact bracketed_of_use earlier world usage.use

end EngineGateway.SharedBuffer
