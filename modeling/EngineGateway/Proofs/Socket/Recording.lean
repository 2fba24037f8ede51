import EngineGateway.Socket.Connector

/-!
# Recording what is asked of the world

A recorded world is a world together with the calls that have been made to it:
stamps and contents that were read, and connections that were attempted.  The
programs run in it as in any other world, and the record tells afterwards what
they have done.  What an engine is told over a connection is not recorded.
-/

namespace EngineGateway.Socket

open Engine Discovery

/-- A call to the world, with its outcome where that is of interest. -/
inductive Call where
  | stamp (file : String) (outcome : Except SystemError Stamp)
  | content (file : String) (outcome : Except SystemError Bytes)
  | connect (endpoint : Endpoint)

/-- A world and the calls that have been made to it. -/
structure Recorded (ω : Type) where
  world : ω
  calls : List Call

namespace Recorded

variable {α β κ ω : Type}

/-- Act on the world and record calls. -/
def noting (action : StateM ω α) (calls : α → List Call) : StateM (Recorded ω) α :=
  fun recorded =>
    let (value, world) := action recorded.world
    (value, ⟨world, recorded.calls ++ calls value⟩)

theorem noting_run (action : StateM ω α) (calls : α → List Call) (recorded : Recorded ω) :
    (noting action calls).run recorded =
      ((action.run recorded.world).1, ⟨(action.run recorded.world).2,
        recorded.calls ++ calls (action.run recorded.world).1⟩) := rfl

instance [Network κ ω] : Network κ (Recorded ω) where
  connect endpoint patience :=
    noting (Network.connect endpoint patience) fun _ => [.connect endpoint]
  write connection octets := noting (Network.write connection octets) fun _ => []
  incoming connection := noting (Network.incoming connection) fun _ => []

instance [Host ω] : Host (Recorded ω) where
  fileStamp file := noting (Host.fileStamp file) fun outcome => [.stamp file outcome]
  fileContent file :=
    noting (Host.fileContent file) fun outcome => [.content file outcome]
  listeners port := noting (Host.listeners port) fun _ => []
  processDirectory process := noting (Host.processDirectory process) fun _ => []

/-! ## What programs record -/

/-- The program records the given calls, wherever it is run. -/
def Adds (program : StateM (Recorded ω) α) (calls : List Call) : Prop :=
  ∀ recorded, (program.run recorded).2.calls = recorded.calls ++ calls

theorem Adds.pure (value : α) : Adds (Pure.pure value : StateM (Recorded ω) α) [] :=
  fun recorded => (List.append_nil recorded.calls).symm

theorem Adds.bind {program : StateM (Recorded ω) α}
    {next : α → StateM (Recorded ω) β} {calls more : List Call}
    (first : Adds program calls) (second : ∀ value, Adds (next value) more) :
    Adds (program >>= next) (calls ++ more) := by
  intro recorded
  calc ((program >>= next).run recorded).2.calls
      = (program.run recorded).2.calls ++ more := second _ _
    _ = recorded.calls ++ calls ++ more := by rw [first]
    _ = recorded.calls ++ (calls ++ more) := List.append_assoc _ _ _

/-- A program that records nothing, before one that records something. -/
theorem Adds.silent_bind {program : StateM (Recorded ω) α}
    {next : α → StateM (Recorded ω) β} {calls : List Call}
    (first : Adds program []) (second : ∀ value, Adds (next value) calls) :
    Adds (program >>= next) calls :=
  first.bind second

/-- A program that records something, before one that records nothing. -/
theorem Adds.bind_silent {program : StateM (Recorded ω) α}
    {next : α → StateM (Recorded ω) β} {calls : List Call}
    (first : Adds program calls) (second : ∀ value, Adds (next value) []) :
    Adds (program >>= next) calls := by
  have both := first.bind second
  rwa [List.append_nil] at both

theorem Adds.noting (action : StateM ω α) (calls : List Call) :
    Adds (noting action fun _ => calls) calls :=
  fun _ => rfl

section Exchange

variable [Network κ ω]

theorem adds_writeAll (connection : κ) (retries : Nat) (remaining : Bytes) :
    Adds (ω := ω) (writeAll connection retries remaining) [] := by
  induction retries, remaining using writeAll.induct with
  | case1 retries remaining nothing =>
      rw [writeAll, if_pos nothing]
      exact .pure _
  | case2 retries remaining something taken stalled =>
      rw [writeAll, if_neg something]
      refine Adds.silent_bind (Adds.noting _ _) fun outcome => ?_
      cases outcome with
      | ok count =>
          cases count with
          | zero => exact .pure _
          | succ count => exact taken count
      | error error =>
          have again := stalled error
          simp only at again ⊢
          split
          · rename_i left transient
            rw [transient] at again
            exact again
          · exact .pure _

theorem adds_exchange (endpoint : Endpoint) (patience : Patience) (unit : Bytes) :
    Adds (ω := ω) (exchange endpoint patience unit) [.connect endpoint] := by
  refine Adds.bind_silent (Adds.noting _ _) fun outcome => ?_
  cases outcome with
  | error error => exact .pure _
  | ok connection =>
      simp only
      split
      · exact .pure _
      · refine Adds.silent_bind (adds_writeAll _ _ _) fun written => ?_
        cases written with
        | error fault => exact .pure _
        | ok _ => exact Adds.silent_bind (Adds.noting _ _) fun incoming => .pure _

end Exchange

end Recorded
end EngineGateway.Socket
