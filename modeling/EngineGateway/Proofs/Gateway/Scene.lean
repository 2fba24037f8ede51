import EngineGateway.Gateway.Poller
import EngineGateway.Proofs.Socket.Connector

/-!
# The poller among other things

A poller with one finder, the gateway, and the world take their steps in any
order.  Peers may have scripts performed at any time, also between the question
of a probe and what the poller makes of the answer, and the world may change at
will.  An observer notes what the links answered, which calls were made, and when
sessions came and went, but knows nothing of the flags by which the programs
remember such things.
-/

namespace EngineGateway

open Engine Discovery Socket

/-! ## The two halves of a probing turn -/

namespace Poller

variable {σ κ ω : Type} [Transport σ ω]

/-- Ask how the engine is. -/
def ask (poller : Poller κ) (mailbox : Mailbox σ) :
    StateM ω ((ProbeOutcome × Nat) × Mailbox σ) := do
  let (command, interval) := poller.probePlan mailbox.session.identity
  let (outcome, mailbox) ← mailbox.askProbe command
  return ((outcome, interval), mailbox)

/-- Act on the answer. -/
def act (poller : Poller κ) (gateway : Gateway σ) (probed : ProbeOutcome × Nat) :
    StateM ω (Turn σ κ) :=
  if probed.1.closed then
    poller.withdraw gateway probed.1.reconnect
  else
    let (effects, registry) := routeProbe gateway.registry probed.1.output
    return ⟨probed.2, effects, { gateway with registry := registry }, poller⟩

/-- A turn with a session asks and acts. -/
theorem turn_eq_ask_act [Connector κ σ ω] (poller : Poller κ) {gateway : Gateway σ}
    {mailbox : Mailbox σ} (attached : gateway.session = some mailbox) :
    (poller.turn gateway : StateM ω _) = (do
      let (probed, mailbox) ← poller.ask mailbox
      poller.act { gateway with session := some mailbox } probed) := by
  simp only [turn, attached]
  rfl

/-- After a withdrawal there is no session, and one more attempt is due if the
session asked for it. -/
theorem withdraw_run (poller : Poller κ) (gateway : Gateway σ) (reconnect : Bool)
    (world : ω) :
    let turn := ((poller.withdraw gateway reconnect).run world).1
    turn.gateway.session = none ∧
      turn.poller =
        { poller with policy := if reconnect then poller.policy.arm else poller.policy } := by
  cases attached : gateway.session with
  | none =>
      simp only [withdraw, Gateway.detach, attached]
      exact ⟨rfl, rfl⟩
  | some mailbox =>
      simp only [withdraw, Gateway.detach, attached]
      exact ⟨rfl, rfl⟩

end Poller

/-! ## What an observer notes -/

/-- The notes of an observer. -/
structure Notes where
  /-- The stamp of the last attempt that found an engine. -/
  lastSuccess : Option Stamp
  /-- The port of the last session and the fault that ended it, if it is over. -/
  ended : Option (Nat × Fault)
  /-- The port file has been found since the last session was withdrawn. -/
  looked : Bool
  deriving Repr, DecidableEq

namespace Notes

/-- Nothing has happened yet. -/
def blank : Notes :=
  ⟨none, none, false⟩

/-- An errand that met a fault or none has gone to a session.  The session is
over if it is closed afterwards and was not before. -/
def hear (notes : Notes) (before after : Session Link) (fault : Option Fault) : Notes :=
  if !before.closed && after.closed then
    { notes with ended := fault.map fun met => (before.transport.endpoint.port, met) }
  else
    notes

theorem hear_same {notes : Notes} {before after : Session Link} {fault : Option Fault}
    (same : after.closed = before.closed) : notes.hear before after fault = notes := by
  simp [hear, same]

theorem hear_lastSuccess (notes : Notes) (before after : Session Link)
    (fault : Option Fault) :
    (notes.hear before after fault).lastSuccess = notes.lastSuccess := by
  unfold hear
  split <;> rfl

theorem hear_ended {notes : Notes} {before after : Session Link} {met : Fault}
    (going : before.closed = false) (gone : after.closed = true) :
    notes.hear before after (some met) =
      { notes with ended := some (before.transport.endpoint.port, met) } := by
  simp [hear, going, gone]

/-- The session has been withdrawn. -/
def withdrawn (notes : Notes) : Notes :=
  { notes with looked := false }

/-- The stamp of the port file among the calls of a turn. -/
def stampIn (calls : List Call) : Option Stamp :=
  calls.findSome? fun
    | .stamp _ (.ok stamp) => some stamp
    | _ => none

/-- A turn without a session has made its calls and perhaps found an engine. -/
def look (notes : Notes) (calls : List Call) (found : Bool) : Notes where
  lastSuccess := if found then stampIn calls else notes.lastSuccess
  ended := if found then none else notes.ended
  looked := notes.looked || (stampIn calls).isSome

/-- The port of the last session, if it ended with a broken pipe and the port file
has not been found since. -/
def due (notes : Notes) : Option Nat :=
  match notes.ended with
  | some (port, .brokenPipe) => if notes.looked then none else some port
  | _ => none

theorem due_withdrawn {notes : Notes} {port : Nat} {fault : Fault}
    (ended : notes.ended = some (port, fault)) :
    notes.withdrawn.due = if fault = .brokenPipe then some port else none := by
  cases fault <;> simp [due, withdrawn, ended]

end Notes

/-! ## The scene -/

/-- The poller, the gateway and the world, with the answer of a probe on which the
poller has not acted yet, and the notes of the observer. -/
structure Scene (ω : Type) where
  poller : Poller Finder
  gateway : Gateway Link
  probed : Option (ProbeOutcome × Nat)
  world : ω
  notes : Notes

/-- One thing that happens. -/
inductive Happening (ω : Type) where
  /-- The poller takes a turn, or one of the two halves of a turn. -/
  | stride
  /-- A peer has a script performed. -/
  | text (content : String)
  /-- Peers come, go and follow directives. -/
  | peers (registry : Peer.Registry)
  | elsewhere (change : ω → ω)

namespace Scene

variable {κ ω : Type}

/-- A poller that has not had a turn yet. -/
def start (finder : Finder) (probeCommand : String) (pollInterval retryInterval : Nat)
    (registry : Peer.Registry) (world : ω) : Scene ω :=
  ⟨Poller.start [finder] probeCommand pollInterval retryInterval, ⟨registry, none⟩, none,
    world, Notes.blank⟩

variable [Network κ ω] [Host ω]

/-- The world before anything has been recorded. -/
def unrecorded (scene : Scene ω) : Recorded ω :=
  ⟨scene.world, []⟩

/-- The poller goes on.  Returns the calls that it makes. -/
def stride (scene : Scene ω) : List Call × Scene ω :=
  match scene.probed, scene.gateway.session with
  | some probed, _ =>
      let acted := (scene.poller.act scene.gateway probed).run scene.unrecorded
      (acted.2.calls,
        { poller := acted.1.poller
          gateway := acted.1.gateway
          probed := none
          world := acted.2.world
          notes := if probed.1.closed then scene.notes.withdrawn else scene.notes })
  | none, some mailbox =>
      let asked := (scene.poller.ask mailbox).run scene.unrecorded
      let command := (scene.poller.probePlan mailbox.session.identity).1
      let fault := mailbox.session.faultOn (.probe command) scene.unrecorded
      (asked.2.calls,
        { scene with
          gateway := { scene.gateway with session := some asked.1.2 }
          probed := some asked.1.1
          world := asked.2.world
          notes := scene.notes.hear mailbox.session asked.1.2.session fault })
  | none, none =>
      let turned := (scene.poller.turn scene.gateway).run scene.unrecorded
      (turned.2.calls,
        { scene with
          poller := turned.1.poller
          gateway := turned.1.gateway
          world := turned.2.world
          notes := scene.notes.look turned.2.calls turned.1.gateway.session.isSome })

/-- A peer has a script performed. -/
def perform (scene : Scene ω) (text : String) : List Call × Scene ω :=
  let handled := (scene.gateway.handleText text).run scene.unrecorded
  let notes :=
    match scene.gateway.session, handled.1.2.session with
    | some before, some after =>
        scene.notes.hear before.session after.session
          (before.session.faultOn (.send text) scene.unrecorded)
    | _, _ => scene.notes
  (handled.2.calls,
    { scene with
      gateway := handled.1.2
      world := handled.2.world
      notes := notes })

/-- One thing happens.  Returns the calls that it makes. -/
def step (scene : Scene ω) : Happening ω → List Call × Scene ω
  | .stride => scene.stride
  | .text content => scene.perform content
  | .peers registry =>
      ([], { scene with gateway := { scene.gateway with registry := registry } })
  | .elsewhere change => ([], { scene with world := change scene.world })

/-- One thing happens after another. -/
def run (scene : Scene ω) (happenings : List (Happening ω)) : Scene ω :=
  happenings.foldl (fun scene happening => (scene.step happening).2) scene

end Scene

end EngineGateway
