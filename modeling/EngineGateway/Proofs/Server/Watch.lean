import EngineGateway.Proofs.Engine.Keeping
import EngineGateway.Proofs.Gateway.Changes
import EngineGateway.Proofs.Gateway.Scene
import EngineGateway.Proofs.Server.Tasks

/-!
# The poller among the peers

The poller looks after the engine in strides.  A stride reads or changes one thing
that others use as well: the session that the gateway has published, or the registry.
So an engine comes and goes in two strides each, and its output is followed line by
line.  Between two strides anything may happen to peers and sessions.  What the
connectors find and what a probe comes to is left open.
-/

namespace EngineGateway.Server

open Engine Discovery Peer Gateway

variable {σ ω : Type}

/-! ## The two accounts of the engine -/

/-- The engine whose session is published. -/
def published (server : Server σ) : Option Identity :=
  server.gateway.session.map (·.session.identity)

section Accounts

variable (server : Server σ)

@[simp] theorem published_spread (effects : Effects) :
    (server.spread effects).2.published = server.published := rfl

@[simp] theorem published_withRegistry (registry : Registry) :
    (server.withRegistry registry).published = server.published := rfl

@[simp] theorem published_publish (session : Session σ) :
    (server.publish session).published = some session.identity := rfl

@[simp] theorem published_announce (engine : Identity) :
    (server.announce engine).2.published = server.published := rfl

@[simp] theorem published_withdraw : server.withdraw.published = none := rfl

@[simp] theorem published_farewell : server.farewell.2.published = server.published := rfl

@[simp] theorem published_follow (line : String) :
    (server.follow line).2.published = server.published := by
  rw [follow, published_spread, published_withRegistry]

end Accounts

/-! ## Strides -/

/-- What the poller does next. -/
inductive Duty where
  /-- The turn is over, and with the next stride another one begins. -/
  | rests
  /-- There was no session, and the connectors look for one. -/
  | seeks
  /-- The session of an engine is published, and the registry has yet to know. -/
  | announces (engine : Identity)
  /-- There was a session, and it is being probed. -/
  | probes
  /-- The session is withdrawn, and the registry has yet to know. -/
  | parts
  /-- Lines of the engine's output are left to be followed. -/
  | follows (lines : List String)
  deriving Repr, DecidableEq

/-- What a turn finds out: what the connectors found, if they are asked, and what the
probe came to, if there is one. -/
structure Findings (σ : Type) where
  session : Option (Session σ)
  outcome : ProbeOutcome

/-- The lines of what a probe has brought. -/
def probeLines : Option Response → List String
  | some (.text output) => lines output
  | some (.error _) | some (.binary _) | none => []

/-- The server, and the poller that looks after its engine. -/
structure Watch (σ : Type) where
  server : Server σ
  duty : Duty

namespace Watch

/-- A server without peers and without an engine, whose poller has not had a turn. -/
def start (maxPeers : Nat) (trustsForwarded : Bool) : Watch σ :=
  ⟨Server.empty maxPeers trustsForwarded, .rests⟩

/-- The poller goes on. -/
def stride (watch : Watch σ) (findings : Findings σ) : Watch σ :=
  match watch.duty with
  | .rests =>
      match watch.server.gateway.session with
      | none => { watch with duty := .seeks }
      | some _ => { watch with duty := .probes }
  | .seeks =>
      match findings.session with
      | none => { watch with duty := .rests }
      | some session => ⟨watch.server.publish session, .announces session.identity⟩
  | .announces engine => ⟨(watch.server.announce engine).2, .rests⟩
  | .probes =>
      if findings.outcome.closed then ⟨watch.server.withdraw, .parts⟩
      else { watch with duty := .follows (probeLines findings.outcome.output) }
  | .parts => ⟨watch.server.farewell.2, .rests⟩
  | .follows [] => { watch with duty := .rests }
  | .follows (line :: rest) => ⟨(watch.server.follow line).2, .follows rest⟩

end Watch

/-- Only the poller lets an engine come and go and follows its output. -/
def Event.isPollers : Event σ → Bool
  | .publishes _ | .announces _ | .withdraws | .parts | .follows _ => true
  | _ => false

/-- One thing that happens. -/
inductive Occurrence (σ : Type) where
  /-- The poller goes on, with what it has found out. -/
  | strides (findings : Findings σ)
  /-- Something happens to a peer or to a session. -/
  | happens (event : Event σ)

namespace Watch

variable [Transport σ ω]

/-- One thing happens.  What is the poller's own happens in strides only. -/
def step (watch : Watch σ) : Occurrence σ → StateM ω (Watch σ)
  | .strides findings => return watch.stride findings
  | .happens event =>
      if event.isPollers then return watch
      else do
        let (_, server) ← watch.server.step event
        return { watch with server := server }

/-- One thing happens after another.  Before each of them the world may change. -/
def run (watch : Watch σ) (world : ω) : List ((ω → ω) × Occurrence σ) → Watch σ
  | [] => watch
  | (change, occurrence) :: rest =>
      let stepped := (watch.step occurrence).run (change world)
      stepped.1.run stepped.2 rest

end Watch

/-! ## Whole turns -/

section Turns

variable {server : Server σ} {findings : Findings σ} [Transport σ ω]

/-- The poller goes on a number of times, and nothing else happens. -/
def uninterrupted (findings : Findings σ) (count : Nat) :
    List ((ω → ω) × Occurrence σ) :=
  List.replicate count (id, .strides findings)

theorem Watch.run_uninterrupted (watch : Watch σ) (count : Nat) (world : ω) :
    watch.run world (uninterrupted findings (count + 1)) =
      (watch.stride findings).run world (uninterrupted findings count) := rfl

/-- The lines that are left are followed one after another, and then the turn is
over. -/
theorem Watch.run_follows (findings : Findings σ) (server : Server σ) (effects : Effects)
    (lines : List String) (world : ω) :
    let watch := (Watch.mk server (.follows lines)).run world
      (uninterrupted findings (lines.length + 1))
    watch.duty = .rests ∧
      watch.server.registry = (routeLines effects server.registry lines).2 ∧
      watch.server.published = server.published := by
  induction lines generalizing server effects with
  | nil => exact ⟨rfl, rfl, rfl⟩
  | cons line rest ih =>
      have followed : (Watch.mk server (.follows (line :: rest))).stride findings =
          ⟨(server.follow line).2, .follows rest⟩ := rfl
      have later := ih (server.follow line).2 (effects ++ (routeLine server.registry line).1)
      rw [registry_follow, published_follow] at later
      rw [List.length_cons, Watch.run_uninterrupted, followed, routeLines_cons]
      exact later

/-- No engine is found. -/
theorem Watch.run_seeks_none (alone : server.gateway.session = none)
    (nothing : findings.session = none) (world : ω) :
    (Watch.mk server .rests).run world (uninterrupted findings 2) = ⟨server, .rests⟩ := by
  simp only [Watch.run_uninterrupted, stride, alone, nothing]
  rfl

/-- An engine is found, and its session is attached. -/
theorem Watch.run_seeks_some (alone : server.gateway.session = none) {session : Session σ}
    (found : findings.session = some session) (world : ω) :
    (Watch.mk server .rests).run world (uninterrupted findings 3) =
      ⟨((server.publish session).announce session.identity).2, .rests⟩ := by
  simp only [Watch.run_uninterrupted, stride, alone, found]
  rfl

/-- The engine is gone, and its session is withdrawn. -/
theorem Watch.run_probes_closed {mailbox : Mailbox σ}
    (attached : server.gateway.session = some mailbox)
    (gone : findings.outcome.closed = true) (world : ω) :
    (Watch.mk server .rests).run world (uninterrupted findings 3) =
      ⟨server.withdraw.farewell.2, .rests⟩ := by
  simp only [Watch.run_uninterrupted, stride, attached, gone, if_true]
  rfl

/-- Following the lines of what a probe has brought is routing it. -/
theorem routeLines_probeLines (registry : Registry) (output : Option Response) :
    (routeLines {} registry (probeLines output)).2 =
      (Poller.routeProbe registry output).2 := by
  cases output with
  | none => rfl
  | some response => cases response <;> rfl

/-- The engine goes on, and its output is followed. -/
theorem Watch.run_probes_going (findings : Findings σ) {mailbox : Mailbox σ}
    (attached : server.gateway.session = some mailbox)
    (going : findings.outcome.closed = false) (world : ω) :
    let count := (probeLines findings.outcome.output).length + 3
    let watch := (Watch.mk server .rests).run world (uninterrupted findings count)
    watch.duty = .rests ∧
      watch.server.registry =
        (Poller.routeProbe server.registry findings.outcome.output).2 ∧
      watch.server.published = server.published := by
  have begins : (Watch.mk server .rests).stride findings = ⟨server, .probes⟩ := by
    simp only [stride, attached]
  have goes : (Watch.mk server .probes).stride findings =
      ⟨server, .follows (probeLines findings.outcome.output)⟩ := by
    simp only [stride, going, Bool.false_eq_true, if_false]
  have routed := routeLines_probeLines server.registry findings.outcome.output
  have followed := Watch.run_follows findings server {}
    (probeLines findings.outcome.output) world
  rw [routed] at followed
  intro count
  rw [Watch.run_uninterrupted, begins, Watch.run_uninterrupted, goes]
  exact followed

section Acting

variable {κ : Type} (poller : Poller κ) (gateway : Gateway σ) {probed : ProbeOutcome × Nat}

/-- Acting on the news that the engine is gone withdraws it. -/
theorem gateway_act_closed (gone : probed.1.closed = true) (world : ω) :
    ((poller.act gateway probed).run world).1.gateway = gateway.detach.2.2 := by
  rw [Poller.act, if_pos gone]
  cases attached : gateway.session with
  | none => simp only [Poller.withdraw, Gateway.detach, attached, run_pure]
  | some mailbox => simp only [Poller.withdraw, Gateway.detach, attached, run_bind, run_pure]

/-- Acting on anything else routes what the probe has brought. -/
theorem gateway_act_going (going : probed.1.closed = false) (world : ω) :
    ((poller.act gateway probed).run world).1.gateway =
      { gateway with registry := (Poller.routeProbe gateway.registry probed.1.output).2 } := by
  rw [Poller.act, if_neg (Bool.eq_false_iff.mp going)]
  rfl

end Acting

/-- What is found out in the turn of a poller decides the turn: left alone, the strides
lead to the same registry and to a session of the same engine. -/
theorem turn_uninterrupted {κ : Type} [Connector κ σ ω] (poller : Poller κ)
    (server : Server σ) (world : ω) :
    let turned := ((poller.turn server.gateway).run world).1
    ∃ findings count,
      let watch := (Watch.mk server .rests).run world (uninterrupted findings count)
      watch.duty = .rests ∧ watch.server.registry = turned.gateway.registry ∧
        watch.server.published = turned.gateway.session.map (·.session.identity) := by
  cases attached : server.gateway.session with
  | none =>
      simp only [Poller.turn, attached, Poller.discover, run_bind]
      cases found : ((discoverAny poller.policy poller.connectors).run world).1.1 with
      | none =>
          refine ⟨⟨none, ⟨false, false, none⟩⟩, 2, ?_⟩
          rw [Watch.run_seeks_none attached rfl]
          exact ⟨rfl, rfl, rfl⟩
      | some session =>
          refine ⟨⟨some session, ⟨false, false, none⟩⟩, 3, ?_⟩
          rw [Watch.run_seeks_some attached rfl]
          exact ⟨rfl, rfl, rfl⟩
  | some mailbox =>
      rw [poller.turn_eq_ask_act attached]
      let asked := (poller.ask mailbox : StateM ω _).run world
      have kept : asked.1.2.session.identity = mailbox.session.identity :=
        mailbox.identity_askProbe _ world
      let findings : Findings σ := ⟨none, asked.1.1.1⟩
      cases gone : findings.outcome.closed with
      | true =>
          have acted := gateway_act_closed poller
            { server.gateway with session := some asked.1.2 } gone asked.2
          refine ⟨findings, 3, ?_⟩
          rw [Watch.run_probes_closed attached gone, run_bind, acted]
          exact ⟨rfl, rfl, rfl⟩
      | false =>
          have acted := gateway_act_going poller
            { server.gateway with session := some asked.1.2 } gone asked.2
          have followed := Watch.run_probes_going findings attached gone world
          refine ⟨findings, _, followed.1, ?_, followed.2.2.trans ?_⟩
          · rw [run_bind, acted]
            exact followed.2.1
          · rw [run_bind, acted, published, attached]
            exact congrArg some kept.symm

end Turns

end EngineGateway.Server
