import EngineGateway.Discovery.Connector
import EngineGateway.Gateway.Basic

/-!
# Looking after the engine

While no engine is attached, every turn looks for one.  Once an engine is
attached, every turn probes it: an engine that is gone is withdrawn, and the
output of the probe is routed.  An engine reached through DDE is only checked
for being there.
-/

namespace EngineGateway

open Engine Discovery Gateway

/-- What is needed to look for engines and to probe them.  Intervals are in
milliseconds. -/
structure Poller (κ : Type) where
  connectors : List κ
  policy : Policy
  probeCommand : Option String
  pollInterval : Nat
  retryInterval : Nat
  deriving Repr

/-- What a turn leads to. -/
structure Turn (σ κ : Type) where
  /-- How long to wait before the next turn. -/
  delay : Nat
  effects : Effects
  gateway : Gateway σ
  poller : Poller κ

namespace Poller

variable {σ κ ω : Type}

/-- A poller that has not had a turn yet.  A blank command means that probes
send none. -/
def start (connectors : List κ) (probeCommand : String)
    (pollInterval retryInterval : Nat) : Poller κ :=
  let command := Text.trim probeCommand
  ⟨connectors, Policy.start, if command.isEmpty then none else some command,
   pollInterval, retryInterval⟩

/-- Look for an engine and attach to it. -/
def discover [Connector κ σ ω] (poller : Poller κ) (gateway : Gateway σ) :
    StateM ω (Turn σ κ) := do
  let (found, connectors, policy) ← discoverAny poller.policy poller.connectors
  let poller := { poller with connectors := connectors, policy := policy }
  match found with
  | none => return ⟨poller.retryInterval, {}, gateway, poller⟩
  | some session =>
      let (effects, gateway) := gateway.attach (Mailbox.ofSession session)
      return ⟨poller.pollInterval, effects, gateway, poller⟩

/-- The probe's command for an engine and how long to wait after the probe. -/
def probePlan (poller : Poller κ) (identity : Identity) : Option String × Nat :=
  if identity.isDde then (none, poller.retryInterval)
  else (poller.probeCommand, poller.pollInterval)

/-- What the output of a probe means for the peers. -/
def routeProbe (registry : Peer.Registry) :
    Option Response → Effects × Peer.Registry
  | some (.text output) => routeOutput registry output
  | some (.error _) | some (.binary _) | none => ({}, registry)

/-- Withdraw the session of an engine that is gone. -/
def withdraw [Transport σ ω] (poller : Poller κ) (gateway : Gateway σ)
    (reconnect : Bool) : StateM ω (Turn σ κ) := do
  let (mailbox, effects, gateway) := gateway.detach
  if let some mailbox := mailbox then
    let _ ← mailbox.shutdown
  let policy := if reconnect then poller.policy.arm else poller.policy
  return ⟨poller.retryInterval, effects, gateway, { poller with policy := policy }⟩

def probe [Transport σ ω] (poller : Poller κ) (gateway : Gateway σ)
    (mailbox : Mailbox σ) : StateM ω (Turn σ κ) := do
  let (command, interval) := poller.probePlan mailbox.session.identity
  let (outcome, mailbox) ← mailbox.askProbe command
  let gateway := { gateway with session := some mailbox }
  if outcome.closed then
    poller.withdraw gateway outcome.reconnect
  else
    let (effects, registry) := routeProbe gateway.registry outcome.output
    return ⟨interval, effects, { gateway with registry := registry }, poller⟩

def turn [Connector κ σ ω] [Transport σ ω] (poller : Poller κ)
    (gateway : Gateway σ) : StateM ω (Turn σ κ) :=
  match gateway.session with
  | some mailbox => poller.probe gateway mailbox
  | none => poller.discover gateway

end Poller
end EngineGateway
