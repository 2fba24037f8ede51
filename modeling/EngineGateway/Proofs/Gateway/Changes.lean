import EngineGateway.Gateway.Basic
import EngineGateway.Proofs.Peer.Channel
import EngineGateway.Proofs.Peer.Ids

/-!
# What activities do to the peers

Every activity of the gateway turns one registry into another.  It may forget
peers, and it tracks the relays that it asks for under the ids that come next.
Frames are queued for peers that are tracked, and each of them is a status line,
the message of a directive, or a frame that was meant for one peer.
-/

namespace EngineGateway.Gateway

open Peer

/-- The ids of relays that have to be connected. -/
def Effects.opened (effects : Effects) : List PeerId :=
  effects.relays.map RelayRequest.id

/-- What an activity with certain effects may do to the peers. -/
structure Changes (before after : Registry) (effects : Effects) : Prop where
  places : after.maxPeers = before.maxPeers
  next : after.nextId = before.nextId + effects.relays.length
  numbered : effects.opened = List.range' before.nextId effects.relays.length
  tracks : ∀ id ∈ after.ids, id ∈ before.ids ∨ id ∈ effects.opened
  addressed : ∀ delivery ∈ effects.sent,
    delivery.peer ∈ before.ids ∨ delivery.peer ∈ effects.opened

namespace Changes

variable {before after : Registry} {effects : Effects}

theorem issues (changes : Changes before after effects) : Issues before after effects.opened where
  places := changes.places
  next := by rw [changes.next, Effects.opened, List.length_map]
  numbered := by rw [changes.numbered, List.length_range']
  tracks := changes.tracks

theorem of_issues (issues : Issues before after effects.opened)
    (addressed : ∀ delivery ∈ effects.sent,
      delivery.peer ∈ before.ids ∨ delivery.peer ∈ effects.opened) :
    Changes before after effects := by
  have count : effects.opened.length = effects.relays.length := List.length_map _
  exact
    { places := issues.places
      next := count ▸ issues.next
      numbered := count ▸ issues.numbered
      tracks := issues.tracks
      addressed := addressed }

/-- An activity that opens no relays. -/
theorem of_subset {sent : List Delivery} {log : List LogLine}
    (places : after.maxPeers = before.maxPeers) (next : after.nextId = before.nextId)
    (fewer : after.ids ⊆ before.ids) (addressed : ∀ delivery ∈ sent, delivery.peer ∈ before.ids) :
    Changes before after { sent := sent, log := log } :=
  of_issues (.of_subset places next fewer) fun delivery member => .inl (addressed delivery member)

theorem refl (registry : Registry) (log : List LogLine) :
    Changes registry registry { log := log } :=
  of_subset rfl rfl (fun _ member => member) (by simp)

/-- The ids of relays are new. -/
theorem le_of_mem_opened (changes : Changes before after effects) {id : PeerId}
    (opened : id ∈ effects.opened) : before.nextId ≤ id ∧ id < after.nextId :=
  changes.issues.le_of_mem opened

theorem nodup_opened (changes : Changes before after effects) : effects.opened.Nodup := by
  rw [changes.numbered]
  exact List.nodup_range'

theorem nextId_le (changes : Changes before after effects) : before.nextId ≤ after.nextId :=
  changes.next ▸ Nat.le_add_right _ _

end Changes

/-! ## Directives -/

section Directives

variable {registry : Registry} {directive : Directive} {parent : Option PeerId}

theorem changes_routeDirective (registry : Registry) (directive : Directive)
    (parent : Option PeerId) :
    Changes registry (routeDirective registry directive parent).2
      (routeDirective registry directive parent).1 := by
  refine .of_issues (registry.issues_route directive parent) ?_
  intro delivery queued
  have issues := registry.issues_route directive parent
  simp only [routeDirective, Effects.opened] at queued ⊢
  refine issues.tracks _ ?_
  simp only [Registry.route] at queued ⊢
  split_ifs at queued ⊢
  · exact Registry.mem_ids_of_live (Registry.mem_forward queued).1
  · cases queued

/-- The frames that following a directive queues carry its message. -/
theorem message_of_mem_sent {delivery : Delivery}
    (queued : delivery ∈ (routeDirective registry directive parent).1.sent) :
    ∃ message, directive.message = some message ∧ delivery.frame = .text message := by
  simp only [routeDirective, Registry.route] at queued
  split_ifs at queued
  · exact (Registry.mem_forward queued).2
  · cases queued

end Directives

/-! ## Binary frames -/

section Binary

variable {registry : Registry} {sender : PeerId} {octets : Bytes}

/-- What a binary frame comes to: an answer without any effect on the peers, or a
directive that is followed. -/
theorem handleBinary_cases (registry : Registry) (sender : PeerId) (octets : Bytes) :
    (∃ reply log, handleBinary registry sender octets = (reply, { log := log }, registry)) ∨
    ∃ frame directive, BinaryFrame.decode octets = .ok frame ∧ frame.isDirective = true ∧
      routableDirective? frame.text = some directive ∧
      handleBinary registry sender octets =
        (none, routeDirective registry directive (some sender)) := by
  unfold handleBinary
  cases decoded : BinaryFrame.decode octets with
  | error error => exact .inl ⟨_, [], rfl⟩
  | ok frame =>
      simp only
      split_ifs with marked
      · cases found : routableDirective? frame.text with
        | none => exact .inl ⟨none, [], rfl⟩
        | some directive => exact .inr ⟨frame, directive, rfl, marked, found, rfl⟩
      · exact .inl ⟨_, _, rfl⟩

theorem changes_handleBinary (registry : Registry) (sender : PeerId) (octets : Bytes) :
    Changes registry (handleBinary registry sender octets).2.2
      (handleBinary registry sender octets).2.1 := by
  obtain ⟨reply, log, answered⟩ | ⟨frame, directive, _, _, _, routed⟩ :=
    handleBinary_cases registry sender octets
  · rw [answered]
    exact .refl registry log
  · rw [routed]
    exact changes_routeDirective registry directive (some sender)

end Binary

/-! ## Output of the engine -/

section Output

variable {registry : Registry}

/-- What a line comes to: nothing for the peers, or a directive that is followed. -/
theorem routeLine_cases (registry : Registry) (line : String) :
    (∃ log, routeLine registry line = ({ log := log }, registry)) ∨
    ∃ directive, routableDirective? line = some directive ∧
      routeLine registry line = routeDirective registry directive none := by
  unfold routeLine
  split_ifs with blank
  · exact .inl ⟨[], rfl⟩
  · cases found : routableDirective? line with
    | none => exact .inl ⟨_, rfl⟩
    | some directive => exact .inr ⟨directive, rfl, rfl⟩
  · exact .inl ⟨_, rfl⟩

theorem changes_routeLine (registry : Registry) (line : String) :
    Changes registry (routeLine registry line).2 (routeLine registry line).1 := by
  obtain ⟨log, passed⟩ | ⟨directive, _, routed⟩ := routeLine_cases registry line
  · rw [passed]
    exact .refl registry log
  · rw [routed]
    exact changes_routeDirective registry directive none

theorem routeLines_cons (effects : Effects) (registry : Registry) (line : String)
    (rest : List String) :
    routeLines effects registry (line :: rest) =
      routeLines (effects ++ (routeLine registry line).1) (routeLine registry line).2 rest := by
  rw [routeLines]

/-- The frames that a line queues carry the message of its directive. -/
theorem directive_of_mem_routeLine {line : String} {delivery : Delivery}
    (queued : delivery ∈ (routeLine registry line).1.sent) :
    ∃ directive message, routableDirective? line = some directive ∧
      directive.message = some message ∧ delivery.frame = .text message := by
  obtain ⟨log, passed⟩ | ⟨directive, found, routed⟩ := routeLine_cases registry line
  · rw [passed] at queued
    cases queued
  · rw [routed] at queued
    rcases message_of_mem_sent queued with ⟨message, carried, told⟩
    exact ⟨directive, message, found, carried, told⟩

end Output

/-! ## Engines -/

section Engines

theorem changes_attach (registry : Registry) (engine : Engine.Identity) :
    Changes registry (registry.attach engine).2 { sent := (registry.attach engine).1 } := by
  refine .of_subset rfl rfl (fun _ member => member) ?_
  intro delivery queued
  have live := (Registry.mem_announce queued).1
  exact Registry.mem_ids_of_live (Registry.live_of_entries live rfl)

theorem changes_detach (registry : Registry) :
    Changes registry registry.detach.2.2 { sent := registry.detach.2.1 } := by
  refine .of_issues registry.issues_detach ?_
  intro delivery queued
  exact .inl (Registry.mem_ids_of_live (Registry.mem_detach queued).1)

end Engines

/-! ## Frames of the server itself -/

section Frames

theorem changes_markOpen (registry : Registry) (id : PeerId) :
    Changes registry (registry.markOpen id).2 { sent := (registry.markOpen id).1 } := by
  refine .of_issues (registry.issues_markOpen id) ?_
  intro delivery queued
  rcases Registry.mem_markOpen.mp queued with ⟨entry, _, found, _, _, rfl⟩
  exact .inl (Registry.mem_ids_of_find? found)

/-- Queueing the reply to a frame. -/
theorem changes_reply (registry : Registry) (peer : PeerId) (frame : Option Frame) :
    Changes registry registry { sent := frame.elim [] (registry.send peer) } := by
  refine .of_subset rfl rfl (fun _ member => member) ?_
  intro delivery queued
  cases frame with
  | none => cases queued
  | some frame =>
      rcases registry.send_cases peer frame with nothing | ⟨once, live⟩
      · simp [nothing] at queued
      · have only : delivery = ⟨peer, frame⟩ := by simpa [once] using queued
        rw [only]
        exact Registry.mem_ids_of_live live

end Frames

end EngineGateway.Gateway
