import EngineGateway.Proofs.Peer.History
import EngineGateway.Proofs.Server.Manned

/-!
# The registry of a server

Tasks and the gateway change the registry by its own operations, and a directive comes from the
engine or from a peer that has a task, and so an id.  Hence the registry of a server is sound,
whatever has happened.
-/

namespace EngineGateway.Gateway

open Peer

variable {registry : Registry}

theorem sound_routeDirective (sound : Sound registry) {directive : Directive}
    {parent : Option PeerId}
    (known : ∀ sender, parent = some sender → sender < registry.nextId) :
    Sound (routeDirective registry directive parent).2 :=
  sound.route known

theorem sound_handleBinary (sound : Sound registry) {sender : PeerId}
    (known : sender < registry.nextId) (octets : Bytes) :
    Sound (handleBinary registry sender octets).2.2 := by
  obtain ⟨reply, log, answered⟩ | ⟨frame, directive, _, _, _, routed⟩ :=
    handleBinary_cases registry sender octets
  · rw [answered]
    exact sound
  · rw [routed]
    exact sound_routeDirective sound fun _ same => Option.some.inj same ▸ known

theorem sound_routeLine (sound : Sound registry) (line : String) :
    Sound (routeLine registry line).2 := by
  obtain ⟨log, passed⟩ | ⟨directive, _, routed⟩ := routeLine_cases registry line
  · rw [passed]
    exact sound
  · rw [routed]
    exact sound_routeDirective sound nofun

end EngineGateway.Gateway

namespace EngineGateway.Server

open Engine Peer Gateway

variable {σ ω : Type} [Transport σ ω] {places : Nat} {server : Server σ}

theorem sound_answerKnock (sound : Sound server.registry) (knock : Knock) :
    Sound (server.answerKnock knock).2.registry := by
  unfold answerKnock receive
  obtain ⟨refusal, refused⟩ | ⟨room, admitted⟩ := server.registry.connect_cases knock.address
    (server.trustsForwarded && namesSecureScheme knock.forwarded)
    (offeredProtocols knock.protocols)
  · simp only [refused]
    exact sound
  · simp only [admitted]
    exact sound.insert (Registry.newcomer_client room _)

/-- Whatever an event comes to keeps the registry sound. -/
theorem Manned.sound_of_steps (manned : Manned places server) (sound : Sound server.registry)
    {world : ω} {event : Event σ} {result : Trace × Server σ}
    (steps : Steps server world event result) : Sound result.2.registry := by
  cases steps with
  | idles _ _ => exact sound
  | knocks knock => exact sound_answerKnock sound knock
  | opens _ _ => exact sound.markOpen _
  | fails _ _ => exact sound.restrict _
  | takesText _ _ _ => exact sound
  | takesBinary found _ _ =>
      exact sound_handleBinary sound (manned.issued _ (mem_of_task? found)) _
  | submits _ _ _ =>
      rw [registry_postErrand]
      exact sound
  | replies _ _ => exact sound
  | hearsEnd _ _ _ => exact sound.restrict _
  | writes _ _ _ => exact sound
  | breaksOff _ _ => exact sound
  | endsWriting _ _ => exact sound.hangUp _
  | finishes _ _ => exact sound.collect
  | works _ =>
      show Sound (server.setMailbox _ _).registry
      rw [registry_setMailbox]
      exact sound
  | asks _ =>
      rw [registry_postErrand]
      exact sound
  | shutsDown _ =>
      rw [registry_post]
      exact sound
  | publishes _ => exact sound
  | announces engine => exact sound.withEngine _
  | withdraws => exact sound
  | parts => exact sound.detach
  | follows line =>
      rw [registry_follow]
      exact sound_routeLine sound line
  | collects => exact sound.collect

/-- At every moment of a history of the server its registry is sound. -/
theorem sound_moments (maxPeers : Nat) (trustsForwarded : Bool) (world : ω)
    (history : List ((ω → ω) × Event σ)) :
    ∀ moment ∈ (empty maxPeers trustsForwarded : Server σ).moments world history,
      moment = moment.before.moment moment.world moment.event ∧
        Sound moment.before.registry := by
  refine (along (fun past server => Manned maxPeers server ∧ Sound server.registry ∧
    ∀ moment ∈ past, moment = moment.before.moment moment.world moment.event ∧
      Sound moment.before.registry) ?_ ?_ world history).2.2
  · exact ⟨manned_empty maxPeers trustsForwarded, Sound.empty maxPeers, by simp⟩
  · rintro past server world event ⟨manned, sound, earlier⟩
    have steps := steps_step server world event
    refine ⟨manned.of_steps steps, manned.sound_of_steps sound steps, fun moment member => ?_⟩
    rcases List.mem_append.mp member with before | last
    · exact earlier moment before
    · rw [List.mem_singleton.mp last]
      exact ⟨rfl, sound⟩

end EngineGateway.Server
