import EngineGateway.Proofs.Peer.StatusLines
import EngineGateway.Proofs.Peer.Sweeping

/-!
# What the engine takes with it

When the engine goes, the relays that its own directives have opened end, and with them every
relay that hangs on one of those, however far below.  These relays hear that the engine has gone,
because that is announced before they are forgotten.  Relays below a client end only with that
client.
-/

namespace EngineGateway.Peer

variable {registry : Registry} {id : PeerId} {entry : Entry}

/-- The peer is a relay that the engine has opened, or hangs on one. -/
def Registry.FromEngine (registry : Registry) (id : PeerId) : Prop :=
  ∃ elder entry, Descends registry id elder ∧ registry.find? elder = some entry ∧
    entry.isGameOriginated = true

theorem Numbered.live_withoutEngine (numbered : Numbered registry) :
    Live registry.withoutEngine id ↔ Live registry id ∧ ¬ registry.FromEngine id := by
  have same : Live registry.withoutEngine id ↔
      Live (registry.restrict fun entry => !entry.isGameOriginated) id :=
    Registry.live_iff_of_entries rfl
  rw [same, numbered.live_restrict_iff]
  refine and_congr_right fun _ => ⟨?_, fun own elder entry descends found => ?_⟩
  · rintro own ⟨elder, entry, descends, found, opened⟩
    simpa [opened] using own elder entry descends found
  · by_contra opened
    exact own ⟨elder, entry, descends, found, by simpa using opened⟩

theorem Orderly.find?_detached (orderly : Orderly registry) :
    registry.withoutEngine.collect.2.find? id = some entry ↔
      registry.find? id = some entry ∧ Live registry id ∧ ¬ registry.FromEngine id := by
  rw [orderly.withoutEngine.numbered.find?_collect, orderly.numbered.live_withoutEngine]
  refine and_congr_left fun ⟨_, own⟩ => ?_
  refine (orderly.withEngine none).numbered.find?_restrict.trans ?_
  refine and_iff_left_of_imp fun found => ?_
  -- Whoever is not the engine's has not been opened by it either.
  by_contra opened
  exact own ⟨id, entry, .itself, found, by simpa using opened⟩

theorem Orderly.trimmed_detached (orderly : Orderly registry) :
    Trimmed registry registry.withoutEngine.collect.2 :=
  have trimmed := orderly.withoutEngine.trimmed_collect
  ⟨trimmed.audience, trimmed.subscribers, trimmed.listed, trimmed.once⟩

open Classical in
/-- Wherever a history has led, the going of an engine is announced to exactly the live and open
peers, once to each, the engine's own relays among them.  Then those peers are tracked that
were live and neither are relays that the engine has opened nor hang on one.  They are as they
were and still live, and nobody else is listed.  Where no engine is attached nothing happens. -/
theorem engine_takes_its_relays (maxPeers : Nat) (past : List Operation) :
    let registry := ((Registry.empty maxPeers).run past).2
    let (outcome, after) := registry.apply .detach
    match registry.engine with
    | none => outcome = ⟨.detached none, []⟩ ∧ after = registry
    | some engine =>
        outcome.answer = .detached (some engine) ∧
        (∀ id, framesTo id outcome.sent =
          if LivesOpen registry id then [closedLine engine] else []) ∧
        (∀ id entry, after.find? id = some entry ↔
          registry.find? id = some entry ∧ Live registry id ∧ ¬ registry.FromEngine id) ∧
        (∀ id, Live after id ↔ Live registry id ∧ ¬ registry.FromEngine id) ∧
        Trimmed registry after ∧
        after.engine = none ∧ after.maxPeers = registry.maxPeers ∧
        after.nextId = registry.nextId := by
  intro registry
  have orderly : Orderly registry := (Orderly.empty maxPeers).run past
  cases attached : registry.engine with
  | none =>
      simp only [Registry.apply, Registry.detach_of_none attached]
      exact ⟨trivial, trivial⟩
  | some engine =>
      simp only [Registry.apply, Registry.detach_of_some attached]
      refine ⟨trivial, fun id => orderly.framesTo_announce_with none _ id,
        fun _ _ => orderly.find?_detached, fun id => ?_, orderly.trimmed_detached, rfl, rfl, rfl⟩
      exact orderly.withoutEngine.numbered.live_collect.trans
        orderly.numbered.live_withoutEngine

-- The engine opens a relay, that relay another one, and a client a third.
example :
    let far (protocol : String) : Directive := ⟨false, some "far", none, protocol, none⟩
    let visit : List Operation :=
      [.attach ⟨.socket, 2, 286, "Docking Station", none⟩, .route (far "chat") none,
        .route (far "brain") (some 1), .connect .localhost true [], .route (far "log") (some 3)]
    ((Registry.empty 8).run visit).2.ids = [1, 2, 3, 4] ∧
      ((Registry.empty 8).run (visit ++ [.detach])).2.ids = [3, 4] := by
  decide

end EngineGateway.Peer
