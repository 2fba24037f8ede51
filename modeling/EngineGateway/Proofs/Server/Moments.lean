import EngineGateway.Proofs.World
import EngineGateway.Server.Basic

/-!
# Histories of the server

A history is told moment by moment: what happened, in which world, what it showed,
and the server before and after it.  The world may change at will between two
events.  What holds of the moments so far and of the server after them is proved
one moment at a time.
-/

namespace EngineGateway.Server

open Engine Peer

/-- One event of a history. -/
structure Moment (σ ω : Type) where
  before : Server σ
  world : ω
  event : Event σ
  trace : Trace
  after : Server σ

variable {σ ω : Type} [Transport σ ω]

/-- The moment in which an event happens. -/
def moment (server : Server σ) (world : ω) (event : Event σ) : Moment σ ω where
  before := server
  world := world
  event := event
  trace := ((server.step event).run world).1.1
  after := ((server.step event).run world).1.2

/-- The moments of events that happen one after another.  Before each of them the
world may change. -/
def moments (server : Server σ) (world : ω) : List ((ω → ω) × Event σ) → List (Moment σ ω)
  | [] => []
  | (change, event) :: rest =>
      server.moment (change world) event ::
        (server.moment (change world) event).after.moments
          ((server.step event).run (change world)).2 rest

/-- The server after moments. -/
def afterAll (server : Server σ) : List (Moment σ ω) → Server σ
  | [] => server
  | moment :: rest => afterAll moment.after rest

/-- What holds at the start, and is kept by every moment, holds of all moments of a
history and of the server after them. -/
theorem along (kept : List (Moment σ ω) → Server σ → Prop) {server : Server σ}
    (start : kept [] server)
    (next : ∀ past server world event, kept past server →
      kept (past ++ [server.moment world event]) (server.moment world event).after)
    (world : ω) (history : List ((ω → ω) × Event σ)) :
    kept (server.moments world history) (server.afterAll (server.moments world history)) := by
  suffices ∀ past server world, kept past server →
      kept (past ++ server.moments world history)
        (server.afterAll (server.moments world history)) from this [] server world start
  induction history with
  | nil =>
      intro past server world holds
      rw [moments, List.append_nil]
      exact holds
  | cons first rest ih =>
      rcases first with ⟨change, event⟩
      intro past server world holds
      have later := ih _ _ ((server.step event).run (change world)).2
        (next past server (change world) event holds)
      rw [List.append_assoc] at later
      exact later

end EngineGateway.Server
