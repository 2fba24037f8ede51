import EngineGateway.Rehearsal.Machine
import EngineGateway.Rehearsal.Venue
import EngineGateway.Settings.Basic

/-!
# Visits to a whole gateway

A gateway starts, looks for an engine once, and then clients come one after
another.  Each stays and sends its frames one at a time until it is sent away.
-/

namespace EngineGateway.Rehearsal

open Engine Peer Server

/-- A gateway with an engine behind a socket. -/
abbrev House := Venue Socket.Link Machine

namespace House

def start (settings : Settings) (machine : Machine) : House :=
  ⟨Server.empty settings.maxClients settings.trustForwardedTls, machine, 0, [], [], []⟩

/-- The first turn of the poller. -/
def discover (house : House) (settings : Settings) : House :=
  let poller := settings.poller none
  let (turn, machine) := (poller.turn house.server.gateway).run house.world
  let (trace, server) := { house.server with gateway := turn.gateway }.spread turn.effects
  { house with server := server, world := machine }.notice trace

/-- A client sends a frame, unless it has been sent away.  What it notices
after each frame is put after what it has noticed so far. -/
def converse (name : String) (state : List (List Heard) × House) (frame : Frame) :
    List (List Heard) × House :=
  let (heard, house) := state
  match house.named? name with
  | none => (heard, house)
  | some _ =>
      let (_, house) := Venue.play house.cleared (.send name frame)
      (heard ++ [house.heardBy name], house)

/-- A client comes and sends its frames.  Where an engine is listening, what
the client notices before it sends anything comes first. -/
def visit (house : House) (frames : List Frame) :
    (CueAnswer × List (List Heard)) × House :=
  let (answer, house) := Venue.play house.cleared (.connect ⟨.localhost, [], []⟩)
  match answer with
  | .received (.admitted id protocol) name =>
      let greeting := if house.world.isListening then [house.heardBy name] else []
      let (heard, house) := frames.foldl (converse name) (greeting, house)
      ((.received (.admitted id protocol) name, heard), house)
  | answer => ((answer, []), house)

end House
end EngineGateway.Rehearsal
