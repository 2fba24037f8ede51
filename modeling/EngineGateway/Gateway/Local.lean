import EngineGateway.BinaryFrame
import EngineGateway.Peer.Registry
import EngineGateway.Text.Hex

/-!
# What the gateway does by itself

Binary frames and the output of the engine never reach the engine.  Directives
among them are routed between peers.  Of the other commands the gateway carries
out the two that write to its log, and it answers the rest with an error text.
-/

namespace EngineGateway.Gateway

open Peer

/-- Where a line is logged. -/
inductive LogTarget where
  | gateway
  | engineOutput
  deriving Repr, DecidableEq

/-- A line of the log. -/
structure LogLine where
  target : LogTarget
  text : String
  deriving Repr, DecidableEq

/-- What an activity leaves to be done or seen outside: frames that it queued,
lines that it logged, relays that have to be connected. -/
structure Effects where
  sent : List Delivery := []
  log : List LogLine := []
  relays : List RelayRequest := []
  deriving Repr, DecidableEq

/-- Effects of two activities one after the other. -/
def Effects.append (first second : Effects) : Effects :=
  ⟨first.sent ++ second.sent, first.log ++ second.log, first.relays ++ second.relays⟩

instance : Append Effects := ⟨Effects.append⟩

/-! ## Directives -/

/-- The directive of a line, if the line is one that reaches somebody. -/
def routableDirective? (line : String) : Option Directive :=
  (Directive.parse? line).filter Directive.isRoutable

def routeDirective (registry : Registry) (directive : Directive)
    (parent : Option PeerId) : Effects × Registry :=
  let (relays, sent, registry) := registry.route directive parent
  ({ sent := sent, relays := relays }, registry)

/-! ## Binary frames -/

/-- A number of 32 bits as eight hexadecimal digits. -/
def renderCode (code : UInt32) : String :=
  Text.hexNumber 8 code.toNat

/-- Carry out the command of a frame that is not a directive. -/
def answerLocally (frame : BinaryFrame) : Engine.Response × List LogLine :=
  match frame.command with
  | some .log => (.empty, [⟨.gateway, frame.text⟩])
  | some .debug => (.empty, [⟨.engineOutput, frame.text⟩])
  | some command => (.text ("ERROR: " ++ command.name ++ " is not supported."), [])
  | none => (.text ("ERROR: unknown command code " ++ renderCode frame.code ++ "."), [])

/-- Handle a binary frame of a peer.  Octets that are no frame are answered
with a text. -/
def handleBinary (registry : Registry) (sender : PeerId) (octets : Bytes) :
    Option Frame × Effects × Registry :=
  match BinaryFrame.decode octets with
  | .error error => (some (.text ("ERROR: " ++ error.message)), {}, registry)
  | .ok frame =>
      if frame.isDirective then
        match routableDirective? frame.text with
        | none => (none, {}, registry)
        | some directive =>
            let (effects, registry) := routeDirective registry directive (some sender)
            (none, effects, registry)
      else
        let (response, log) := answerLocally frame
        (Frame.ofResponse? response, { log := log }, registry)

/-! ## Output of the engine -/

/-- A line without the carriage return in front of its line feed. -/
def dropReturn (reversed : List Char) : List Char :=
  match reversed with
  | '\r' :: rest => rest.reverse
  | whole => whole.reverse

/-- The lines of a text after those in `done`, which are held in reverse, as is
the line that is being read. -/
def linesOnto (done : List (List Char)) (line : List Char) :
    List Char → List (List Char)
  | [] => if line.isEmpty then done.reverse else (line.reverse :: done).reverse
  | '\n' :: rest => linesOnto (dropReturn line :: done) [] rest
  | character :: rest => linesOnto done (character :: line) rest

/-- The lines of a text.  A line feed ends a line, and a carriage return before
it belongs to it. -/
def lines (text : String) : List String :=
  (linesOnto [] [] text.toList).map String.ofList

/-- A line that could be a directive. -/
def looksLikeDirective (line : String) : Bool :=
  match line.toList with
  | 'w' :: 's' :: _ => true
  | _ => false

/-- Route one line of the engine's output, or log it.  Blank lines are passed
over. -/
def routeLine (registry : Registry) (line : String) : Effects × Registry :=
  if (Text.trim line).isEmpty then ({}, registry)
  else
    match (if looksLikeDirective line then routableDirective? line else none) with
    | some directive => routeDirective registry directive none
    | none => ({ log := [⟨.engineOutput, line⟩] }, registry)

/-- Route lines in order after the effects already there. -/
def routeLines (effects : Effects) (registry : Registry) :
    List String → Effects × Registry
  | [] => (effects, registry)
  | line :: rest =>
      let (more, registry) := routeLine registry line
      routeLines (effects ++ more) registry rest

/-- Route the output of the engine line by line. -/
def routeOutput (registry : Registry) (output : String) : Effects × Registry :=
  routeLines {} registry (lines output)

end EngineGateway.Gateway
