import EngineGateway.CommandLine.Arguments
import EngineGateway.CommandLine.LogFilter

/-!
# Starting the program

The arguments say which settings file to read and what to override, and the
settings say where to listen.  What comes of it is an exit code, lines of the
log, and possibly an error.  How a settings file is read is left open.
-/

namespace EngineGateway.CommandLine

open Engine

/-- What the program needs to know of its surroundings. -/
structure Surroundings where
  file : String → Except SystemError Bytes
  environment : Settings.Lookup
  /-- A listener can be opened at an address and port. -/
  canListen : String → Nat → Bool

/-- How a run of the program goes. -/
structure Report where
  exitCode : Nat
  log : List String
  error : Option String
  deriving Repr, DecidableEq

/-- The first line of a text. -/
def firstLine (text : String) : String :=
  String.ofList (text.toList.takeWhile (· != '\n'))

/-! ## The log -/

/-- A line of the log. -/
structure LogLine where
  target : String
  message : String
  deriving Repr, DecidableEq

def LogLine.text (line : LogLine) : String :=
  line.target ++ ": " ++ line.message

/-- The line with which the program announces itself. -/
def startingLine (settings : Settings) : LogLine :=
  ⟨"bridge_server",
    "starting bridge-server on " ++ settings.listenAddress ++
      " (max_clients = " ++ toString settings.maxClients ++ ")"⟩

/-- The line that follows when the listener is open. -/
def listeningLine (settings : Settings) : LogLine :=
  ⟨"bridge_server::server", "listening on " ++ settings.listenAddress⟩

/-- The line with which the program ends when it is interrupted. -/
def endingLine : LogLine :=
  ⟨"bridge_server", "shutting down"⟩

/-- The variable that holds a filter for the log. -/
def filterVariable : String :=
  "RUST_LOG"

/-- The filter of a run: that of the environment, if it can be read, and
otherwise the one that the arguments ask for. -/
def filterOf (environment : Settings.Lookup) (arguments : Arguments) : LogFilter :=
  let usual := LogFilter.ofLevel (if arguments.debug then .debug else .info)
  ((environment filterVariable).bind LogFilter.read?).getD usual

/-- The lines that a filter lets pass, as they are written. -/
def written (filter : LogFilter) (lines : List LogLine) : List String :=
  (lines.filter fun line => filter.showsInfo line.target).map LogLine.text

/-! ## A run -/

def errorLine (message : String) : String :=
  "Error: " ++ message

/-- The settings that arguments and surroundings amount to, or the wording of
what is wrong with them. -/
def settingsFor (toml : Toml.Reading) (surroundings : Surroundings) (arguments : Arguments) :
    Except String Settings :=
  let path := arguments.config.getD ""
  let file := arguments.config.map surroundings.file
  match Settings.load toml file surroundings.environment with
  | .error failure => .error (failure.message path)
  | .ok settings => .ok (arguments.apply settings)

/-- A run that listens, if it can, until it is interrupted. -/
def serve (surroundings : Surroundings) (filter : LogFilter) (settings : Settings) :
    Report :=
  if surroundings.canListen settings.bindAddress settings.port then
    let lines := [startingLine settings, listeningLine settings, endingLine]
    ⟨0, written filter lines, none⟩
  else
    ⟨1, written filter [startingLine settings],
      some (errorLine ("failed to bind " ++ settings.listenAddress))⟩

def launch (toml : Toml.Reading) (surroundings : Surroundings) (texts : List String) :
    Report :=
  match read texts with
  | .misuse => ⟨2, [], none⟩
  | .help => ⟨0, [], none⟩
  | .run arguments =>
      match settingsFor toml surroundings arguments with
      | .error message => ⟨1, [], some (errorLine message)⟩
      | .ok settings =>
          serve surroundings (filterOf surroundings.environment arguments) settings

end EngineGateway.CommandLine
