import EngineGateway.Gateway.Poller
import EngineGateway.Socket.Connector

/-!
# Settings of the gateway

Where the gateway listens, how many peers it admits, how it finds the engine
and how it looks after it.  Every setting has a default.
-/

namespace EngineGateway

/-- All settings.  Times are in milliseconds. -/
structure Settings where
  /-- The host name or address to listen on. -/
  bindAddress : String := "0.0.0.0"
  port : Nat := 34013
  /-- How many clients and relays there may be at a time. -/
  maxClients : Nat := 1024
  /-- The port file, if it is not where engines put it. -/
  discoveryFile : Option String := none
  engineHost : Net.Address := .localhost
  connectTimeout : Nat := 2000
  receiveTimeout : Nat := 60000
  pollInterval : Nat := 500
  retryInterval : Nat := 1000
  /-- How long a new engine is left alone before the first probe. -/
  attachSettle : Nat := 50
  probeCommand : String := "DBG: POLL"
  /-- Believe a header that says that a client came over an encrypted
  connection. -/
  trustForwardedTls : Bool := false
  deriving Repr, DecidableEq

namespace Settings

/-- The address and port to listen on. -/
def listenAddress (settings : Settings) : String :=
  settings.bindAddress ++ ":" ++ toString settings.port

/-- Where engines put the port file, below the home directory. -/
def usualFile (home : String) : String :=
  home ++ "/.creaturesengine/port"

/-- The port file to read, none if it is not set and there is no home
directory. -/
def discoveryPath (settings : Settings) (home : Option String) : Option String :=
  settings.discoveryFile <|> home.map usualFile

/-- How long to wait for the scripting socket. -/
def patience (settings : Settings) : Socket.Patience :=
  ⟨settings.connectTimeout, settings.receiveTimeout⟩

/-- What looks for an engine: its scripting socket, if the port file is
known. -/
def finders (settings : Settings) (home : Option String) : List Socket.Finder :=
  match settings.discoveryPath home with
  | none => []
  | some file => [⟨file, settings.engineHost, settings.patience, none⟩]

def poller (settings : Settings) (home : Option String) : Poller Socket.Finder :=
  Poller.start (settings.finders home) settings.probeCommand settings.pollInterval
    settings.retryInterval

end Settings
end EngineGateway
