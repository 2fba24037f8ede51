import EngineGateway.Dde.Connector
import EngineGateway.Text.Hex
import EngineGateway.Windows.Process

/-!
# DDE conversations on Windows

Every operation starts an instance of its own, because instances belong to the
thread that has started them.  Strings, conversations and data belong to an
instance and are given back before it ends, the one that came last first.
-/

namespace EngineGateway.Windows

open Engine

/-- Dynamic data exchange. -/
class Exchange (ω : Type) extends Processes ω where
  /-- Start an instance; the code is zero if there is one. -/
  startInstance : StateM ω (Nat × Handle)
  endInstance : Handle → StateM ω Unit
  createString : Handle → String → StateM ω (Option Handle)
  freeString : Handle → Handle → StateM ω Unit
  /-- Start a conversation with a service about a topic. -/
  connect : Handle → Handle → Handle → StateM ω (Option Handle)
  disconnect : Handle → StateM ω Unit
  /-- Data for an item of a conversation. -/
  createData : Handle → Bytes → Handle → StateM ω (Option Handle)
  /-- Send data for an item, which takes the data over; so many milliseconds are
  allowed for it. -/
  poke : Handle → Handle → Handle → Nat → StateM ω Bool
  /-- Ask for the data of an item. -/
  request : Handle → Handle → Nat → StateM ω (Option Handle)
  readData : Handle → StateM ω Bytes
  freeData : Handle → StateM ω Unit
  /-- The window on the other side of a conversation. -/
  partnerWindow : Handle → StateM ω (Option Nat)
  /-- The process of a window, zero if there is none. -/
  windowProcess : Nat → StateM ω Nat
  /-- The error of the last operation on an instance. -/
  exchangeError : Handle → StateM ω Nat

/-- How long a transaction may take, in milliseconds. -/
def exchangeTimeout : Nat := 5000

def noExchangeError : Nat := 0

def nobodyAnswers : Nat := 0x400A

namespace Exchange

variable {ω : Type} [Exchange ω] {α : Type}

/-- The fault for an error code. -/
def faultOf (code : Nat) : Fault :=
  .other ("DDE error " ++ Text.hexNumber 4 code)

/-- The fault of the last operation. -/
def lastFault (owner : Handle) : StateM ω Fault := do
  return faultOf (← exchangeError owner)

/-- Do something with a string and free it. -/
def withString (owner : Handle) (text : String)
    (action : Handle → StateM ω (Except Fault α)) : StateM ω (Except Fault α) := do
  match ← createString owner text with
  | none => return .error (← lastFault owner)
  | some string =>
      let result ← action string
      freeString owner string
      return result

/-- Do something in an instance and end it. -/
def withInstance (action : Handle → StateM ω (Except Fault α)) :
    StateM ω (Except Fault α) := do
  let (code, owner) ← startInstance
  if code = noExchangeError then
    let result ← action owner
    endInstance owner
    return result
  else
    return .error (.other ("DdeInitialize failed (" ++ toString code ++ ")"))

/-- Do something in a conversation that has been started, and end it. -/
def converse (owner service topic : Handle)
    (action : Handle → StateM ω (Except Fault α)) :
    StateM ω (Except Fault (Option α)) := do
  match ← connect owner service topic with
  | none =>
      let code ← exchangeError owner
      if code = noExchangeError ∨ code = nobodyAnswers then return .ok none
      else return .error (faultOf code)
  | some conversation =>
      let result ← action conversation
      disconnect conversation
      return result.map some

/-- Do something in a conversation with an engine, nothing if there is no
engine. -/
def withConversation (owner : Handle)
    (action : Handle → StateM ω (Except Fault α)) :
    StateM ω (Except Fault (Option α)) :=
  withString owner Dde.service fun service =>
    withString owner Dde.topic fun topic =>
      converse owner service topic action

def fetch (owner conversation : Handle) (item : String) :
    StateM ω (Except Fault Bytes) :=
  withString owner item fun item => do
    match ← request conversation item exchangeTimeout with
    | none => return .error (← lastFault owner)
    | some handle =>
        let content ← readData handle
        freeData handle
        return .ok content

def scriptItem : String := " "

/-- Send a script, which a NUL ends, and fetch its output. -/
def runScript (owner conversation : Handle) (script : Bytes) :
    StateM ω (Except Fault Bytes) :=
  withString owner scriptItem fun item => do
    match ← createData owner (script ++ [0]) item with
    | none => return .error (← lastFault owner)
    | some handle =>
        if ← poke conversation handle item exchangeTimeout then
          fetch owner conversation Dde.macroItem
        else
          return .error (← lastFault owner)

def partner (owner conversation : Handle) : StateM ω (Except Fault Nat) := do
  match ← partnerWindow conversation with
  | none => return .error (← lastFault owner)
  | some window => return .ok window

def partnerProcess : StateM ω (Except Fault (Option Nat)) :=
  withInstance fun owner => do
    match ← withConversation owner (partner owner) with
    | .error fault => return .error fault
    | .ok none => return .ok none
    | .ok (some window) =>
        let process ← windowProcess window
        return .ok (if process = 0 then none else some process)

end Exchange

/-- A client of the exchange, which keeps nothing between operations. -/
structure ExchangeClient where
  deriving Repr, DecidableEq

instance {ω : Type} [Exchange ω] : Dde.Client ExchangeClient ω where
  runMacro _ script :=
    Exchange.withInstance fun owner =>
      Exchange.withConversation owner fun conversation =>
        Exchange.runScript owner conversation script
  brainActivity _ :=
    Exchange.withInstance fun owner =>
      Exchange.withConversation owner fun conversation =>
        Exchange.fetch owner conversation Dde.brainItem
  partner _ := do
    return (← Exchange.partnerProcess).toOption.join
  processRunning _ process := withProcess process false isActive
  available _ := do
    let found ← Exchange.withInstance fun owner =>
      Exchange.withConversation owner fun _ => return .ok ()
    return found.toOption.join.isSome
  workingDirectory _ process := moduleDirectory process

end EngineGateway.Windows
