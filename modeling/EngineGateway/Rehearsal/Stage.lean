import EngineGateway.Dde.Connector
import EngineGateway.Engine.Alternative
import EngineGateway.SharedBuffer.Connector

/-!
# Scripted engines

Engines of each kind that follow a script: they answer with what stands next in
it, and with an echo when nothing is left.  A stage holds any number of them
and writes down what is asked of them.  Scripted engines serve to rehearse the
gateway and as concrete inputs.
-/

namespace EngineGateway.Rehearsal

open Engine Discovery

def modifyAt {α : Type} (index : Nat) (change : α → α) (items : List α) : List α :=
  items.modify index change

/-- An engine behind a transport of its own. -/
structure ScriptedEngine where
  limit : Option Nat
  /-- The answer to the version query. -/
  version : Except Fault Reply
  directory : Option String
  replies : List (Except Fault Reply)
  killed : Bool
  /-- Units received, without those of version queries. -/
  received : List Bytes

/-- An engine behind a shared buffer. -/
structure ScriptedChannel where
  name : String
  capacity : Nat
  version : Except Fault Bytes
  dead : Bool
  openError : Option Fault
  directory : Option String
  replies : List (Except Fault Bytes)
  lockErrors : List Fault

/-- A first-generation engine. -/
structure ScriptedConversation where
  conversation : Bool
  partner : Option Nat
  directory : Option String
  versions : List (Except Fault (Option Bytes))
  replies : List (Except Fault (Option Bytes))
  brains : List (Except Fault (Option Bytes))
  running : Bool

/-- What the engines on a stage were asked. -/
inductive Call where
  | lock
  | unlock
  | request (content : Bytes)
  | runMacro (script : Bytes)
  | brain
  | running (process : Nat)
  | available
  | openChannel (name : String)
  | attempt (armed : Bool)
  deriving Repr, DecidableEq

/-- All engines, and the calls made to them. -/
structure Stage where
  engines : List ScriptedEngine := []
  channels : List ScriptedChannel := []
  conversations : List ScriptedConversation := []
  calls : List Call := []

def note (call : Call) : StateM Stage Unit :=
  modify fun stage => { stage with calls := stage.calls ++ [call] }

namespace Stage

/-- The units that each engine has received, which are then forgotten. -/
def takeReceived (stage : Stage) : List (List Bytes) × Stage :=
  let forget (engine : ScriptedEngine) := { engine with received := [] }
  (stage.engines.map ScriptedEngine.received,
    { stage with engines := stage.engines.map forget })

def takeCalls (stage : Stage) : List Call × Stage :=
  (stage.calls, { stage with calls := [] })

/-! ## Changes of the script -/

/-- Something that happens to a scripted engine. -/
inductive Change where
  | reply (engine : Nat) (reply : Except Fault Reply)
  | kill (engine : Nat)
  | channelReply (reply : Except Fault Bytes)
  | channelKill
  | lockError (fault : Fault)
  | macroOutput (output : Except Fault (Option Bytes))
  | brainOutput (output : Except Fault (Option Bytes))
  | conversation (isThere : Bool)
  | running (isRunning : Bool)

def changeEngine (index : Nat) (change : ScriptedEngine → ScriptedEngine)
    (stage : Stage) : Stage :=
  { stage with engines := modifyAt index change stage.engines }

/-- Change the first channel. -/
def changeChannel (change : ScriptedChannel → ScriptedChannel) (stage : Stage) : Stage :=
  { stage with channels := modifyAt 0 change stage.channels }

/-- Change the first conversation. -/
def changeConversation (change : ScriptedConversation → ScriptedConversation)
    (stage : Stage) : Stage :=
  { stage with conversations := modifyAt 0 change stage.conversations }

def apply (stage : Stage) : Change → Stage
  | .reply index reply =>
      stage.changeEngine index fun engine =>
        { engine with replies := engine.replies ++ [reply] }
  | .kill index => stage.changeEngine index fun engine => { engine with killed := true }
  | .channelReply reply =>
      stage.changeChannel fun channel =>
        { channel with replies := channel.replies ++ [reply] }
  | .channelKill => stage.changeChannel fun channel => { channel with dead := true }
  | .lockError fault =>
      stage.changeChannel fun channel =>
        { channel with lockErrors := channel.lockErrors ++ [fault] }
  | .macroOutput output =>
      stage.changeConversation fun engine =>
        { engine with replies := engine.replies ++ [output] }
  | .brainOutput output =>
      stage.changeConversation fun engine =>
        { engine with brains := engine.brains ++ [output] }
  | .conversation isThere =>
      stage.changeConversation fun engine => { engine with conversation := isThere }
  | .running isRunning =>
      stage.changeConversation fun engine => { engine with running := isRunning }

end Stage

/-! ## Engines with a transport of their own -/

/-- The engine with a given number. -/
structure EngineAt where
  index : Nat
  family : Family
  deriving Repr, DecidableEq

def queryUnit : Bytes := Text.CodePage.ofText versionQuery

/-- The reply of an engine to units, and the engine after it. -/
def ScriptedEngine.answer (engine : ScriptedEngine) (units : List Bytes) :
    Except Fault Reply × ScriptedEngine :=
  if units = [queryUnit] then (engine.version, engine)
  else if engine.killed then (.error .engineExited, engine)
  else
    let engine := { engine with received := engine.received ++ units }
    match engine.replies with
    | [] => (.ok (.text units.flatten), engine)
    | reply :: rest => (reply, { engine with replies := rest })

def EngineAt.get? (place : EngineAt) (stage : Stage) : Option ScriptedEngine :=
  stage.engines[place.index]?

def EngineAt.set (place : EngineAt) (engine : ScriptedEngine) (stage : Stage) : Stage :=
  { stage with engines := modifyAt place.index (fun _ => engine) stage.engines }

def EngineAt.sendUnits (place : EngineAt) (units : List Bytes) :
    StateM Stage (Except Fault Reply × EngineAt) := do
  match place.get? (← get) with
  | none => return (.error .engineExited, place)
  | some engine =>
      let (reply, engine) := engine.answer units
      modify (place.set engine)
      return (reply, place)

/-- The working directory of the engine with a given number. -/
def EngineAt.directory (place : EngineAt) : StateM Stage (Option String) := do
  return (place.get? (← get)).bind ScriptedEngine.directory

instance : Transport EngineAt Stage where
  family := EngineAt.family
  unitLimit place := return (place.get? (← get)).bind ScriptedEngine.limit
  sendUnits := EngineAt.sendUnits
  isClosed place := do
    return ((place.get? (← get)).elim true ScriptedEngine.killed, place)
  workingDirectory := EngineAt.directory
  handshake place := askVersion place.family place.sendUnits EngineAt.directory

/-! ## Engines behind a shared buffer -/

/-- The channel with a given number. -/
structure ChannelAt where
  index : Nat
  deriving Repr, DecidableEq

def ChannelAt.get? (place : ChannelAt) (stage : Stage) : Option ScriptedChannel :=
  stage.channels[place.index]?

def ChannelAt.set (place : ChannelAt) (channel : ScriptedChannel) (stage : Stage) : Stage :=
  { stage with channels := modifyAt place.index (fun _ => channel) stage.channels }

/-- The reply of a channel to a request, and the channel after it. -/
def ScriptedChannel.answer (channel : ScriptedChannel) (request : Bytes) :
    Except Fault Bytes × ScriptedChannel :=
  if queryUnit.isSuffixOf request then (channel.version, channel)
  else
    match channel.replies with
    | [] => (.ok request, channel)
    | reply :: rest => (reply, { channel with replies := rest })

/-- Whether the mutex can be taken, and the channel after the attempt. -/
def ScriptedChannel.tryLock (channel : ScriptedChannel) :
    Except Fault Unit × ScriptedChannel :=
  match channel.lockErrors with
  | [] => (.ok (), channel)
  | fault :: rest => (.error fault, { channel with lockErrors := rest })

def ChannelAt.perform {α : Type} (place : ChannelAt)
    (action : ScriptedChannel → Except Fault α × ScriptedChannel) :
    StateM Stage (Except Fault α) := do
  match place.get? (← get) with
  | none => return .error .engineExited
  | some channel =>
      let (result, channel) := action channel
      modify (place.set channel)
      return result

instance : SharedBuffer.Channel ChannelAt Stage where
  lock place := do
    note .lock
    place.perform ScriptedChannel.tryLock
  unlock _ := note .unlock
  capacity place stage := (place.get? stage).elim 0 ScriptedChannel.capacity
  transact place request := do
    note (.request request)
    place.perform fun channel => channel.answer request
  creatorAlive place := do
    return (place.get? (← get)).any fun channel => !channel.dead
  workingDirectory place := do
    return (place.get? (← get)).bind ScriptedChannel.directory

/-- Opens some of the channels on the stage. -/
structure StageOpener where
  channels : List Nat
  deriving Repr, DecidableEq

instance : SharedBuffer.Opener StageOpener ChannelAt Stage where
  openChannel opener name := do
    note (.openChannel name)
    let stage ← get
    let wanted := opener.channels.find? fun index =>
      (stage.channels[index]?).any fun channel => channel.name == name
    match wanted with
    | none => return .ok none
    | some index =>
        match (stage.channels[index]?).bind ScriptedChannel.openError with
        | some fault => return .error fault
        | none => return .ok (some ⟨index⟩)

/-! ## First-generation engines -/

/-- The conversation with a given number. -/
structure ConversationAt where
  index : Nat
  deriving Repr, DecidableEq

def ConversationAt.get? (place : ConversationAt) (stage : Stage) :
    Option ScriptedConversation :=
  stage.conversations[place.index]?

def ConversationAt.set (place : ConversationAt) (conversation : ScriptedConversation)
    (stage : Stage) : Stage :=
  { stage with
    conversations := modifyAt place.index (fun _ => conversation) stage.conversations }

/-- The output of a macro, and the conversation after it. -/
def ScriptedConversation.runMacro (engine : ScriptedConversation) (script : Bytes) :
    Except Fault (Option Bytes) × ScriptedConversation :=
  if !engine.conversation then (.ok none, engine)
  else if script = Dde.versionMacro then
    match engine.versions with
    | [] => (.ok (some [0x32, 0x31, 0x00]), engine)
    | version :: rest => (version, { engine with versions := rest })
  else
    match engine.replies with
    | [] => (.ok (some (script ++ [0, 0])), engine)
    | reply :: rest => (reply, { engine with replies := rest })

def ScriptedConversation.brainActivity (engine : ScriptedConversation) :
    Except Fault (Option Bytes) × ScriptedConversation :=
  if !engine.conversation then (.ok none, engine)
  else
    match engine.brains with
    | [] => (.ok (some [7, 0, 9, 0]), engine)
    | brain :: rest => (brain, { engine with brains := rest })

def ConversationAt.perform (place : ConversationAt)
    (action : ScriptedConversation → Except Fault (Option Bytes) × ScriptedConversation) :
    StateM Stage (Except Fault (Option Bytes)) := do
  match place.get? (← get) with
  | none => return .ok none
  | some engine =>
      let (result, engine) := action engine
      modify (place.set engine)
      return result

instance : Dde.Client ConversationAt Stage where
  runMacro place script := do
    note (.runMacro script)
    place.perform fun engine => engine.runMacro script
  brainActivity place := do
    note .brain
    place.perform ScriptedConversation.brainActivity
  partner place := do
    return (place.get? (← get)).bind ScriptedConversation.partner
  processRunning place process := do
    note (.running process)
    return (place.get? (← get)).any ScriptedConversation.running
  available place := do
    note .available
    return (place.get? (← get)).any ScriptedConversation.conversation
  workingDirectory place _ := do
    return (place.get? (← get)).bind ScriptedConversation.directory

/-! ## Scripted attempts -/

/-- A connector whose attempts come to what stands next in its script: an
engine of the stage, nothing, or an error. -/
structure ScriptedFinder where
  results : List (Except DiscoveryError (Option EngineAt))

instance : Connector ScriptedFinder EngineAt Stage where
  discover finder policy := do
    note (.attempt policy.armed)
    match finder.results with
    | [] => return (.ok none, finder, policy)
    | result :: rest =>
        let attempt ←
          match result with
          | .error error => pure (.error error)
          | .ok none => pure (.ok none)
          | .ok (some place) => do pure ((← Session.attach place).map some)
        return (attempt, ⟨rest⟩, policy)

/-- Any connection to an engine on the stage. -/
abbrev StageLink := EngineAt ⊕ SharedBuffer.Link ChannelAt ⊕ Dde.Link ConversationAt

/-- Any connector to engines on the stage. -/
abbrev StageFinder :=
  ScriptedFinder ⊕ SharedBuffer.Finder StageOpener ⊕ Dde.Finder ConversationAt

/-- A connector to channels that come onto the stage with it. -/
def addChannels (channels : List ScriptedChannel) (names : List String) :
    StateM Stage StageFinder := do
  let stage ← get
  set { stage with channels := stage.channels ++ channels }
  let own := (List.range channels.length).map (· + stage.channels.length)
  return .inr (.inl ⟨⟨own⟩, names⟩)

/-- A connector to a conversation that comes onto the stage with it. -/
def addConversation (conversation : ScriptedConversation) : StateM Stage StageFinder := do
  let stage ← get
  set { stage with conversations := stage.conversations ++ [conversation] }
  return .inr (.inr ⟨⟨stage.conversations.length⟩⟩)

def Call.isAttempt : Call → Bool
  | .openChannel _ | .attempt _ => true
  | _ => false

end EngineGateway.Rehearsal
