import EngineGateway.Windows.Exchange
import EngineGateway.Windows.Memory

/-!
# A scripted desktop

A Windows system with engines that publish buffers, with processes, and with
one partner for conversations.  What the system does next follows from lists;
where a list has run out, everything goes well.  The calls that matter are
written down.
-/

namespace EngineGateway.Rehearsal

open Engine SharedBuffer Windows

/-- An engine that publishes a buffer. -/
structure Publisher where
  name : String
  image : Image
  /-- Names of the objects that the engine has not made. -/
  missing : List String
  canBeMapped : Bool
  version : Bytes
  deriving Repr

/-- A process of the desktop. -/
structure DesktopProcess where
  number : Nat
  /-- The exit code, if it can be asked for. -/
  exitCode : Option Nat
  path : String
  deriving Repr, DecidableEq

namespace Publisher

/-- The first image of a buffer with a header for a size.  The memory behind it
is somewhat longer than the size. -/
def freshImage (process size : Nat) : Image :=
  let blank : Image := List.replicate (max size 64 + 64) 0
  (blank.putWord processOffset process).putWord sizeOffset size

end Publisher

/-- What a handle stands for. -/
inductive Object where
  | mapping (publisher : Nat)
  | view (publisher : Nat)
  | mutex (name : String)
  | event (name : String) (publisher : Nat)
  | process (number : Nat)
  | text (content : String)
  | conversation
  | data (content : Bytes)
  deriving Repr, DecidableEq

/-- What an object is counted as when it is left open. -/
def Object.kind : Object → String
  | .mapping _ | .mutex _ | .event _ _ | .process _ => "handles"
  | .view _ => "views"
  | .text _ => "strings"
  | .conversation => "conversations"
  | .data _ => "data"

/-- A call that is written down. -/
inductive DesktopCall where
  | openMapping (name : String)
  | openMutex (name : String)
  | openEvent (name : String)
  | openProcess (number : Nat)
  | wait (objects : List String) (time : Nat)
  | releaseMutex (name : String)
  | resetEvent (name : String)
  | pulseEvent (name : String)
  /-- What an engine found in its buffer, and whether a NUL followed it. -/
  | found (request : Bytes) (ended : Bool)
  | startInstance
  | endInstance
  | connect (service topic : String)
  | disconnect
  /-- The client was told about a conversation and answered so. -/
  | notified (answer : Nat)
  | poke (content : Bytes) (item : String) (time : Nat)
  | request (item : String) (time : Nat)
  deriving Repr, DecidableEq

/-- An answer that an engine puts into its buffer, and the length that it
claims for it. -/
structure BufferReply where
  content : Bytes
  claimed : Option Nat
  deriving Repr, DecidableEq

/-- The desktop. -/
structure Desktop where
  publishers : List Publisher := []
  processes : List DesktopProcess := []
  mutexWaits : List Nat := []
  resultWaits : List Nat := []
  replies : List BufferReply := []
  lastError : Nat := 0
  /-- The codes of the instances to come. -/
  instances : List Nat := []
  /-- Zero for a conversation that comes about, one for nobody there, anything
  else for an error. -/
  conversations : List Nat := []
  /-- Strings that cannot be created. -/
  refusedStrings : List String := []
  refusesData : Bool := false
  refusesPoke : Bool := false
  hidesPartner : Bool := false
  /-- The client is told about each conversation. -/
  notifies : Bool := false
  /-- The error of what is refused. -/
  refusalError : Nat := 0
  macroOutputs : List (Option Bytes) := []
  brainOutputs : List (Option Bytes) := []
  partnerProcess : Nat := 0
  /-- The error of the last operation of an instance. -/
  exchangeError : Nat := 0
  /-- What has been sent last. -/
  poked : Bytes := []
  /-- What has been opened; a handle is a position counted from one. -/
  objects : List Object := []
  /-- Handles that have been given back. -/
  returned : List Handle := []
  /-- Buffers that have been opened. -/
  lent : List Buffer := []
  calls : List DesktopCall := []
  deriving Repr

namespace Desktop

def note (call : DesktopCall) : StateM Desktop Unit :=
  modify fun desktop => { desktop with calls := desktop.calls ++ [call] }

def handOut (object : Object) : StateM Desktop Handle := do
  modify fun desktop => { desktop with objects := desktop.objects ++ [object] }
  return (← get).objects.length

def giveBack (handle : Handle) : StateM Desktop Unit :=
  modify fun desktop => { desktop with returned := desktop.returned ++ [handle] }

def object? (desktop : Desktop) (handle : Handle) : Option Object :=
  if handle = 0 then none else desktop.objects[handle - 1]?

/-- The name of an object in the list of calls. -/
def nameOf (desktop : Desktop) (handle : Handle) : String :=
  match desktop.object? handle with
  | some (.mutex name) | some (.event name _) => name
  | some (.process number) => "process " ++ toString number
  | some (.text content) => content
  | _ => ""

/-- The publisher of an object of which the suffix is given. -/
def publisherOf? (desktop : Desktop) (name suffix : String) : Option Nat :=
  desktop.publishers.findIdx? fun publisher =>
    publisher.name ++ "_" ++ suffix == name && !publisher.missing.contains suffix

def shown? (desktop : Desktop) (view : Handle) : Option Nat :=
  match desktop.object? view with
  | some (.view publisher) => some publisher
  | _ => none

def imageOf (desktop : Desktop) (publisher : Nat) : Image :=
  (desktop.publishers[publisher]?).elim [] Publisher.image

def setImageOf (publisher : Nat) (image : Image) (desktop : Desktop) : Desktop :=
  { desktop with
    publishers := desktop.publishers.modify publisher fun entry =>
      { entry with image := image } }

/-! ## Processes -/

def process? (desktop : Desktop) (number : Nat) : Option DesktopProcess :=
  desktop.processes.find? (·.number == number)

def processAt? (desktop : Desktop) (handle : Handle) : Option DesktopProcess :=
  match desktop.object? handle with
  | some (.process number) => desktop.process? number
  | _ => none

/-- Processes come, in place of those with the same numbers, and one may go. -/
def withProcesses (desktop : Desktop) (added : List DesktopProcess) (gone : Option Nat) :
    Desktop :=
  let kept := desktop.processes.filter fun process =>
    !added.any (·.number == process.number)
  { desktop with
    processes := (kept ++ added).filter fun process => gone != some process.number }

instance : Processes Desktop where
  openProcess number := do
    note (.openProcess number)
    match (← get).process? number with
    | none => return none
    | some _ => return some (← handOut (.process number))
  exitCode handle := do
    return ((← get).processAt? handle).bind DesktopProcess.exitCode
  modulePath handle longest := do
    let path := ((← get).processAt? handle).elim "" DesktopProcess.path
    return (Text.Utf16.encode path).take longest
  close := giveBack

/-! ## Buffers -/

def openNamed (name suffix : String) (object : Nat → Object) :
    StateM Desktop (Option Handle) := do
  match (← get).publisherOf? name suffix with
  | none => return none
  | some publisher => return some (← handOut (object publisher))

/-- The next of the results of waiting, which is one of two lists. -/
def nextWait (isMutex : Bool) : StateM Desktop Nat := do
  let desktop ← get
  if isMutex then
    set { desktop with mutexWaits := desktop.mutexWaits.drop 1 }
    return desktop.mutexWaits.headD signalled
  else
    set { desktop with resultWaits := desktop.resultWaits.drop 1 }
    return desktop.resultWaits.headD (signalled + 1)

def replyTo (publisher : Publisher) (replies : List BufferReply) (request : Bytes) :
    BufferReply :=
  match replies with
  | reply :: _ => reply
  | [] =>
      if (Text.CodePage.ofText versionQuery).isSuffixOf request then
        ⟨publisher.version, none⟩
      else
        ⟨request, none⟩

/-- A publisher reads the request in its buffer and answers. -/
def answerRequest (publisher : Nat) : StateM Desktop Unit := do
  let desktop ← get
  match desktop.publishers[publisher]? with
  | none => return ()
  | some entry =>
      let message := entry.image.drop headerLength
      let length := entry.image.word lengthOffset
      let request := message.take length
      note (.found request (message[length]? == some 0))
      let reply := replyTo entry desktop.replies request
      let content := reply.content.take message.length
      let image := entry.image.put headerLength content
      let claimed := reply.claimed.getD content.length
      modify fun desktop =>
        { setImageOf publisher (image.putWord lengthOffset claimed) desktop with
          replies := desktop.replies.drop 1 }

instance : Memory Desktop where
  openMapping name := do
    note (.openMapping name)
    let found := (← get).publishers.findIdx? fun publisher =>
      publisher.name ++ "_mem" == name
    match found with
    | none => return none
    | some publisher => return some (← handOut (.mapping publisher))
  mapView mapping := do
    let desktop ← get
    match desktop.object? mapping with
    | some (.mapping publisher) =>
        if (desktop.publishers[publisher]?).any Publisher.canBeMapped then
          return some (← handOut (.view publisher))
        else
          return none
    | _ => return none
  unmapView := giveBack
  openMutex name := do
    note (.openMutex name)
    openNamed name "mutex" fun _ => .mutex name
  openEvent name := do
    note (.openEvent name)
    let asRequest ← openNamed name "request" (.event name)
    match asRequest with
    | some handle => return some handle
    | none => openNamed name "result" (.event name)
  image view desktop := (desktop.shown? view).elim [] desktop.imageOf
  setImage view image := do
    match (← get).shown? view with
    | none => return ()
    | some publisher => modify (setImageOf publisher image)
  waitFor handles time := do
    let desktop ← get
    note (.wait (handles.map desktop.nameOf) time)
    nextWait (handles.length == 1)
  releaseMutex mutex := do note (.releaseMutex ((← get).nameOf mutex))
  resetEvent event := do note (.resetEvent ((← get).nameOf event))
  pulseEvent event := do
    let desktop ← get
    note (.pulseEvent (desktop.nameOf event))
    match desktop.object? event with
    | some (.event _ publisher) => answerRequest publisher
    | _ => return ()
  lastError := return (← get).lastError

/-- Opens buffers and remembers them. -/
structure Lender where
  opener : BufferOpener

instance : Opener Lender Buffer Desktop where
  openChannel lender name := do
    let opened ← lender.opener.openBuffer name
    let lent := (opened.toOption.bind id).toList
    modify fun desktop => { desktop with lent := desktop.lent ++ lent }
    return opened

/-! ## Conversations -/

def refuse {α : Type} : StateM Desktop (Option α) := do
  modify fun desktop => { desktop with exchangeError := desktop.refusalError }
  return none

def grant (isRefused : Bool) (object : Object) : StateM Desktop (Option Handle) := do
  if isRefused then refuse else return some (← handOut object)

def dataAt (desktop : Desktop) (handle : Handle) : Bytes :=
  match desktop.object? handle with
  | some (.data content) => content
  | _ => []

def macroOutput : StateM Desktop (Option Bytes) := do
  let desktop ← get
  match desktop.macroOutputs with
  | output :: rest =>
      set { desktop with macroOutputs := rest }
      return output
  | [] =>
      if desktop.poked = Dde.versionMacro ++ [0] then return some [0x32, 0x31, 0x00]
      else return some desktop.poked

def brainOutput : StateM Desktop (Option Bytes) := do
  let desktop ← get
  match desktop.brainOutputs with
  | output :: rest =>
      set { desktop with brainOutputs := rest }
      return output
  | [] => return some [7, 0, 9, 0]

def connect (service topic : Handle) : StateM Desktop (Option Handle) := do
  let desktop ← get
  note (.connect (desktop.nameOf service) (desktop.nameOf topic))
  let outcome := desktop.conversations.headD 0
  modify fun desktop => { desktop with conversations := desktop.conversations.drop 1 }
  if outcome = 0 then
    if desktop.notifies then note (.notified 0)
    return some (← handOut .conversation)
  else
    modify fun desktop =>
      { desktop with exchangeError := if outcome = 1 then 0 else outcome }
    return none

instance : Exchange Desktop where
  startInstance := do
    note .startInstance
    let desktop ← get
    set { desktop with instances := desktop.instances.drop 1 }
    return (desktop.instances.headD 0, 0)
  endInstance _ := note .endInstance
  createString _ text := do
    grant ((← get).refusedStrings.contains text) (.text text)
  freeString _ := giveBack
  connect _ := connect
  disconnect conversation := do
    note .disconnect
    giveBack conversation
  createData _ content _ := do grant (← get).refusesData (.data content)
  poke _ handle item time := do
    let desktop ← get
    let content := desktop.dataAt handle
    note (.poke content (desktop.nameOf item) time)
    giveBack handle
    if desktop.refusesPoke then
      let _ : Option Unit ← refuse
      return false
    else
      modify fun desktop => { desktop with poked := content }
      return true
  request _ item time := do
    let name := (← get).nameOf item
    note (.request name time)
    let output ← if name = Dde.macroItem then macroOutput else brainOutput
    match output with
    | none => refuse
    | some content => grant false (.data content)
  readData handle := return (← get).dataAt handle
  freeData := giveBack
  partnerWindow _ := do
    let desktop ← get
    if desktop.hidesPartner then refuse else return some desktop.partnerProcess
  windowProcess window := return window
  exchangeError _ := return (← get).exchangeError

/-! ## What is left open -/

/-- Objects that have not been given back. -/
def stillOpen (desktop : Desktop) : List Object :=
  desktop.objects.zipIdx.filterMap fun (object, position) =>
    if desktop.returned.contains (position + 1) then none else some object

/-- How much is left open of each kind once all buffers have been let go of. -/
def left (desktop : Desktop) : List (String × Nat) :=
  let (_, desktop) := (desktop.lent.forM Buffer.close).run desktop
  ["handles", "views", "strings", "data"].map fun kind =>
    (kind, (desktop.stillOpen.filter (·.kind == kind)).length)

end Desktop
end EngineGateway.Rehearsal
