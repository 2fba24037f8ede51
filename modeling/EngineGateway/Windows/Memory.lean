import EngineGateway.SharedBuffer.Connector
import EngineGateway.SharedBuffer.Image
import EngineGateway.Windows.Process

/-!
# Shared buffers on Windows

An engine publishes four named objects: the buffer, a mutex, and one event for
each direction.  A request is announced by pulsing the request event; the
result event, or the end of the engine's process, is then waited for.
-/

namespace EngineGateway.Windows

open Engine SharedBuffer

/-- Named objects and mapped memory. -/
class Memory (ω : Type) extends Processes ω where
  openMapping : String → StateM ω (Option Handle)
  /-- Map the memory of a mapping. -/
  mapView : Handle → StateM ω (Option Handle)
  unmapView : Handle → StateM ω Unit
  openMutex : String → StateM ω (Option Handle)
  openEvent : String → StateM ω (Option Handle)
  /-- What a view shows. -/
  image : Handle → ω → Image
  /-- Change what a view shows. -/
  setImage : Handle → Image → StateM ω Unit
  /-- Wait for one of several objects, for so many milliseconds. -/
  waitFor : List Handle → Nat → StateM ω Nat
  releaseMutex : Handle → StateM ω Unit
  resetEvent : Handle → StateM ω Unit
  pulseEvent : Handle → StateM ω Unit
  lastError : StateM ω Nat

/-- The first of the objects was signalled; the others follow. -/
def signalled : Nat := 0

/-- The mutex was taken, but the one who held it has ended. -/
def abandoned : Nat := 0x80

def timedOut : Nat := 0x102

def waitFailed : Nat := 0xFFFFFFFF

/-- Longest time that can be waited, in milliseconds. -/
def longestWait : Nat := 0xFFFFFFFF

/-- The buffer of an engine with everything that belongs to it. -/
structure Buffer where
  mapping : Handle
  view : Handle
  mutex : Handle
  result : Handle
  request : Handle
  /-- The process of the engine, if it could be opened. -/
  process : Option Handle
  timeout : Nat
  deriving Repr, DecidableEq

def closeAll {ω : Type} [Processes ω] (handles : List Handle) : StateM ω Unit :=
  handles.forM Processes.close

namespace Buffer

variable {ω : Type} [Memory ω]

/-- Let go of a buffer: its view is unmapped and all its handles are closed. -/
def close (buffer : Buffer) : StateM ω Unit := do
  Memory.unmapView buffer.view
  closeAll [buffer.mapping, buffer.mutex, buffer.result, buffer.request]
  closeAll buffer.process.toList

/-- The process of the engine is running. -/
def creatorAlive (buffer : Buffer) : StateM ω Bool :=
  match buffer.process with
  | none => return false
  | some process => isActive process

/-- Take the mutex.  An abandoned mutex is given back at once, because the
buffer may be in disorder. -/
def lock (buffer : Buffer) : StateM ω (Except Fault Unit) := do
  let outcome ← Memory.waitFor [buffer.mutex] buffer.timeout
  if outcome = signalled then
    return .ok ()
  else if outcome = abandoned then
    Memory.releaseMutex buffer.mutex
    return .error (.lock "restart engine")
  else if outcome = waitFailed then
    return .error (.lock ("error " ++ toString (← Memory.lastError (ω := ω))))
  else if ← buffer.creatorAlive then
    return .error (.lock "unknown reason")
  else
    return .error .engineExited

/-- Wait up to so many times for the result or for the end of the process. -/
def awaitResult (buffer : Buffer) (process : Handle) : Nat → StateM ω (Except Fault Unit)
  | 0 => return .error .timeout
  | times + 1 => do
      let outcome ← Memory.waitFor [process, buffer.result] buffer.timeout
      if outcome = signalled + 1 then
        return .ok ()
      else if outcome = signalled then
        return .error .engineExited
      else if outcome = timedOut then
        awaitResult buffer process times
      else
        return .error (.other ("wait for engine failed: r = " ++ toString outcome ++
          " (" ++ toString (← Memory.lastError (ω := ω)) ++ ")"))

/-- How often a result is waited for. -/
def waitCount : Nat := 2

/-- Write a request, announce it and read the reply. -/
def transact (buffer : Buffer) (request : Bytes) : StateM ω (Except Fault Bytes) := do
  let image := Memory.image buffer.view (← get)
  let capacity := image.capacity
  if capacity ≤ request.length then
    return .error (.tooLong request.length (capacity - 1))
  else
    Memory.setImage buffer.view (image.withRequest request)
    Memory.resetEvent buffer.result
    Memory.pulseEvent buffer.request
    match buffer.process with
    | none => return .error .engineExited
    | some process =>
        match ← buffer.awaitResult process waitCount with
        | .error fault => return .error fault
        | .ok () => return .ok (Image.reply (Memory.image buffer.view (← get)) capacity)

instance : Channel Buffer ω where
  lock := lock
  unlock buffer := Memory.releaseMutex buffer.mutex
  capacity buffer world := (Memory.image buffer.view world).capacity
  transact := transact
  creatorAlive := creatorAlive
  workingDirectory buffer := do
    moduleDirectory (Image.process (Memory.image buffer.view (← get)))

end Buffer

/-- Opens the buffers of engines by name, with the time to wait for them in
milliseconds. -/
structure BufferOpener where
  timeout : Nat
  deriving Repr, DecidableEq

namespace BufferOpener

variable {ω : Type} [Memory ω]

/-- Opens the buffers of engines.  A longer time than can be waited is cut. -/
def ofMilliseconds (time : Nat) : BufferOpener :=
  ⟨min time longestWait⟩

def cannotOpen {α : Type} (name suffix : String) : Except Fault α :=
  .error (.other ("Unable to open " ++ name ++ " " ++ suffix))

/-- Open what belongs to a mapped buffer. -/
def openParts (opener : BufferOpener) (name : String) (mapping view : Handle) :
    StateM ω (Except Fault Buffer) := do
  match ← Memory.openMutex (name ++ "_mutex") with
  | none => return cannotOpen name "mutex"
  | some mutex =>
      match ← Memory.openEvent (name ++ "_result") with
      | none =>
          closeAll [mutex]
          return cannotOpen name "result"
      | some result =>
          match ← Memory.openEvent (name ++ "_request") with
          | none =>
              closeAll [result, mutex]
              return cannotOpen name "request"
          | some request =>
              let creator := Image.process (Memory.image view (← get))
              let process ← Processes.openProcess creator
              return .ok ⟨mapping, view, mutex, result, request, process, opener.timeout⟩

/-- Open the buffer of an engine, none if no engine of that name runs. -/
def openBuffer (opener : BufferOpener) (name : String) :
    StateM ω (Except Fault (Option Buffer)) := do
  match ← Memory.openMapping (name ++ "_mem") with
  | none => return .ok none
  | some mapping =>
      match ← Memory.mapView mapping with
      | none =>
          let code ← Memory.lastError (ω := ω)
          closeAll [mapping]
          return .error (.other
            ("Unable to map " ++ name ++ " memory (" ++ toString code ++ ")"))
      | some view =>
          match ← opener.openParts name mapping view with
          | .ok buffer => return .ok (some buffer)
          | .error fault =>
              Memory.unmapView view
              closeAll [mapping]
              return .error fault

instance : Opener BufferOpener Buffer ω where
  openChannel := openBuffer

end BufferOpener
end EngineGateway.Windows
