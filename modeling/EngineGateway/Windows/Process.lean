import EngineGateway.Text.Utf16
import EngineGateway.Windows.Path

/-!
# Processes on Windows

The system hands out handles to processes, which are given back after use.  A
process that has ended stays visible for those who hold a handle to it.
-/

namespace EngineGateway.Windows

/-- Stands for something that the system has opened. -/
abbrev Handle := Nat

/-- The processes of a system. -/
class Processes (ω : Type) where
  /-- Open the process with a given number. -/
  openProcess : Nat → StateM ω (Option Handle)
  /-- The exit code of a process, if it can be had. -/
  exitCode : Handle → StateM ω (Option Nat)
  /-- The path of the executable, up to so many units of UTF-16; nothing if it
  cannot be had. -/
  modulePath : Handle → Nat → StateM ω (List UInt16)
  /-- Give a handle back. -/
  close : Handle → StateM ω Unit

/-- The exit code of a process that is still running. -/
def stillActive : Nat := 259

/-- Longest path of an executable that is read. -/
def longestPath : Nat := 1024

variable {ω : Type} [Processes ω]

def isActive (process : Handle) : StateM ω Bool := do
  return (← Processes.exitCode process) == some stillActive

/-- Do something with a process and give its handle back. -/
def withProcess {α : Type} (process : Nat) (missing : α)
    (action : Handle → StateM ω α) : StateM ω α := do
  match ← Processes.openProcess process with
  | none => return missing
  | some handle =>
      let result ← action handle
      Processes.close handle
      return result

/-- The directory of the executable of a process. -/
def moduleDirectory (process : Nat) : StateM ω (Option String) :=
  withProcess process none fun handle => do
    let units ← Processes.modulePath handle longestPath
    if units.isEmpty then return none
    else return (directoryOf? (Text.Utf16.decode units)).map String.ofList

end EngineGateway.Windows
