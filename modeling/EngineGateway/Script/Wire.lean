import EngineGateway.Text.Utf8

/-!
# Fixed octets and sizes of the engine protocols

The marks that engines look for in what they are sent, and the sizes that both
ends have agreed upon.
-/

namespace EngineGateway.Script

/-- Ends every command of a script: `endm`. -/
def terminator : Bytes := [0x65, 0x6E, 0x64, 0x6D]

/-- Tells a scripting socket to run what it has received and to reply:
`rscr` on a line of its own. -/
def flushMark : Bytes := [0x0A, 0x72, 0x73, 0x63, 0x72, 0x0A]

/-- Starts a shared-buffer request that is to be run at once: `execute` and a
line feed. -/
def executeMark : Bytes := [0x65, 0x78, 0x65, 0x63, 0x75, 0x74, 0x65, 0x0A]

/-- Starts a shared-buffer request that installs a script: `scrp`. -/
def installMark : Bytes := [0x73, 0x63, 0x72, 0x70]

/-- Octets that one read of a scripting socket can return. -/
def receiveSize : Nat := 4096

/-- Largest unit that a scripting socket takes in one exchange. -/
def socketUnitLimit : Nat := 63990

end EngineGateway.Script
