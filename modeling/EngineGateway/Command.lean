import EngineGateway.Text.Utf8

/-!
# Commands of binary frames

A binary frame starts with four characters that name a command.  They are read
as one number, the first character in its lowest octet.
-/

namespace EngineGateway

/-- Four octets as a number, the lowest one first. -/
def littleEndian (first second third fourth : UInt8) : UInt32 :=
  first.toUInt32 ||| (second.toUInt32 <<< 8) ||| (third.toUInt32 <<< 16) |||
    (fourth.toUInt32 <<< 24)

/-- The four octets of a number, the lowest one first. -/
def littleEndianBytes (word : UInt32) : Bytes :=
  [word.toUInt8, (word >>> 8).toUInt8, (word >>> 16).toUInt8,
   (word >>> 24).toUInt8]

/-- What a binary frame asks for. -/
inductive Command where
  /-- Write the payload to a file. -/
  | save
  /-- Read a file back. -/
  | load
  /-- Delete a file. -/
  | delete
  /-- Move or copy a file. -/
  | move
  /-- Draw a QR code. -/
  | qrCode
  /-- Write the text to the gateway's log. -/
  | log
  /-- Write the text to the engine's output log. -/
  | debug
  /-- Take the text as a routing directive. -/
  | directive
  /-- Look up a path of the game. -/
  | path
  deriving Repr, DecidableEq

namespace Command

def all : List Command :=
  [.save, .load, .delete, .move, .qrCode, .log, .debug, .directive, .path]

/-- The four characters of a command as a number. -/
def code : Command → UInt32
  | .save => littleEndian 0x53 0x41 0x56 0x45
  | .load => littleEndian 0x4C 0x4F 0x41 0x44
  | .delete => littleEndian 0x44 0x4C 0x54 0x45
  | .move => littleEndian 0x4D 0x4F 0x56 0x45
  | .qrCode => littleEndian 0x51 0x52 0x43 0x44
  | .log => littleEndian 0x4C 0x4F 0x47 0x00
  | .debug => littleEndian 0x44 0x42 0x47 0x00
  | .directive => littleEndian 0x4F 0x4F 0x50 0x45
  | .path => littleEndian 0x50 0x41 0x54 0x48

/-- The name of a command in answers to peers. -/
def name : Command → String
  | .save => "Save"
  | .load => "Load"
  | .delete => "Delete"
  | .move => "Move"
  | .qrCode => "QrCode"
  | .log => "Log"
  | .debug => "Debug"
  | .directive => "Directive"
  | .path => "Path"

/-- The command with a given code. -/
def ofCode? (code : UInt32) : Option Command :=
  all.find? fun command => command.code == code

end Command
end EngineGateway
