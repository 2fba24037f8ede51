import EngineGateway.Command
import EngineGateway.Engine.Transport

/-!
# The content of a shared buffer

A buffer starts with a header of 24 octets: a mark, the number of the process
that made the buffer, a result code, the length of the present message, the
size of the whole buffer and one unused word.  The rest holds the message.
Words have four octets, the lowest one first.
-/

namespace EngineGateway.SharedBuffer

/-- The octets of a mapped buffer. -/
abbrev Image := Bytes

/-- Octets before the message. -/
def headerLength : Nat := 24

/-- Where the number of the process stands. -/
def processOffset : Nat := 4

/-- Where the length of the message stands. -/
def lengthOffset : Nat := 12

/-- Where the size of the buffer stands. -/
def sizeOffset : Nat := 16

namespace Image

def word (image : Image) (offset : Nat) : Nat :=
  let octet (index : Nat) : UInt8 := image.getD (offset + index) 0
  (littleEndian (octet 0) (octet 1) (octet 2) (octet 3)).toNat

/-- Put octets at an offset in place of those that stand there. -/
def put (image : Image) (offset : Nat) (octets : Bytes) : Image :=
  image.take offset ++ octets ++ image.drop (offset + octets.length)

def putWord (image : Image) (offset value : Nat) : Image :=
  image.put offset (littleEndianBytes (UInt32.ofNat value))

def process (image : Image) : Nat :=
  image.word processOffset

/-- Room for a message. -/
def capacity (image : Image) : Nat :=
  image.word sizeOffset - headerLength

/-- The buffer with a request in it, which a NUL ends. -/
def withRequest (image : Image) (request : Bytes) : Image :=
  (image.put headerLength (request ++ [0])).putWord lengthOffset request.length

/-- The message in the buffer, of which no more than `capacity` octets are
believed, without the NULs at its end. -/
def reply (image : Image) (capacity : Nat) : Bytes :=
  let length := min (image.word lengthOffset) capacity
  Engine.stripNuls ((image.drop headerLength).take length)

end Image
end EngineGateway.SharedBuffer
