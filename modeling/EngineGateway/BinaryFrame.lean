import EngineGateway.Command

/-!
# Binary frames

A frame holds a command code of four octets, a text that runs to the first NUL
or to the end, and after the NUL, optionally, a length of four octets with
that many octets of payload.  Fewer than four octets after the NUL hold no
length and are ignored.
-/

namespace EngineGateway

/-- A decoded binary frame. -/
structure BinaryFrame where
  code : UInt32
  text : String
  payload : Option Bytes
  deriving Repr, DecidableEq

/-- Why octets are no frame, or a frame cannot be written. -/
inductive FrameError where
  | truncated (length : Nat)
  | lengthMismatch (declared : UInt32) (actual : Nat)
  | invalidText
  | payloadTooLarge (length : Nat)
  deriving Repr, DecidableEq

def FrameError.message : FrameError → String
  | .truncated _ => "binary mode message improperly formatted."
  | .lengthMismatch _ _ =>
      "binary mode message improperly formatted (byte length does not match binary buffer size)."
  | .invalidText =>
      "binary mode message improperly formatted (text is not UTF-8)."
  | .payloadTooLarge length =>
      "binary payload of " ++ toString length ++
        " bytes does not fit the length field"

namespace BinaryFrame

/-- Octets of the shortest frame: a code and one octet of text or a NUL. -/
def minimumLength : Nat := 5

/-- The command of a frame, if its code names one. -/
def command (frame : BinaryFrame) : Option Command :=
  Command.ofCode? frame.code

def isDirective (frame : BinaryFrame) : Bool :=
  frame.command == some .directive

/-- The payload in what follows the NUL. -/
def readPayload : Bytes → Except FrameError (Option Bytes)
  | first :: second :: third :: fourth :: payload =>
      let declared := littleEndian first second third fourth
      if declared.toNat = payload.length then .ok (some payload)
      else .error (.lengthMismatch declared payload.length)
  | _ => .ok none

def decode : Bytes → Except FrameError BinaryFrame
  | first :: second :: third :: fourth :: next :: rest =>
      let body := next :: rest
      match Text.Utf8.text? (body.takeWhile (· != 0)) with
      | none => .error .invalidText
      | some text => do
          let payload ← readPayload ((body.dropWhile (· != 0)).drop 1)
          return ⟨littleEndian first second third fourth, text, payload⟩
  | octets => .error (.truncated octets.length)

/-- The optional length and payload at the end of a frame. -/
def payloadBytes : Option Bytes → Except FrameError Bytes
  | none => .ok []
  | some payload =>
      if payload.length < UInt32.size then
        .ok (littleEndianBytes (UInt32.ofNat payload.length) ++ payload)
      else
        .error (.payloadTooLarge payload.length)

/-- Write a frame.  The text ends at its first NUL. -/
def encode (code : UInt32) (text : String) (payload : Option Bytes) :
    Except FrameError Bytes := do
  let tail ← payloadBytes payload
  let written := Text.Utf8.encode text
  return littleEndianBytes code ++ written.takeWhile (· != 0) ++ 0 :: tail

end BinaryFrame
end EngineGateway
