import EngineGateway.BinaryFrame
import EngineGateway.Proofs.LittleEndian
import EngineGateway.Proofs.Text.Split
import EngineGateway.Proofs.Text.Utf8

/-!
# What a frame is

A frame is told from its octets alone: its code is the number of the first four, its text
is what the octets up to the first NUL encode, and its payload is what is behind that NUL,
if a length that is right stands in front of it.  Reading finds that frame and fails where
there is none.

What is written for a frame is laid out in the same parts, so it is read back.  It differs
from octets that the frame was read from in what reading passes over: a NUL that was not
there, and one to three octets behind the NUL.
-/

namespace EngineGateway.BinaryFrame

open Text

/-! ## Parts of a frame -/

/-- The octets of the text: from the fifth one to the first NUL, or to the end. -/
def textPart (octets : Bytes) : Bytes :=
  (octets.drop 4).takeWhile (· != 0)

/-- The octets behind that NUL, none if there is no NUL. -/
def trailer (octets : Bytes) : Bytes :=
  ((octets.drop 4).dropWhile (· != 0)).drop 1

/-- What stands behind the NUL, with the payload that it holds. -/
inductive Trails : Bytes → Option Bytes → Prop where
  | short {trailer : Bytes} : trailer.length < 4 → Trails trailer none
  | counted {size content : Bytes} : size.length = 4 →
      LittleEndian.value size = content.length → Trails (size ++ content) (some content)

/-- The frame that octets are. -/
structure Holds (octets : Bytes) (frame : BinaryFrame) : Prop where
  long : 5 ≤ octets.length
  code : LittleEndian.value (octets.take 4) = frame.code.toNat
  text : Utf8.encode frame.text = textPart octets
  payload : Trails (trailer octets) frame.payload

/-- The octets are a frame: they are long enough, their text is UTF-8, and the length in
front of their payload is right if it is there. -/
structure Accepted (octets : Bytes) : Prop where
  long : 5 ≤ octets.length
  text : ∃ text, Utf8.encode text = textPart octets
  payload : (trailer octets).length < 4 ∨
    LittleEndian.value ((trailer octets).take 4) = ((trailer octets).drop 4).length

theorem exists_trails_iff {trailer : Bytes} :
    (∃ payload, Trails trailer payload) ↔
      trailer.length < 4 ∨ LittleEndian.value (trailer.take 4) = (trailer.drop 4).length := by
  constructor
  · rintro ⟨payload, short | ⟨four, counted⟩⟩
    · exact .inl short
    · rw [← four, List.take_left, List.drop_left]
      exact .inr counted
  · intro holds
    by_cases short : trailer.length < 4
    · exact ⟨none, .short short⟩
    · have four : (trailer.take 4).length = 4 :=
        List.length_take_of_le (Nat.le_of_not_lt short)
      have trails := Trails.counted four (holds.resolve_left short)
      rw [List.take_append_drop] at trails
      exact ⟨_, trails⟩

/-- The code of a frame fits a word. -/
theorem toNat_code {octets : Bytes} (long : 5 ≤ octets.length) :
    (UInt32.ofNat (LittleEndian.value (octets.take 4))).toNat =
      LittleEndian.value (octets.take 4) := by
  apply UInt32.toNat_ofNat_of_lt'
  have bound := LittleEndian.value_lt (octets.take 4)
  rwa [List.length_take_of_le (Nat.le_of_succ_le long)] at bound

theorem exists_holds_iff {octets : Bytes} :
    (∃ frame, Holds octets frame) ↔ Accepted octets := by
  constructor
  · rintro ⟨frame, long, _, text, trails⟩
    exact ⟨long, ⟨_, text⟩, exists_trails_iff.mp ⟨_, trails⟩⟩
  · rintro ⟨long, ⟨text, encoded⟩, trailed⟩
    obtain ⟨payload, trails⟩ := exists_trails_iff.mpr trailed
    exact ⟨⟨.ofNat (LittleEndian.value (octets.take 4)), text, payload⟩, long,
      (toNat_code long).symm, encoded, trails⟩

/-! ## Reading -/

theorem exists_four {octets : Bytes} (long : 4 ≤ octets.length) :
    ∃ first second third fourth rest,
      octets = first :: second :: third :: fourth :: rest := by
  match octets, long with
  | first :: second :: third :: fourth :: rest, _ =>
      exact ⟨first, second, third, fourth, rest, rfl⟩

theorem readPayload_of_short {trailer : Bytes} (short : trailer.length < 4) :
    readPayload trailer = .ok none := by
  unfold readPayload
  split
  · simp only [List.length_cons] at short
    omega
  · rfl

theorem readPayload_eq_ok_iff {trailer : Bytes} {payload : Option Bytes} :
    readPayload trailer = .ok payload ↔ Trails trailer payload := by
  constructor
  · intro read
    by_cases long : 4 ≤ trailer.length
    · obtain ⟨first, second, third, fourth, content, rfl⟩ := exists_four long
      simp only [readPayload] at read
      split_ifs at read with counted
      cases read
      rw [LittleEndian.toNat_littleEndian] at counted
      exact @Trails.counted [first, second, third, fourth] content rfl counted
    · have short := Nat.lt_of_not_le long
      rw [readPayload_of_short short] at read
      cases read
      exact .short short
  · intro trails
    cases trails with
    | short short => exact readPayload_of_short short
    | @counted size content four counted =>
        obtain ⟨first, second, third, fourth, rest, rfl⟩ := exists_four four.ge
        obtain rfl : rest = [] := by simpa using four
        simp [readPayload, LittleEndian.toNat_littleEndian, counted]

theorem decode_of_short {octets : Bytes} (short : octets.length < 5) :
    decode octets = .error (.truncated octets.length) := by
  unfold decode
  split
  · simp only [List.length_cons] at short
    omega
  · rfl

theorem decode_of_long {octets : Bytes} (long : 5 ≤ octets.length) :
    decode octets =
      match Utf8.text? (textPart octets) with
      | none => .error .invalidText
      | some text => (readPayload (trailer octets)).map fun payload =>
          ⟨.ofNat (LittleEndian.value (octets.take 4)), text, payload⟩ := by
  obtain ⟨first, second, third, fourth, _ | ⟨next, rest⟩, rfl⟩ :=
    exists_four (Nat.le_of_succ_le long)
  · simp at long
  have code : UInt32.ofNat (LittleEndian.value [first, second, third, fourth]) =
      littleEndian first second third fourth := by
    rw [← LittleEndian.toNat_littleEndian, UInt32.ofNat_toNat]
  simp only [decode, textPart, trailer, List.take_succ_cons, List.take_zero, List.drop_succ_cons,
    List.drop_zero, code]
  cases Utf8.text? ((next :: rest).takeWhile (· != 0)) with
  | none => rfl
  | some text =>
      cases readPayload (((next :: rest).dropWhile (· != 0)).drop 1) <;> rfl

/-- Reading finds the frame that the octets are. -/
theorem decode_eq_ok_iff {octets : Bytes} {frame : BinaryFrame} :
    decode octets = .ok frame ↔ Holds octets frame := by
  by_cases long : 5 ≤ octets.length
  · rw [decode_of_long long]
    constructor
    · intro decoded
      split at decoded
      · cases decoded
      · next text read =>
          cases payload : readPayload (trailer octets) with
          | error fault => rw [payload] at decoded; cases decoded
          | ok content =>
              rw [payload] at decoded
              cases decoded
              exact ⟨long, (toNat_code long).symm, Utf8.text?_eq_some_iff.mp read,
                readPayload_eq_ok_iff.mp payload⟩
    · rintro ⟨_, code, text, payload⟩
      rw [Utf8.text?_eq_some_iff.mpr text, readPayload_eq_ok_iff.mpr payload, code]
      simp only [Except.map, UInt32.ofNat_toNat]
  · rw [decode_of_short (Nat.lt_of_not_le long)]
    exact iff_of_false nofun fun holds => long holds.long

/-! ## Writing -/

/-- A text up to its first NUL. -/
def cutText (text : String) : String :=
  String.ofList (text.toList.takeWhile (· != '\x00'))

theorem takeWhile_encode (text : String) :
    (Utf8.encode text).takeWhile (· != 0) = Utf8.encode (cutText text) := by
  simp only [Utf8.encode, cutText, String.toList_ofList]
  induction text.toList with
  | nil => rfl
  | cons character rest ih =>
      rw [List.flatMap_cons]
      by_cases ends : character = '\x00'
      · subst ends
        rfl
      · have clear : 0 ∉ String.utf8EncodeChar character := mt Utf8.zero_mem_encodeChar.mp ends
        rw [List.takeWhile_append_of_pos (passed_of_not_mem clear),
          List.takeWhile_cons_of_pos (by simpa using ends), List.flatMap_cons, ih]

theorem zero_not_mem_encode_cutText (text : String) : 0 ∉ Utf8.encode (cutText text) := by
  rw [← takeWhile_encode]
  intro member
  simpa using List.mem_takeWhile_imp member

/-- The octets of a frame that are put before what stands behind the NUL. -/
def layout (code : UInt32) (text : String) (tail : Bytes) : Bytes :=
  littleEndianBytes code ++ Utf8.encode (cutText text) ++ 0 :: tail

theorem encode_eq (code : UInt32) (text : String) (payload : Option Bytes) :
    encode code text payload = (payloadBytes payload).map (layout code text) := by
  simp only [encode, takeWhile_encode]
  cases payloadBytes payload <;> rfl

section Layout

variable (code : UInt32) (text : String) (tail : Bytes)

theorem take_layout : (layout code text tail).take 4 = littleEndianBytes code := by
  rw [layout, List.append_assoc]
  rfl

theorem drop_layout :
    (layout code text tail).drop 4 = Utf8.encode (cutText text) ++ 0 :: tail := by
  rw [layout, List.append_assoc]
  rfl

theorem textPart_layout : textPart (layout code text tail) = Utf8.encode (cutText text) := by
  rw [textPart, drop_layout, takeWhile_split (zero_not_mem_encode_cutText text)]

theorem trailer_layout : trailer (layout code text tail) = tail := by
  rw [trailer, drop_layout, dropWhile_split (zero_not_mem_encode_cutText text), List.drop_one,
    List.tail_cons]

end Layout

theorem Trails.holds_layout {tail : Bytes} {payload : Option Bytes}
    (trails : Trails tail payload) (code : UInt32) (text : String) :
    Holds (layout code text tail) ⟨code, cutText text, payload⟩ where
  long := by simp [layout, littleEndianBytes]; omega
  code := by rw [take_layout, LittleEndian.value_littleEndianBytes]
  text := (textPart_layout code text tail).symm
  payload := by rwa [trailer_layout]

/-- A payload whose length fits is written as something that holds it. -/
theorem exists_payloadBytes {payload : Option Bytes}
    (fits : ∀ content ∈ payload, content.length < 2 ^ 32) :
    ∃ tail, payloadBytes payload = .ok tail ∧ Trails tail payload := by
  cases payload with
  | none => exact ⟨[], rfl, .short (by decide)⟩
  | some content =>
      have small : content.length < 2 ^ 32 := fits content rfl
      refine ⟨_, if_pos small, .counted rfl ?_⟩
      rw [LittleEndian.value_littleEndianBytes]
      exact UInt32.toNat_ofNat_of_lt' small

/-- Writing a frame whose payload fits gives octets that are the frame. -/
theorem exists_encode (code : UInt32) (text : String) {payload : Option Bytes}
    (fits : ∀ content ∈ payload, content.length < 2 ^ 32) :
    ∃ octets, encode code text payload = .ok octets ∧
      decode octets = .ok ⟨code, cutText text, payload⟩ := by
  obtain ⟨tail, written, trails⟩ := exists_payloadBytes fits
  refine ⟨layout code text tail, ?_, decode_eq_ok_iff.mpr (trails.holds_layout code text)⟩
  rw [encode_eq, written]
  rfl

/-! ## Writing what was read -/

/-- A payload that was read is written again as it stood there, and no octets are written
for what holds none. -/
theorem Trails.exists_payloadBytes {trailer : Bytes} {payload : Option Bytes}
    (trails : Trails trailer payload) :
    ∃ tail, payloadBytes payload = .ok tail ∧ Trails tail payload ∧
      (tail = trailer ↔ trailer.length = 0 ∨ 4 ≤ trailer.length) := by
  cases trails with
  | short short =>
      refine ⟨[], rfl, .short (by decide), ?_⟩
      rw [eq_comm, ← List.length_eq_zero_iff]
      omega
  | @counted size content four counted =>
      have small : content.length < UInt32.size := by
        have bound := LittleEndian.value_lt size
        rwa [four, counted] at bound
      refine ⟨size ++ content, ?_, .counted four counted, ?_⟩
      · rw [payloadBytes, if_pos small, ← counted, LittleEndian.littleEndianBytes_value four]
      · simp [four]

theorem cutText_of_encode {text : String} {octets : Bytes}
    (encoded : Utf8.encode text = textPart octets) : cutText text = text := by
  have same : Utf8.encode (cutText text) = Utf8.encode text := by
    rw [← takeWhile_encode, encoded, textPart, List.takeWhile_idem]
  exact Option.some.inj ((Utf8.text?_eq_some_iff.mpr same).symm.trans
    (Utf8.text?_eq_some_iff.mpr rfl))

theorem drop_four {octets : Bytes} (ended : 0 ∈ octets.drop 4) :
    octets.drop 4 = textPart octets ++ 0 :: trailer octets := by
  obtain ⟨before, after, split, clear⟩ := List.eq_append_cons_of_mem ended
  rw [textPart, trailer, split, takeWhile_split clear, dropWhile_split clear, List.drop_one,
    List.tail_cons]

/-- The octets of a frame are laid out as the frame is written exactly if they have the NUL
and what is behind it is what is written there. -/
theorem Holds.layout_eq_iff {octets : Bytes} {frame : BinaryFrame} (holds : Holds octets frame)
    (tail : Bytes) :
    layout frame.code frame.text tail = octets ↔
      0 ∈ octets.drop 4 ∧ tail = trailer octets := by
  constructor
  · rintro rfl
    rw [drop_layout, trailer_layout]
    simp
  · rintro ⟨ended, rfl⟩
    have code : littleEndianBytes frame.code = octets.take 4 := by
      apply LittleEndian.value_inj
      · exact (List.length_take_of_le (Nat.le_of_succ_le holds.long)).symm
      · rw [LittleEndian.value_littleEndianBytes, holds.code]
    rw [layout, cutText_of_encode holds.text, holds.text, code, List.append_assoc,
      ← drop_four ended, List.take_append_drop]

/-- Frames are what reading takes, and writing and reading undo each other.  What is
written for a code, a text and a payload that fits is read as that code, the text up to its
first NUL and that payload.  Octets are read exactly if they are a frame.  A frame that was
read can be written, is read again from what is written, and is written as it stood exactly
if it had its NUL and not one to three octets behind it. -/
theorem frames_read_back :
    (∀ code text payload, (∀ content ∈ payload, content.length < 2 ^ 32) →
      ∃ octets, encode code text payload = .ok octets ∧
        decode octets = .ok ⟨code, cutText text, payload⟩) ∧
    (∀ octets, (∃ frame, decode octets = .ok frame) ↔ Accepted octets) ∧
    ∀ octets frame, decode octets = .ok frame →
      ∃ written, encode frame.code frame.text frame.payload = .ok written ∧
        decode written = .ok frame ∧
        (written = octets ↔ 0 ∈ octets.drop 4 ∧
          ((trailer octets).length = 0 ∨ 4 ≤ (trailer octets).length)) := by
  refine ⟨?written, ?accepted, ?again⟩
  case written => exact fun code text _ fits => exists_encode code text fits
  case accepted =>
    intro octets
    simp only [decode_eq_ok_iff, exists_holds_iff]
  case again =>
    intro octets frame read
    have holds := decode_eq_ok_iff.mp read
    obtain ⟨tail, same, trails, unchanged⟩ := holds.payload.exists_payloadBytes
    refine ⟨layout frame.code frame.text tail, ?_, ?_, ?_⟩
    · rw [encode_eq, same]
      rfl
    · rw [decode_eq_ok_iff]
      have written := trails.holds_layout frame.code frame.text
      rwa [cutText_of_encode holds.text] at written
    · rw [holds.layout_eq_iff, unchanged]

/-- An empty payload is not lost, and a text that is not ended gets its NUL. -/
theorem frames_read_back_short :
    (∃ octets, encode 7 "a\x00b" (some []) = .ok octets ∧
      decode octets = .ok ⟨7, "a", some []⟩) ∧
    ∃ written, encode 0x04030201 "a" none = .ok written ∧
      decode written = .ok ⟨0x04030201, "a", none⟩ ∧ written ≠ [1, 2, 3, 4, 0x61] := by
  constructor
  · have read := frames_read_back.1 7 "a\x00b" (some []) (by simp)
    rwa [show cutText "a\x00b" = "a" by decide] at read
  · obtain ⟨written, same, again, unchanged⟩ :=
      frames_read_back.2.2 [1, 2, 3, 4, 0x61] ⟨0x04030201, "a", none⟩ (by decide +kernel)
    exact ⟨written, same, again, fun equal => absurd (unchanged.mp equal).1 (by decide)⟩

end EngineGateway.BinaryFrame
