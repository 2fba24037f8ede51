import EngineGateway.Proofs.LittleEndian
import EngineGateway.Proofs.Windows.Room
import Mathlib.Data.List.TakeWhile

/-!
# What a transaction touches

A request either has no room, and then the buffer is not touched and nobody is signalled,
or it is written before the engine is signalled: the length of the message and the message
itself, with a NUL behind it, and not one octet more.  What the engine leaves in the buffer
can be anything, also a length that is much too long.  The reply is read out of the octets
behind the header that belong to the buffer, and out of no others.
-/

namespace EngineGateway.SharedBuffer

/-- The octets behind the header of a buffer with room for so many. -/
def contents (image : Image) (room : Nat) : Bytes :=
  (image.drop headerLength).take room

/-- A request has been put into a buffer, which is otherwise as it was before. -/
structure Shows (before : Image) (request : Bytes) (after : Image) : Prop where
  size : after.length = before.length
  length : after.word lengthOffset = request.length
  message : contents after (request.length + 1) = request ++ [0]
  elsewhere : ∀ index, index < lengthOffset ∨ lengthOffset + 4 ≤ index →
    index < headerLength ∨ headerLength + (request.length + 1) ≤ index →
    after[index]? = before[index]?
  /-- The other words of the header. -/
  header : ∀ offset, offset + 4 ≤ lengthOffset ∨
      lengthOffset + 4 ≤ offset ∧ offset + 4 ≤ headerLength →
    after.word offset = before.word offset

/-- The octets that a reply is, if the buffer has room for so many: as many as the engine
claims, where there are so many, and without the NULs behind them. -/
structure Replies (left : Image) (room : Nat) (reply : Bytes) : Prop where
  content : ∃ count,
    (contents left room).take (left.word lengthOffset) = reply ++ List.replicate count 0
  trimmed : reply.getLast? ≠ some 0

namespace Image

theorem getElem?_put_of_outside {image : Image} {offset index : Nat} {octets : Bytes}
    (inside : offset + octets.length ≤ image.length)
    (outside : index < offset ∨ offset + octets.length ≤ index) :
    (image.put offset octets)[index]? = image[index]? := by
  have front : (image.take offset).length = offset :=
    List.length_take_of_le (by omega)
  rw [put, List.append_assoc]
  rcases outside with before | behind
  · rw [List.getElem?_append_left (by omega), List.getElem?_take_of_lt before]
  · rw [List.getElem?_append_right (by omega), List.getElem?_append_right (by omega),
      List.getElem?_drop, front]
    congr 1
    omega

theorem take_drop_put (image : Image) (octets : Bytes) {offset : Nat}
    (inside : offset ≤ image.length) :
    ((image.put offset octets).drop offset).take octets.length = octets := by
  have front : (image.take offset).length = offset := List.length_take_of_le inside
  rw [put, List.append_assoc, List.drop_left' front, List.take_left]

section Word

variable {image other : Image} {offset : Nat}

theorem word_congr (same : ∀ index < 4, image[offset + index]? = other[offset + index]?) :
    image.word offset = other.word offset := by
  simp only [word, List.getD_eq_getElem?_getD, same 0 (by decide), same 1 (by decide),
    same 2 (by decide), same 3 (by decide)]

theorem word_putWord {value : Nat} (inside : offset ≤ image.length) (small : value < 2 ^ 32) :
    (image.putWord offset value).word offset = value := by
  let octets := littleEndianBytes (UInt32.ofNat value)
  have stands : ((image.putWord offset value).drop offset).take 4 = octets :=
    image.take_drop_put octets inside
  have place (index : Nat) (four : index < 4) :
      (image.putWord offset value)[offset + index]? = octets[index]? := by
    rw [← stands, List.getElem?_take_of_lt four, List.getElem?_drop]
  have number : (image.putWord offset value).word offset = LittleEndian.value octets := by
    simp only [word, List.getD_eq_getElem?_getD, place 0 (by decide), place 1 (by decide),
      place 2 (by decide), place 3 (by decide)]
    exact LittleEndian.toNat_littleEndian _ _ _ _
  rw [number, LittleEndian.value_littleEndianBytes]
  exact UInt32.toNat_ofNat_of_lt' small

end Word

/-! ## Requests and replies -/

/-- A request that fits into the buffer is put there with a NUL behind it, and nothing else
changes but the length of the message. -/
theorem shows_withRequest {image : Image} {request : Bytes}
    (inside : headerLength + (request.length + 1) ≤ image.length)
    (small : request.length < 2 ^ 32) : Shows image request (image.withRequest request) := by
  have header : headerLength = 24 := rfl
  have place : lengthOffset = 12 := rfl
  have long : (request ++ [0]).length = request.length + 1 := List.length_append
  have room : headerLength + (request ++ [0]).length ≤ image.length := by omega
  have length : (image.put headerLength (request ++ [0])).length = image.length := length_put room
  have word : (littleEndianBytes (UInt32.ofNat request.length)).length = 4 := rfl
  have fits : lengthOffset + 4 ≤ (image.put headerLength (request ++ [0])).length := by omega
  have beyond : ∀ index, index < lengthOffset ∨ lengthOffset + 4 ≤ index →
      (image.withRequest request)[index]? =
        (image.put headerLength (request ++ [0]))[index]? := by
    intro index outside
    exact getElem?_put_of_outside fits outside
  have elsewhere : ∀ index, index < lengthOffset ∨ lengthOffset + 4 ≤ index →
      index < headerLength ∨ headerLength + (request.length + 1) ≤ index →
      (image.withRequest request)[index]? = image[index]? := by
    intro index outside apart
    rw [beyond index outside, getElem?_put_of_outside room (by omega)]
  refine ⟨?size, ?length, ?message, elsewhere, ?header⟩
  case size => rw [withRequest, putWord, length_put fits, length]
  case length => exact word_putWord (by omega) small
  case message =>
    have written := image.take_drop_put (request ++ [0]) (Nat.le_of_add_right_le room)
    rw [← written, contents, long]
    apply List.ext_getElem?
    intro index
    simp only [List.getElem?_take, List.getElem?_drop]
    rw [beyond _ (.inr (by omega))]
  case header =>
    intro offset apart
    exact word_congr fun index few => elsewhere _ (by omega) (by omega)

end Image

theorem stripNuls_append (octets : Bytes) :
    (∃ count, octets = Engine.stripNuls octets ++ List.replicate count 0) ∧
      (Engine.stripNuls octets).getLast? ≠ some 0 := by
  constructor
  · refine ⟨(octets.reverse.takeWhile (· == 0)).length, ?_⟩
    have nuls : octets.reverse.takeWhile (· == 0) =
        List.replicate (octets.reverse.takeWhile (· == 0)).length 0 := by
      refine List.eq_replicate_of_mem fun octet member => ?_
      simpa using List.mem_takeWhile_imp member
    have parts := congrArg List.reverse
      (List.takeWhile_append_dropWhile (p := (· == 0)) (l := octets.reverse))
    rw [List.reverse_append, List.reverse_reverse, nuls, List.reverse_replicate] at parts
    exact parts.symm
  · rw [Engine.stripNuls, List.getLast?_reverse]
    intro first
    have kept := List.head?_dropWhile_not (· == 0) octets.reverse
    rw [first] at kept
    cases kept

theorem replies_reply (left : Image) (room : Nat) : Replies left room (left.reply room) := by
  have read : left.reply room =
      Engine.stripNuls ((contents left room).take (left.word lengthOffset)) := by
    rw [Image.reply, contents, List.take_take]
  rw [read]
  exact ⟨(stripNuls_append _).1, (stripNuls_append _).2⟩

end EngineGateway.SharedBuffer

namespace EngineGateway.Windows

open Engine SharedBuffer Logged

/-- What is done to a buffer and to the events that belong to it. -/
inductive BufferCall where
  | wrote (view : Handle) (image : Image)
  | reset (event : Handle)
  | pulsed (event : Handle)
  | waited (objects : List Handle) (outcome : Nat)
  deriving DecidableEq

variable {ω : Type}

instance [Memory ω] : Memory (Logged BufferCall ω) where
  openProcess process := noting (Processes.openProcess process) fun _ => []
  exitCode process := noting (Processes.exitCode process) fun _ => []
  modulePath process limit := noting (Processes.modulePath process limit) fun _ => []
  close handle := noting (Processes.close handle) fun _ => []
  openMapping name := noting (Memory.openMapping name) fun _ => []
  mapView mapping := noting (Memory.mapView mapping) fun _ => []
  unmapView view := noting (Memory.unmapView view) fun _ => []
  openMutex name := noting (Memory.openMutex name) fun _ => []
  openEvent name := noting (Memory.openEvent name) fun _ => []
  image view logged := Memory.image view logged.world
  setImage view image := noting (Memory.setImage view image) fun _ => [.wrote view image]
  waitFor objects time :=
    noting (Memory.waitFor objects time) fun outcome => [.waited objects outcome]
  releaseMutex mutex := noting (Memory.releaseMutex mutex) fun _ => []
  resetEvent event := noting (Memory.resetEvent event) fun _ => [.reset event]
  pulseEvent event := noting (Memory.pulseEvent event) fun _ => [.pulsed event]
  lastError := noting Memory.lastError fun _ => []

variable [Memory ω]

namespace Buffer

/-- Waits for a result, with what they come to.  They succeed exactly if the last of them
was ended by the result. -/
structure Awaits (buffer : Buffer) (process : Handle) (outcome : Except Fault Unit)
    (waits : List BufferCall) : Prop where
  each : ∀ call ∈ waits, ∃ result, call = .waited [process, buffer.result] result
  last : outcome = .ok () ↔
    waits.getLast? = some (.waited [process, buffer.result] (signalled + 1))

section Awaits

variable {buffer : Buffer} {process : Handle} {outcome : Except Fault Unit}

theorem Awaits.one {result : Nat} (ended : outcome = .ok () ↔ result = signalled + 1) :
    buffer.Awaits process outcome [.waited [process, buffer.result] result] where
  each := List.forall_mem_singleton.mpr ⟨result, rfl⟩
  last := by simpa using ended

/-- A wait that something else has ended, and the waits after it. -/
theorem Awaits.cons {result : Nat} {waits : List BufferCall} (other : result ≠ signalled + 1)
    (awaits : buffer.Awaits process outcome waits) :
    buffer.Awaits process outcome (.waited [process, buffer.result] result :: waits) where
  each := List.forall_mem_cons.mpr ⟨⟨result, rfl⟩, awaits.each⟩
  last := by
    rw [awaits.last, List.getLast?_cons]
    cases waits.getLast? with
    | none => simpa using other
    | some call => simp

end Awaits

theorem run_awaitResult (buffer : Buffer) (process : Handle) (times : Nat) (world : ω)
    (calls : List BufferCall) :
    let came := (buffer.awaitResult process times).run world
    ∃ waits, buffer.Awaits process came.1 waits ∧
      (buffer.awaitResult process times).run (⟨world, calls⟩ : Logged BufferCall ω) =
        (came.1, ⟨came.2, calls ++ waits⟩) := by
  have failed (fault : Fault) : (.error fault : Except Fault Unit) ≠ .ok () := by simp
  induction times generalizing world calls with
  | zero =>
      have unended : ([] : List BufferCall).getLast? ≠
          some (.waited [process, buffer.result] (signalled + 1)) := by simp
      refine ⟨[], ⟨List.forall_mem_nil _, iff_of_false (failed _) unended⟩, ?_⟩
      rw [List.append_nil]
      rfl
  | succ times ih =>
      have waited : (Memory.waitFor [process, buffer.result] buffer.timeout).run
          (⟨world, calls⟩ : Logged BufferCall ω) =
            let came := (Memory.waitFor [process, buffer.result] buffer.timeout).run world
            (came.1, ⟨came.2, calls ++ [.waited [process, buffer.result] came.1]⟩) := rfl
      simp only [awaitResult, run_bind, waited]
      generalize (Memory.waitFor [process, buffer.result] buffer.timeout).run world = came
      rcases came with ⟨result, later⟩
      simp only
      split_ifs with ready ended late
      · exact ⟨_, .one (iff_of_true rfl ready), rfl⟩
      · exact ⟨_, .one (iff_of_false (failed _) ready), rfl⟩
      · obtain ⟨waits, awaits, same⟩ :=
          ih later (calls ++ [.waited [process, buffer.result] result])
        refine ⟨_, awaits.cons ready, ?_⟩
        rw [same, List.append_assoc]
        rfl
      · refine ⟨_, .one (iff_of_false (failed _) ready), ?_⟩
        exact Prod.ext rfl (congrArg (Logged.mk _) (List.append_nil _))

/-- A request for which there is no room. -/
theorem run_transact_of_le (buffer : Buffer) {request : Bytes} {world : ω}
    (full : (Memory.image buffer.view world).capacity ≤ request.length) :
    (buffer.transact request).run world =
      (.error (.tooLong request.length ((Memory.image buffer.view world).capacity - 1)),
        world) := by
  rw [transact, run_bind, run_get]
  simp only [if_pos full]
  rfl

/-- Put a request into the buffer and signal the engine. -/
def announce (buffer : Buffer) (image : Image) (request : Bytes) : StateM ω Unit := do
  Memory.setImage buffer.view (image.withRequest request)
  Memory.resetEvent buffer.result
  Memory.pulseEvent buffer.request

/-- Wait for the reply to a request and read it. -/
def collect (buffer : Buffer) (room : Nat) : StateM ω (Except Fault Bytes) :=
  match buffer.process with
  | none => return .error .engineExited
  | some process => do
      match ← buffer.awaitResult process waitCount with
      | .error fault => return .error fault
      | .ok () => return .ok (Image.reply (Memory.image buffer.view (← get)) room)

theorem run_transact_of_lt (buffer : Buffer) {request : Bytes} {world : ω}
    (room : request.length < (Memory.image buffer.view world).capacity) :
    (buffer.transact request).run world =
      (do
        buffer.announce (Memory.image buffer.view world) request
        buffer.collect (Memory.image buffer.view world).capacity : StateM ω _).run world := by
  rw [transact, run_bind, run_get]
  simp only [if_neg (Nat.not_le.mpr room)]
  rfl

/-- What comes of a request that has been announced, if the engine leaves this image: the
result is waited for, the reply is read if the last wait was ended by it, and otherwise the
request fails. -/
structure Collects (buffer : Buffer) (room : Nat) (left : Image) (outcome : Except Fault Bytes)
    (waits : List BufferCall) : Prop where
  each : ∀ call ∈ waits, ∃ process result, buffer.process = some process ∧
    call = .waited [process, buffer.result] result
  succeeds : (∃ reply, outcome = .ok reply) ↔ ∃ process, buffer.process = some process ∧
    waits.getLast? = some (.waited [process, buffer.result] (signalled + 1))
  reads : ∀ reply, outcome = .ok reply → Replies left room reply

theorem run_collect (buffer : Buffer) (room : Nat) (world : ω) (calls : List BufferCall) :
    let came := (buffer.collect room).run world
    ∃ waits, buffer.Collects room (Memory.image buffer.view came.2) came.1 waits ∧
      (buffer.collect room).run (⟨world, calls⟩ : Logged BufferCall ω) =
        (came.1, ⟨came.2, calls ++ waits⟩) := by
  cases opened : buffer.process with
  | none =>
      simp only [collect, opened]
      refine ⟨[], ⟨List.forall_mem_nil _, iff_of_false nofun ?_, nofun⟩, ?_⟩
      · rintro ⟨process, same, _⟩
        cases opened.symm.trans same
      · exact Prod.ext rfl (congrArg (Logged.mk _) (List.append_nil _).symm)
  | some process =>
      obtain ⟨waits, awaits, same⟩ := buffer.run_awaitResult process waitCount world calls
      simp only [collect, opened, run_bind, same]
      have each : ∀ call ∈ waits, ∃ other result, buffer.process = some other ∧
          call = .waited [other, buffer.result] result := by
        intro call member
        obtain ⟨result, named⟩ := awaits.each call member
        exact ⟨process, result, opened, named⟩
      have last : (∃ other, buffer.process = some other ∧
          waits.getLast? = some (.waited [other, buffer.result] (signalled + 1))) ↔
            waits.getLast? = some (.waited [process, buffer.result] (signalled + 1)) := by
        simp [opened]
      generalize (buffer.awaitResult process waitCount).run world = came at awaits
      rcases came with ⟨fault | _, after⟩
      · refine ⟨waits, ⟨each, ?_, nofun⟩, rfl⟩
        rw [last, ← awaits.last]
        exact iff_of_false nofun nofun
      · refine ⟨waits, ⟨each, ?_, ?_⟩, rfl⟩
        · rw [last, ← awaits.last]
          exact iff_of_true ⟨_, rfl⟩ rfl
        · rintro reply read
          cases read
          exact replies_reply _ _

end Buffer

/-- The small desktop, with an engine that claims more than its buffer has room for. -/
def boastfulDesktop : Rehearsal.Desktop :=
  { smallDesktop with replies := [⟨Text.Utf8.encode "hi\x00\x00", some 0xFFFFFFFF⟩] }

/-- The buffer of the boastful engine. -/
def boastfulBuffer : Buffer :=
  smallSession.transport.channel

/-- What comes of a request to the boastful engine, and which calls are made for it. -/
def boast (request : Bytes) : Except Fault Bytes × Logged BufferCall Rehearsal.Desktop :=
  (boastfulBuffer.transact request).run ⟨boastfulDesktop, []⟩

theorem room_boastfulBuffer :
    let image := Memory.image boastfulBuffer.view boastfulDesktop
    image.word sizeOffset - headerLength = 24 ∧ image.word sizeOffset ≤ image.length := by
  decide +kernel

theorem boast_answer :
    (boast (Text.Utf8.encode "outs 1")).1 = .ok (Text.Utf8.encode "hi\x00\x00 1") := by
  decide +kernel

end EngineGateway.Windows
