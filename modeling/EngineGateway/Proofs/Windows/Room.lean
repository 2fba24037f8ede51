import EngineGateway.Proofs.SharedBuffer.Room
import EngineGateway.Rehearsal.Desktop

/-!
# Requests in the buffer

A request stands behind the header of the buffer with a NUL behind it.  Whatever the
buffer says about its size, no request that a session lets through is too long for it:
not one octet is written beyond the end, and the length that is written beside the
request is its length.
-/

namespace EngineGateway.SharedBuffer

/-- The request and the NUL behind it stand within the buffer, what lies beyond the buffer
stays as it is, and the length of the request is a word. -/
structure Fits (image : Image) (request : Bytes) : Prop where
  inside : headerLength + (request ++ [0]).length ≤ image.word sizeOffset
  exact : (UInt32.ofNat request.length).toNat = request.length
  beyond : image.word sizeOffset ≤ image.length →
    (image.withRequest request).drop (image.word sizeOffset) =
      image.drop (image.word sizeOffset)

namespace Image

theorem word_lt (image : Image) (offset : Nat) : image.word offset < UInt32.size :=
  UInt32.toNat_lt _

theorem length_put {image : Image} {offset : Nat} {octets : Bytes}
    (inside : offset + octets.length ≤ image.length) :
    (image.put offset octets).length = image.length := by
  simp only [put, List.length_append, List.length_take, List.length_drop]
  omega

/-- Octets that are put into a buffer change nothing behind them. -/
theorem drop_put {image : Image} {offset stop : Nat} {octets : Bytes}
    (inside : offset ≤ image.length) (before : offset + octets.length ≤ stop) :
    (image.put offset octets).drop stop = image.drop stop := by
  have front : (image.take offset ++ octets).length = offset + octets.length := by
    rw [List.length_append, List.length_take, Nat.min_eq_left inside]
  rw [put, List.drop_append, front, List.drop_eq_nil_of_le (by rwa [front]), List.nil_append,
    List.drop_drop]
  congr 1
  omega

/-- What is shorter than the room of a buffer fits into it. -/
theorem fits_of_lt {image : Image} {request : Bytes}
    (short : request.length < image.capacity) : Fits image request := by
  have header : headerLength = 24 := rfl
  have place : lengthOffset = 12 := rfl
  have ended : (request ++ [0]).length = request.length + 1 := List.length_append
  have room : headerLength + (request ++ [0]).length ≤ image.word sizeOffset := by
    rw [capacity] at short
    omega
  have word := image.word_lt sizeOffset
  have words (value : Nat) : (littleEndianBytes (UInt32.ofNat value)).length = 4 := rfl
  refine ⟨room, UInt32.toNat_ofNat_of_lt' (by omega), ?_⟩
  intro mapped
  rw [withRequest, putWord, drop_put, drop_put]
  · omega
  · exact room
  · rw [length_put (Nat.le_trans room mapped)]
    omega
  · rw [words]
    omega

end Image
end EngineGateway.SharedBuffer

namespace EngineGateway.Windows

open Engine SharedBuffer

variable {ω : Type} [Memory ω]

/-- Waiting for a result finds nothing too long. -/
theorem Buffer.awaitResult_ne_tooLong (buffer : Buffer) (process : Handle) (times : Nat)
    (world : ω) (length limit : Nat) :
    ((buffer.awaitResult process times).run world).1 ≠ .error (.tooLong length limit) := by
  induction times generalizing world with
  | zero =>
      intro same
      cases same
  | succ times ih =>
      rw [awaitResult, run_bind]
      split_ifs
      · intro same
        cases same
      · intro same
        cases same
      · exact ih _
      · intro same
        cases same

/-- A request that is shorter than the room of the buffer is not too long for it. -/
theorem Buffer.transact_of_lt (buffer : Buffer) {request : Bytes} {world : ω}
    (short : request.length < (Memory.image buffer.view world).capacity)
    (length limit : Nat) :
    ((buffer.transact request).run world).1 ≠ .error (.tooLong length limit) := by
  rw [transact, run_bind, run_get]
  simp only [if_neg (Nat.not_le.mpr short), run_bind]
  cases buffer.process with
  | none =>
      intro same
      cases same
  | some process =>
      simp only [run_bind]
      split
      next fault failed =>
        intro same
        cases same
        exact buffer.awaitResult_ne_tooLong process waitCount _ length limit failed
      next =>
        intro same
        cases same

/-- The limits of sessions, transports and channels agree.  Whatever room a channel has
when a script is sent, every request that the script leads to is shorter than that, and a
script with a part that would not fit leads to no calls at all, not even for the mutex: the
session refuses it.  So every request fits into the buffer of an engine with the NUL
behind it, and is not too long when it is made, unless the buffer has shrunk since then. -/
theorem requests_fit :
    (∀ {γ ω : Type} [Channel γ ω] (session : Session (Link γ)) (text : String) (world : ω),
      let octets := scriptBytes session.identity text
      let room := Channel.capacity session.transport.channel world
      let limit := session.transport.unitLimit world
      (∀ earlier request outcome, .asked earlier request outcome ∈ roomCalls session text world →
        request.length < room) ∧
      (session.closed = false → Overlong (some limit) octets →
        roomCalls session text world = [] ∧
        ∃ unit, FirstOver limit octets unit ∧
          ((session.send text).run world).1 =
            (.error (Fault.tooLong unit.length limit).message, session))) ∧
    (∀ {ω : Type} [Memory ω] (session : Session (Link Buffer)) (text : String) (world : ω),
      let image (world : ω) : Image := Memory.image session.transport.channel.view world
      ∀ earlier request outcome, .asked earlier request outcome ∈ roomCalls session text world →
        Fits (image world) request ∧
        ((image world).capacity ≤ (image earlier).capacity →
          Fits (image earlier) request ∧
          ∀ length limit, outcome ≠ .error (.tooLong length limit))) := by
  constructor
  · intro γ ω _ session text world octets room limit
    constructor
    · intro earlier request outcome member
      exact (asked_lt member).1
    · exact overlong_refused
  · intro ω _ session text world image earlier request outcome member
    rcases asked_lt member with ⟨short, came⟩
    refine ⟨Image.fits_of_lt short, fun room => ?_⟩
    have fits : request.length < (image earlier).capacity := Nat.lt_of_lt_of_le short room
    refine ⟨Image.fits_of_lt fits, fun length limit => ?_⟩
    rw [came]
    exact session.transport.channel.transact_of_lt fits length limit

/-- A desktop with the buffer of one engine, which has room for 24 octets. -/
def smallDesktop : Rehearsal.Desktop where
  publishers := [⟨"Docking", Rehearsal.Publisher.freshImage 7 48, [], true, []⟩]
  processes := [⟨7, some 259, ""⟩]
  objects := [.mapping 0, .view 0, .mutex "Docking_mutex", .event "Docking_result" 0,
    .event "Docking_request" 0, .process 7]

/-- A session with the engine of the small desktop. -/
def smallSession : Session (Link Buffer) where
  transport := .ofChannel ⟨1, 2, 3, 4, 5, some 6, 500⟩
  identity := ⟨.sharedBuffer, 2, 286, "Docking Station", none⟩
  closed := false
  reconnect := false

/-- The longest script of one piece that the small desktop takes, and one that is longer.  The
buffer does not shrink before the request is made, so the request is not too long either. -/
theorem requests_fit_smallDesktop :
    let image (world : Rehearsal.Desktop) : Image :=
      Memory.image smallSession.transport.channel.view world
    (∃ earlier request outcome, request.length = 23 ∧
      .asked earlier request outcome ∈
        roomCalls smallSession "outs \"12345678\"" smallDesktop ∧
      request.length < Channel.capacity smallSession.transport.channel smallDesktop ∧
      Fits (image smallDesktop) request ∧ Fits (image earlier) request ∧
      ∀ length limit, outcome ≠ .error (.tooLong length limit)) ∧
    roomCalls smallSession "outs \"123456789\"" smallDesktop = [] := by
  intro image
  constructor
  · have made : (roomCalls smallSession "outs \"12345678\"" smallDesktop).any (fun
        | .asked earlier request _ => request.length = 23 ∧
            (image smallDesktop).capacity ≤ (image earlier).capacity
        | .locked _ => false) = true := by
      decide +kernel
    rcases List.any_eq_true.mp made with ⟨call, member, found⟩
    cases call with
    | locked outcome => cases found
    | asked earlier request outcome =>
        obtain ⟨long, room⟩ := of_decide_eq_true found
        have short := (requests_fit.1 smallSession _ smallDesktop).1 earlier request outcome member
        have fits := requests_fit.2 smallSession _ smallDesktop earlier request outcome member
        exact ⟨earlier, request, outcome, long, member, short, fits.1, fits.2 room⟩
  · have general := requests_fit.1 smallSession "outs \"123456789\"" smallDesktop
    refine (general.2 rfl ⟨15, by decide +kernel, ?_⟩).1
    exact ⟨_, .whole (by decide +kernel), by decide +kernel⟩

end EngineGateway.Windows
