import EngineGateway.Proofs.BinaryFrame
import EngineGateway.Proofs.Directive
import EngineGateway.Proofs.Gateway.Changes
import EngineGateway.Proofs.Server.Tasks

/-!
# What binary frames can do

A binary frame of a peer is dealt with where it arrives.  Whatever its octets are, the peer
keeps its connection and the engine is left alone.  The registry hears of a frame only if
its command is the one for directives and a directive that reaches someone is written in
its text.  All other frames come to an answer or to a line of the log.
-/

namespace EngineGateway.Gateway

open Peer Text

/-! ## Directives in frames -/

/-- The octets that a frame with a directive starts with. -/
def directiveMark : Bytes :=
  Utf8.encode "OOPE"

/-- The octets are a frame that starts with the mark of directives, and the directive is
written in its text. -/
def Bears (octets : Bytes) (directive : Directive) : Prop :=
  ∃ frame, BinaryFrame.Holds octets frame ∧ octets.take 4 = directiveMark ∧
    Directive.Written frame.text.toList directive

theorem directive_of_ofCode? {code : UInt32} (named : Command.ofCode? code = some .directive) :
    code = Command.code .directive := by
  have same := List.find?_some named
  exact (beq_iff_eq.mp same).symm

theorem isDirective_iff {octets : Bytes} {frame : BinaryFrame}
    (holds : BinaryFrame.Holds octets frame) :
    frame.isDirective = true ↔ octets.take 4 = directiveMark := by
  have four : (octets.take 4).length = directiveMark.length :=
    List.length_take_of_le (Nat.le_of_succ_le holds.long)
  have value : LittleEndian.value directiveMark = (Command.code .directive).toNat := by
    decide +kernel
  have code : frame.code = Command.code .directive ↔ octets.take 4 = directiveMark := by
    constructor
    · intro same
      apply LittleEndian.value_inj four
      rw [holds.code, value, same]
    · intro same
      rw [← UInt32.toNat_inj, ← holds.code, same, value]
  rw [← code, BinaryFrame.isDirective, beq_iff_eq, BinaryFrame.command]
  constructor
  · exact directive_of_ofCode?
  · rintro same
    rw [same]
    decide

theorem routableDirective?_iff {line : String} {directive : Directive} :
    routableDirective? line = some directive ↔ Directive.Written line.toList directive := by
  rw [routableDirective?, Option.filter_eq_some_iff, Directive.parse?_routable_iff]

/-! ## What frames come to -/

section Frames

variable {octets : Bytes} (registry : Registry) (sender : PeerId)

theorem handleBinary_of_rejected {error : FrameError}
    (rejected : BinaryFrame.decode octets = .error error) :
    handleBinary registry sender octets =
      (some (.text ("ERROR: " ++ error.message)), {}, registry) := by
  rw [handleBinary, rejected]

/-- A directive is followed for the sender of its frame, who gets no answer. -/
theorem handleBinary_of_bears {directive : Directive} (bears : Bears octets directive) :
    handleBinary registry sender octets =
      (none, routeDirective registry directive (some sender)) := by
  obtain ⟨frame, holds, marked, written⟩ := bears
  simp only [handleBinary, BinaryFrame.decode_eq_ok_iff.mpr holds,
    (isDirective_iff holds).mpr marked, if_true, routableDirective?_iff.mpr written]

/-- A frame without a directive does nothing to the peers. -/
theorem handleBinary_of_not_bears (idle : ∀ directive, ¬ Bears octets directive) :
    ∃ reply log, handleBinary registry sender octets = (reply, { log := log }, registry) := by
  obtain answered | ⟨frame, directive, decoded, marked, found, _⟩ :=
    handleBinary_cases registry sender octets
  · exact answered
  · have holds := BinaryFrame.decode_eq_ok_iff.mp decoded
    exact absurd ⟨frame, holds, (isDirective_iff holds).mp marked,
      routableDirective?_iff.mp found⟩ (idle directive)

/-- The gateway answers with texts, which close no connection. -/
theorem isClose_answerLocally {frame : BinaryFrame} {reply : Frame}
    (answered : Frame.ofResponse? (answerLocally frame).1 = some reply) :
    reply.isClose = false := by
  have text : ∃ content, (answerLocally frame).1 = .text content := by
    unfold answerLocally
    split <;> exact ⟨_, rfl⟩
  obtain ⟨content, same⟩ := text
  rw [same, Frame.ofResponse?] at answered
  split_ifs at answered
  cases answered
  rfl

theorem isClose_handleBinary {reply : Frame}
    (replied : (handleBinary registry sender octets).1 = some reply) : reply.isClose = false := by
  unfold handleBinary at replied
  split at replied
  · cases replied
    rfl
  · split_ifs at replied
    · split at replied <;> cases replied
    · exact isClose_answerLocally replied

end Frames

/-! ## The sessions -/

/-- The reader of a peer deals with a binary frame without any of the sessions. -/
theorem sessions_receivesBinary {σ ω : Type} [Engine.Transport σ ω] (server : Server σ)
    (peer : PeerId) (octets : Bytes) (world : ω) :
    let stepped := (server.step (.receivesBinary peer octets)).run world
    stepped.2 = world ∧ stepped.1.1.answers = [] ∧
      stepped.1.2.gateway.session = server.gateway.session ∧
      stepped.1.2.retired = server.retired ∧ stepped.1.2.nextTicket = server.nextTicket := by
  intro stepped
  have same : stepped = _ := Server.step_of_peer rfl world
  rw [same]
  cases server.task? peer with
  | none => exact ⟨rfl, rfl, rfl, rfl, rfl⟩
  | some task =>
      rw [Option.elim_some, Server.stepTask]
      split_ifs
      · exact ⟨rfl, rfl, rfl, rfl, rfl⟩
      · exact ⟨rfl, rfl, rfl, rfl, rfl⟩

/-- Binary frames do no harm.  Octets that are no frame are answered with a text that tells
the error, and nothing else comes of them.  If the octets bear a directive, it is followed
for the peer that has sent them, and there is no answer.  If they bear none, the registry
stays as it is, no frame is queued and no relay is asked for.  The answer is never a close
frame, and when the octets are received no session and no engine notices. -/
theorem binary_frames_harmless :
    (∀ (registry : Registry) (sender : PeerId) (octets : Bytes),
      (∀ error, BinaryFrame.decode octets = .error error →
        handleBinary registry sender octets =
          (some (.text ("ERROR: " ++ error.message)), {}, registry)) ∧
      (∀ directive, Bears octets directive →
        handleBinary registry sender octets =
          (none, routeDirective registry directive (some sender))) ∧
      ((∀ directive, ¬ Bears octets directive) →
        ∃ reply log, handleBinary registry sender octets = (reply, { log := log }, registry)) ∧
      ∀ frame, (handleBinary registry sender octets).1 = some frame → frame.isClose = false) ∧
    ∀ {σ ω : Type} [Engine.Transport σ ω] (server : Server σ) (peer : PeerId) (octets : Bytes)
        (world : ω),
      let stepped := (server.step (.receivesBinary peer octets)).run world
      stepped.2 = world ∧ stepped.1.1.answers = [] ∧
        stepped.1.2.gateway.session = server.gateway.session ∧
        stepped.1.2.retired = server.retired ∧
        stepped.1.2.nextTicket = server.nextTicket := by
  refine ⟨?_, sessions_receivesBinary⟩
  intro registry sender octets
  refine ⟨?rejected, ?followed, ?idle, ?answered⟩
  case rejected => exact fun _ => handleBinary_of_rejected registry sender
  case followed => exact fun _ => handleBinary_of_bears registry sender
  case idle => exact handleBinary_of_not_bears registry sender
  case answered => exact fun _ => isClose_handleBinary registry sender

/-- A registry with one client, who speaks one protocol. -/
def soloist : Registry :=
  ((Registry.empty 4).connect .localhost false ["brain"]).2

/-- Three frames of the client: one that is followed and reaches the client itself, one with
a command that is not carried out, and one that is cut short. -/
theorem binary_frames_harmless_soloist :
    let directive : Directive := ⟨false, none, none, "brain", some "hi"⟩
    let follows := Utf8.encode "OOPEws[brain]:hi"
    let saves := Utf8.encode "SAVEws[brain]:hi"
    let cut : Bytes := [0x4F, 0x4F]
    (Bears follows directive ∧
      handleBinary soloist 1 follows = (none, routeDirective soloist directive (some 1)) ∧
      (routeDirective soloist directive (some 1)).1.sent = [⟨1, .text "hi"⟩]) ∧
    ((∀ directive, ¬ Bears saves directive) ∧
      ∃ reply log, handleBinary soloist 1 saves = (reply, { log := log }, soloist)) ∧
    (BinaryFrame.decode cut = .error (.truncated 2) ∧
      handleBinary soloist 1 cut =
        (some (.text "ERROR: binary mode message improperly formatted."), {}, soloist)) ∧
    Frame.isClose (.text "ERROR: Save is not supported.") = false := by
  intro directive follows saves cut
  have bears : Bears follows directive := by
    refine ⟨⟨Command.code .directive, "ws[brain]:hi", none⟩, ?_, by decide +kernel, ?_⟩
    · exact BinaryFrame.decode_eq_ok_iff.mp (by decide +kernel)
    · exact Directive.parse?_routable_iff.mp ⟨by decide, by decide⟩
  have idle : ∀ directive, ¬ Bears saves directive := by
    rintro directive ⟨frame, holds, marked, written⟩
    exact absurd marked (by decide +kernel)
  have rejected : BinaryFrame.decode cut = .error (.truncated 2) := rfl
  have replied : (handleBinary soloist 1 saves).1 =
      some (.text "ERROR: Save is not supported.") := by decide +kernel
  refine ⟨⟨bears, ?_, by decide +kernel⟩, ⟨idle, ?_⟩, ⟨rejected, ?_⟩, ?_⟩
  · exact (binary_frames_harmless.1 soloist 1 follows).2.1 directive bears
  · exact (binary_frames_harmless.1 soloist 1 saves).2.2.1 idle
  · exact (binary_frames_harmless.1 soloist 1 cut).1 _ rejected
  · exact (binary_frames_harmless.1 soloist 1 saves).2.2.2 _ replied

end EngineGateway.Gateway
