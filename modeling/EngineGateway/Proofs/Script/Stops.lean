import EngineGateway.Proofs.Script.Spans
import Mathlib.Data.List.Nodup
import Mathlib.Data.List.Perm.Basic

/-!
# Where unlimited units stop

Without a limit every piece of a message is a unit, and a unit stops right behind every
terminator.  The octets behind the last terminator are a unit of their own only if they are
longer than a terminator; the last unit takes in a shorter tail, and one that is just as long as
a terminator as well.
-/

namespace EngineGateway.Script

variable {message tail : Bytes} {commands parts : List Bytes}

/-! ## Stops of terminators -/

/-- The positions right behind the terminators of a message, in order. -/
def terminatorStops (message : Bytes) : List Nat :=
  ((List.range message.length).filter fun position => TerminatorAt message position).map
    (· + terminator.length)

/-- The positions where consecutive parts stop, the first of which starts at `start`. -/
def stopsFrom (start : Nat) (parts : List Bytes) : List Nat :=
  (spansFrom start parts).map Span.stop

theorem stopsFrom_cons (start : Nat) (part : Bytes) (rest : List Bytes) :
    stopsFrom start (part :: rest) =
      (start + part.length) :: stopsFrom (start + part.length) rest := rfl

theorem stopsFrom_append (start : Nat) (first second : List Bytes) :
    stopsFrom start (first ++ second) =
      stopsFrom start first ++ stopsFrom (start + first.flatten.length) second := by
  induction first generalizing start with
  | nil => rfl
  | cons part rest ih =>
      rw [List.cons_append, stopsFrom_cons, stopsFrom_cons, ih, List.flatten_cons,
        List.length_append, Nat.add_assoc, List.cons_append]

/-- Parts that start later stop later by as much. -/
theorem stopsFrom_add (start shift : Nat) (parts : List Bytes) :
    stopsFrom (shift + start) parts = (stopsFrom start parts).map (shift + ·) := by
  induction parts generalizing start with
  | nil => rfl
  | cons part rest ih =>
      rw [stopsFrom_cons, stopsFrom_cons, List.map_cons, Nat.add_assoc, ih]

theorem terminatorStops_of_unended (unended : ¬ terminator <:+: tail) :
    terminatorStops tail = [] := by
  rw [terminatorStops, List.map_eq_nil_iff, List.filter_eq_nil_iff]
  intro position _ here
  exact unended (of_decide_eq_true here).isInfix

/-- One terminator ends a command, and the others stand behind it. -/
theorem Command.terminatorStops_append {command : Bytes} (is : Command command) (rest : Bytes) :
    terminatorStops (command ++ rest) =
      command.length :: (terminatorStops rest).map (command.length + ·) := by
  obtain ⟨last, ends, stop⟩ := TerminatorAt.of_suffix is.ended
  have within : (List.range command.length).filter
      (fun position => TerminatorAt (command ++ rest) position) = [last] := by
    refine List.perm_singleton.mp ((List.perm_ext_iff_of_nodup
      (List.nodup_range.filter _) (List.nodup_singleton last)).mpr fun position => ?_)
    rw [List.mem_filter, List.mem_range, decide_eq_true_iff, List.mem_singleton]
    constructor
    · rintro ⟨inside, here⟩
      have closes := is.terminatorAt_of_lt here inside
      omega
    · rintro rfl
      have filled : 0 < terminator.length := by decide
      exact ⟨by omega, ends.append rest⟩
  have behind : ((List.range rest.length).map (command.length + ·)).filter
        (fun position => TerminatorAt (command ++ rest) position) =
      ((List.range rest.length).filter fun position => TerminatorAt rest position).map
        (command.length + ·) := by
    rw [List.filter_map]
    refine congrArg _ (List.filter_congr fun position _ => ?_)
    exact decide_eq_decide.mpr TerminatorAt.append_iff
  rw [terminatorStops, List.length_append, List.range_add, List.filter_append, within, behind,
    terminatorStops, List.map_append, List.map_singleton, stop, List.map_map, List.map_map,
    List.singleton_append]
  refine congrArg _ (List.map_congr_left fun position _ => ?_)
  exact Nat.add_assoc _ _ _

/-- Terminators stop where the commands of a message do. -/
theorem Reads.terminatorStops_eq (reads : Reads message commands tail) :
    terminatorStops message = stopsFrom 0 commands := by
  obtain ⟨joined, each, unended⟩ := reads
  subst joined
  induction commands with
  | nil => exact terminatorStops_of_unended unended
  | cons command rest ih =>
      have later := ih fun other member => each other (.tail _ member)
      rw [List.flatten_cons, List.append_assoc, (each command (.head _)).terminatorStops_append,
        later, ← stopsFrom_add, stopsFrom_cons, Nat.zero_add, Nat.add_zero]

/-! ## Stops of units -/

/-- The spans from a position on that stop at the given positions. -/
def spansTo (start : Nat) : List Nat → List Span
  | [] => []
  | stop :: rest => ⟨start, stop⟩ :: spansTo stop rest

theorem spansTo_stopsFrom (start : Nat) (parts : List Bytes) :
    spansTo start (stopsFrom start parts) = spansFrom start parts := by
  induction parts generalizing start with
  | nil => rfl
  | cons part rest ih => exact congrArg _ (ih (start + part.length))

/-- Where units stop that end behind every terminator, if a tail behind the last terminator is a
unit of its own from a certain length on, and belongs to the unit before it otherwise. -/
def stopsWithTail (least : Nat) (message : Bytes) : List Nat :=
  let stops := terminatorStops message
  if least ≤ message.length - stops.getLast?.getD 0 then stops ++ [message.length]
  else stops.dropLast ++ [message.length]

theorem Reads.stopsWithTail_eq {earlier : List Bytes} {command : Bytes}
    (reads : Reads message (earlier ++ [command]) tail) (least : Nat) :
    stopsWithTail least message =
      if least ≤ tail.length then stopsFrom 0 (earlier ++ [command, tail])
      else stopsFrom 0 (earlier ++ [command ++ tail]) := by
  have whole : message.length =
      earlier.flatten.length + command.length + tail.length := by
    rw [← reads.joined]
    simp [Nat.add_assoc]
  have stops : terminatorStops message =
      stopsFrom 0 earlier ++ [earlier.flatten.length + command.length] := by
    rw [reads.terminatorStops_eq, stopsFrom_append, Nat.zero_add]
    rfl
  have behind : message.length - (terminatorStops message).getLast?.getD 0 = tail.length := by
    rw [stops, List.getLast?_concat, Option.getD_some]
    omega
  simp only [stopsWithTail, behind]
  rw [stops, List.dropLast_concat, whole, stopsFrom_append, stopsFrom_append, Nat.zero_add,
    List.append_assoc]
  simp only [stopsFrom_cons, List.length_append, Nat.add_assoc]
  rfl

/-- Without a limit the units of a message that holds a terminator stop behind each of its
terminators, and a tail is a unit of its own exactly if it is longer than a terminator. -/
theorem unlimited_units_stop (message : Bytes) (ended : terminator <:+: message) :
    unitSpans 0 message = spansTo 0 (stopsWithTail (terminator.length + 1) message) := by
  obtain ⟨commands, tail, reads⟩ := exists_reads message
  rcases List.eq_nil_or_concat commands with rfl | ⟨earlier, command, rfl⟩
  · have whole : tail = message := reads.joined
    exact absurd ended (whole ▸ reads.unended)
  · rw [List.concat_eq_append] at reads
    rw [unitSpans, units_zero, reads.stopsWithTail_eq]
    split_ifs with long
    · rw [reads.pieces_of_long long, spansTo_stopsFrom, List.append_assoc]
      rfl
    · rw [reads.pieces_of_short (Nat.not_lt.mp long), spansTo_stopsFrom]

/-- Two commands, and a tail of as many octets as a terminator has. -/
def evenTail : Bytes :=
  0x61 :: terminator ++ terminator ++ [0x62, 0x63, 0x64, 0x65]

/-- One octet more makes the tail a unit of its own. -/
theorem unlimited_units_stop_evenTail :
    terminatorStops evenTail = [5, 9] ∧
    terminator <:+: evenTail ∧ terminator <:+: evenTail ++ [0x66] ∧
    unitSpans 0 evenTail = spansTo 0 [5, 13] ∧
    unitSpans 0 (evenTail ++ [0x66]) = spansTo 0 [5, 9, 14] := by
  have ended : terminator <:+: evenTail := by decide
  have longer : terminator <:+: evenTail ++ [0x66] := by decide
  exact ⟨by decide, ended, longer, unlimited_units_stop _ ended, unlimited_units_stop _ longer⟩

/-- A tail that has room for a terminator need not be a unit of its own. -/
theorem not_every_roomy_tail_apart :
    ¬ ∀ message, terminator <:+: message →
      unitSpans 0 message = spansTo 0 (stopsWithTail terminator.length message) := by
  intro apart
  have parted := apart evenTail (by decide)
  revert parted
  decide

end EngineGateway.Script
