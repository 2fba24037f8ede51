import EngineGateway.Proofs.Script.Units

/-!
# Where units lie in a message

The spans of the units follow one another from the start of the message to its end.  Every one
but the last stops right behind a terminator, and no terminator lies across two of them,
because terminators do not overlap.  A span that is not below the limit is that of a single
piece, and so it holds at most one terminator.
-/

namespace EngineGateway.Script

/-! ## Terminators in a message -/

/-- A terminator starts at the position. -/
def TerminatorAt (message : Bytes) (position : Nat) : Prop :=
  terminator <+: message.drop position

instance (message : Bytes) (position : Nat) : Decidable (TerminatorAt message position) :=
  inferInstanceAs (Decidable (_ <+: _))

namespace TerminatorAt

variable {message front back : Bytes} {position : Nat}

theorem le_length (here : TerminatorAt message position) :
    position + terminator.length ≤ message.length := by
  have fits := List.IsPrefix.length_le here
  rw [List.length_drop] at fits
  have some : 0 < terminator.length := by decide
  omega

theorem isInfix (here : TerminatorAt message position) : terminator <:+: message :=
  List.IsInfix.trans (List.IsPrefix.isInfix here) (List.drop_suffix position message).isInfix

theorem octet (here : TerminatorAt message position) {offset : Nat}
    (within : offset < terminator.length) :
    message[position + offset]? = terminator[offset]? := by
  obtain ⟨rest, parts⟩ := here
  rw [← List.getElem?_drop, ← parts, List.getElem?_append_left within]

/-- Terminators do not overlap: only the first octet of a terminator can start one. -/
theorem apart {first second : Nat} (early : TerminatorAt message first)
    (late : TerminatorAt message second) (less : first < second) :
    first + terminator.length ≤ second := by
  by_contra overlap
  obtain ⟨offset, rfl⟩ := Nat.exists_eq_add_of_lt less
  have within : offset + 1 < terminator.length := by omega
  have start : message[first + offset + 1 + 0]? = terminator[0]? := late.octet (by decide)
  have same : terminator[offset + 1]? = terminator[0]? := by
    rw [← early.octet within, ← start]
    rfl
  have none : ∀ inside < terminator.length, 0 < inside → terminator[inside]? ≠ terminator[0]? := by
    decide
  exact none _ within (Nat.succ_pos _) same

theorem append (here : TerminatorAt front position) (back : Bytes) :
    TerminatorAt (front ++ back) position := by
  have fits := here.le_length
  rw [TerminatorAt, List.drop_append_of_le_length (by omega)]
  exact List.IsPrefix.trans here (List.prefix_append _ _)

theorem of_append (here : TerminatorAt (front ++ back) position)
    (fits : position + terminator.length ≤ front.length) : TerminatorAt front position := by
  rw [TerminatorAt, List.drop_append_of_le_length (by omega)] at here
  apply List.prefix_of_prefix_length_le here (List.prefix_append _ _)
  rw [List.length_drop]
  omega

/-- What stands in the back part stands in the whole. -/
theorem append_iff :
    TerminatorAt (front ++ back) (front.length + position) ↔ TerminatorAt back position := by
  rw [TerminatorAt, TerminatorAt, List.drop_length_add_append]

theorem of_suffix (ended : terminator <:+ front) :
    ∃ position, TerminatorAt front position ∧ position + terminator.length = front.length := by
  obtain ⟨before, rfl⟩ := ended
  refine ⟨before.length + 0, ?_, by simp⟩
  rw [append_iff]
  exact List.prefix_refl terminator

end TerminatorAt

/-- The only terminator that starts in a command ends it, whatever stands behind. -/
theorem Command.terminatorAt_of_lt {command rest : Bytes} {position : Nat}
    (is : Command command) (here : TerminatorAt (command ++ rest) position)
    (inside : position < command.length) : position + terminator.length = command.length := by
  obtain ⟨last, ends, stop⟩ := TerminatorAt.of_suffix is.ended
  rcases Nat.lt_trichotomy position last with less | same | greater
  · exfalso
    have within := here.of_append (by omega)
    have cut : command.dropLast ++ [command.getLast is.ne_nil] = command :=
      List.dropLast_append_getLast is.ne_nil
    rw [← cut] at within
    exact is.first (within.of_append (by simp; omega)).isInfix
  · rw [same, stop]
  · have behind := (ends.append rest).apart here greater
    omega

/-- The only terminator of a command, and of the octets behind it, ends the command. -/
theorem Command.terminatorAt {command tail : Bytes} {position : Nat} (is : Command command)
    (unended : ¬ terminator <:+: tail) (here : TerminatorAt (command ++ tail) position) :
    position + terminator.length = command.length := by
  refine is.terminatorAt_of_lt here (Nat.lt_of_not_le fun behind => ?_)
  obtain ⟨offset, rfl⟩ := Nat.exists_eq_add_of_le behind
  exact unended (TerminatorAt.append_iff.mp here).isInfix

/-- No piece of a message holds two terminators. -/
theorem terminatorAt_piece_unique {message piece : Bytes} (member : piece ∈ pieces message)
    {first second : Nat} (one : TerminatorAt piece first) (other : TerminatorAt piece second) :
    first = second := by
  have something : message ≠ [] := by
    rintro rfl
    cases member
  cases (mem_pieces_iff something).mp member with
  | command reads _ =>
      have is := reads.commands piece (by simp)
      rw [← List.append_nil piece] at one other
      have unended : ¬ terminator <:+: [] := by decide
      exact Nat.add_right_cancel
        ((is.terminatorAt unended one).trans (is.terminatorAt unended other).symm)
  | @last _ command _ reads _ =>
      have is := reads.commands command (by simp)
      exact Nat.add_right_cancel
        ((is.terminatorAt reads.unended one).trans (is.terminatorAt reads.unended other).symm)
  | tail reads _ => exact absurd one.isInfix reads.unended
  | whole unended => exact absurd one.isInfix unended

/-! ## Spans -/

/-- The spans lie one behind the other from the first position to the second, and none of them
is empty. -/
inductive Consecutive : Nat → List Span → Nat → Prop where
  | nil (position : Nat) : Consecutive position [] position
  | cons {start middle stop : Nat} {rest : List Span} :
      start < middle → Consecutive middle rest stop →
      Consecutive start (⟨start, middle⟩ :: rest) stop

/-- A terminator that starts at the position lies in the span. -/
def Span.Holds (span : Span) (position : Nat) : Prop :=
  span.start ≤ position ∧ position + terminator.length ≤ span.stop

instance (span : Span) (position : Nat) : Decidable (span.Holds position) :=
  inferInstanceAs (Decidable (_ ∧ _))

section Spans

variable {parts : List Bytes} {start : Nat}

theorem consecutive_spansFrom (start : Nat) (filled : ∀ part ∈ parts, part ≠ []) :
    Consecutive start (spansFrom start parts) (start + parts.flatten.length) := by
  induction parts generalizing start with
  | nil => exact .nil start
  | cons part rest ih =>
      have some := List.length_pos_iff.mpr (filled part (.head _))
      have later := ih (start + part.length) fun other member => filled other (.tail _ member)
      rw [List.flatten_cons, List.length_append, ← Nat.add_assoc]
      exact .cons (by omega) later

theorem dropLast_spansFrom (start : Nat) (parts : List Bytes) :
    (spansFrom start parts).dropLast = spansFrom start parts.dropLast := by
  induction parts generalizing start with
  | nil => rfl
  | cons part rest ih =>
      cases rest with
      | nil => rfl
      | cons next later => exact congrArg _ (ih (start + part.length))

/-- A span is that of one of the parts. -/
theorem mem_spansFrom {span : Span} (member : span ∈ spansFrom start parts) :
    ∃ before part after, parts = before ++ part :: after ∧
      span = ⟨start + before.flatten.length, start + before.flatten.length + part.length⟩ := by
  induction parts generalizing start with
  | nil => cases member
  | cons part rest ih =>
      rcases List.mem_cons.mp member with rfl | later
      · exact ⟨[], part, rest, rfl, by simp⟩
      · obtain ⟨before, other, after, rfl, rfl⟩ := ih later
        exact ⟨part :: before, other, after, rfl, by simp [Nat.add_assoc]⟩

/-- Where all parts but the last end with a terminator, every terminator lies in one part. -/
theorem exists_holds_spansFrom (start : Nat) {position : Nat}
    (ended : ∀ part ∈ parts.dropLast, terminator <:+ part)
    (here : TerminatorAt parts.flatten position) :
    ∃ span ∈ spansFrom start parts, span.Holds (start + position) := by
  induction parts generalizing start position with
  | nil => exact absurd here.le_length (by simp [terminator])
  | cons part rest ih =>
      by_cases fits : position + terminator.length ≤ part.length
      · refine ⟨_, .head _, Nat.le_add_right _ _, ?_⟩
        show start + position + terminator.length ≤ start + part.length
        omega
      · cases rest with
        | nil =>
            have le := here.le_length
            simp only [List.flatten_cons, List.flatten_nil, List.append_nil] at le
            exact absurd le fits
        | cons next later =>
            rw [List.flatten_cons] at here
            obtain ⟨last, ends, stop⟩ := TerminatorAt.of_suffix (ended part (.head _))
            have behind := (ends.append _).apart here (by omega)
            rw [stop] at behind
            obtain ⟨offset, rfl⟩ := Nat.exists_eq_add_of_le behind
            obtain ⟨span, member, holds⟩ := ih (start + part.length)
              (fun other among => ended other (.tail _ among)) (TerminatorAt.append_iff.mp here)
            exact ⟨span, .tail _ member, by rwa [← Nat.add_assoc]⟩

/-- Where all parts but the last end with a terminator, every span but the last stops behind
one. -/
theorem stops_spansFrom (start : Nat) (ended : ∀ part ∈ parts.dropLast, terminator <:+ part) :
    ∀ span ∈ (spansFrom start parts).dropLast, ∃ position,
      TerminatorAt parts.flatten position ∧ span.Holds (start + position) ∧
        start + position + terminator.length = span.stop := by
  intro span member
  rw [dropLast_spansFrom] at member
  obtain ⟨before, part, after, cut, rfl⟩ := mem_spansFrom member
  obtain ⟨offset, ends, stop⟩ := TerminatorAt.of_suffix (ended part (by simp [cut]))
  obtain ⟨last, whole⟩ := List.dropLast_prefix parts
  rw [cut] at whole
  refine ⟨before.flatten.length + offset, ?_, ⟨?_, ?_⟩, ?_⟩
  · rw [← whole]
    simp only [List.flatten_append, List.flatten_cons, List.append_assoc]
    exact TerminatorAt.append_iff.mpr (ends.append _)
  all_goals simp only
  all_goals omega

/-- A terminator that lies in the span of a part is one of that part. -/
theorem TerminatorAt.of_holds {before after : List Bytes} {part : Bytes} {position : Nat}
    (here : TerminatorAt (before ++ part :: after).flatten position)
    (holds : Span.Holds ⟨before.flatten.length, before.flatten.length + part.length⟩ position) :
    ∃ offset, position = before.flatten.length + offset ∧ TerminatorAt part offset := by
  obtain ⟨starts, stops⟩ := holds
  obtain ⟨offset, rfl⟩ := Nat.exists_eq_add_of_le starts
  refine ⟨offset, rfl, ?_⟩
  rw [List.flatten_append, List.flatten_cons, append_iff] at here
  apply here.of_append
  simp only at stops
  omega

end Spans

/-- A unit that is not below the limit is a single piece. -/
theorem mem_pieces_of_limit_le {limit : Nat} {message unit : Bytes}
    (member : unit ∈ units limit message) (reached : limit ≤ unit.length) :
    unit ∈ pieces message := by
  obtain ⟨group, grouped, rfl⟩ := List.mem_map.mp member
  rcases (fits_of_mem_groups grouped).small with ⟨piece, rfl⟩ | below
  · rw [← flatten_groups limit (pieces message)]
    simpa using List.mem_flatten_of_mem grouped (.head [])
  · exact absurd reached (Nat.not_le.mpr below)

/-- The spans of the units cover a message without gaps, and none of them is empty.  Every one
but the last stops right behind a terminator, every terminator lies in one of them, and two
only in a span that is below the limit. -/
theorem units_part_message (limit : Nat) (message : Bytes) :
    let spans := unitSpans limit message
    Consecutive 0 spans message.length ∧ (message = [] → spans = []) ∧
    (∀ span ∈ spans.dropLast, ∃ position, TerminatorAt message position ∧
      span.Holds position ∧ position + terminator.length = span.stop) ∧
    (∀ position, TerminatorAt message position → ∃ span ∈ spans, span.Holds position) ∧
    (∀ span ∈ spans, limit ≤ span.stop - span.start →
      ∀ first second, TerminatorAt message first → TerminatorAt message second →
        span.Holds first → span.Holds second → first = second) := by
  intro spans
  have joined := flatten_units limit message
  have ended : ∀ unit ∈ (units limit message).dropLast, terminator <:+ unit :=
    fun unit member => ended_of_mem_dropLast_units member
  refine ⟨?_, ?_, ?_, ?_, ?_⟩
  · have consecutive := consecutive_spansFrom 0
      fun unit (member : unit ∈ units limit message) => ne_nil_of_mem_units member
    rwa [joined, Nat.zero_add] at consecutive
  · rintro rfl
    rfl
  · intro span member
    obtain ⟨position, here, holds, stop⟩ := stops_spansFrom 0 ended span member
    rw [Nat.zero_add] at holds stop
    exact ⟨position, joined ▸ here, holds, stop⟩
  · intro position here
    have found := exists_holds_spansFrom 0 ended (joined.symm ▸ here)
    rwa [Nat.zero_add] at found
  · intro span member reached first second one other holds also
    obtain ⟨before, unit, after, cut, rfl⟩ := mem_spansFrom member
    rw [Nat.zero_add] at holds also reached
    rw [← joined, cut] at one other
    obtain ⟨offset, rfl, early⟩ := one.of_holds holds
    obtain ⟨later, rfl, late⟩ := other.of_holds also
    have among : unit ∈ units limit message := by simp [cut]
    have piece := mem_pieces_of_limit_le among (by simpa using reached)
    rw [terminatorAt_piece_unique piece early late]

/-- Two commands and a tail of two octets, in which one terminator follows the other. -/
def twoCommands : Bytes :=
  0x61 :: terminator ++ terminator ++ [0x65, 0x6E]

/-- The first command reaches the limit and holds one terminator, the second one directly
behind it.  The tail belongs to the second command. -/
theorem units_part_message_twoCommands :
    unitSpans 5 twoCommands = [⟨0, 5⟩, ⟨5, 11⟩] ∧
    Consecutive 0 (unitSpans 5 twoCommands) 11 ∧
    (∃ position, TerminatorAt twoCommands position ∧ Span.Holds ⟨0, 5⟩ position ∧
      position + terminator.length = 5) ∧
    (∃ span ∈ unitSpans 5 twoCommands, span.Holds 5) ∧
    ∀ position, TerminatorAt twoCommands position → Span.Holds ⟨0, 5⟩ position →
      position = 1 := by
  obtain ⟨consecutive, _, stops, held, alone⟩ := units_part_message 5 twoCommands
  refine ⟨by decide, consecutive, stops ⟨0, 5⟩ (by decide), held 5 (by decide), ?_⟩
  intro position here holds
  exact alone ⟨0, 5⟩ (by decide) (by decide) position 1 here (by decide) holds (by decide)

end EngineGateway.Script
