import EngineGateway.Script.Unit
import Mathlib.Data.List.Basic
import Mathlib.Data.List.Infix

/-!
# Where messages may be cut

A message is read as commands and a tail.  Every command ends at its first
terminator, and the tail holds none.  There is exactly one such reading, and it
tells which pieces of a message cannot be split: single commands, the last one
together with a tail no longer than a terminator, and any other tail.

Units are made of whole pieces.  They join to the message, none of them is
empty, every one but the last ends with a terminator, and a unit over the limit
is a single piece.
-/

namespace EngineGateway.Script

/-! ## Commands and tails -/

/-- The octets end at their first terminator. -/
structure Command (octets : Bytes) : Prop where
  ended : terminator <:+ octets
  first : ¬ terminator <:+: octets.dropLast

/-- The message consists of the commands and then a tail without a terminator. -/
structure Reads (message : Bytes) (commands : List Bytes) (tail : Bytes) : Prop where
  joined : commands.flatten ++ tail = message
  commands : ∀ command ∈ commands, Command command
  unended : ¬ terminator <:+: tail

theorem Command.ne_nil {octets : Bytes} (command : Command octets) : octets ≠ [] := by
  intro empty
  have ended := command.ended
  rw [empty, List.suffix_nil] at ended
  cases ended

/-- Of two commands at the start of the same message neither is longer. -/
theorem Command.eq_of_prefix {first second message : Bytes} (one : Command first)
    (other : Command second) (here : first <+: message) (also : second <+: message) :
    first = second := by
  -- The longer one would hold the terminator of the shorter one before its end.
  have shorter : ∀ {short long : Bytes}, Command short → Command long →
      short <+: message → long <+: message → short.length ≤ long.length → short = long := by
    intro short long ends begins early late le
    have inside : short <+: long := List.prefix_of_prefix_length_le early late le
    rcases Nat.lt_or_eq_of_le le with less | same
    · exfalso
      apply begins.first
      have within : short <+: long.dropLast := by
        apply List.prefix_of_prefix_length_le inside (List.dropLast_prefix long)
        rw [List.length_dropLast]
        omega
      exact ends.ended.isInfix.trans within.isInfix
    · exact inside.eq_of_length same
  rcases Nat.le_total first.length second.length with le | le
  · exact shorter one other here also le
  · exact (shorter other one also here le).symm

theorem Reads.nil_of_unended {message tail : Bytes} {commands : List Bytes}
    (reads : Reads message commands tail) (unended : ¬ terminator <:+: message) :
    commands = [] := by
  cases commands with
  | nil => rfl
  | cons command rest =>
      exfalso
      apply unended
      have ended := (reads.commands command (.head _)).ended
      have begins : command <+: message := by
        rw [← reads.joined, List.flatten_cons, List.append_assoc]
        exact List.prefix_append _ _
      exact ended.isInfix.trans begins.isInfix

/-- A message is read in one way only. -/
theorem Reads.unique {message tail otherTail : Bytes} {commands others : List Bytes}
    (reads : Reads message commands tail) (again : Reads message others otherTail) :
    commands = others ∧ tail = otherTail := by
  induction commands generalizing message others with
  | nil =>
      have whole : tail = message := reads.joined
      subst whole
      obtain rfl := again.nil_of_unended reads.unended
      exact ⟨rfl, again.joined.symm⟩
  | cons command rest ih =>
      cases others with
      | nil =>
          have whole : otherTail = message := again.joined
          subst whole
          cases reads.nil_of_unended again.unended
      | cons other later =>
          have joined := reads.joined
          have joinedAgain := again.joined
          rw [List.flatten_cons, List.append_assoc] at joined joinedAgain
          have here : command <+: message := ⟨_, joined⟩
          have also : other <+: message := ⟨_, joinedAgain⟩
          have same : command = other :=
            Command.eq_of_prefix (reads.commands command (.head _))
              (again.commands other (.head _)) here also
          subst same
          have behind : rest.flatten ++ tail = later.flatten ++ otherTail :=
            List.append_cancel_left (joined.trans joinedAgain.symm)
          have ours : Reads (rest.flatten ++ tail) rest tail :=
            ⟨rfl, fun command member => reads.commands command (.tail _ member), reads.unended⟩
          have theirs : Reads (rest.flatten ++ tail) later otherTail :=
            ⟨behind.symm, fun command member => again.commands command (.tail _ member),
              again.unended⟩
          obtain ⟨rfl, rfl⟩ := ih ours theirs
          exact ⟨rfl, rfl⟩

/-! ## Cutting -/

/-- No terminator starts in the octets since the last cut, although one may start
right behind them. -/
def Clear (current rest : Bytes) : Prop :=
  ∀ before after, current.reverse ++ rest = before ++ terminator ++ after →
    current.length ≤ before.length

theorem clear_nil (rest : Bytes) : Clear [] rest :=
  fun _ _ _ => Nat.zero_le _

/-- The octets remain clear when one more is passed at which no terminator
starts. -/
theorem Clear.pass {current rest : Bytes} {octet : UInt8}
    (clear : Clear current (octet :: rest)) (other : ¬ terminator <+: octet :: rest) :
    Clear (octet :: current) rest := by
  intro before after parts
  rw [List.reverse_cons, List.append_assoc] at parts
  have le := clear before after parts
  rcases Nat.lt_or_eq_of_le le with less | same
  · exact less
  · exfalso
    apply other
    rw [List.append_assoc] at parts
    have behind := List.append_inj_right parts (by simpa using same)
    rw [List.singleton_append] at behind
    rw [behind]
    exact List.prefix_append _ _

/-- Clear octets with a terminator behind them are a command. -/
theorem Clear.command {current rest : Bytes} (clear : Clear current (terminator ++ rest)) :
    Command (current.reverse ++ terminator) where
  ended := List.suffix_append _ _
  first := by
    intro inside
    rcases inside with ⟨before, after, parts⟩
    have cut : (current.reverse ++ terminator).dropLast ++ [0x6D] ++ rest =
        current.reverse ++ (terminator ++ rest) := by
      simp [terminator, List.dropLast_append_of_ne_nil]
    have le := clear before (after ++ [0x6D] ++ rest) (by
      rw [← cut, ← parts]
      simp)
    have lengths := congrArg List.length parts
    simp [terminator] at lengths
    omega

theorem Clear.unended {current : Bytes} (clear : Clear current []) :
    ¬ terminator <:+: current.reverse := by
  intro inside
  rcases inside with ⟨before, after, parts⟩
  have le := clear before after (by rw [List.append_nil, parts])
  have lengths := congrArg List.length parts
  simp [terminator] at lengths
  omega

theorem cutOnto_reads (done : List Bytes) (current rest : Bytes)
    (commands : ∀ command ∈ done, Command command) (clear : Clear current rest) :
    Reads (done.reverse.flatten ++ current.reverse ++ rest)
      (cutOnto done current rest).1.reverse (cutOnto done current rest).2 := by
  fun_induction cutOnto done current rest with
  | case1 done current =>
      constructor
      · simp
      · simpa using commands
      · exact clear.unended
  | case2 done current rest ih =>
      have command : Command (current.reverse ++ terminator) := Clear.command clear
      have asReversed : (0x6D :: 0x64 :: 0x6E :: 0x65 :: current).reverse =
          current.reverse ++ terminator := by
        simp [terminator]
      rw [asReversed] at ih ⊢
      have more : ∀ other ∈ (current.reverse ++ terminator) :: done, Command other := by
        intro other member
        rcases List.mem_cons.mp member with rfl | earlier
        · exact command
        · exact commands other earlier
      have reads := ih more (clear_nil rest)
      simpa [terminator] using reads
  | case3 done current octet rest other ih =>
      have elsewhere : ¬ terminator <+: octet :: rest := by
        intro here
        rcases here with ⟨after, starts⟩
        simp only [terminator, List.cons_append, List.nil_append, List.cons.injEq] at starts
        exact other after starts.1.symm starts.2.symm
      have reads := ih commands (clear.pass elsewhere)
      simpa using reads

theorem exists_reads (message : Bytes) : ∃ commands tail, Reads message commands tail := by
  have reads := cutOnto_reads [] [] message (by simp) (clear_nil message)
  exact ⟨_, _, by simpa using reads⟩

/-! ## Pieces -/

/-- The piece of a message cannot be split. -/
inductive Unsplittable (message : Bytes) : Bytes → Prop where
  /-- A command with another one behind it, or a tail longer than a terminator. -/
  | command {earlier later : List Bytes} {command tail : Bytes} :
      Reads message (earlier ++ command :: later) tail →
      later ≠ [] ∨ terminator.length < tail.length →
      Unsplittable message command
  /-- The last command with a tail no longer than a terminator. -/
  | last {earlier : List Bytes} {command tail : Bytes} :
      Reads message (earlier ++ [command]) tail → tail.length ≤ terminator.length →
      Unsplittable message (command ++ tail)
  /-- A tail longer than a terminator. -/
  | tail {commands : List Bytes} {tail : Bytes} :
      Reads message commands tail → terminator.length < tail.length →
      Unsplittable message tail
  /-- A message without a terminator. -/
  | whole : ¬ terminator <:+: message → Unsplittable message message

section Reading

variable {message tail : Bytes} {commands : List Bytes}

/-- The pieces of a message are those of its reading. -/
theorem Reads.pieces_eq (reads : Reads message commands tail) :
    pieces message = (placeTail commands.reverse tail).reverse := by
  have cut := cutOnto_reads [] [] message (by simp) (clear_nil message)
  rcases reads.unique (by simpa using cut) with ⟨rfl, rfl⟩
  simp [pieces]

/-- A long tail is a piece of its own. -/
theorem Reads.pieces_of_long (reads : Reads message commands tail)
    (long : terminator.length < tail.length) : pieces message = commands ++ [tail] := by
  rw [reads.pieces_eq]
  cases tail with
  | nil => simp at long
  | cons octet rest =>
      have separate : ¬ (octet :: rest).length ≤ terminator.length := Nat.not_le.mpr long
      cases reversed : commands.reverse with
      | nil =>
          obtain rfl : commands = [] := by simpa using reversed
          rfl
      | cons last others =>
          rw [placeTail, if_neg separate, List.reverse_cons, ← reversed,
            List.reverse_reverse]
          simp

/-- A short tail joins the last command. -/
theorem Reads.pieces_of_short {earlier : List Bytes} {command : Bytes}
    (reads : Reads message (earlier ++ [command]) tail)
    (short : tail.length ≤ terminator.length) :
    pieces message = earlier ++ [command ++ tail] := by
  rw [reads.pieces_eq, List.reverse_concat]
  cases tail with
  | nil => simp [placeTail]
  | cons octet rest =>
      rw [placeTail, if_pos short, List.reverse_cons, List.reverse_reverse]
      simp

theorem pieces_of_unended (something : message ≠ []) (unended : ¬ terminator <:+: message) :
    pieces message = [message] := by
  have reads : Reads message [] message := ⟨rfl, by simp, unended⟩
  rw [reads.pieces_eq]
  cases message with
  | nil => exact absurd rfl something
  | cons octet rest => rfl

/-- The three ways in which a message falls into pieces. -/
theorem pieces_cases (something : message ≠ []) :
    (∃ commands tail, Reads message commands tail ∧ terminator.length < tail.length ∧
      pieces message = commands ++ [tail]) ∨
    (∃ earlier command tail, Reads message (earlier ++ [command]) tail ∧
      tail.length ≤ terminator.length ∧ pieces message = earlier ++ [command ++ tail]) ∨
    (¬ terminator <:+: message ∧ pieces message = [message]) := by
  rcases exists_reads message with ⟨commands, tail, reads⟩
  by_cases long : terminator.length < tail.length
  · exact .inl ⟨commands, tail, reads, long, reads.pieces_of_long long⟩
  · have short := Nat.le_of_not_lt long
    rcases List.eq_nil_or_concat commands with rfl | ⟨earlier, command, rfl⟩
    · have whole : tail = message := reads.joined
      subst whole
      exact .inr (.inr ⟨reads.unended, pieces_of_unended something reads.unended⟩)
    · rw [List.concat_eq_append] at reads
      exact .inr (.inl ⟨earlier, command, tail, reads, short, reads.pieces_of_short short⟩)

theorem unsplittable_of_mem_pieces (something : message ≠ []) {piece : Bytes}
    (member : piece ∈ pieces message) : Unsplittable message piece := by
  rcases pieces_cases something with ⟨commands, tail, reads, long, parts⟩ |
    ⟨earlier, command, tail, reads, short, parts⟩ | ⟨unended, parts⟩
  · rw [parts] at member
    rcases List.mem_append.mp member with among | last
    · rcases List.append_of_mem among with ⟨before, after, rfl⟩
      exact .command reads (.inr long)
    · cases List.mem_singleton.mp last
      exact .tail reads long
  · rw [parts] at member
    rcases List.mem_append.mp member with among | last
    · rcases List.append_of_mem among with ⟨before, after, rfl⟩
      rw [List.append_assoc, List.cons_append] at reads
      exact .command reads (.inl (by simp))
    · cases List.mem_singleton.mp last
      exact .last reads short
  · rw [parts] at member
    cases List.mem_singleton.mp member
    exact .whole unended

theorem Unsplittable.mem_pieces {piece : Bytes} (unsplittable : Unsplittable message piece)
    (something : message ≠ []) : piece ∈ pieces message := by
  cases unsplittable with
  | @command earlier later _ tail reads behind =>
      by_cases long : terminator.length < tail.length
      · rw [reads.pieces_of_long long]
        simp
      · have followed : later ≠ [] := behind.resolve_right long
        rcases (List.eq_nil_or_concat later).resolve_left followed with
          ⟨between, final, rfl⟩
        rw [List.concat_eq_append, ← List.cons_append, ← List.append_assoc] at reads
        rw [reads.pieces_of_short (Nat.le_of_not_lt long)]
        simp
  | last reads short =>
      rw [reads.pieces_of_short short]
      simp
  | tail reads long =>
      rw [reads.pieces_of_long long]
      simp
  | whole unended =>
      rw [pieces_of_unended something unended]
      simp

/-- A part that cannot be split lies within the message. -/
theorem Unsplittable.inside {piece : Bytes} (unsplittable : Unsplittable message piece) :
    piece <:+: message := by
  cases unsplittable with
  | @command earlier later _ tail reads _ =>
      exact ⟨earlier.flatten, later.flatten ++ tail, by simp [← reads.joined]⟩
  | @last earlier command tail reads _ =>
      exact ⟨earlier.flatten, [], by simp [← reads.joined]⟩
  | @tail commands _ reads _ =>
      exact ⟨commands.flatten, [], by simp [← reads.joined]⟩
  | whole _ => exact List.infix_refl message

/-- The pieces of a message are the parts that cannot be split. -/
theorem mem_pieces_iff (something : message ≠ []) {piece : Bytes} :
    piece ∈ pieces message ↔ Unsplittable message piece :=
  ⟨unsplittable_of_mem_pieces something, fun unsplittable => unsplittable.mem_pieces something⟩

theorem flatten_pieces (message : Bytes) : (pieces message).flatten = message := by
  by_cases something : message = []
  · subst something
    rfl
  · rcases pieces_cases something with ⟨commands, tail, reads, _, parts⟩ |
      ⟨earlier, command, tail, reads, _, parts⟩ | ⟨_, parts⟩
    · rw [parts, ← reads.joined]
      simp
    · rw [parts, ← reads.joined]
      simp
    · rw [parts]
      simp

theorem ne_nil_of_mem_pieces {piece : Bytes} (member : piece ∈ pieces message) :
    piece ≠ [] := by
  have something : message ≠ [] := by
    intro nothing
    subst nothing
    cases member
  cases (mem_pieces_iff something).mp member with
  | command reads _ => exact (reads.commands piece (by simp)).ne_nil
  | @last _ command _ reads _ =>
      have filled := (reads.commands command (by simp)).ne_nil
      simp [filled]
  | tail _ long =>
      intro nothing
      subst nothing
      simp at long
  | whole _ => exact something

/-- Every piece but the last ends with a terminator. -/
theorem ended_of_mem_dropLast_pieces {piece : Bytes}
    (member : piece ∈ (pieces message).dropLast) : terminator <:+ piece := by
  have something : message ≠ [] := by
    intro nothing
    subst nothing
    cases member
  rcases pieces_cases something with ⟨commands, tail, reads, _, parts⟩ |
    ⟨earlier, command, tail, reads, _, parts⟩ | ⟨_, parts⟩
  · rw [parts, List.dropLast_concat] at member
    exact (reads.commands piece member).ended
  · rw [parts, List.dropLast_concat] at member
    exact (reads.commands piece (List.mem_append_left _ member)).ended
  · rw [parts] at member
    cases member

end Reading

/-! ## Units -/

section Groups

variable {limit : Nat}

/-- The group is not empty, and it is a single piece or stays below the limit. -/
structure Fits (limit : Nat) (group : List Bytes) : Prop where
  filled : group ≠ []
  small : (∃ piece, group = [piece]) ∨ group.flatten.length < limit

theorem fits_single (limit : Nat) (piece : Bytes) : Fits limit [piece] where
  filled := by simp
  small := .inl ⟨piece, rfl⟩

/-- Joining neighbouring pieces keeps them all in order. -/
theorem flatten_groupOnto (closed : List (List Bytes)) (group : List Bytes) (size : Nat)
    (parts : List Bytes) :
    (groupOnto limit closed group size parts).flatten =
      closed.reverse.flatten ++ group.reverse ++ parts := by
  fun_induction groupOnto limit closed group size parts with
  | case1 closed group size => simp
  | case2 closed group size piece rest below ih =>
      rw [ih]
      simp
  | case3 closed group size piece rest reached ih =>
      rw [ih]
      simp

theorem fits_of_mem_groupOnto (closed : List (List Bytes)) (group : List Bytes) (size : Nat)
    (parts : List Bytes) (counted : group.reverse.flatten.length = size)
    (opened : Fits limit group.reverse) (done : ∀ other ∈ closed, Fits limit other) :
    ∀ other ∈ groupOnto limit closed group size parts, Fits limit other := by
  fun_induction groupOnto limit closed group size parts with
  | case1 closed group size =>
      intro other member
      rcases List.mem_cons.mp (List.mem_reverse.mp member) with rfl | earlier
      · exact opened
      · exact done other earlier
  | case2 closed group size piece rest below ih =>
      have joined : (piece :: group).reverse.flatten.length = size + piece.length := by
        simp [← counted]
      apply ih joined _ done
      constructor
      · simp
      · right
        rw [joined]
        exact below
  | case3 closed group size piece rest reached ih =>
      apply ih (by simp) (fits_single limit piece)
      intro other member
      rcases List.mem_cons.mp member with rfl | earlier
      · exact opened
      · exact done other earlier

theorem flatten_groups (limit : Nat) (parts : List Bytes) :
    (groups limit parts).flatten = parts := by
  cases parts with
  | nil => rfl
  | cons first rest =>
      unfold groups
      split_ifs
      · rw [← List.flatMap_def, List.flatMap_singleton']
      · rw [flatten_groupOnto]
        simp

theorem fits_of_mem_groups {parts group : List Bytes} (member : group ∈ groups limit parts) :
    Fits limit group := by
  cases parts with
  | nil => cases member
  | cons first rest =>
      unfold groups at member
      split_ifs at member
      · rcases List.mem_map.mp member with ⟨piece, _, rfl⟩
        exact fits_single limit piece
      · exact fits_of_mem_groupOnto [] [first] first.length rest (by simp)
          (fits_single limit first) (by simp) group member

end Groups

section Units

variable {limit : Nat} {message unit : Bytes}

/-- Without a limit every piece is a unit. -/
theorem units_zero (message : Bytes) : units 0 message = pieces message := by
  cases cut : pieces message with
  | nil => simp [units, cut, groups]
  | cons first rest => simp [units, cut, groups, Function.comp_def]

/-- Nothing of a message is lost or added. -/
theorem flatten_units (limit : Nat) (message : Bytes) :
    (units limit message).flatten = message := by
  calc (units limit message).flatten
      = (groups limit (pieces message)).flatten.flatten := by
        rw [units, List.flatten_flatten]
    _ = message := by rw [flatten_groups, flatten_pieces]

theorem ne_nil_of_mem_units (member : unit ∈ units limit message) : unit ≠ [] := by
  rcases List.mem_map.mp member with ⟨group, grouped, rfl⟩
  have filled := (fits_of_mem_groups grouped).filled
  cases group with
  | nil => exact absurd rfl filled
  | cons piece rest =>
      have cut : piece ∈ pieces message := by
        rw [← flatten_groups limit (pieces message)]
        exact List.mem_flatten_of_mem grouped (.head _)
      have something := ne_nil_of_mem_pieces cut
      simp [something]

/-- Pieces of groups before the last one come before the last piece. -/
theorem mem_dropLast_pieces {group : List Bytes} {piece : Bytes}
    (grouped : group ∈ (groups limit (pieces message)).dropLast) (member : piece ∈ group) :
    piece ∈ (pieces message).dropLast := by
  have whole := flatten_groups limit (pieces message)
  rcases List.eq_nil_or_concat (groups limit (pieces message)) with none | ⟨earlier, last, all⟩
  · rw [none] at grouped
    cases grouped
  · rw [List.concat_eq_append] at all
    have filled : last ≠ [] := by
      have among : last ∈ groups limit (pieces message) := by simp [all]
      exact (fits_of_mem_groups among).filled
    rw [all, List.dropLast_concat] at grouped
    rw [all, List.flatten_append, List.flatten_singleton] at whole
    rw [← whole, List.dropLast_append_of_ne_nil filled]
    exact List.mem_append_left _ (List.mem_flatten_of_mem grouped member)

/-- Every unit but the last ends with a terminator. -/
theorem ended_of_mem_dropLast_units (member : unit ∈ (units limit message).dropLast) :
    terminator <:+ unit := by
  rw [units, ← List.map_dropLast] at member
  rcases List.mem_map.mp member with ⟨group, grouped, rfl⟩
  have filled := (fits_of_mem_groups (List.mem_of_mem_dropLast grouped)).filled
  rcases List.eq_nil_or_concat group with nothing | ⟨earlier, piece, rfl⟩
  · exact absurd nothing filled
  · rw [List.concat_eq_append] at grouped ⊢
    have last : piece ∈ earlier ++ [piece] := by simp
    have ended := ended_of_mem_dropLast_pieces (mem_dropLast_pieces grouped last)
    rw [List.flatten_append, List.flatten_singleton]
    exact ended.trans (List.suffix_append _ _)

/-- Some unit is over the limit exactly if some piece is: only single pieces reach
the limit. -/
theorem exists_oversized_unit_iff :
    (∃ unit ∈ units limit message, limit < unit.length) ↔
      ∃ piece ∈ pieces message, limit < piece.length := by
  constructor
  · intro oversized
    rcases oversized with ⟨unit, member, longer⟩
    rcases List.mem_map.mp member with ⟨group, grouped, rfl⟩
    rcases (fits_of_mem_groups grouped).small with ⟨piece, rfl⟩ | below
    · have cut : piece ∈ pieces message := by
        rw [← flatten_groups limit (pieces message)]
        exact List.mem_flatten_of_mem grouped (.head _)
      exact ⟨piece, cut, by simpa using longer⟩
    · exact absurd longer (Nat.lt_asymm below)
  · intro oversized
    rcases oversized with ⟨piece, member, longer⟩
    rw [← flatten_groups limit (pieces message)] at member
    rcases List.mem_flatten.mp member with ⟨group, grouped, inside⟩
    have short : piece.length ≤ group.flatten.length := by
      rcases List.append_of_mem inside with ⟨before, after, rfl⟩
      simp only [List.flatten_append, List.flatten_cons, List.length_append]
      omega
    exact ⟨group.flatten, List.mem_map.mpr ⟨group, grouped, rfl⟩,
      Nat.lt_of_lt_of_le longer short⟩

end Units

end EngineGateway.Script
