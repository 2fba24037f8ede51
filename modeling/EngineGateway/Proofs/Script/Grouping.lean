import EngineGateway.Proofs.Script.Units

/-!
# Fewest units

Pieces are joined in order, each to the open group while that stays below the limit.  No other
way to join neighbouring pieces into groups that are single pieces or stay below the limit
needs fewer groups: as many pieces as one of its groups holds cannot close more than one group.
A unit taken by itself is read as the same pieces, which fit into one group.  So it is left
whole.
-/

namespace EngineGateway.Script

variable {limit : Nat}

/-! ## As few groups as possible -/

/-- The open group takes all of the next pieces while it stays below the limit. -/
theorem groupOnto_append_of_lt (closed : List (List Bytes)) (group : List Bytes) (size : Nat)
    {more : List Bytes} (rest : List Bytes) (below : size + more.flatten.length < limit) :
    groupOnto limit closed group size (more ++ rest) =
      groupOnto limit closed (more.reverse ++ group) (size + more.flatten.length) rest := by
  induction more generalizing group size with
  | nil => rfl
  | cons piece more ih =>
      rw [List.flatten_cons, List.length_append, ← Nat.add_assoc] at below ⊢
      rw [List.cons_append, groupOnto, if_pos (by omega), ih _ _ below, List.reverse_cons,
        List.append_assoc, List.singleton_append]

theorem groupOnto_append_of_below (closed : List (List Bytes)) (group : List Bytes) (size : Nat)
    {more : List Bytes} (rest : List Bytes) (below : more.flatten.length < limit) :
    ∃ others another count,
      groupOnto limit closed group size (more ++ rest) =
        groupOnto limit others another count rest ∧ others.length ≤ closed.length + 1 := by
  induction more generalizing group size with
  | nil => exact ⟨closed, group, size, rfl, Nat.le_succ _⟩
  | cons piece more ih =>
      rw [List.flatten_cons, List.length_append] at below
      rw [List.cons_append, groupOnto]
      split_ifs
      · exact ih _ _ (by omega)
      · rw [groupOnto_append_of_lt _ _ _ _ below]
        exact ⟨_, _, _, rfl, Nat.le_refl _⟩

/-- Pieces that fit into one group close at most one. -/
theorem groupOnto_append_of_fits (closed : List (List Bytes)) (group : List Bytes) (size : Nat)
    {more : List Bytes} (rest : List Bytes) (fits : Fits limit more) :
    ∃ others another count,
      groupOnto limit closed group size (more ++ rest) =
        groupOnto limit others another count rest ∧ others.length ≤ closed.length + 1 := by
  rcases fits.small with ⟨piece, rfl⟩ | below
  · rw [List.singleton_append, groupOnto]
    split_ifs
    · exact ⟨_, _, _, rfl, Nat.le_succ _⟩
    · exact ⟨_, _, _, rfl, Nat.le_refl _⟩
  · exact groupOnto_append_of_below closed group size rest below

/-- Any groups that fit are at least as many as the groups that are made of their pieces. -/
theorem length_groupOnto_le (closed : List (List Bytes)) (group : List Bytes) (size : Nat)
    {grouping : List (List Bytes)} (fit : ∀ group ∈ grouping, Fits limit group) :
    (groupOnto limit closed group size grouping.flatten).length ≤
      closed.length + 1 + grouping.length := by
  induction grouping generalizing closed group size with
  | nil => simp [groupOnto]
  | cons first grouping ih =>
      obtain ⟨others, another, count, same, le⟩ :=
        groupOnto_append_of_fits closed group size grouping.flatten (fit first (.head _))
      have more := ih others another count fun group member => fit group (.tail _ member)
      rw [List.flatten_cons, same, List.length_cons]
      omega

theorem Fits.single_of_zero {group : List Bytes} (fits : Fits 0 group) : group.length = 1 := by
  rcases fits.small with ⟨piece, rfl⟩ | below
  · rfl
  · exact absurd below (Nat.not_lt_zero _)

theorem length_flatten_of_zero {grouping : List (List Bytes)}
    (fit : ∀ group ∈ grouping, Fits 0 group) : grouping.flatten.length = grouping.length := by
  induction grouping with
  | nil => rfl
  | cons group grouping ih =>
      have later := ih fun other member => fit other (.tail _ member)
      rw [List.flatten_cons, List.length_append, (fit group (.head _)).single_of_zero, later,
        List.length_cons, Nat.add_comm]

/-- No groups that fit are fewer than those that are made of their pieces. -/
theorem length_groups_le {grouping : List (List Bytes)}
    (fit : ∀ group ∈ grouping, Fits limit group) :
    (groups limit grouping.flatten).length ≤ grouping.length := by
  cases grouping with
  | nil => exact Nat.zero_le _
  | cons group grouping =>
      have fits := fit group (.head _)
      have later : ∀ other ∈ grouping, Fits limit other :=
        fun other member => fit other (.tail _ member)
      obtain ⟨first, more, rfl⟩ := List.exists_cons_of_ne_nil fits.filled
      by_cases unlimited : limit = 0
      · subst unlimited
        have counted := length_flatten_of_zero fit
        rw [List.flatten_cons, List.cons_append] at counted ⊢
        rw [groups, if_pos rfl, List.length_map, counted]
      · have opened : ∃ group size, groups limit ((first :: more) :: grouping).flatten =
            groupOnto limit [] group size grouping.flatten := by
          rw [List.flatten_cons, List.cons_append, groups, if_neg unlimited]
          rcases fits.small with ⟨piece, single⟩ | below
          · rw [(List.cons.inj single).2]
            exact ⟨_, _, rfl⟩
          · exact ⟨_, _, groupOnto_append_of_lt _ _ _ _ (by simpa using below)⟩
        obtain ⟨filling, size, same⟩ := opened
        have le := length_groupOnto_le [] filling size later
        rw [same, List.length_cons]
        simpa [Nat.add_comm] using le

/-! ## Units that are left whole -/

/-- Pieces that fit into one group are put into one. -/
theorem groups_of_fits {group : List Bytes} (fits : Fits limit group) :
    groups limit group = [group] := by
  have few : (groups limit [group].flatten).length ≤ 1 := length_groups_le (by simpa using fits)
  have whole := flatten_groups limit group
  rw [List.flatten_singleton] at few
  match made : groups limit group with
  | [] =>
      rw [made] at whole
      exact absurd whole.symm fits.filled
  | [only] =>
      rw [made, List.flatten_singleton] at whole
      rw [whole]
  | first :: second :: more =>
      rw [made] at few
      simp at few

theorem pieces_commands {commands : List Bytes} (each : ∀ command ∈ commands, Command command) :
    pieces commands.flatten = commands := by
  rcases List.eq_nil_or_concat commands with rfl | ⟨earlier, command, rfl⟩
  · rfl
  · rw [List.concat_eq_append] at each ⊢
    have reads : Reads (earlier ++ [command]).flatten (earlier ++ [command]) [] :=
      ⟨List.append_nil _, each, by decide⟩
    rw [reads.pieces_of_short (Nat.zero_le _), List.append_nil]

/-- Every piece but the last is a command. -/
theorem command_of_mem_dropLast_pieces {message piece : Bytes}
    (member : piece ∈ (pieces message).dropLast) : Command piece := by
  have something : message ≠ [] := by
    rintro rfl
    cases member
  rcases pieces_cases something with ⟨commands, tail, reads, _, parts⟩ |
    ⟨earlier, command, tail, reads, _, parts⟩ | ⟨_, parts⟩
  · rw [parts, List.dropLast_concat] at member
    exact reads.commands piece member
  · rw [parts, List.dropLast_concat] at member
    exact reads.commands piece (List.mem_append_left _ member)
  · rw [parts] at member
    cases member

/-- The last pieces of a message, taken by themselves, are read as the same pieces. -/
theorem pieces_flatten_last {message : Bytes} {before earlier : List Bytes} {last : Bytes}
    (parted : pieces message = before ++ earlier ++ [last]) :
    pieces (earlier ++ [last]).flatten = earlier ++ [last] := by
  have something : message ≠ [] := by
    rintro rfl
    simp [pieces, cutOnto, placeTail] at parted
  have commands : ∀ command ∈ earlier, Command command := by
    intro command member
    have among : command ∈ (pieces message).dropLast := by simp [parted, member]
    exact command_of_mem_dropLast_pieces among
  have ends : ∀ {others final}, pieces message = others ++ [final] →
      before ++ earlier = others ∧ last = final := by
    intro others final parts
    obtain ⟨same, final⟩ := List.append_inj' (parted.symm.trans parts) rfl
    exact ⟨same, List.singleton_inj.mp final⟩
  rcases pieces_cases something with ⟨_, tail, reads, long, parts⟩ |
    ⟨_, command, tail, reads, short, parts⟩ | ⟨_, parts⟩
  · obtain ⟨_, rfl⟩ := ends parts
    have again : Reads (earlier ++ [last]).flatten earlier last :=
      ⟨by simp, commands, reads.unended⟩
    exact again.pieces_of_long long
  · obtain ⟨_, rfl⟩ := ends parts
    have again : Reads (earlier ++ [command ++ tail]).flatten (earlier ++ [command]) tail := by
      refine ⟨by simp, ?_, reads.unended⟩
      intro other member
      rcases List.mem_append.mp member with among | same
      · exact commands other among
      · exact reads.commands other (List.mem_append_right _ same)
    exact again.pieces_of_short short
  · obtain ⟨nothing, rfl⟩ := ends (show pieces message = [] ++ [message] from parts)
    obtain ⟨_, rfl⟩ := List.append_eq_nil_iff.mp nothing
    rw [List.nil_append, List.flatten_singleton, parts]

/-- Neighbouring pieces of a message, taken by themselves, are read as the same pieces. -/
theorem pieces_flatten {message : Bytes} {before group after : List Bytes}
    (parted : pieces message = before ++ group ++ after) : pieces group.flatten = group := by
  rcases List.eq_nil_or_concat after with rfl | ⟨between, final, rfl⟩
  · rcases List.eq_nil_or_concat group with rfl | ⟨earlier, last, rfl⟩
    · rfl
    · rw [List.concat_eq_append, List.append_nil, ← List.append_assoc] at parted
      rw [List.concat_eq_append]
      exact pieces_flatten_last parted
  · apply pieces_commands
    intro command member
    have among : command ∈ (pieces message).dropLast := by
      rw [parted, List.concat_eq_append, ← List.append_assoc, List.dropLast_concat]
      simp [member]
    exact command_of_mem_dropLast_pieces among

/-- No way to join the pieces of a message in groups that are single pieces or stay below the
limit makes fewer units, and every unit is left whole when it is cut again. -/
theorem units_fewest_and_whole (limit : Nat) (message : Bytes) :
    (∀ grouping : List (List Bytes), grouping.flatten = units 0 message →
      (∀ group ∈ grouping, Fits limit group) →
      (units limit message).length ≤ grouping.length) ∧
    ∀ unit ∈ units limit message, units limit unit = [unit] := by
  constructor
  · intro grouping joined fit
    rw [units_zero] at joined
    rw [units, List.length_map, ← joined]
    exact length_groups_le fit
  · intro unit member
    obtain ⟨group, grouped, rfl⟩ := List.mem_map.mp member
    obtain ⟨before, after, all⟩ := List.append_of_mem grouped
    have parted : pieces message = before.flatten ++ group ++ after.flatten := by
      rw [← flatten_groups limit (pieces message), all]
      simp
    rw [units, pieces_flatten parted, groups_of_fits (fits_of_mem_groups grouped)]
    rfl

/-- Three commands of five octets each. -/
def threeCommands : Bytes :=
  0x61 :: terminator ++ 0x62 :: terminator ++ 0x63 :: terminator

/-- Two of the commands stay below a limit of eleven octets.  They may as well be the last two,
but the first two are a unit already, and are left whole. -/
theorem units_fewest_and_whole_threeCommands :
    (units 11 threeCommands).length = 2 ∧
    (units 11 threeCommands).length ≤
      [[0x61 :: terminator], [0x62 :: terminator, 0x63 :: terminator]].length ∧
    units 11 (0x61 :: terminator ++ 0x62 :: terminator) =
      [0x61 :: terminator ++ 0x62 :: terminator] := by
  refine ⟨by decide, ?_, ?_⟩
  · apply (units_fewest_and_whole 11 threeCommands).1 _ (by decide)
    intro group member
    rcases List.mem_pair.mp member with rfl | rfl
    · exact fits_single 11 _
    · exact ⟨by simp, .inr (by decide)⟩
  · exact (units_fewest_and_whole 11 threeCommands).2 _ (by decide)

end EngineGateway.Script
