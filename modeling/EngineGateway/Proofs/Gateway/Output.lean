import EngineGateway.Proofs.Directive
import EngineGateway.Proofs.Gateway.Changes

/-!
# Output that comes in pieces

The output of the engine is cut into lines, each of which is a matter of its own.  A line
that has a directive written in it is followed, other lines are logged unless they are
blank, and nothing else comes of them.  So it does not matter to the peers at which line
feeds the output was cut into the pieces that the poller has read.
-/

namespace EngineGateway.Gateway

open Peer Text

/-! ## Lines -/

/-- The characters without a carriage return behind them. -/
def withoutReturn (line : List Char) : List Char :=
  if line.getLast? = some '\r' then line.dropLast else line

/-- The lines of a text: each ends with a line feed, except that the last one may end with
the text, and a carriage return in front of a line feed belongs to it. -/
inductive Lines : List Char → List String → Prop where
  | none : Lines [] []
  | last {line : List Char} : line ≠ [] → '\n' ∉ line → Lines line [String.ofList line]
  | ended {line rest : List Char} {later : List String} : '\n' ∉ line → Lines rest later →
      Lines (line ++ '\n' :: rest) (String.ofList (withoutReturn line) :: later)

theorem dropReturn_reverse (line : List Char) : dropReturn line.reverse = withoutReturn line := by
  rcases List.eq_nil_or_concat line with rfl | ⟨front, character, rfl⟩
  · rfl
  · by_cases back : character = '\r'
    · simp [dropReturn, withoutReturn, back]
    · simp only [List.concat_eq_append, List.reverse_append, List.reverse_singleton,
        List.singleton_append, withoutReturn, List.getLast?_append, List.getLast?_singleton]
      rw [if_neg (by simpa using back)]
      unfold dropReturn
      split
      · next same => exact absurd (List.cons.inj same).1 back
      · simp

theorem linesOnto_of_not_mem {line : List Char} (clear : '\n' ∉ line) (done : List (List Char))
    (front rest : List Char) :
    linesOnto done front (line ++ rest) = linesOnto done (line.reverse ++ front) rest := by
  induction line generalizing front with
  | nil => rfl
  | cons character line ih =>
      obtain ⟨other, clear⟩ := not_or.mp (mt List.mem_cons.mpr clear)
      rw [List.cons_append, linesOnto.eq_3 _ _ _ _ (Ne.symm other), ih clear, List.reverse_cons,
        List.append_assoc]
      rfl

theorem Lines.linesOnto {text : List Char} {lines : List String} (parts : Lines text lines)
    (done : List (List Char)) :
    (Gateway.linesOnto done [] text).map String.ofList =
      done.reverse.map String.ofList ++ lines := by
  induction parts generalizing done with
  | none => simp [Gateway.linesOnto]
  | @last line filled clear =>
      have whole := linesOnto_of_not_mem clear done [] []
      rw [List.append_nil, List.append_nil] at whole
      rw [whole]
      simp [Gateway.linesOnto, filled]
  | @ended line rest later clear parts ih =>
      rw [linesOnto_of_not_mem clear, List.append_nil, Gateway.linesOnto, dropReturn_reverse, ih]
      simp

theorem exists_lines (text : List Char) : ∃ lines, Lines text lines := by
  induction size : text.length using Nat.strong_induction_on generalizing text with
  | _ count ih =>
      by_cases broken : '\n' ∈ text
      · obtain ⟨line, rest, rfl, clear⟩ := List.eq_append_cons_of_mem broken
        have shorter : rest.length < count := by
          rw [← size, List.length_append, List.length_cons]
          omega
        obtain ⟨later, parts⟩ := ih _ shorter rest rfl
        exact ⟨_, .ended clear parts⟩
      · by_cases filled : text = []
        · exact ⟨[], filled ▸ .none⟩
        · exact ⟨_, .last filled broken⟩

/-- A text has its lines, and no others. -/
theorem lines_iff {text : String} {parts : List String} :
    Lines text.toList parts ↔ lines text = parts := by
  have unique : ∀ {parts}, Lines text.toList parts → lines text = parts :=
    fun parts => parts.linesOnto []
  constructor
  · exact unique
  · rintro rfl
    obtain ⟨parts, found⟩ := exists_lines text.toList
    rwa [unique found]

/-- Between two pieces of a text there may be a line that is empty. -/
theorem Lines.append {first second : List Char} {earlier later : List String}
    (before : Lines first earlier) (after : Lines second later)
    (unreturned : first.getLast? ≠ some '\r') :
    ∃ gap : List String, (∀ line ∈ gap, line = "") ∧
      Lines (first ++ '\n' :: second) (earlier ++ gap ++ later) := by
  induction before with
  | none =>
      have clear : '\n' ∉ ([] : List Char) := List.not_mem_nil
      exact ⟨[""], by simp, .ended clear after⟩
  | @last line filled clear =>
      refine ⟨[], by simp, ?_⟩
      have parts := Lines.ended clear after
      rwa [withoutReturn, if_neg unreturned] at parts
  | @ended line rest lines clear _ ih =>
      have still : rest.getLast? ≠ some '\r' := by
        intro returned
        apply unreturned
        rw [List.getLast?_append, List.getLast?_cons, returned]
        rfl
      obtain ⟨gap, blank, parts⟩ := ih still
      refine ⟨gap, blank, ?_⟩
      rw [List.append_assoc]
      exact .ended clear parts

/-! ## Effects one after another -/

theorem Effects.append_def (first second : Effects) :
    first ++ second = ⟨first.sent ++ second.sent, first.log ++ second.log,
      first.relays ++ second.relays⟩ := rfl

@[simp] theorem Effects.nothing_append (effects : Effects) : ({} : Effects) ++ effects = effects :=
  rfl

@[simp] theorem Effects.append_nothing (effects : Effects) :
    effects ++ ({} : Effects) = effects := by
  simp [Effects.append_def]

theorem Effects.append_assoc (first second third : Effects) :
    first ++ second ++ third = first ++ (second ++ third) := by
  simp [Effects.append_def]

theorem routeLines_append (effects : Effects) (registry : Registry) (first second : List String) :
    routeLines effects registry (first ++ second) =
      routeLines (routeLines effects registry first).1 (routeLines effects registry first).2
        second := by
  induction first generalizing effects registry with
  | nil => rfl
  | cons line rest ih => rw [List.cons_append, routeLines_cons, routeLines_cons, ih]

/-- What lines come to does not depend on what has come of the lines before them. -/
theorem routeLines_eq (effects : Effects) (registry : Registry) (lines : List String) :
    routeLines effects registry lines =
      (effects ++ (routeLines {} registry lines).1, (routeLines {} registry lines).2) := by
  induction lines generalizing effects registry with
  | nil => simp [routeLines]
  | cons line rest ih =>
      rw [routeLines_cons, routeLines_cons, Effects.nothing_append, ih,
        ih (routeLine registry line).1, Effects.append_assoc]

theorem routeLines_blank {lines : List String} (blank : ∀ line ∈ lines, line = "")
    (effects : Effects) (registry : Registry) :
    routeLines effects registry lines = (effects, registry) := by
  induction lines with
  | nil => rfl
  | cons line rest ih =>
      obtain ⟨rfl, others⟩ := List.forall_mem_cons.mp blank
      have passed : routeLine registry "" = ({}, registry) := rfl
      rw [routeLines_cons, passed, Effects.append_nothing, ih others]

/-! ## Directives among lines -/

/-- Follow directives of the engine one after another. -/
def followAll (registry : Registry) : List Directive → Effects × Registry
  | [] => ({}, registry)
  | directive :: rest =>
      let (effects, between) := routeDirective registry directive none
      let (more, after) := followAll between rest
      (effects ++ more, after)

/-- The line is there to be read: it is not blank, and no directive that reaches someone is
written in it. -/
def isRemark (line : String) : Bool :=
  (routableDirective? line).isNone && line.toList.any fun character => !isBlank character

theorem trim_isEmpty_iff {line : String} :
    (trim line).isEmpty = true ↔ ∀ character ∈ line.toList, isBlank character = true := by
  have ends : ∀ {characters : List Char}, trimEnd characters = [] ↔
      ∀ character ∈ characters, isBlank character = true := by
    intro characters
    simp [trimEnd, List.dropWhile_eq_nil_iff]
  have starts : (∀ character ∈ trimStart line.toList, isBlank character = true) ↔
      ∀ character ∈ line.toList, isBlank character = true := by
    constructor
    · intro blank character member
      rw [← List.takeWhile_append_dropWhile (p := isBlank) (l := line.toList)] at member
      rcases List.mem_append.mp member with front | back
      · exact List.mem_takeWhile_imp front
      · exact blank character back
    · intro blank character member
      exact blank character (List.dropWhile_subset _ member)
  rw [trim, String.isEmpty_iff, ← starts, ← ends]
  exact ⟨fun same => by simpa using same, fun same => by simp [same]⟩

/-- A line with a directive in it starts with the letters that all schemes start with. -/
theorem starts_of_routable {line : String} {directive : Directive}
    (found : routableDirective? line = some directive) :
    ∃ rest, line.toList = 'w' :: 's' :: rest := by
  obtain ⟨read, _⟩ := Option.filter_eq_some_iff.mp found
  obtain ⟨secure, rest, ⟨same, _⟩ | ⟨same, _⟩⟩ := Directive.parse?_eq_some_iff.mp read
  all_goals
    rw [same]
    cases secure <;> exact ⟨_, rfl⟩

/-- A directive is neither passed over as a blank line nor logged. -/
theorem routeLine_of_directive {line : String} {directive : Directive} (registry : Registry)
    (found : routableDirective? line = some directive) :
    routeLine registry line = routeDirective registry directive none := by
  obtain ⟨rest, letters⟩ := starts_of_routable found
  have solid : (trim line).isEmpty = false := by
    rw [← Bool.not_eq_true, trim_isEmpty_iff, letters]
    intro blank
    exact absurd (blank 'w' (.head _)) (by decide)
  have looks : looksLikeDirective line = true := by
    simp only [looksLikeDirective, letters]
  rw [routeLine, solid, looks, found]
  rfl

/-- Other lines are for the log, unless they are blank. -/
theorem routeLine_of_none {line : String} (registry : Registry)
    (absent : routableDirective? line = none) :
    routeLine registry line =
      ({ log := if isRemark line then [⟨.engineOutput, line⟩] else [] }, registry) := by
  have remark : isRemark line = !(trim line).isEmpty := by
    rw [isRemark, absent, Bool.eq_iff_iff, Bool.not_eq_true', ← Bool.not_eq_true, trim_isEmpty_iff]
    simp
  rw [routeLine, absent, remark]
  cases (trim line).isEmpty <;> simp

/-- Lines come to what the directives among them come to, and to the log of the others. -/
theorem routeLines_eq_followAll (registry : Registry) (lines : List String) :
    routeLines {} registry lines =
      let followed := followAll registry (lines.filterMap routableDirective?)
      ({ followed.1 with log := (lines.filter isRemark).map (⟨.engineOutput, ·⟩) },
        followed.2) := by
  induction lines generalizing registry with
  | nil => rfl
  | cons line rest ih =>
      rw [routeLines_cons, Effects.nothing_append, routeLines_eq, ih]
      cases found : routableDirective? line with
      | none =>
          rw [routeLine_of_none registry found, List.filterMap_cons_none found, List.filter_cons]
          cases isRemark line <;> simp [Effects.append_def]
      | some directive =>
          have silent : isRemark line = false := by simp [isRemark, found]
          rw [routeLine_of_directive registry found, List.filterMap_cons_some found,
            List.filter_cons_of_neg (by simp [silent])]
          simp [followAll, routeDirective, Effects.append_def]

/-- The output of the engine is routed line by line.  If output is cut at a line feed, what
is done for the two pieces one after the other is what is done for the whole, as long as the
first piece does not end with the carriage return of its last line.  What is done is that
the directives that are written in the lines of the output are followed in order, none of
them left out, and that the other lines that are not blank are logged. -/
theorem output_routed_by_lines :
    (∀ (registry : Registry) (first second : String), first.toList.getLast? ≠ some '\r' →
      routeOutput registry (first ++ "\n" ++ second) =
        let (effects, between) := routeOutput registry first
        let (more, after) := routeOutput between second
        (effects ++ more, after)) ∧
    ∀ (registry : Registry) (output : String),
      ∃ lines, (∀ other, Lines output.toList other ↔ other = lines) ∧
        routeOutput registry output =
          let followed := followAll registry (lines.filterMap routableDirective?)
          ({ followed.1 with log := (lines.filter isRemark).map (⟨.engineOutput, ·⟩) },
            followed.2) := by
  constructor
  · intro registry first second unreturned
    obtain ⟨gap, blank, parts⟩ :=
      (lines_iff.mpr rfl).append (lines_iff.mpr rfl : Lines second.toList _) unreturned
    have whole : lines (first ++ "\n" ++ second) = lines first ++ gap ++ lines second := by
      apply lines_iff.mp
      simpa using parts
    simp only [routeOutput]
    rw [whole, List.append_assoc, routeLines_append, routeLines_append,
      routeLines_blank blank, routeLines_eq]
  · intro registry output
    refine ⟨lines output, fun other => lines_iff.trans eq_comm, ?_⟩
    exact routeLines_eq_followAll registry (lines output)

/-- The relay that is opened for the first piece is the one that the second piece reaches. -/
theorem output_routed_by_lines_twoPieces :
    let first := "hello\n \nws://remote[brain]:hi\n"
    let second := "ws://remote[brain]:again"
    let (effects, between) := routeOutput (Registry.empty 4) first
    let (more, after) := routeOutput between second
    first.toList.getLast? ≠ some '\r' ∧
      routeOutput (Registry.empty 4) (first ++ "\n" ++ second) = (effects ++ more, after) ∧
      (effects ++ more).relays = [⟨1, "ws://remote", "brain"⟩] ∧
      (effects ++ more).sent = [⟨1, .text "hi"⟩, ⟨1, .text "again"⟩] := by
  refine ⟨by decide, ?_, by decide +kernel, by decide +kernel⟩
  exact output_routed_by_lines.1 (Registry.empty 4) _ _ (by decide)

end EngineGateway.Gateway
