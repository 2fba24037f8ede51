import EngineGateway.Text.Blank
import Mathlib.Data.List.Basic
import Mathlib.Data.List.TakeWhile

/-!
# Trimming

Text consists of blanks, a part without a blank at either end, and more blanks.  Trimming leaves
that part, however the text is taken apart.
-/

namespace EngineGateway.Text

variable {text before middle after : List Char}

/-- There is no blank at either end. -/
structure Bare (text : List Char) : Prop where
  starts : ∀ first ∈ text.head?, isBlank first = false
  ends : ∀ last ∈ text.getLast?, isBlank last = false

theorem bare_of_solid (solid : ∀ character ∈ text, isBlank character = false) : Bare text where
  starts first here := solid first (List.mem_of_mem_head? here)
  ends last here := solid last (List.mem_of_mem_getLast? here)

theorem trimStart_append (blank : ∀ character ∈ before, isBlank character = true)
    (starts : ∀ first ∈ middle.head?, isBlank first = false) :
    trimStart (before ++ middle) = middle := by
  rw [trimStart, List.dropWhile_append_of_pos blank]
  cases middle with
  | nil => rfl
  | cons first rest => exact List.dropWhile_cons_of_neg (by simp [starts first rfl])

theorem trimEnd_eq (text : List Char) : trimEnd text = (trimStart text.reverse).reverse := rfl

theorem trimEnd_append (blank : ∀ character ∈ after, isBlank character = true)
    (ends : ∀ last ∈ middle.getLast?, isBlank last = false) :
    trimEnd (middle ++ after) = middle := by
  rw [trimEnd_eq, List.reverse_append, trimStart_append, List.reverse_reverse]
  · simpa using blank
  · simpa using ends

/-- Trimming takes nothing but the blanks at both ends. -/
theorem trimEnd_trimStart (blankBefore : ∀ character ∈ before, isBlank character = true)
    (bare : Bare middle) (blankAfter : ∀ character ∈ after, isBlank character = true) :
    trimEnd (trimStart (before ++ middle ++ after)) = middle := by
  cases middle with
  | nil =>
      have blank : ∀ character ∈ before ++ after, isBlank character = true :=
        List.forall_mem_append.mpr ⟨blankBefore, blankAfter⟩
      rw [List.append_nil, trimStart, List.dropWhile_eq_nil_iff.mpr blank]
      rfl
  | cons first rest =>
      rw [List.append_assoc, trimStart_append blankBefore, trimEnd_append blankAfter bare.ends]
      exact bare.starts

theorem head?_trimStart : ∀ first ∈ (trimStart text).head?, isBlank first = false := by
  intro first here
  have solid := List.head?_dropWhile_not isBlank text
  rw [show (text.dropWhile isBlank).head? = some first from here] at solid
  exact solid

theorem getLast?_trimEnd : ∀ last ∈ (trimEnd text).getLast?, isBlank last = false := by
  rw [trimEnd_eq, List.getLast?_reverse]
  exact head?_trimStart

/-- Trimming takes blanks from both ends, and all of them. -/
theorem exists_bare (text : List Char) :
    ∃ before after, text = before ++ trimEnd (trimStart text) ++ after ∧
      (∀ character ∈ before, isBlank character = true) ∧
      Bare (trimEnd (trimStart text)) ∧
      (∀ character ∈ after, isBlank character = true) := by
  let start := trimStart text
  have finish : trimEnd start ++ (start.reverse.takeWhile isBlank).reverse = start := by
    rw [trimEnd, ← List.reverse_append, List.takeWhile_append_dropWhile, List.reverse_reverse]
  refine ⟨text.takeWhile isBlank, (start.reverse.takeWhile isBlank).reverse, ?_,
    fun _ => List.mem_takeWhile_imp, ⟨fun first here => ?_, getLast?_trimEnd⟩, ?_⟩
  · rw [List.append_assoc, finish]
    exact List.takeWhile_append_dropWhile.symm
  · have begins : first ∈ start.head? := by
      rw [← finish, List.head?_append, Option.mem_def.mp here]
      rfl
    exact head?_trimStart first begins
  · intro character member
    exact List.mem_takeWhile_imp (List.mem_reverse.mp member)

/-- The text is a part without a blank at either end, with blanks around it. -/
def Pads (text : String) (part : List Char) : Prop :=
  ∃ before after, text.toList = before ++ part ++ after ∧
    (∀ character ∈ before, isBlank character = true) ∧ Bare part ∧
    (∀ character ∈ after, isBlank character = true)

/-- There is one such part, which trimming finds. -/
theorem pads_iff {text : String} {part : List Char} :
    Pads text part ↔ (trim text).toList = part := by
  rw [trim, String.toList_ofList]
  constructor
  · rintro ⟨before, after, same, blankBefore, bare, blankAfter⟩
    rw [same, trimEnd_trimStart blankBefore bare blankAfter]
  · rintro rfl
    exact exists_bare text.toList

end EngineGateway.Text
