import EngineGateway.Text.Blank
import Mathlib.Data.List.TakeWhile

/-!
# Splitting at a mark

What is in front of the first mark is the part that has no mark in it and is followed by
one.  There is exactly one such part wherever there is a mark.
-/

namespace EngineGateway.Text

section Lists

variable {α : Type} [BEq α] [LawfulBEq α] {mark : α} {before : List α}

theorem passed_of_not_mem (clear : mark ∉ before) :
    ∀ element ∈ before, (element != mark) = true := by
  intro element member
  rw [bne_iff_ne]
  rintro rfl
  exact clear member

theorem takeWhile_split (clear : mark ∉ before) (after : List α) :
    (before ++ mark :: after).takeWhile (· != mark) = before := by
  rw [List.takeWhile_append_of_pos (passed_of_not_mem clear),
    List.takeWhile_cons_of_neg (by simp), List.append_nil]

theorem dropWhile_split (clear : mark ∉ before) (after : List α) :
    (before ++ mark :: after).dropWhile (· != mark) = mark :: after := by
  rw [List.dropWhile_append_of_pos (passed_of_not_mem clear),
    List.dropWhile_cons_of_neg (by simp)]

end Lists

theorem splitAtFirst?_split {mark : Char} {before : List Char} (clear : mark ∉ before)
    (after : List Char) :
    splitAtFirst? mark (before ++ mark :: after) = some (before, after) := by
  rw [splitAtFirst?, takeWhile_split clear, dropWhile_split clear]

theorem splitAtFirst?_of_not_mem {mark : Char} {text : List Char} (clear : mark ∉ text) :
    splitAtFirst? mark text = none := by
  rw [splitAtFirst?, List.dropWhile_eq_nil_iff.mpr (passed_of_not_mem clear)]

end EngineGateway.Text
