import EngineGateway.Engine.Identity
import EngineGateway.Proofs.Text.Numeral
import EngineGateway.Proofs.Text.Split

/-!
# What a version reply says

A version reply starts with two integers, each of which ends where no digit follows.  An
integer of more than 32 bits makes the whole reply unreadable.  The name behind them goes
from one quotation mark to the next, or to the end.
-/

namespace EngineGateway.Engine

open Text

/-- An integer of 32 bits. -/
def FitsInt32 (value : Int) : Prop :=
  -2147483648 ≤ value ∧ value ≤ 2147483647

/-- A name that can stand between quotation marks. -/
def IsName (name : String) : Prop :=
  name ≠ "" ∧ '"' ∉ name.toList

/-- Text that goes on with a digit. -/
def StartsWithDigit (text : List Char) : Prop :=
  ∃ digit rest, text = digit :: rest ∧ digit.isDigit = true

/-- Text that consists of blanks, an integer and a rest, where the integer ends. -/
inductive Leads (value : Int) (rest : List Char) : List Char → Prop where
  | intro {gap numeral : List Char} :
      (∀ character ∈ gap, isBlank character = true) → SignedDecimal numeral value →
      ¬ StartsWithDigit rest → Leads value rest (gap ++ numeral ++ rest)

instance (value : Int) : Decidable (FitsInt32 value) :=
  inferInstanceAs (Decidable (_ ∧ _))

instance (name : String) : Decidable (IsName name) :=
  inferInstanceAs (Decidable (_ ∧ _))

theorem readInt_maxInt32_iff {value : Int} {text : List Char} :
    readInt maxInt32 text = .ok value ↔ SignedDecimal text value ∧ FitsInt32 value := by
  have limit : (maxInt32 : Int) = 2147483647 := by decide
  rw [readInt_eq_ok_iff, limit, FitsInt32]
  constructor <;> rintro ⟨signed, low, high⟩ <;> exact ⟨signed, by omega, by omega⟩

/-! ## Numbers -/

theorem isBlank_of_isDigit {character : Char} (digit : character.isDigit = true) :
    isBlank character = false := by
  have range := range_of_isDigit digit
  unfold isBlank
  generalize character.toNat = code at range
  simp
  omega

theorem trimStart_append {gap text : List Char}
    (blank : ∀ character ∈ gap, isBlank character = true) :
    trimStart (gap ++ text) = trimStart text :=
  List.dropWhile_append_of_pos blank

section Digits

variable {digits rest : List Char} {value : Nat}

theorem takeWhile_digits (read : Digits digits value) (ends : ¬ StartsWithDigit rest) :
    (digits ++ rest).takeWhile Char.isDigit = digits := by
  rw [List.takeWhile_append_of_pos read.digits]
  cases rest with
  | nil => simp
  | cons first rest =>
      rw [List.takeWhile_cons_of_neg fun digit => ends ⟨first, rest, rfl, digit⟩,
        List.append_nil]

theorem dropWhile_digits (read : Digits digits value) (ends : ¬ StartsWithDigit rest) :
    (digits ++ rest).dropWhile Char.isDigit = rest := by
  rw [List.dropWhile_append_of_pos read.digits]
  cases rest with
  | nil => rfl
  | cons first rest =>
      exact List.dropWhile_cons_of_neg fun digit => ends ⟨first, rest, rfl, digit⟩

end Digits

/-- The sign in front of text, none or one, and what follows it. -/
def splitSign : List Char → List Char × List Char
  | '-' :: rest => (['-'], rest)
  | '+' :: rest => (['+'], rest)
  | rest => ([], rest)

theorem takeInt?_eq (text : List Char) :
    takeInt? text =
      let unsigned := (splitSign (trimStart text)).2
      let digits := unsigned.takeWhile Char.isDigit
      if digits.isEmpty then none
      else
        match readInt maxInt32 ((splitSign (trimStart text)).1 ++ digits) with
        | .ok value => some (value, unsigned.dropWhile Char.isDigit)
        | .error _ => none := rfl

section Numeral

variable {numeral : List Char} {value : Int}

/-- A numeral starts with no blank. -/
theorem trimStart_numeral (signed : SignedDecimal numeral value) (rest : List Char) :
    trimStart (numeral ++ rest) = numeral ++ rest := by
  cases signed with
  | plain read =>
      cases numeral with
      | nil => exact absurd rfl read.filled
      | cons first more =>
          have digit := read.digits first (.head _)
          exact List.dropWhile_cons_of_neg (by simp [isBlank_of_isDigit digit])
  | plus read => rfl
  | minus read => rfl

/-- A numeral is a sign, none or one, and digits. -/
theorem exists_splitSign (signed : SignedDecimal numeral value) (rest : List Char) :
    ∃ sign digits magnitude, numeral = sign ++ digits ∧ Digits digits magnitude ∧
      splitSign (numeral ++ rest) = (sign, digits ++ rest) := by
  cases signed with
  | @plain _ magnitude read =>
      refine ⟨[], numeral, magnitude, rfl, read, ?_⟩
      cases numeral with
      | nil => exact absurd rfl read.filled
      | cons first more =>
          unfold splitSign
          split
          · next same =>
              cases same
              exact absurd read not_digits_minus
          · next same =>
              cases same
              exact absurd read not_digits_plus
          · rfl
  | @plus digits magnitude read => exact ⟨['+'], digits, magnitude, rfl, read, rfl⟩
  | @minus digits magnitude read => exact ⟨['-'], digits, magnitude, rfl, read, rfl⟩

end Numeral

/-- An integer at the start of a text is taken if it has 32 bits. -/
theorem Leads.takeInt? {value : Int} {text rest : List Char} (leads : Leads value rest text) :
    Engine.takeInt? text = if FitsInt32 value then some (value, rest) else none := by
  obtain ⟨blank, signed, ends⟩ := leads
  rename_i gap numeral
  obtain ⟨sign, digits, magnitude, rfl, read, split⟩ := exists_splitSign signed rest
  have filled : digits.isEmpty = false := by simpa using read.filled
  rw [takeInt?_eq, List.append_assoc gap, trimStart_append blank,
    trimStart_numeral signed, split]
  simp only [takeWhile_digits read ends, dropWhile_digits read ends, filled,
    Bool.false_eq_true, if_false]
  split_ifs with fits
  · simp [readInt_maxInt32_iff.mpr ⟨signed, fits⟩]
  · cases taken : readInt maxInt32 (sign ++ digits) with
    | error _ => rfl
    | ok other =>
        obtain ⟨again, small⟩ := readInt_maxInt32_iff.mp taken
        exact absurd (signed.unique again ▸ small) fits

theorem fits_of_takeInt? {value : Int} {text rest : List Char}
    (taken : takeInt? text = some (value, rest)) : FitsInt32 value := by
  rw [takeInt?_eq] at taken
  simp only at taken
  split_ifs at taken
  split at taken
  · next read =>
      cases taken
      exact (readInt_maxInt32_iff.mp read).2
  · cases taken

/-! ## Names -/

theorem takeName?_quoted {gap : List Char} {name tail : List Char}
    (blank : ∀ character ∈ gap, isBlank character = true) (filled : name ≠ [])
    (clear : '"' ∉ name) (ends : tail = [] ∨ ∃ behind, tail = '"' :: behind) :
    takeName? (gap ++ '"' :: (name ++ tail)) = some (String.ofList name) := by
  have kept : (name ++ tail).dropWhile (· == '"') = name ++ tail := by
    cases name with
    | nil => exact absurd rfl filled
    | cons first more =>
        refine List.dropWhile_cons_of_neg fun quote => clear ?_
        rw [beq_iff_eq.mp quote]
        exact .head _
  have taken : (name ++ tail).takeWhile (· != '"') = name := by
    rcases ends with rfl | ⟨behind, rfl⟩
    · rw [List.append_nil]
      exact List.takeWhile_eq_self_iff.mpr (passed_of_not_mem clear)
    · exact takeWhile_split clear behind
  have trimmed : trimStart (gap ++ '"' :: (name ++ tail)) = '"' :: (name ++ tail) := by
    rw [trimStart_append blank]
    rfl
  rw [takeName?, trimmed]
  simp [kept, taken, filled]

theorem isName_of_takeName? {text : List Char} {name : String}
    (taken : takeName? text = some name) : IsName name := by
  unfold takeName? at taken
  split at taken
  · next rest _ =>
      simp only at taken
      split_ifs at taken with empty
      obtain rfl := Option.some.inj taken
      constructor
      · simpa using empty
      · rw [String.toList_ofList]
        intro member
        exact absurd (List.mem_takeWhile_imp member) (by simp)
  · cases taken

/-! ## Replies -/

/-- The reply with a version and a name. -/
def versionReply (major minor : Int) (name : String) : String :=
  toString major ++ " " ++ toString minor ++ " \"" ++ name ++ "\""

/-- The blanks of a reply: those before the numbers and those before the name.  Without any
before the second number it would go on with the digits of the first. -/
structure Gaps where
  major : List Char
  minor : List Char
  name : List Char
  major_blank : ∀ character ∈ major, isBlank character = true
  minor_blank : ∀ character ∈ minor, isBlank character = true
  name_blank : ∀ character ∈ name, isBlank character = true
  minor_ne_nil : minor ≠ []

/-- The reply with blanks of any kind, of which the closing quotation mark is left out. -/
def spacedReply (gaps : Gaps) (major minor : Int) (name : String) : String :=
  String.ofList gaps.major ++ toString major ++ String.ofList gaps.minor ++ toString minor ++
    String.ofList gaps.name ++ "\"" ++ name

theorem not_startsWithDigit_gap {gap text : List Char}
    (blank : ∀ character ∈ gap, isBlank character = true) (filled : gap ≠ []) :
    ¬ StartsWithDigit (gap ++ text) := by
  rintro ⟨digit, rest, same, isDigit⟩
  cases gap with
  | nil => exact filled rfl
  | cons first more =>
      obtain rfl := List.head_eq_of_cons_eq same
      have noBlank := isBlank_of_isDigit isDigit
      rw [blank first (.head _)] at noBlank
      cases noBlank

/-- A quotation mark is no digit. -/
theorem not_startsWithDigit_quoted {gap text : List Char}
    (blank : ∀ character ∈ gap, isBlank character = true) :
    ¬ StartsWithDigit (gap ++ '"' :: text) := by
  cases gap with
  | nil =>
      rintro ⟨digit, rest, same, isDigit⟩
      cases same
      cases isDigit
  | cons first more => exact not_startsWithDigit_gap blank (by simp)

section Replies

variable {major minor : Int} {name : String} {reply : String}

theorem parseVersionReply?_of_leads {text rest : List Char} (first : Leads major text reply.toList)
    (fits : FitsInt32 major) (second : Leads minor rest text) (small : FitsInt32 minor) :
    parseVersionReply? reply = (takeName? rest).map fun name => (major, minor, name) := by
  simp only [parseVersionReply?, first.takeInt?, if_pos fits, Option.bind_eq_bind,
    Option.bind_some, second.takeInt?, if_pos small]
  cases takeName? rest <;> rfl

theorem parseVersionReply?_spacedReply (gaps : Gaps) (tail : String)
    (fits : FitsInt32 major) (small : FitsInt32 minor) (isName : IsName name)
    (ends : tail.toList = [] ∨ ∃ behind, tail.toList = '"' :: behind) :
    parseVersionReply? (spacedReply gaps major minor name ++ tail) =
      some (major, minor, name) := by
  let quoted := gaps.name ++ '"' :: (name.toList ++ tail.toList)
  let second := gaps.minor ++ (toString minor).toList ++ quoted
  have parts : (spacedReply gaps major minor name ++ tail).toList =
      gaps.major ++ (toString major).toList ++ second := by
    simp [spacedReply, second, quoted]
  have leads : Leads major second (spacedReply gaps major minor name ++ tail).toList := by
    rw [parts]
    refine .intro gaps.major_blank (signedDecimal_toString major) ?_
    simp only [second, List.append_assoc]
    exact not_startsWithDigit_gap gaps.minor_blank gaps.minor_ne_nil
  have follows : Leads minor quoted second :=
    .intro gaps.minor_blank (signedDecimal_toString minor)
      (not_startsWithDigit_quoted gaps.name_blank)
  have filled : name.toList ≠ [] := by simpa using isName.1
  rw [parseVersionReply?_of_leads leads fits follows small,
    takeName?_quoted gaps.name_blank filled isName.2 ends, String.ofList_toList]
  rfl

/-- One blank before the second number, and one before the name. -/
def Gaps.single : Gaps where
  major := []
  minor := [' ']
  name := [' ']
  major_blank := List.forall_mem_nil _
  minor_blank := List.forall_mem_singleton.mpr rfl
  name_blank := List.forall_mem_singleton.mpr rfl
  minor_ne_nil := by simp

theorem versionReply_eq (major minor : Int) (name : String) :
    versionReply major minor name = spacedReply .single major minor name ++ "\"" := by
  apply String.toList_inj.mp
  simp [versionReply, spacedReply, Gaps.single]

theorem parseVersionReply?_versionReply (behind : String) (fits : FitsInt32 major)
    (small : FitsInt32 minor) (isName : IsName name) :
    parseVersionReply? (versionReply major minor name ++ behind) =
      some (major, minor, name) := by
  rw [versionReply_eq, String.append_assoc]
  exact parseVersionReply?_spacedReply .single _ fits small isName
    (.inr ⟨behind.toList, by simp⟩)

/-- What is read out of a reply could have been written into one. -/
theorem of_parseVersionReply? (read : parseVersionReply? reply = some (major, minor, name)) :
    FitsInt32 major ∧ FitsInt32 minor ∧ IsName name := by
  unfold parseVersionReply? at read
  obtain ⟨⟨first, text⟩, taken, read⟩ := Option.bind_eq_some_iff.mp read
  obtain ⟨⟨second, rest⟩, again, read⟩ := Option.bind_eq_some_iff.mp read
  obtain ⟨found, named, same⟩ := Option.bind_eq_some_iff.mp read
  cases same
  exact ⟨fits_of_takeInt? taken, fits_of_takeInt? again, isName_of_takeName? named⟩

theorem parseVersionReply?_of_large {rest : List Char} (leads : Leads major rest reply.toList)
    (large : ¬ FitsInt32 major) : parseVersionReply? reply = none := by
  simp only [parseVersionReply?, leads.takeInt?, if_neg large, Option.bind_eq_bind,
    Option.bind_none]

theorem parseVersionReply?_of_large_minor {text rest : List Char}
    (first : Leads major text reply.toList) (second : Leads minor rest text)
    (large : ¬ FitsInt32 minor) : parseVersionReply? reply = none := by
  by_cases fits : FitsInt32 major
  · simp only [parseVersionReply?, first.takeInt?, if_pos fits, Option.bind_eq_bind,
      Option.bind_some, second.takeInt?, if_neg large, Option.bind_none]
  · exact parseVersionReply?_of_large first fits

end Replies
end EngineGateway.Engine
