import EngineGateway.Text.Numeral

/-!
# What a numeral is

The digits of a numeral are taken one by one, and the first one that makes the value too
large ends it.  A value never shrinks on the way, so what is read is what all the digits
together come to, if that is not too large.  With a sign in front the same holds of
integers.
-/

namespace EngineGateway.Text

/-- At least one ASCII digit, with the value of the digits. -/
structure Digits (text : List Char) (value : Nat) : Prop where
  filled : text ≠ []
  digits : ∀ character ∈ text, character.isDigit = true
  value : Nat.ofDigitChars 10 text 0 = value

/-- A number in decimal, which may have a plus sign in front. -/
inductive Decimal : List Char → Nat → Prop where
  | plain {text : List Char} {value : Nat} : Digits text value → Decimal text value
  | plus {text : List Char} {value : Nat} : Digits text value → Decimal ('+' :: text) value

/-- An integer in decimal, which may have a sign in front. -/
inductive SignedDecimal : List Char → Int → Prop where
  | plain {text : List Char} {value : Nat} : Digits text value → SignedDecimal text value
  | plus {text : List Char} {value : Nat} :
      Digits text value → SignedDecimal ('+' :: text) value
  | minus {text : List Char} {value : Nat} :
      Digits text value → SignedDecimal ('-' :: text) (-value)

/-! ## Reading -/

theorem range_of_isDigit {character : Char} (digit : character.isDigit = true) :
    0x30 ≤ character.toNat ∧ character.toNat ≤ 0x39 := by
  simp only [Char.isDigit, Bool.and_eq_true, decide_eq_true_eq,
    UInt32.le_iff_toNat_le] at digit
  exact digit

theorem digit?_eq (character : Char) :
    digit? character =
      if character.isDigit then some (character.toNat - '0'.toNat) else none := by
  simp [digit?, Char.isDigit, Char.le_def]

theorem le_ofDigitChars (text : List Char) (value : Nat) :
    value ≤ Nat.ofDigitChars 10 text value := by
  rw [Nat.ofDigitChars_eq_ofDigitChars_zero]
  have grows : value ≤ 10 ^ text.length * value :=
    Nat.le_mul_of_pos_left value (Nat.pow_pos (by decide))
  omega

theorem readDigits_eq_ok_iff {limit value result : Nat} {excess : NumeralError}
    {text : List Char} (small : value ≤ limit) :
    readDigits limit excess value text = .ok result ↔
      (∀ character ∈ text, character.isDigit = true) ∧
        Nat.ofDigitChars 10 text value = result ∧ result ≤ limit := by
  induction text generalizing value with
  | nil => simp [readDigits]; omega
  | cons character rest ih =>
      rw [readDigits, digit?_eq, Nat.ofDigitChars_cons, List.forall_mem_cons]
      by_cases isDigit : character.isDigit = true
      · simp only [isDigit, if_true, true_and, Nat.mul_comm value 10]
        split
        · next large =>
          have grows := le_ofDigitChars rest (10 * value + (character.toNat - '0'.toNat))
          constructor
          · nofun
          · rintro ⟨_, rfl, fits⟩
            omega
        · next fits => exact ih (Nat.le_of_not_lt fits)
      · simp [isDigit]

theorem readMagnitude_eq_ok_iff {limit value : Nat} {excess : NumeralError}
    {text : List Char} :
    readMagnitude limit excess text = .ok value ↔ Digits text value ∧ value ≤ limit := by
  cases text with
  | nil => exact iff_of_false nofun fun read => read.1.filled rfl
  | cons character rest =>
      rw [readMagnitude, readDigits_eq_ok_iff (Nat.zero_le limit)]
      · exact ⟨fun ⟨digits, value, fits⟩ => ⟨⟨nofun, digits, value⟩, fits⟩,
          fun ⟨read, fits⟩ => ⟨read.digits, read.value, fits⟩⟩
      · nofun

/-- A plus sign is no digit. -/
theorem not_digits_plus {rest : List Char} {value : Nat} : ¬ Digits ('+' :: rest) value :=
  fun read => absurd (read.digits '+' (.head _)) (by decide)

/-- Numbers up to the limit are read, whatever way they are written in decimal. -/
theorem readNat_eq_ok_iff {limit value : Nat} {text : List Char} :
    readNat limit text = .ok value ↔ Decimal text value ∧ value ≤ limit := by
  unfold readNat
  split
  · refine iff_of_false nofun ?_
    rintro ⟨⟨read⟩, _⟩
    exact read.filled rfl
  · next digits =>
    rw [readMagnitude_eq_ok_iff]
    constructor
    · exact fun ⟨read, fits⟩ => ⟨.plus read, fits⟩
    · rintro ⟨read | read, fits⟩
      · exact absurd read not_digits_plus
      · exact ⟨read, fits⟩
  · next _ unsigned =>
    rw [readMagnitude_eq_ok_iff]
    constructor
    · exact fun ⟨read, fits⟩ => ⟨.plain read, fits⟩
    · rintro ⟨read | read, fits⟩
      · exact ⟨read, fits⟩
      · exact absurd rfl (unsigned _)

theorem not_digits_minus {rest : List Char} {value : Nat} : ¬ Digits ('-' :: rest) value :=
  fun read => absurd (read.digits '-' (.head _)) (by decide)

theorem map_eq_ok_iff {ε α β : Type} {convert : α → β} {read : Except ε α} {result : β} :
    read.map convert = .ok result ↔ ∃ value, read = .ok value ∧ convert value = result := by
  cases read <;> simp [Except.map]

/-- Integers within the limit are read, whatever way they are written in decimal. -/
theorem readInt_eq_ok_iff {limit : Nat} {value : Int} {text : List Char} :
    readInt limit text = .ok value ↔
      SignedDecimal text value ∧ -(limit + 1 : Int) ≤ value ∧ value ≤ limit := by
  constructor
  · intro read
    unfold readInt at read
    split at read
    · cases read
    all_goals
      obtain ⟨magnitude, taken, rfl⟩ := map_eq_ok_iff.mp read
      obtain ⟨digits, fits⟩ := readMagnitude_eq_ok_iff.mp taken
      rw [Int.ofNat_eq_natCast]
    · exact ⟨.plus digits, by omega⟩
    · exact ⟨.minus digits, by omega⟩
    · exact ⟨.plain digits, by omega⟩
  · rintro ⟨digits | digits | digits, low, high⟩
    · unfold readInt
      split
      · exact absurd rfl digits.filled
      · exact absurd digits not_digits_plus
      · exact absurd digits not_digits_minus
      · exact map_eq_ok_iff.mpr ⟨_, readMagnitude_eq_ok_iff.mpr ⟨digits, by omega⟩, rfl⟩
    · exact map_eq_ok_iff.mpr ⟨_, readMagnitude_eq_ok_iff.mpr ⟨digits, by omega⟩, rfl⟩
    · exact map_eq_ok_iff.mpr ⟨_, readMagnitude_eq_ok_iff.mpr ⟨digits, by omega⟩, rfl⟩

theorem Digits.unique {text : List Char} {first second : Nat} (one : Digits text first)
    (other : Digits text second) : first = second :=
  one.value.symm.trans other.value

theorem SignedDecimal.unique {text : List Char} {first second : Int}
    (one : SignedDecimal text first) (other : SignedDecimal text second) : first = second := by
  cases one with
  | plain digits =>
      cases other with
      | plain again => rw [digits.unique again]
      | plus _ => exact absurd digits not_digits_plus
      | minus _ => exact absurd digits not_digits_minus
  | plus digits =>
      cases other with
      | plain again => exact absurd again not_digits_plus
      | plus again => rw [digits.unique again]
  | minus digits =>
      cases other with
      | plain again => exact absurd again not_digits_minus
      | minus again => rw [digits.unique again]

/-! ## Writing -/

/-- A number is written with digits that have its value. -/
theorem digits_toString (value : Nat) : Digits (toString value).toList value := by
  rw [Nat.toString_eq_ofList_toDigits, String.toList_ofList]
  exact ⟨Nat.toDigits_ne_nil, fun _ => Nat.isDigit_of_mem_toDigits (by decide) (by decide),
    Nat.ofDigitChars_ten_toDigits⟩

theorem toList_toString_negSucc (magnitude : Nat) :
    (toString (Int.negSucc magnitude)).toList = '-' :: (toString (magnitude + 1)).toList :=
  String.toList_append

/-- An integer is written in decimal, with a minus sign if it is negative. -/
theorem signedDecimal_toString (value : Int) : SignedDecimal (toString value).toList value := by
  cases value with
  | ofNat magnitude => exact .plain (digits_toString magnitude)
  | negSucc magnitude =>
      rw [toList_toString_negSucc]
      exact .minus (digits_toString (magnitude + 1))

end EngineGateway.Text
