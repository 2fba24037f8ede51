import EngineGateway.Command
import Mathlib.Data.Nat.Digits.Defs
import Mathlib.Data.Nat.Digits.Lemmas

/-!
# Words in little-endian order

Octets are the digits of a number to the base 256, the least significant one first.  Four
octets are put together by shifting, which comes to the same number, and a word is the
number of the octets it is written as.
-/

namespace EngineGateway.LittleEndian

/-- The number with these octets as its digits. -/
def value (octets : Bytes) : Nat :=
  Nat.ofDigits 256 (octets.map UInt8.toNat)

theorem digit_lt {octets : Bytes} {digit : Nat} (member : digit ∈ octets.map UInt8.toNat) :
    digit < 256 := by
  obtain ⟨octet, _, rfl⟩ := List.mem_map.mp member
  exact octet.toNat_lt

theorem value_lt (octets : Bytes) : value octets < 256 ^ octets.length := by
  rw [value, ← List.length_map UInt8.toNat]
  exact Nat.ofDigits_lt_base_pow_length (by decide) fun _ => digit_lt

/-- Octets of a given length are determined by their number. -/
theorem value_inj {octets others : Bytes} (length : octets.length = others.length)
    (same : value octets = value others) : octets = others := by
  have mapped := Nat.ofDigits_inj_of_len_eq (by decide) (by simpa using length)
    (fun _ => digit_lt) (fun _ => digit_lt) same
  exact List.map_injective_iff.mpr (fun _ _ => UInt8.toNat_inj.mp) mapped

/-! ## Reading -/

/-- Bits that do not overlap are added. -/
theorem or_shiftLeft {low high width : Nat} (small : low < 2 ^ width) :
    low ||| high <<< width = low + high * 2 ^ width := by
  rw [Nat.or_comm, ← Nat.shiftLeft_add_eq_or_of_lt small, Nat.shiftLeft_eq, Nat.add_comm]

/-- An octet that is shifted within 32 bits loses none of its bits. -/
theorem toNat_shiftLeft_octet (octet : UInt8) {width : Nat} (narrow : width ≤ 24) :
    octet.toNat <<< width % 4294967296 = octet.toNat <<< width := by
  have small : octet.toNat < 256 := octet.toNat_lt
  apply Nat.mod_eq_of_lt
  calc octet.toNat <<< width = octet.toNat * 2 ^ width := Nat.shiftLeft_eq ..
    _ < 256 * 2 ^ width := Nat.mul_lt_mul_of_pos_right small (Nat.two_pow_pos width)
    _ ≤ 256 * 2 ^ 24 := Nat.mul_le_mul_left _ (Nat.pow_le_pow_right (by decide) narrow)

theorem toNat_littleEndian (first second third fourth : UInt8) :
    (littleEndian first second third fourth).toNat = value [first, second, third, fourth] := by
  have one : first.toNat < 256 := first.toNat_lt
  have two : second.toNat < 256 := second.toNat_lt
  have three : third.toNat < 256 := third.toNat_lt
  have parts : (littleEndian first second third fourth).toNat =
      first.toNat ||| second.toNat <<< 8 ||| third.toNat <<< 16 ||| fourth.toNat <<< 24 := by
    simp [littleEndian, toNat_shiftLeft_octet]
  have half : first.toNat ||| second.toNat <<< 8 = first.toNat + second.toNat * 2 ^ 8 :=
    or_shiftLeft one
  have most : first.toNat + second.toNat * 2 ^ 8 ||| third.toNat <<< 16 =
      first.toNat + second.toNat * 2 ^ 8 + third.toNat * 2 ^ 16 :=
    or_shiftLeft (by omega)
  rw [parts, half, most, or_shiftLeft (by omega)]
  simp only [value, List.map_cons, List.map_nil, Nat.ofDigits_cons, Nat.ofDigits_nil]
  omega

/-! ## Writing -/

theorem value_littleEndianBytes (word : UInt32) :
    value (littleEndianBytes word) = word.toNat := by
  have bound : word.toNat < 4294967296 := word.toNat_lt
  simp [value, littleEndianBytes, Nat.ofDigits_cons, Nat.shiftRight_eq_div_pow]
  omega

/-- Four octets are what the word of their number is written as. -/
theorem littleEndianBytes_value {octets : Bytes} (four : octets.length = 4) :
    littleEndianBytes (UInt32.ofNat (value octets)) = octets := by
  have length : (littleEndianBytes (UInt32.ofNat (value octets))).length = octets.length :=
    four.symm
  apply value_inj length
  rw [value_littleEndianBytes]
  apply UInt32.toNat_ofNat_of_lt'
  have bound := value_lt octets
  rwa [four] at bound

end EngineGateway.LittleEndian
