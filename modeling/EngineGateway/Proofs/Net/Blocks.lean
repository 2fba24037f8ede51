import EngineGateway.Net.Address
import Mathlib.Data.Nat.Bitwise

/-!
# Blocks of addresses

An address is a number of 32 or 128 bits, and a block is the set of all addresses
of one version that agree with a given one in their leading bits.  The origins
that are not public are eight such blocks, and the addresses of version 6 that
stand for an address of version 4 in one of them.
-/

namespace EngineGateway.Net

/-! ## Addresses as numbers -/

namespace Address

/-- The bits of an address. -/
def width : Address → Nat
  | v4 .. => 32
  | v6 .. => 128

/-- The number that an address is, its first part being the most significant one. -/
def number : Address → Nat
  | v4 first second third fourth =>
      ((first.toNat * 256 + second.toNat) * 256 + third.toNat) * 256 + fourth.toNat
  | v6 first second third fourth fifth sixth seventh eighth =>
      ((((((first.toNat * 65536 + second.toNat) * 65536 + third.toNat) * 65536 +
        fourth.toNat) * 65536 + fifth.toNat) * 65536 + sixth.toNat) * 65536 +
        seventh.toNat) * 65536 + eighth.toNat

/-- The address of version 6 that stands for one of version 4. -/
def mapped (first second third fourth : UInt8) : Address :=
  v6 0 0 0 0 0 0xFFFF (groupOf first second) (groupOf third fourth)

theorem toNat_groupOf (high low : UInt8) :
    (groupOf high low).toNat = high.toNat * 256 + low.toNat := by
  have bound : high.toNat < 256 := high.toNat_lt
  have small : low.toNat < 2 ^ 8 := low.toNat_lt
  have fits : high.toNat <<< 8 % 65536 = high.toNat <<< 8 := by
    apply Nat.mod_eq_of_lt
    rw [Nat.shiftLeft_eq]
    omega
  have halves : (groupOf high low).toNat = high.toNat <<< 8 ||| low.toNat := by
    simp [groupOf, fits]
  rw [halves, ← Nat.shiftLeft_add_eq_or_of_lt small, Nat.shiftLeft_eq]

theorem toNat_octetsOf (group : UInt16) :
    (octetsOf group).1.toNat = group.toNat / 256 ∧
      (octetsOf group).2.toNat = group.toNat % 256 := by
  have bound : group.toNat < 65536 := group.toNat_lt
  constructor
  · simp only [octetsOf, UInt16.toNat_toUInt8, UInt16.toNat_shiftRight,
      Nat.shiftRight_eq_div_pow]
    show group.toNat / 256 % 256 = _
    omega
  · exact UInt16.toNat_toUInt8 group

theorem octetsOf_groupOf (high low : UInt8) : octetsOf (groupOf high low) = (high, low) := by
  have whole := toNat_groupOf high low
  have halves := toNat_octetsOf (groupOf high low)
  have bound : low.toNat < 256 := low.toNat_lt
  apply Prod.ext
  · apply UInt8.toNat_inj.mp
    show (octetsOf (groupOf high low)).1.toNat = high.toNat
    omega
  · apply UInt8.toNat_inj.mp
    show (octetsOf (groupOf high low)).2.toNat = low.toNat
    omega

theorem groupOf_octetsOf (group : UInt16) :
    groupOf (octetsOf group).1 (octetsOf group).2 = group := by
  have whole := toNat_groupOf (octetsOf group).1 (octetsOf group).2
  have halves := toNat_octetsOf group
  apply UInt16.toNat_inj.mp
  omega

theorem asV4?_mapped (first second third fourth : UInt8) :
    (mapped first second third fourth).asV4? = some (first, second, third, fourth) := by
  simp [mapped, asV4?, octetsOf_groupOf]

/-- An address of version 6 is judged by itself, unless it is a mapped one. -/
theorem mapped_or_asV4?_none (first second third fourth fifth sixth seventh eighth : UInt16) :
    (∃ one two three four,
      v6 first second third fourth fifth sixth seventh eighth = mapped one two three four) ∨
    (v6 first second third fourth fifth sixth seventh eighth).asV4? = none := by
  by_cases form : first = 0 ∧ second = 0 ∧ third = 0 ∧ fourth = 0 ∧ fifth = 0 ∧ sixth = 0xFFFF
  · obtain ⟨rfl, rfl, rfl, rfl, rfl, rfl⟩ := form
    left
    refine ⟨(octetsOf seventh).1, (octetsOf seventh).2, (octetsOf eighth).1,
      (octetsOf eighth).2, ?_⟩
    rw [mapped, groupOf_octetsOf, groupOf_octetsOf]
  · right
    rw [asV4?.eq_def]
    split
    next same => cases same
    next same =>
      injection same
      exact absurd ⟨‹_›, ‹_›, ‹_›, ‹_›, ‹_›, ‹_›⟩ form
    next => rfl

end Address

/-! ## Blocks -/

/-- All addresses that agree with the first one in the given number of leading
bits. -/
structure Block where
  first : Address
  length : Nat
  deriving Repr, DecidableEq

/-- The address lies in the block. -/
def Block.Holds (block : Block) (address : Address) : Prop :=
  address.width = block.first.width ∧
    address.number / 2 ^ (address.width - block.length) =
      block.first.number / 2 ^ (address.width - block.length)

instance (block : Block) (address : Address) : Decidable (block.Holds address) :=
  inferInstanceAs (Decidable (_ ∧ _))

/-- The machine itself, the private networks, the link and the local networks of
version 6. -/
def nearBlocks : List Block :=
  [⟨.v4 127 0 0 0, 8⟩, ⟨.v4 10 0 0 0, 8⟩, ⟨.v4 172 16 0 0, 12⟩, ⟨.v4 192 168 0 0, 16⟩,
   ⟨.v4 169 254 0 0, 16⟩, ⟨.v6 0 0 0 0 0 0 0 1, 128⟩, ⟨.v6 0xFE80 0 0 0 0 0 0 0, 10⟩,
   ⟨.v6 0xFC00 0 0 0 0 0 0 0, 7⟩]

/-- The address lies in one of the blocks, or stands for one of version 4 that
does. -/
inductive Near : Address → Prop where
  | inside {address : Address} {block : Block} (known : block ∈ nearBlocks)
      (holds : block.Holds address) : Near address
  | mapped {first second third fourth : UInt8} (near : Near (.v4 first second third fourth)) :
      Near (.mapped first second third fourth)

/-! ## Masks -/

/-- A mask with `bits` ones above `low` zeros keeps those bits of a number. -/
theorem and_mask (number bits low : Nat) :
    number &&& ((2 ^ bits - 1) * 2 ^ low) = number / 2 ^ low % 2 ^ bits * 2 ^ low := by
  rw [← Nat.shiftLeft_eq, ← Nat.shiftLeft_eq, ← Nat.shiftRight_eq_div_pow,
    ← Nat.and_two_pow_sub_one_eq_mod]
  apply Nat.eq_of_testBit_eq
  intro index
  simp only [Nat.testBit_and, Nat.testBit_shiftLeft, Nat.testBit_shiftRight]
  by_cases high : low ≤ index
  · have same : low + (index - low) = index := by omega
    simp [high, same]
  · simp [high]

/-- A number is compared under such a mask by its leading bits. -/
theorem and_mask_eq_iff {number : Nat} (bits low : Nat) (small : number < 2 ^ (bits + low))
    (leading : Nat) :
    number &&& ((2 ^ bits - 1) * 2 ^ low) = leading * 2 ^ low ↔
      number / 2 ^ low = leading := by
  have bound : number / 2 ^ low < 2 ^ bits := by
    apply Nat.div_lt_of_lt_mul
    rwa [← Nat.pow_add, Nat.add_comm low bits]
  rw [and_mask, Nat.mod_eq_of_lt bound]
  exact Nat.mul_left_inj (Nat.two_pow_pos low).ne'

/-! ## Origins that are not public -/

/-- The addresses of version 4 in the blocks, told by their octets. -/
theorem holds_v4_iff (first second third fourth : UInt8) :
    (∃ block ∈ nearBlocks, block.Holds (.v4 first second third fourth)) ↔
      first.toNat = 127 ∨ first.toNat = 10 ∨ first.toNat = 172 ∧ second.toNat / 16 = 1 ∨
        first.toNat = 192 ∧ second.toNat = 168 ∨ first.toNat = 169 ∧ second.toNat = 254 := by
  have octets : second.toNat < 256 ∧ third.toNat < 256 ∧ fourth.toNat < 256 :=
    ⟨second.toNat_lt, third.toNat_lt, fourth.toNat_lt⟩
  obtain ⟨number, whole⟩ : ∃ number, number =
      (Address.v4 first second third fourth).number := ⟨_, rfl⟩
  have numbered : (∃ block ∈ nearBlocks, block.Holds (.v4 first second third fourth)) ↔
      number / 2 ^ 24 = 127 ∨ number / 2 ^ 24 = 10 ∨ number / 2 ^ 20 = 172 * 16 + 1 ∨
        number / 2 ^ 16 = 192 * 256 + 168 ∨ number / 2 ^ 16 = 169 * 256 + 254 := by
    simp [whole, nearBlocks, Block.Holds, Address.width, Address.number]
  rw [Address.number] at whole
  have octet : number / 2 ^ 24 = first.toNat := by omega
  have middle : number / 2 ^ 20 = 172 * 16 + 1 ↔
      first.toNat = 172 ∧ second.toNat / 16 = 1 := by omega
  have pair (high low : Nat) (small : low < 256) : number / 2 ^ 16 = high * 256 + low ↔
      first.toNat = high ∧ second.toNat = low := by omega
  rw [numbered, octet, middle, pair 192 168 (by decide), pair 169 254 (by decide)]

/-- The addresses of version 6 in the blocks, told by their groups. -/
theorem holds_v6_iff (first second third fourth fifth sixth seventh eighth : UInt16) :
    (∃ block ∈ nearBlocks,
        block.Holds (.v6 first second third fourth fifth sixth seventh eighth)) ↔
      (first.toNat = 0 ∧ second.toNat = 0 ∧ third.toNat = 0 ∧ fourth.toNat = 0 ∧
        fifth.toNat = 0 ∧ sixth.toNat = 0 ∧ seventh.toNat = 0 ∧ eighth.toNat = 1) ∨
      first.toNat / 64 = 0x3FA ∨ first.toNat / 512 = 0x7E := by
  have groups : second.toNat < 65536 ∧ third.toNat < 65536 ∧ fourth.toNat < 65536 ∧
      fifth.toNat < 65536 ∧ sixth.toNat < 65536 ∧ seventh.toNat < 65536 ∧
      eighth.toNat < 65536 :=
    ⟨second.toNat_lt, third.toNat_lt, fourth.toNat_lt, fifth.toNat_lt, sixth.toNat_lt,
      seventh.toNat_lt, eighth.toNat_lt⟩
  obtain ⟨number, whole⟩ : ∃ number, number =
      (Address.v6 first second third fourth fifth sixth seventh eighth).number := ⟨_, rfl⟩
  have numbered : (∃ block ∈ nearBlocks,
      block.Holds (.v6 first second third fourth fifth sixth seventh eighth)) ↔
        number = 1 ∨ number / 2 ^ 118 = 0x3FA ∨ number / 2 ^ 121 = 0x7E := by
    simp [whole, nearBlocks, Block.Holds, Address.width, Address.number]
  rw [Address.number] at whole
  have leading : number / 2 ^ 112 = first.toNat := by omega
  have link : number / 2 ^ 118 = first.toNat / 64 := by
    rw [← leading, Nat.div_div_eq_div_mul]
    rfl
  have unique : number / 2 ^ 121 = first.toNat / 512 := by
    rw [← leading, Nat.div_div_eq_div_mul]
    rfl
  have loop : number = 1 ↔ first.toNat = 0 ∧ second.toNat = 0 ∧ third.toNat = 0 ∧
      fourth.toNat = 0 ∧ fifth.toNat = 0 ∧ sixth.toNat = 0 ∧ seventh.toNat = 0 ∧
      eighth.toNat = 1 := by
    omega
  rw [numbered, loop, link, unique]

/-- An address of version 4 has an origin that is not public exactly if one of the
blocks holds it. -/
theorem originOfV4_isPrivate_iff (first second third fourth : UInt8) :
    (originOfV4 first second).isPrivate = true ↔
      ∃ block ∈ nearBlocks, block.Holds (.v4 first second third fourth) := by
  have masked : second &&& 0xF0 = 16 ↔ second.toNat / 16 = 1 := by
    rw [← UInt8.toNat_inj, UInt8.toNat_and]
    exact and_mask_eq_iff 4 4 second.toNat_lt 1
  have listed : (originOfV4 first second).isPrivate = true ↔
      first = 127 ∨ (first = 10 ∨ first = 172 ∧ second &&& 0xF0 = 16 ∨
        first = 192 ∧ second = 168) ∨ first = 169 ∧ second = 254 := by
    unfold originOfV4
    split_ifs <;> simp_all [Origin.isPrivate]
  rw [listed, masked, holds_v4_iff]
  simp only [← UInt8.toNat_inj, UInt8.reduceToNat, or_assoc]

/-- The origin of an address of version 6 that is judged by itself. -/
theorem Address.origin_of_own {first second third fourth fifth sixth seventh eighth : UInt16}
    (own : (v6 first second third fourth fifth sixth seventh eighth).asV4? = none) :
    (v6 first second third fourth fifth sixth seventh eighth).origin =
      if first = 0 ∧ second = 0 ∧ third = 0 ∧ fourth = 0 ∧ fifth = 0 ∧ sixth = 0 ∧
        seventh = 0 ∧ eighth = 1 then .localHost
      else if first &&& 0xFFC0 = 0xFE80 then .linkLocal
      else if first &&& 0xFE00 = 0xFC00 then .uniqueLocal
      else .publicNetwork := by
  rw [origin.eq_def, own]
  by_cases loop : first = 0 ∧ second = 0 ∧ third = 0 ∧ fourth = 0 ∧ fifth = 0 ∧ sixth = 0 ∧
      seventh = 0 ∧ eighth = 1
  · rw [if_pos loop]
    obtain ⟨rfl, rfl, rfl, rfl, rfl, rfl, rfl, rfl⟩ := loop
    rfl
  · rw [if_neg loop]
    dsimp only
    split
    next same =>
      injection same
      exact absurd ⟨‹_›, ‹_›, ‹_›, ‹_›, ‹_›, ‹_›, ‹_›, ‹_›⟩ loop
    next same =>
      injection same
      subst_vars
      rfl
    next same => cases same

/-- An address of version 6 that is judged by itself has an origin that is not public
exactly if one of the blocks holds it. -/
theorem isPrivate_iff_of_own {first second third fourth fifth sixth seventh eighth : UInt16}
    (own : (Address.v6 first second third fourth fifth sixth seventh eighth).asV4? = none) :
    (Address.v6 first second third fourth fifth sixth seventh eighth).isPrivate = true ↔
      ∃ block ∈ nearBlocks,
        block.Holds (.v6 first second third fourth fifth sixth seventh eighth) := by
  have link : first &&& 0xFFC0 = 0xFE80 ↔ first.toNat / 64 = 0x3FA := by
    rw [← UInt16.toNat_inj, UInt16.toNat_and]
    exact and_mask_eq_iff 10 6 first.toNat_lt 0x3FA
  have unique : first &&& 0xFE00 = 0xFC00 ↔ first.toNat / 512 = 0x7E := by
    rw [← UInt16.toNat_inj, UInt16.toNat_and]
    exact and_mask_eq_iff 7 9 first.toNat_lt 0x7E
  have listed : (Address.v6 first second third fourth fifth sixth seventh eighth).isPrivate = true ↔
      (first = 0 ∧ second = 0 ∧ third = 0 ∧ fourth = 0 ∧ fifth = 0 ∧ sixth = 0 ∧
        seventh = 0 ∧ eighth = 1) ∨ first &&& 0xFFC0 = 0xFE80 ∨ first &&& 0xFE00 = 0xFC00 := by
    rw [Address.isPrivate, Address.origin_of_own own]
    split_ifs <;> simp_all [Origin.isPrivate]
  rw [listed, link, unique, holds_v6_iff]
  simp only [← UInt16.toNat_inj, UInt16.reduceToNat]

/-- No block holds an address of version 6 that stands for one of version 4. -/
theorem not_holds_mapped {block : Block} (known : block ∈ nearBlocks)
    (first second third fourth : UInt8) :
    ¬ block.Holds (.mapped first second third fourth) := by
  intro holds
  rcases (holds_v6_iff 0 0 0 0 0 0xFFFF _ _).mp ⟨block, known, holds⟩ with
    ⟨_, _, _, _, _, sixth, _⟩ | link | unique
  · exact absurd sixth (by decide)
  · exact absurd link (by decide)
  · exact absurd unique (by decide)

theorem Address.isPrivate_mapped (first second third fourth : UInt8) :
    (mapped first second third fourth).isPrivate =
      (v4 first second third fourth).isPrivate := by
  rw [isPrivate, origin.eq_def, asV4?_mapped]
  rfl

/-- The machine behind an address is local or on a private network exactly if the
address, or the one of version 4 that it stands for, lies in one of the blocks. -/
theorem Address.isPrivate_iff (address : Address) :
    address.isPrivate = true ↔ Near address := by
  constructor
  · intro close
    cases address with
    | v4 first second third fourth =>
        obtain ⟨block, known, holds⟩ :=
          (originOfV4_isPrivate_iff first second third fourth).mp close
        exact .inside known holds
    | v6 first second third fourth fifth sixth seventh eighth =>
        rcases mapped_or_asV4?_none first second third fourth fifth sixth seventh eighth with
          ⟨one, two, three, four, same⟩ | own
        · rw [same] at close ⊢
          rw [isPrivate_mapped] at close
          obtain ⟨block, known, holds⟩ :=
            (originOfV4_isPrivate_iff one two three four).mp close
          exact .mapped (.inside known holds)
        · obtain ⟨block, known, holds⟩ := (isPrivate_iff_of_own own).mp close
          exact .inside known holds
  · intro near
    induction near with
    | @inside address block known holds =>
        cases address with
        | v4 first second third fourth =>
            exact (originOfV4_isPrivate_iff first second third fourth).mpr
              ⟨block, known, holds⟩
        | v6 first second third fourth fifth sixth seventh eighth =>
            rcases mapped_or_asV4?_none first second third fourth fifth sixth seventh eighth with
              ⟨one, two, three, four, same⟩ | own
            · rw [same] at holds
              exact absurd holds (not_holds_mapped known one two three four)
            · exact (isPrivate_iff_of_own own).mpr ⟨block, known, holds⟩
    | mapped near close =>
        rw [isPrivate_mapped]
        exact close

example : Near (.mapped 172 31 255 255) ∧ ¬ Near (.v4 172 32 0 0) := by
  simp only [← Address.isPrivate_iff]
  decide

end EngineGateway.Net
