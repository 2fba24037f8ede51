import EngineGateway.Text.CodePage
import EngineGateway.Proofs.Text.Utf8

/-!
# What conversion keeps

The characters of the code page and its assigned octets correspond to each other one by
one.  So conversion in one direction undoes conversion in the other, apart from what is
lost on purpose: carriage returns are dropped, and a question mark takes the place of an
unassigned octet, of a character that the code page does not have, and of each flaw in
UTF-8.  Reading a reply is conversion to text, whichever way it is done.
-/

namespace EngineGateway.Text.CodePage

/-! ## Octets and characters -/

/-- The octets to which the code page assigns no character. -/
def unassigned : List UInt8 := [0x81, 0x8D, 0x8F, 0x90, 0x9D]

/-- The code page has the character. -/
def Assigned (character : Char) : Prop :=
  ∃ octet, decodeByte octet = some character

/-- What holds of all numbers below 256 holds of all octets. -/
theorem forall_octet {property : UInt8 → Prop}
    (every : ∀ number < 256, property (UInt8.ofNat number)) (octet : UInt8) :
    property octet := by
  have here := every octet.toNat octet.toNat_lt
  rwa [UInt8.ofNat_toNat] at here

theorem decodeByte_eq_none_iff (octet : UInt8) :
    decodeByte octet = none ↔ octet ∈ unassigned := by
  revert octet
  apply forall_octet
  decide +kernel

theorem all_encodeChar_decodeByte (octet : UInt8) :
    (decodeByte octet).all (fun character => encodeChar character == some octet) = true := by
  revert octet
  apply forall_octet
  decide +kernel

theorem decodeByte_of_encodeChar {character : Char} {octet : UInt8}
    (encoded : encodeChar character = some octet) : decodeByte octet = some character := by
  simp only [encodeChar] at encoded
  split_ifs at encoded with same
  · cases encoded
    have number : (UInt8.ofNat character.toNat).toNat = character.toNat :=
      UInt8.toNat_ofNat_of_lt (by simp only [UInt8.size]; omega)
    have direct : UInt8.ofNat character.toNat < 0x80 ∨ 0xA0 ≤ UInt8.ofNat character.toNat := by
      simp only [UInt8.lt_iff_toNat_lt, UInt8.le_iff_toNat_le, number, UInt8.reduceToNat]
      omega
    rw [decodeByte, if_pos direct, number, Char.ofNat_toNat]
  · obtain ⟨index, listed, rfl⟩ := Option.map_eq_some_iff.mp encoded
    obtain ⟨bounded, found, _⟩ := List.findIdx?_eq_some_iff_getElem.mp listed
    have short : index < 32 := bounded
    have number : (UInt8.ofNat (0x80 + index)).toNat = 0x80 + index :=
      UInt8.toNat_ofNat_of_lt (by simp only [UInt8.size]; omega)
    have inside : ¬ (UInt8.ofNat (0x80 + index) < 0x80 ∨ 0xA0 ≤ UInt8.ofNat (0x80 + index)) := by
      simp only [UInt8.lt_iff_toNat_lt, UInt8.le_iff_toNat_le, number, UInt8.reduceToNat]
      omega
    rw [decodeByte, if_neg inside, number, Nat.add_sub_cancel_left,
      List.getElem?_eq_getElem bounded, eq_of_beq found]
    rfl

/-- Octets and characters correspond to each other one by one. -/
theorem encodeChar_eq_some_iff {character : Char} {octet : UInt8} :
    encodeChar character = some octet ↔ decodeByte octet = some character := by
  constructor
  · exact decodeByte_of_encodeChar
  · intro decoded
    have inverse := all_encodeChar_decodeByte octet
    rw [decoded] at inverse
    simpa using inverse

theorem assigned_iff {character : Char} :
    Assigned character ↔ (encodeChar character).isSome = true := by
  simp only [Assigned, Option.isSome_iff_exists, encodeChar_eq_some_iff]

instance : DecidablePred Assigned :=
  fun _ => decidable_of_iff _ assigned_iff.symm

/-! ## What is lost -/

/-- What the code page makes of a character. -/
def fit (character : Char) : Char :=
  if Assigned character then character else '?'

/-- What the code page makes of a text. -/
def fitText (characters : List Char) : String :=
  String.ofList ((characters.filter (· != '\r')).map fit)

/-- What text makes of an octet. -/
def mend (octet : UInt8) : UInt8 :=
  if octet ∈ unassigned then replacement else octet

/-- What text makes of octets. -/
def mendOctets (octets : Bytes) : Bytes :=
  (octets.filter (· != carriageReturn)).map mend

theorem decodeByte_replacement : decodeByte replacement = some '?' := by decide

theorem decodeByte_carriageReturn : decodeByte carriageReturn = some '\r' := by decide

/-- No other octet becomes a carriage return. -/
theorem eq_carriageReturn {octet : UInt8} (decoded : decodeByte octet = some '\r') :
    octet = carriageReturn := by
  have one := encodeChar_eq_some_iff.mpr decoded
  have other := encodeChar_eq_some_iff.mpr decodeByte_carriageReturn
  exact Option.some.inj (one.symm.trans other)

/-- A character that is no carriage return becomes an octet that stands for what the code
page makes of the character. -/
theorem encodePiece_some {character : Char} (kept : character ≠ '\r') :
    ∃ octet, encodePiece (some character) = some octet ∧ octet ≠ carriageReturn ∧
      decodeByte octet = some (fit character) := by
  rw [encodePiece, if_neg kept, fit]
  cases encoded : encodeChar character with
  | none =>
      have outside : ¬ Assigned character := by simp [assigned_iff, encoded]
      rw [if_neg outside]
      exact ⟨replacement, rfl, by decide, decodeByte_replacement⟩
  | some octet =>
      have inside : Assigned character := by simp [assigned_iff, encoded]
      have decoded := encodeChar_eq_some_iff.mp encoded
      rw [if_pos inside]
      refine ⟨octet, rfl, ?_, decoded⟩
      rintro rfl
      rw [decodeByte_carriageReturn] at decoded
      exact kept (Option.some.inj decoded).symm

/-- The character of an octet becomes that octet again, if it is an assigned one. -/
theorem encodePiece_decodeByte {octet : UInt8} (kept : octet ≠ carriageReturn) :
    encodePiece (some ((decodeByte octet).getD '?')) = some (mend octet) := by
  rw [mend]
  cases decoded : decodeByte octet with
  | none =>
      rw [if_pos ((decodeByte_eq_none_iff octet).mp decoded)]
      decide
  | some character =>
      have assigned : octet ∉ unassigned := by
        rw [← decodeByte_eq_none_iff, decoded]
        simp
      have other : character ≠ '\r' := by
        rintro rfl
        exact kept (eq_carriageReturn decoded)
      rw [if_neg assigned, Option.getD_some, encodePiece, if_neg other,
        encodeChar_eq_some_iff.mpr decoded, Option.getD_some]

/-! ## There and back -/

/-- What is read of UTF-8 comes back as far as the code page has it. -/
theorem toText_filterMap (found : List (Option Char)) :
    toText (found.filterMap encodePiece) = fitText (found.map (·.getD '\uFFFD')) := by
  unfold toText fitText
  congr 1
  induction found with
  | nil => rfl
  | cons piece rest ih =>
      cases piece with
      | none =>
          have flaw : encodePiece none = some replacement := rfl
          rw [List.filterMap_cons_some flaw, List.map_cons, Option.getD_none,
            List.filter_cons_of_pos (by decide), List.filter_cons_of_pos (by decide),
            List.map_cons, List.map_cons, ih]
          rfl
      | some character =>
          rw [List.map_cons, Option.getD_some]
          by_cases kept : character = '\r'
          · subst kept
            rw [List.filterMap_cons_none rfl, List.filter_cons_of_neg (by decide), ih]
          · obtain ⟨octet, becomes, other, decoded⟩ := encodePiece_some kept
            rw [List.filterMap_cons_some becomes, List.filter_cons_of_pos (by simpa using other),
              List.filter_cons_of_pos (by simpa using kept), List.map_cons, List.map_cons, ih,
              decoded, Option.getD_some]

theorem toText_ofUtf8 (octets : Bytes) :
    toText (ofUtf8 octets) = fitText ((Utf8.decode octets).map (·.getD '\uFFFD')) :=
  toText_filterMap _

theorem ofText_eq (text : String) :
    ofText text = text.toList.filterMap fun character => encodePiece (some character) := by
  rw [ofText, ofUtf8, Utf8.decode_encode, List.filterMap_map]
  rfl

theorem toText_ofText (text : String) : toText (ofText text) = fitText text.toList := by
  have whole : (text.toList.map some).map (·.getD '\uFFFD') = text.toList := by
    rw [List.map_map]
    exact List.map_id _
  rw [ofText, toText_ofUtf8, Utf8.decode_encode, whole]

theorem ofText_toText (octets : Bytes) : ofText (toText octets) = mendOctets octets := by
  rw [ofText_eq, toText, String.toList_ofList, List.filterMap_map, mendOctets,
    ← List.filterMap_eq_map]
  refine List.filterMap_congr ?_
  intro octet member
  have kept : octet ≠ carriageReturn := by simpa using (List.mem_filter.mp member).2
  exact encodePiece_decodeByte kept

/-- A reply that is text as it stands is read as conversion reads it. -/
theorem readReply_eq (octets : Bytes) : readReply octets = toText octets := by
  unfold readReply
  split_ifs with plain
  · simp only [isPlain, List.all_eq_true, Bool.and_eq_true, decide_eq_true_eq] at plain
    have kept : octets.filter (· != carriageReturn) = octets :=
      List.filter_eq_self.mpr fun octet member => (plain octet member).2
    rw [toText, kept]
    congr 1
    refine List.map_congr_left ?_
    intro octet member
    rw [decodeByte, if_pos (.inl (plain octet member).1), Option.getD_some]
  · rfl

/-! ## What survives -/

/-- Filtering and then changing elements leaves a list as it is only if no element is
dropped or changed. -/
theorem map_filter_eq_self_iff {α : Type} {kept : α → Bool} {change : α → α} {list : List α} :
    (list.filter kept).map change = list ↔
      ∀ element ∈ list, kept element = true ∧ change element = element := by
  constructor
  · intro same
    have length : (list.filter kept).length = list.length := by
      rw [← List.length_map change, same]
    have whole : list.filter kept = list := List.filter_sublist.eq_of_length length
    rw [whole] at same
    have unchanged : list.map change = list.map id := same.trans (List.map_id list).symm
    intro element member
    exact ⟨List.filter_eq_self.mp whole element member,
      List.map_inj_left.mp unchanged element member⟩
  · intro every
    rw [List.filter_eq_self.mpr fun element member => (every element member).1]
    exact (List.map_congr_left fun element member => (every element member).2).trans
      (List.map_id list)

theorem assigned_question : Assigned '?' := ⟨replacement, decodeByte_replacement⟩

theorem fit_eq_self_iff {character : Char} : fit character = character ↔ Assigned character := by
  unfold fit
  split_ifs with assigned
  · simp [assigned]
  · refine iff_of_false ?_ assigned
    rintro rfl
    exact assigned assigned_question

theorem mend_eq_self_iff {octet : UInt8} : mend octet = octet ↔ octet ∉ unassigned := by
  unfold mend
  split_ifs with gap
  · refine iff_of_false ?_ (not_not_intro gap)
    rintro rfl
    revert gap
    decide
  · simp [gap]

theorem mendOctets_eq_self_iff {octets : Bytes} :
    mendOctets octets = octets ↔
      ∀ octet ∈ octets, octet ≠ carriageReturn ∧ octet ∉ unassigned := by
  rw [mendOctets, map_filter_eq_self_iff]
  simp only [bne_iff_ne, mend_eq_self_iff]

theorem fitText_eq_self_iff {text : String} :
    fitText text.toList = text ↔
      ∀ character ∈ text.toList, character ≠ '\r' ∧ Assigned character := by
  rw [fitText, ← String.toList_inj, String.toList_ofList, map_filter_eq_self_iff]
  simp only [bne_iff_ne, fit_eq_self_iff]

end EngineGateway.Text.CodePage
