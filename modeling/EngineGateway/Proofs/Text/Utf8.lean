import EngineGateway.Text.Utf8
import Mathlib.Data.List.Basic

/-!
# What reading UTF-8 with repair comes to

UTF-8 is the set of encodings of scalar values.  Octets that are not UTF-8 are repaired:
where no encoding starts, the longest run of octets that starts one counts as a single
flaw, or one octet if nothing starts there.  There is exactly one way to read octets like
this, and it is the one that the decoder finds.

The decoder goes by what the lead octet announces.  A lead octet and the octets that
follow it are an encoding exactly if they keep to the announcement, so the decoder stops
where no encoding can go on, and nowhere else.
-/

namespace EngineGateway.Text.Utf8

/-! ## Readings -/

/-- Some encoding starts with the octets. -/
def Starts (octets : Bytes) : Prop :=
  ∃ character, octets <+: String.utf8EncodeChar character

/-- The flaw is a maximal invalid subpart in front of `rest`. -/
structure Flaw (flaw rest : Bytes) : Prop where
  filled : flaw ≠ []
  invalid : ∀ character, ¬ String.utf8EncodeChar character <+: flaw ++ rest
  starts : Starts flaw ∨ flaw.length = 1
  longest : ∀ longer, longer <+: flaw ++ rest → Starts longer → longer.length ≤ flaw.length

/-- The octets are read as scalar values and flaws, which are found as `none`. -/
inductive Reads : Bytes → List (Option Char) → Prop where
  | nil : Reads [] []
  | character (character : Char) {rest : Bytes} {found : List (Option Char)} :
      Reads rest found →
      Reads (String.utf8EncodeChar character ++ rest) (some character :: found)
  | flaw {flaw rest : Bytes} {found : List (Option Char)} :
      Flaw flaw rest → Reads rest found → Reads (flaw ++ rest) (none :: found)

/-- Two flaws at the start of the same octets are the same. -/
theorem Flaw.unique {first second behind after : Bytes} (one : Flaw first behind)
    (other : Flaw second after) (same : first ++ behind = second ++ after) :
    first = second ∧ behind = after := by
  have shorter : ∀ {short long behind after : Bytes}, Flaw short behind → Flaw long after →
      short ++ behind = long ++ after → short.length ≤ long.length := by
    intro short long behind after early late same
    have within : short <+: long ++ after := ⟨behind, same⟩
    rcases early.starts with starts | single
    · exact late.longest short within starts
    · have filled := List.length_pos_iff.mpr late.filled
      omega
  have le := shorter one other same
  have ge := shorter other one same.symm
  exact List.append_inj same (Nat.le_antisymm le ge)

/-! ## Lead octets -/

/-- What a lead octet announces, by its value. -/
inductive Announces (octet : UInt8) : Lead → Prop where
  | ascii : octet.toNat < 0x80 → Announces octet ⟨0, octet.toNat, 0x80, 0xBF⟩
  | two : 0xC2 ≤ octet.toNat → octet.toNat < 0xE0 →
      Announces octet ⟨1, octet.toNat - 0xC0, 0x80, 0xBF⟩
  | threeLow : octet.toNat = 0xE0 → Announces octet ⟨2, 0, 0xA0, 0xBF⟩
  | threeHigh : octet.toNat = 0xED → Announces octet ⟨2, 0xD, 0x80, 0x9F⟩
  | three : 0xE0 < octet.toNat → octet.toNat < 0xF0 → octet.toNat ≠ 0xED →
      Announces octet ⟨2, octet.toNat - 0xE0, 0x80, 0xBF⟩
  | fourLow : octet.toNat = 0xF0 → Announces octet ⟨3, 0, 0x90, 0xBF⟩
  | four : 0xF0 < octet.toNat → octet.toNat < 0xF4 →
      Announces octet ⟨3, octet.toNat - 0xF0, 0x80, 0xBF⟩
  | fourHigh : octet.toNat = 0xF4 → Announces octet ⟨3, 4, 0x80, 0x8F⟩

theorem lead?_eq_some_iff {octet : UInt8} {lead : Lead} :
    lead? octet = some lead ↔ Announces octet lead := by
  simp only [lead?, UInt8.lt_iff_toNat_lt, ← UInt8.toNat_inj, UInt8.reduceToNat]
  constructor
  · intro announced
    repeat' split at announced
    all_goals cases announced
    · exact .ascii ‹_›
    · exact .two (by omega) ‹_›
    · exact .threeLow ‹_›
    · exact .threeHigh ‹_›
    · exact .three (by grind) ‹_› ‹_›
    · exact .fourLow ‹_›
    · exact .four (by grind) ‹_›
    · exact .fourHigh ‹_›
  · intro announced
    cases announced <;> grind

/-! ## Octets that follow -/

/-- As many octets as are to follow, the first of them between the bounds and the others
plain continuation octets. -/
inductive Completes : Nat → UInt8 → UInt8 → Bytes → Prop where
  | done {low high : UInt8} : Completes 0 low high []
  | more {following : Nat} {low high octet : UInt8} {rest : Bytes} :
      low ≤ octet → octet ≤ high → Completes following 0x80 0xBF rest →
      Completes (following + 1) low high (octet :: rest)

/-- The value that the octets make up together with the bits before them. -/
def total (value : Nat) (octets : Bytes) : Nat :=
  octets.foldl (fun value octet => value * 64 + (octet.toNat - 0x80)) value

theorem total_cons (value : Nat) (octet : UInt8) (rest : Bytes) :
    total value (octet :: rest) = total (value * 64 + (octet.toNat - 0x80)) rest :=
  List.foldl_cons ..

/-- The octets after a lead octet complete a sequence and make up a value. -/
structure Lead.Closes (lead : Lead) (octets : Bytes) (value : Nat) : Prop where
  completes : Completes lead.following lead.low lead.high octets
  makes : value = total lead.bits octets

section Encoding

variable {character : Char} {octet second third fourth : UInt8}

theorem ofNat_eq (octet : UInt8) {number : Nat} (same : octet.toNat = number) :
    UInt8.ofNat number = octet := by
  subst same
  exact UInt8.ofNat_toNat

theorem encode_one (low : octet.toNat < 0x80) (makes : character.toNat = octet.toNat) :
    String.utf8EncodeChar character = [octet] := by
  have size : character.val.toNat = _ := makes
  simp only [String.utf8EncodeChar, size]
  rw [if_pos (by omega), ofNat_eq octet rfl]

theorem encode_two (low : 0xC2 ≤ octet.toNat) (high : octet.toNat < 0xE0)
    (inner : 0x80 ≤ second.toNat ∧ second.toNat ≤ 0xBF)
    (makes : character.toNat = (octet.toNat - 0xC0) * 64 + (second.toNat - 0x80)) :
    String.utf8EncodeChar character = [octet, second] := by
  have size : character.val.toNat = _ := makes
  simp only [String.utf8EncodeChar, size]
  rw [if_neg (by omega), if_pos (by omega), ofNat_eq octet (by omega),
    ofNat_eq second (by omega)]

theorem encode_three (low : 0xE0 ≤ octet.toNat) (high : octet.toNat < 0xF0)
    (inner : 0x80 ≤ second.toNat ∧ second.toNat ≤ 0xBF)
    (last : 0x80 ≤ third.toNat ∧ third.toNat ≤ 0xBF) (big : 0x800 ≤ character.toNat)
    (makes : character.toNat = ((octet.toNat - 0xE0) * 64 + (second.toNat - 0x80)) * 64 +
      (third.toNat - 0x80)) :
    String.utf8EncodeChar character = [octet, second, third] := by
  have size : character.val.toNat = _ := makes
  rw [makes] at big
  simp only [String.utf8EncodeChar, size]
  rw [if_neg (by omega), if_neg (by omega), if_pos (by omega),
    ofNat_eq octet (by omega), ofNat_eq second (by omega),
    ofNat_eq third (by omega)]

theorem encode_four (low : 0xF0 ≤ octet.toNat) (high : octet.toNat ≤ 0xF4)
    (inner : 0x80 ≤ second.toNat ∧ second.toNat ≤ 0xBF)
    (next : 0x80 ≤ third.toNat ∧ third.toNat ≤ 0xBF)
    (last : 0x80 ≤ fourth.toNat ∧ fourth.toNat ≤ 0xBF) (big : 0x10000 ≤ character.toNat)
    (makes : character.toNat = (((octet.toNat - 0xF0) * 64 + (second.toNat - 0x80)) * 64 +
      (third.toNat - 0x80)) * 64 + (fourth.toNat - 0x80)) :
    String.utf8EncodeChar character = [octet, second, third, fourth] := by
  have size : character.val.toNat = _ := makes
  rw [makes] at big
  simp only [String.utf8EncodeChar, size]
  rw [if_neg (by omega), if_neg (by omega), if_neg (by omega),
    ofNat_eq octet (by omega), ofNat_eq second (by omega),
    ofNat_eq third (by omega), ofNat_eq fourth (by omega)]

end Encoding

/-- A sequence that keeps to the announcement of its lead octet encodes the value that
it makes up, if that is a scalar value. -/
theorem Lead.Closes.encode {octet : UInt8} {tail : Bytes} {lead : Lead} {character : Char}
    (closes : lead.Closes tail character.toNat) (announced : lead? octet = some lead) :
    String.utf8EncodeChar character = octet :: tail := by
  rcases closes with ⟨completes, makes⟩
  cases lead?_eq_some_iff.mp announced with
  | ascii low =>
      cases completes
      exact encode_one low makes
  | two low high =>
      rcases completes with _ | ⟨begins, ends, _ | _⟩
      exact encode_two low high ⟨begins, ends⟩ makes
  | threeLow _ | threeHigh _ | three _ _ _ =>
      rcases completes with _ | ⟨begins, ends, _ | ⟨next, last, _ | _⟩⟩
      simp only [total, List.foldl_cons, List.foldl_nil, UInt8.le_iff_toNat_le,
        UInt8.reduceToNat] at begins ends next last makes
      apply encode_three
      case big => omega
      case makes => exact makes.trans (by omega)
      all_goals clear makes; omega
  | fourLow _ | four _ _ | fourHigh _ =>
      rcases completes with _ | ⟨begins, ends, _ | ⟨next, last, _ | ⟨later, least, _ | _⟩⟩⟩
      simp only [total, List.foldl_cons, List.foldl_nil, UInt8.le_iff_toNat_le,
        UInt8.reduceToNat] at begins ends next last later least makes
      apply encode_four
      case big => omega
      case makes => exact makes.trans (by omega)
      all_goals clear makes; omega

/-- The encoding of a scalar value keeps to the announcement of its lead octet. -/
theorem exists_closes_of_encode {octet : UInt8} {tail : Bytes} {character : Char}
    (encoded : String.utf8EncodeChar character = octet :: tail) :
    ∃ lead, lead? octet = some lead ∧ lead.Closes tail character.toNat := by
  have scalar : character.toNat < 0xD800 ∨
      0xDFFF < character.toNat ∧ character.toNat < 0x110000 := character.valid
  have size : character.val.toNat = character.toNat := rfl
  simp only [String.utf8EncodeChar, size] at encoded
  generalize character.toNat = value at *
  simp only [lead?_eq_some_iff]
  split_ifs at encoded with one two three <;> obtain ⟨rfl, rfl⟩ := List.cons.inj encoded
  · refine ⟨_, .ascii ?_, .done, ?_⟩
    all_goals simp [total]; omega
  · refine ⟨_, .two ?_ ?_, .more ?_ ?_ .done, ?_⟩
    all_goals simp [total, UInt8.le_iff_toNat_le]; omega
  · by_cases least : value / 4096 = 0
    · refine ⟨_, .threeLow ?_, .more ?_ ?_ (.more ?_ ?_ .done), ?_⟩
      all_goals simp [total, UInt8.le_iff_toNat_le]; omega
    by_cases surrogates : value / 4096 = 0xD
    · refine ⟨_, .threeHigh ?_, .more ?_ ?_ (.more ?_ ?_ .done), ?_⟩
      all_goals simp [total, UInt8.le_iff_toNat_le]; omega
    · refine ⟨_, .three ?_ ?_ ?_, .more ?_ ?_ (.more ?_ ?_ .done), ?_⟩
      all_goals simp [total, UInt8.le_iff_toNat_le]; omega
  · by_cases least : value / 262144 = 0
    · refine ⟨_, .fourLow ?_, .more ?_ ?_ (.more ?_ ?_ (.more ?_ ?_ .done)), ?_⟩
      all_goals simp [total, UInt8.le_iff_toNat_le]; omega
    by_cases greatest : value / 262144 = 4
    · refine ⟨_, .fourHigh ?_, .more ?_ ?_ (.more ?_ ?_ (.more ?_ ?_ .done)), ?_⟩
      all_goals simp [total, UInt8.le_iff_toNat_le]; omega
    · refine ⟨_, .four ?_ ?_, .more ?_ ?_ (.more ?_ ?_ (.more ?_ ?_ .done)), ?_⟩
      all_goals simp [total, UInt8.le_iff_toNat_le]; omega

/-- Lead octets and the octets after them: what is announced and kept to is an encoding,
and every encoding is of this form. -/
theorem encode_eq_cons_iff {octet : UInt8} {tail : Bytes} {character : Char} :
    String.utf8EncodeChar character = octet :: tail ↔
      ∃ lead, lead? octet = some lead ∧ lead.Closes tail character.toNat := by
  constructor
  · exact exists_closes_of_encode
  · rintro ⟨lead, announced, closes⟩
    exact closes.encode announced

/-- What a sequence makes up that keeps to its announcement is a scalar value. -/
theorem isValidChar_of_completes {octet : UInt8} {tail : Bytes} {lead : Lead}
    (announced : lead? octet = some lead)
    (completes : Completes lead.following lead.low lead.high tail) :
    (total lead.bits tail).isValidChar := by
  cases lead?_eq_some_iff.mp announced with
  | ascii low =>
      cases completes
      exact .inl (Nat.lt_trans low (by omega))
  | two low high =>
      rcases completes with _ | ⟨_, _, _ | _⟩
      simp only [Nat.isValidChar, total, List.foldl_cons, List.foldl_nil,
        UInt8.le_iff_toNat_le, UInt8.reduceToNat] at *
      omega
  | threeLow _ | threeHigh _ | three _ _ _ =>
      rcases completes with _ | ⟨_, _, _ | ⟨_, _, _ | _⟩⟩
      simp only [Nat.isValidChar, total, List.foldl_cons, List.foldl_nil,
        UInt8.le_iff_toNat_le, UInt8.reduceToNat] at *
      omega
  | fourLow _ | four _ _ | fourHigh _ =>
      rcases completes with _ | ⟨_, _, _ | ⟨_, _, _ | ⟨_, _, _ | _⟩⟩⟩
      simp only [Nat.isValidChar, total, List.foldl_cons, List.foldl_nil,
        UInt8.le_iff_toNat_le, UInt8.reduceToNat] at *
      omega

theorem exists_encode_of_completes {octet : UInt8} {tail : Bytes} {lead : Lead}
    (announced : lead? octet = some lead)
    (completes : Completes lead.following lead.low lead.high tail) :
    ∃ character, String.utf8EncodeChar character = octet :: tail := by
  have number : (Char.ofNat (total lead.bits tail)).toNat = total lead.bits tail := by
    rw [Char.ofNat, dif_pos (isValidChar_of_completes announced completes)]
    rfl
  exact ⟨_, Lead.Closes.encode ⟨completes, number⟩ announced⟩

/-! ## Reading the octets that follow -/

/-- Whatever is announced can be kept to. -/
theorem exists_completes (following : Nat) {low high : UInt8} (wide : low ≤ high) :
    ∃ octets, Completes following low high octets := by
  induction following generalizing low high with
  | zero => exact ⟨[], .done⟩
  | succ more ih =>
      obtain ⟨rest, completes⟩ := ih (by decide : (0x80 : UInt8) ≤ 0xBF)
      exact ⟨low :: rest, .more (UInt8.le_refl low) wide completes⟩

/-- The announcement has been kept to so far and could be kept to further, but not with
the next octet of what is left. -/
structure Stuck (following : Nat) (low high : UInt8) (taken rest : Bytes) : Prop where
  goes : ∃ more, Completes following low high (taken ++ more)
  ends : ∀ further more, further <+: taken ++ rest →
    Completes following low high (further ++ more) → further.length ≤ taken.length

theorem continuation_of_completes {following : Nat} {low high : UInt8} {tail : Bytes}
    (completes : Completes following low high tail) (value : Nat) (rest : Bytes) :
    continuation following low high value (tail ++ rest) =
      (some (Char.ofNat (total value tail)), rest) := by
  induction completes generalizing value with
  | done => cases rest <;> rfl
  | more begins ends _ ih =>
      rw [List.cons_append, continuation, if_pos ⟨begins, ends⟩, ih, total_cons]

/-- Reading goes as far as the announcement is kept to. -/
theorem continuation_cases (following : Nat) {low high : UInt8} (wide : low ≤ high)
    (value : Nat) (octets : Bytes) :
    (∃ tail rest, octets = tail ++ rest ∧ Completes following low high tail) ∨
    ∃ taken rest, octets = taken ++ rest ∧ Stuck following low high taken rest ∧
      continuation following low high value octets = (none, rest) := by
  induction octets generalizing following low high value with
  | nil =>
      cases following with
      | zero => exact .inl ⟨[], [], rfl, .done⟩
      | succ more =>
          refine .inr ⟨[], [], rfl, ⟨exists_completes _ wide, ?_⟩, rfl⟩
          intro further _ within _
          exact within.length_le
  | cons octet rest ih =>
      cases following with
      | zero => exact .inl ⟨[], octet :: rest, rfl, .done⟩
      | succ more =>
          by_cases fits : low ≤ octet ∧ octet ≤ high
          · rw [continuation, if_pos fits]
            have plain : (0x80 : UInt8) ≤ 0xBF := by decide
            rcases ih more plain (value * 64 + (octet.toNat - 0x80)) with
              ⟨tail, behind, rfl, completes⟩ | ⟨taken, behind, rfl, ⟨⟨_, goes⟩, ends⟩, stops⟩
            · exact .inl ⟨octet :: tail, behind, rfl, .more fits.1 fits.2 completes⟩
            · refine .inr ⟨octet :: taken, behind, rfl, ⟨⟨_, .more fits.1 fits.2 goes⟩, ?_⟩, stops⟩
              intro further more within completes
              cases further with
              | nil => exact Nat.zero_le _
              | cons first later =>
                  rw [List.cons_append] at completes
                  cases completes with
                  | more _ _ completes =>
                      have inside := (List.cons_prefix_cons.mp within).2
                      exact Nat.succ_le_succ (ends later _ inside completes)
          · refine .inr ⟨[], octet :: rest, rfl, ⟨exists_completes _ wide, ?_⟩, ?_⟩
            · intro further more within completes
              cases further with
              | nil => exact Nat.le_refl _
              | cons first later =>
                  have same := (List.cons_prefix_cons.mp within).1
                  subst same
                  rw [List.cons_append] at completes
                  cases completes with
                  | more begins ends _ => exact absurd ⟨begins, ends⟩ fits
            · rw [continuation, if_neg fits]

/-! ## Pieces -/

/-- An encoding is read as the scalar value that it encodes. -/
theorem piece_of_encode {octet : UInt8} {tail : Bytes} {character : Char}
    (encoded : String.utf8EncodeChar character = octet :: tail) (rest : Bytes) :
    piece octet (tail ++ rest) = (some character, rest) := by
  obtain ⟨lead, announced, completes, makes⟩ := encode_eq_cons_iff.mp encoded
  simp only [piece, announced, continuation_of_completes completes, ← makes,
    Char.ofNat_toNat]

/-- A nonempty start of an encoding has a lead octet, and what follows keeps to the
announcement as far as it goes. -/
theorem starts_cons_iff {octet : UInt8} {taken : Bytes} :
    Starts (octet :: taken) ↔ ∃ lead, lead? octet = some lead ∧
      ∃ more, Completes lead.following lead.low lead.high (taken ++ more) := by
  constructor
  · rintro ⟨character, more, encoded⟩
    obtain ⟨lead, announced, closes⟩ := encode_eq_cons_iff.mp encoded.symm
    exact ⟨lead, announced, more, closes.completes⟩
  · rintro ⟨lead, announced, more, completes⟩
    obtain ⟨character, encoded⟩ := exists_encode_of_completes announced completes
    exact ⟨character, more, encoded.symm⟩

/-- Announced bounds leave room. -/
theorem low_le_high {octet : UInt8} {lead : Lead} (announced : lead? octet = some lead) :
    lead.low ≤ lead.high := by
  cases lead?_eq_some_iff.mp announced <;> dsimp only <;> decide

/-- A piece is an encoding or a flaw. -/
theorem piece_cases (octet : UInt8) (rest : Bytes) :
    (∃ character tail behind, String.utf8EncodeChar character = octet :: tail ∧
      rest = tail ++ behind ∧ piece octet rest = (some character, behind)) ∨
    ∃ taken behind, rest = taken ++ behind ∧ Flaw (octet :: taken) behind ∧
      piece octet rest = (none, behind) := by
  -- Where no piece is found no encoding starts, since it would have been found.
  have invalid : ∀ taken behind, rest = taken ++ behind → piece octet rest = (none, behind) →
      ∀ character, ¬ String.utf8EncodeChar character <+: octet :: taken ++ behind := by
    rintro taken behind rfl stopped character ⟨more, joined⟩
    cases encoded : String.utf8EncodeChar character with
    | nil => exact String.utf8EncodeChar_ne_nil encoded
    | cons first tail =>
        rw [encoded, List.cons_append, List.cons_append] at joined
        obtain ⟨rfl, same⟩ := List.cons.inj joined
        rw [← same, piece_of_encode encoded] at stopped
        cases stopped
  cases announced : lead? octet with
  | none =>
      have stopped : piece octet rest = (none, rest) := by simp only [piece, announced]
      refine .inr ⟨[], rest, rfl, ?_, stopped⟩
      refine ⟨by simp, invalid [] rest rfl stopped, .inr rfl, ?_⟩
      intro longer within starts
      cases longer with
      | nil => exact Nat.zero_le _
      | cons first taken =>
          have same := (List.cons_prefix_cons.mp within).1
          subst same
          obtain ⟨lead, contradictory, _⟩ := starts_cons_iff.mp starts
          rw [announced] at contradictory
          cases contradictory
  | some lead =>
      have reads : piece octet rest =
          continuation lead.following lead.low lead.high lead.bits rest := by
        simp only [piece, announced]
      rcases continuation_cases lead.following (low_le_high announced) lead.bits rest with
        ⟨tail, behind, rfl, completes⟩ | ⟨taken, behind, rfl, ⟨goes, ends⟩, stops⟩
      · obtain ⟨character, encoded⟩ := exists_encode_of_completes announced completes
        exact .inl ⟨character, tail, behind, encoded, rfl, piece_of_encode encoded behind⟩
      · have stopped := reads.trans stops
        refine .inr ⟨taken, behind, rfl, ?_, stopped⟩
        refine ⟨by simp, invalid taken behind rfl stopped, .inl ?_, ?_⟩
        · exact starts_cons_iff.mpr ⟨lead, announced, goes⟩
        · intro longer within starts
          cases longer with
          | nil => exact Nat.zero_le _
          | cons first further =>
              obtain ⟨same, inside⟩ := List.cons_prefix_cons.mp within
              subst same
              obtain ⟨other, again, more, completes⟩ := starts_cons_iff.mp starts
              rw [announced] at again
              cases again
              exact Nat.succ_le_succ (ends further more inside completes)

/-! ## Decoding -/

theorem decodeOnto_append (found earlier : List (Option Char)) (octets : Bytes) :
    decodeOnto (found ++ earlier) octets = earlier.reverse ++ decodeOnto found octets := by
  induction found, octets using decodeOnto.induct with
  | case1 found => simp [decodeOnto]
  | case2 found octet rest ih =>
      rw [decodeOnto, decodeOnto, ← ih]
      rfl

@[simp] theorem decode_nil : decode [] = [] := by
  simp [decode, decodeOnto]

theorem decode_cons (octet : UInt8) (rest : Bytes) :
    decode (octet :: rest) = (piece octet rest).1 :: decode (piece octet rest).2 := by
  rw [decode, decodeOnto]
  exact decodeOnto_append [] [_] _

theorem decode_encode_append (character : Char) (rest : Bytes) :
    decode (String.utf8EncodeChar character ++ rest) = some character :: decode rest := by
  cases encoded : String.utf8EncodeChar character with
  | nil => exact absurd encoded String.utf8EncodeChar_ne_nil
  | cons octet tail =>
      rw [List.cons_append, decode_cons, piece_of_encode encoded]

theorem Flaw.decode_append {flaw rest : Bytes} (flawed : Flaw flaw rest) :
    decode (flaw ++ rest) = none :: decode rest := by
  cases flaw with
  | nil => exact absurd rfl flawed.filled
  | cons octet taken =>
      rw [List.cons_append, decode_cons]
      rcases piece_cases octet (taken ++ rest) with
        ⟨character, tail, behind, encoded, joined, _⟩ | ⟨other, behind, joined, again, stopped⟩
      · exfalso
        apply flawed.invalid character
        rw [encoded, List.cons_append, joined]
        exact List.prefix_append (octet :: tail) behind
      · have same := flawed.unique again (congrArg (octet :: ·) joined)
        rw [stopped, same.2]

/-- There is exactly one way to read octets, which the decoder finds. -/
theorem reads_iff {octets : Bytes} {found : List (Option Char)} :
    Reads octets found ↔ decode octets = found := by
  constructor
  · intro reads
    induction reads with
    | nil => exact decode_nil
    | character character _ ih => rw [decode_encode_append, ih]
    | flaw flawed _ ih => rw [flawed.decode_append, ih]
  · rintro rfl
    refine decodeOnto.induct (motive := fun _ octets => Reads octets (decode octets))
      ?_ ?_ [] octets
    · intro _
      rw [decode_nil]
      exact .nil
    · intro _ octet rest ih
      rw [decode_cons]
      rcases piece_cases octet rest with
        ⟨character, tail, behind, encoded, rfl, found⟩ | ⟨taken, behind, rfl, flawed, found⟩
      · rw [found] at ih ⊢
        rw [← List.cons_append, ← encoded]
        exact .character character ih
      · rw [found] at ih ⊢
        exact .flaw flawed ih

-- A cut-off sequence is a single flaw, but an octet that leads nothing is one by itself.
example : decode [0xE2, 0x82, 0x41, 0xC0, 0xAF] = [none, some 'A', none, none] := by
  decide +kernel

theorem decode_text_append (text : String) (rest : Bytes) :
    decode (encode text ++ rest) = text.toList.map some ++ decode rest := by
  unfold encode
  induction text.toList with
  | nil => rfl
  | cons character characters ih =>
      rw [List.flatMap_cons, List.append_assoc, decode_encode_append, ih, List.map_cons,
        List.cons_append]

theorem decode_encode (text : String) : decode (encode text) = text.toList.map some := by
  have whole := decode_text_append text []
  rwa [List.append_nil, decode_nil, List.append_nil] at whole

/-- Repair leaves a text alone that stands before octets of any kind. -/
theorem toList_repair_append (text : String) (rest : Bytes) :
    (repair (encode text ++ rest)).toList = text.toList ++ (repair rest).toList := by
  simp [repair, decode_text_append, Function.comp_def]

/-- An ASCII character at the start of repaired octets was there before. -/
theorem eq_of_repair_cons {octet : UInt8} {rest : Bytes} {character : Char}
    {characters : List Char} (starts : (repair (octet :: rest)).toList = character :: characters)
    (ascii : character.toNat < 0x80) : octet.toNat = character.toNat := by
  rw [repair, String.toList_ofList, decode_cons, List.map_cons] at starts
  have first := List.head_eq_of_cons_eq starts
  rcases piece_cases octet rest with
    ⟨found, tail, behind, encoded, _, read⟩ | ⟨taken, behind, _, _, read⟩
  · rw [read, Option.getD_some] at first
    obtain rfl := first
    have makes : found.toNat = (UInt8.ofNat found.toNat).toNat := by
      rw [UInt8.toNat_ofNat']
      omega
    rw [encode_one (makes ▸ ascii) makes] at encoded
    rw [← List.head_eq_of_cons_eq encoded, ← makes]
  · rw [read, Option.getD_none] at first
    rw [← first] at ascii
    exact absurd ascii (by decide)

/-! ## Valid octets -/

/-- Octets that are read without a flaw are the encoding of what is read. -/
theorem Reads.encode_eq {octets : Bytes} {found : List (Option Char)} (reads : Reads octets found)
    (whole : ∀ piece ∈ found, piece.isSome = true) :
    encode (String.ofList (found.filterMap id)) = octets := by
  simp only [encode, String.toList_ofList]
  induction reads with
  | nil => rfl
  | character character _ ih =>
      rw [List.filterMap_cons_some (by rfl), List.flatMap_cons,
        ih fun piece member => whole piece (.tail _ member)]
  | flaw _ _ _ => simpa using whole none (.head _)

/-- Octets are valid exactly if they are the encoding of a text, and that text is read. -/
theorem text?_eq_some_iff {octets : Bytes} {text : String} :
    text? octets = some text ↔ encode text = octets := by
  constructor
  · intro read
    simp only [text?] at read
    split_ifs at read with whole
    obtain rfl := Option.some.inj read
    exact (reads_iff.mpr rfl).encode_eq (List.all_eq_true.mp whole)
  · rintro rfl
    simp [text?, decode_encode]

/-- Only NUL has a zero in its encoding. -/
theorem zero_mem_encodeChar {character : Char} :
    0 ∈ String.utf8EncodeChar character ↔ character = '\x00' := by
  constructor
  · intro member
    have size : character.val.toNat = character.toNat := rfl
    have zero : character.toNat = 0 := by
      simp only [String.utf8EncodeChar, size] at member
      split_ifs at member <;>
        simp only [List.mem_cons, List.not_mem_nil, or_false, ← UInt8.toNat_inj,
          UInt8.toNat_ofNat'] at member <;>
        simp at member <;> omega
    exact Char.toNat_inj.mp zero
  · rintro rfl
    decide

end EngineGateway.Text.Utf8
