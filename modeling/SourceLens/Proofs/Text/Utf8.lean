import Mathlib.Data.List.Forall2
import SourceLens.Text.Utf8

/-!
# Well-formed bytes

The table of lead bytes says which bytes may follow which (`followers`). Bytes are well formed when
they are divided into characters by the table (`WellFormed`): no longer form than needed, no
surrogate and nothing cut short. These are exactly the bytes that are read as text
(`exists_decode_iff`), because a character is encoded by bytes of the table and all bytes of the
table encode one (`isCharacter_iff`).
-/
namespace SourceLens.Text.Utf8

/-- A byte lies in a range. -/
def InRange (byte : UInt8) (range : UInt8 × UInt8) : Prop := range.1 ≤ byte ∧ byte ≤ range.2

/-- Some bytes are one character of the table: a lead byte, and behind it one byte of every range
that must follow. -/
inductive IsCharacter : List UInt8 → Prop where
  /-- The lead byte is in the table and the other bytes follow it. -/
  | intro {lead : UInt8} {rest : List UInt8} (ranges : List (UInt8 × UInt8))
    (begins : followers lead = some ranges) (follow : List.Forall₂ InRange rest ranges) :
    IsCharacter (lead :: rest)

/-- Bytes are characters of the table one after the other. -/
inductive WellFormed : List UInt8 → Prop where
  /-- No bytes are well formed. -/
  | nil : WellFormed []
  /-- A character may stand in front of well-formed bytes. -/
  | append {character rest : List UInt8} (first : IsCharacter character)
    (others : WellFormed rest) : WellFormed (character ++ rest)

/-! ## Bytes as numbers -/

/-- The byte with a number has this number. -/
theorem toNat_ofNat_byte {number : Nat} (small : number < 256) :
    (UInt8.ofNat number).toNat = number := by
  rw [UInt8.toNat_ofNat']
  omega

/-- Every byte has a number. -/
theorem exists_number (byte : UInt8) : ∃ number < 256, byte = UInt8.ofNat number :=
  ⟨byte.toNat, byte.toNat_lt, by simp⟩

/-- The numbers of a range. -/
theorem inRange_ofNat {number : Nat} (small : number < 256) (range : UInt8 × UInt8) :
    InRange (UInt8.ofNat number) range ↔ range.1.toNat ≤ number ∧ number ≤ range.2.toNat := by
  simp only [InRange, UInt8.le_iff_toNat_le, toNat_ofNat_byte small]

/-- A byte with one of the numbers of a range lies in it. -/
theorem inRange_of_le {number : Nat} {range : UInt8 × UInt8} (low : range.1.toNat ≤ number)
    (high : number ≤ range.2.toNat) : InRange (UInt8.ofNat number) range :=
  (inRange_ofNat (Nat.lt_of_le_of_lt high range.2.toNat_lt) range).mpr ⟨low, high⟩

/-- A byte of a range has one of its numbers. -/
theorem exists_of_inRange {byte : UInt8} {range : UInt8 × UInt8} (inside : InRange byte range) :
    ∃ number, range.1.toNat ≤ number ∧ number ≤ range.2.toNat ∧ byte = UInt8.ofNat number :=
  ⟨byte.toNat, UInt8.le_iff_toNat_le.mp inside.1, UInt8.le_iff_toNat_le.mp inside.2, by simp⟩

/-- The table by the number of the lead byte. -/
theorem followers_ofNat {lead : Nat} (small : lead < 256) :
    followers (UInt8.ofNat lead) =
      if lead < 0x80 then some []
      else if lead < 0xC2 then none
      else if lead < 0xE0 then some [(0x80, 0xBF)]
      else if lead = 0xE0 then some [(0xA0, 0xBF), (0x80, 0xBF)]
      else if lead = 0xED then some [(0x80, 0x9F), (0x80, 0xBF)]
      else if lead < 0xF0 then some [(0x80, 0xBF), (0x80, 0xBF)]
      else if lead = 0xF0 then some [(0x90, 0xBF), (0x80, 0xBF), (0x80, 0xBF)]
      else if lead < 0xF4 then some [(0x80, 0xBF), (0x80, 0xBF), (0x80, 0xBF)]
      else if lead = 0xF4 then some [(0x80, 0x8F), (0x80, 0xBF), (0x80, 0xBF)]
      else none := by
  simp only [followers, UInt8.lt_iff_toNat_lt, ← UInt8.toNat_inj, toNat_ofNat_byte small]
  rfl

/-! ## Characters -/

/-- The bytes of a character by the number of its code point. -/
theorem utf8EncodeChar_ofNat {point : Nat} (valid : point.isValidChar) :
    String.utf8EncodeChar (Char.ofNat point) =
      if point ≤ 0x7F then [UInt8.ofNat point]
      else if point ≤ 0x7FF then
        [UInt8.ofNat (point / 64 % 32 + 192), UInt8.ofNat (point % 64 + 128)]
      else if point ≤ 0xFFFF then
        [UInt8.ofNat (point / 4096 % 16 + 224), UInt8.ofNat (point / 64 % 64 + 128),
          UInt8.ofNat (point % 64 + 128)]
      else
        [UInt8.ofNat (point / 262144 % 8 + 240), UInt8.ofNat (point / 4096 % 64 + 128),
          UInt8.ofNat (point / 64 % 64 + 128), UInt8.ofNat (point % 64 + 128)] := by
  have same : (Char.ofNat point).val.toNat = point := by
    rw [Char.ofNat, dif_pos valid]
    rfl
  simp only [String.utf8EncodeChar, same]

/-- A continuation byte with any bits. -/
theorem inRange_continuation (number : Nat) :
    InRange (UInt8.ofNat (number % 64 + 128)) (0x80, 0xBF) :=
  inRange_of_le (by simp) (by simp; omega)

/-- The three bytes of a code point are in the table. The first lead byte keeps longer forms than
needed out, another one the surrogates. -/
theorem isCharacter_of_three {point : Nat} (low : 0x7FF < point) (high : point ≤ 0xFFFF)
    (scalar : point < 0xD800 ∨ 0xDFFF < point) :
    IsCharacter [UInt8.ofNat (point / 4096 % 16 + 224), UInt8.ofNat (point / 64 % 64 + 128),
      UInt8.ofNat (point % 64 + 128)] := by
  have any := inRange_continuation
  by_cases shortest : point < 0x1000
  · refine .intro [(0xA0, 0xBF), (0x80, 0xBF)] ?_ (.cons ?_ (.cons (any _) .nil))
    · rw [show point / 4096 % 16 + 224 = 0xE0 by omega]
      rfl
    · exact inRange_of_le (by simp; omega) (by simp; omega)
  by_cases surrogate : 0xD000 ≤ point ∧ point < 0xE000
  · refine .intro [(0x80, 0x9F), (0x80, 0xBF)] ?_ (.cons ?_ (.cons (any _) .nil))
    · rw [show point / 4096 % 16 + 224 = 0xED by omega]
      rfl
    · exact inRange_of_le (by simp) (by simp; omega)
  · refine .intro [(0x80, 0xBF), (0x80, 0xBF)] ?_ (.cons (any _) (.cons (any _) .nil))
    rw [followers_ofNat (by omega), if_neg (by omega), if_neg (by omega), if_neg (by omega),
      if_neg (by omega), if_neg (by omega), if_pos (by omega)]

/-- The four bytes of a code point are in the table. The first lead byte keeps longer forms than
needed out, the last one what lies beyond the code points. -/
theorem isCharacter_of_four {point : Nat} (low : 0xFFFF < point) (high : point < 0x110000) :
    IsCharacter [UInt8.ofNat (point / 262144 % 8 + 240), UInt8.ofNat (point / 4096 % 64 + 128),
      UInt8.ofNat (point / 64 % 64 + 128), UInt8.ofNat (point % 64 + 128)] := by
  have any := inRange_continuation
  by_cases shortest : point < 0x40000
  · refine .intro [(0x90, 0xBF), (0x80, 0xBF), (0x80, 0xBF)] ?_
      (.cons ?_ (.cons (any _) (.cons (any _) .nil)))
    · rw [show point / 262144 % 8 + 240 = 0xF0 by omega]
      rfl
    · exact inRange_of_le (by simp; omega) (by simp; omega)
  by_cases last : 0x100000 ≤ point
  · refine .intro [(0x80, 0x8F), (0x80, 0xBF), (0x80, 0xBF)] ?_
      (.cons ?_ (.cons (any _) (.cons (any _) .nil)))
    · rw [show point / 262144 % 8 + 240 = 0xF4 by omega]
      rfl
    · exact inRange_of_le (by simp) (by simp; omega)
  · refine .intro [(0x80, 0xBF), (0x80, 0xBF), (0x80, 0xBF)] ?_
      (.cons (any _) (.cons (any _) (.cons (any _) .nil)))
    rw [followers_ofNat (by omega), if_neg (by omega), if_neg (by omega), if_neg (by omega),
      if_neg (by omega), if_neg (by omega), if_neg (by omega), if_neg (by omega),
      if_pos (by omega)]

/-- The bytes that encode a character are in the table. -/
theorem isCharacter_utf8EncodeChar (c : Char) : IsCharacter (String.utf8EncodeChar c) := by
  have valid : c.toNat.isValidChar := c.valid
  rw [← Char.ofNat_toNat c]
  generalize c.toNat = point at valid
  rw [utf8EncodeChar_ofNat valid]
  simp only [Nat.isValidChar] at valid
  split
  · refine .intro [] ?_ .nil
    rw [followers_ofNat (by omega), if_pos (by omega)]
  split
  · refine .intro [(0x80, 0xBF)] ?_ (.cons (inRange_continuation _) .nil)
    rw [followers_ofNat (by omega), if_neg (by omega), if_neg (by omega), if_pos (by omega)]
  split
  · exact isCharacter_of_three (by omega) (by omega) (by omega)
  · exact isCharacter_of_four (by omega) (by omega)

/-- Two bytes of the table encode a character. -/
theorem exists_char_of_two {first second : Nat} (lead : 0xC2 ≤ first ∧ first < 0xE0)
    (next : 0x80 ≤ second ∧ second ≤ 0xBF) :
    ∃ c, String.utf8EncodeChar c = [UInt8.ofNat first, UInt8.ofNat second] := by
  let point := (first - 192) * 64 + (second - 128)
  have valid : point.isValidChar := by
    simp only [Nat.isValidChar, point]
    omega
  refine ⟨Char.ofNat point, ?_⟩
  rw [utf8EncodeChar_ofNat valid, if_neg (by omega), if_pos (by omega)]
  rw [show point / 64 % 32 + 192 = first by omega, show point % 64 + 128 = second by omega]

/-- Three bytes of the table encode a character. -/
theorem exists_char_of_three {first second third : Nat} (lead : 0xE0 ≤ first ∧ first < 0xF0)
    (next : 0x80 ≤ second ∧ second ≤ 0xBF) (last : 0x80 ≤ third ∧ third ≤ 0xBF)
    (shortest : first = 0xE0 → 0xA0 ≤ second) (scalar : first = 0xED → second ≤ 0x9F) :
    ∃ c, String.utf8EncodeChar c =
      [UInt8.ofNat first, UInt8.ofNat second, UInt8.ofNat third] := by
  let point := (first - 224) * 4096 + (second - 128) * 64 + (third - 128)
  have valid : point.isValidChar := by
    simp only [Nat.isValidChar, point]
    omega
  refine ⟨Char.ofNat point, ?_⟩
  rw [utf8EncodeChar_ofNat valid, if_neg (by omega), if_neg (by omega), if_pos (by omega)]
  rw [show point / 4096 % 16 + 224 = first by omega, show point / 64 % 64 + 128 = second by omega,
    show point % 64 + 128 = third by omega]

/-- Four bytes of the table encode a character. -/
theorem exists_char_of_four {first second third fourth : Nat}
    (lead : 0xF0 ≤ first ∧ first ≤ 0xF4) (next : 0x80 ≤ second ∧ second ≤ 0xBF)
    (later : 0x80 ≤ third ∧ third ≤ 0xBF) (last : 0x80 ≤ fourth ∧ fourth ≤ 0xBF)
    (shortest : first = 0xF0 → 0x90 ≤ second) (scalar : first = 0xF4 → second ≤ 0x8F) :
    ∃ c, String.utf8EncodeChar c =
      [UInt8.ofNat first, UInt8.ofNat second, UInt8.ofNat third, UInt8.ofNat fourth] := by
  let point := (first - 240) * 262144 + (second - 128) * 4096 + (third - 128) * 64 + (fourth - 128)
  have valid : point.isValidChar := by
    simp only [Nat.isValidChar, point]
    omega
  refine ⟨Char.ofNat point, ?_⟩
  rw [utf8EncodeChar_ofNat valid, if_neg (by omega), if_neg (by omega), if_neg (by omega)]
  rw [show point / 262144 % 8 + 240 = first by omega,
    show point / 4096 % 64 + 128 = second by omega, show point / 64 % 64 + 128 = third by omega,
    show point % 64 + 128 = fourth by omega]

/-- A lead byte by the number of bytes that follow it, with what restricts the first of them. -/
theorem followers_cases {lead : Nat} {ranges : List (UInt8 × UInt8)} (small : lead < 256)
    (begins : followers (UInt8.ofNat lead) = some ranges) :
    (lead < 0x80 ∧ ranges = []) ∨
    ((0xC2 ≤ lead ∧ lead < 0xE0) ∧ ranges = [(0x80, 0xBF)]) ∨
    ((0xE0 ≤ lead ∧ lead < 0xF0) ∧ ∃ low high : UInt8, ranges = [(low, high), (0x80, 0xBF)] ∧
      0x80 ≤ low.toNat ∧ high.toNat ≤ 0xBF ∧ (lead = 0xE0 → 0xA0 ≤ low.toNat) ∧
      (lead = 0xED → high.toNat ≤ 0x9F)) ∨
    ((0xF0 ≤ lead ∧ lead ≤ 0xF4) ∧
      ∃ low high : UInt8, ranges = [(low, high), (0x80, 0xBF), (0x80, 0xBF)] ∧
      0x80 ≤ low.toNat ∧ high.toNat ≤ 0xBF ∧ (lead = 0xF0 → 0x90 ≤ low.toNat) ∧
      (lead = 0xF4 → high.toNat ≤ 0x8F)) := by
  rw [followers_ofNat small] at begins
  by_cases ascii : lead < 0x80
  · rw [if_pos ascii] at begins
    exact .inl ⟨ascii, (Option.some.inj begins).symm⟩
  rw [if_neg ascii] at begins
  by_cases unused : lead < 0xC2
  · rw [if_pos unused] at begins
    cases begins
  rw [if_neg unused] at begins
  by_cases two : lead < 0xE0
  · rw [if_pos two] at begins
    exact .inr (.inl ⟨by omega, (Option.some.inj begins).symm⟩)
  rw [if_neg two] at begins
  by_cases shortest : lead = 0xE0
  · rw [if_pos shortest] at begins
    refine .inr (.inr (.inl ⟨by omega, _, _, (Option.some.inj begins).symm, ?_⟩))
    exact ⟨by decide, by decide, fun _ => by decide, by omega⟩
  rw [if_neg shortest] at begins
  by_cases surrogates : lead = 0xED
  · rw [if_pos surrogates] at begins
    refine .inr (.inr (.inl ⟨by omega, _, _, (Option.some.inj begins).symm, ?_⟩))
    exact ⟨by decide, by decide, by omega, fun _ => by decide⟩
  rw [if_neg surrogates] at begins
  by_cases three : lead < 0xF0
  · rw [if_pos three] at begins
    refine .inr (.inr (.inl ⟨by omega, _, _, (Option.some.inj begins).symm, ?_⟩))
    exact ⟨by decide, by decide, by omega, by omega⟩
  rw [if_neg three] at begins
  by_cases shortestFour : lead = 0xF0
  · rw [if_pos shortestFour] at begins
    refine .inr (.inr (.inr ⟨by omega, _, _, (Option.some.inj begins).symm, ?_⟩))
    exact ⟨by decide, by decide, fun _ => by decide, by omega⟩
  rw [if_neg shortestFour] at begins
  by_cases four : lead < 0xF4
  · rw [if_pos four] at begins
    refine .inr (.inr (.inr ⟨by omega, _, _, (Option.some.inj begins).symm, ?_⟩))
    exact ⟨by decide, by decide, by omega, by omega⟩
  rw [if_neg four] at begins
  by_cases last : lead = 0xF4
  · rw [if_pos last] at begins
    refine .inr (.inr (.inr ⟨by omega, _, _, (Option.some.inj begins).symm, ?_⟩))
    exact ⟨by decide, by decide, by omega, fun _ => by decide⟩
  rw [if_neg last] at begins
  cases begins

/-- The bytes of the table encode characters. -/
theorem exists_char_of_isCharacter {bytes : List UInt8} (listed : IsCharacter bytes) :
    ∃ c, String.utf8EncodeChar c = bytes := by
  cases listed with
  | @intro lead rest ranges begins follow =>
    obtain ⟨first, small, rfl⟩ := exists_number lead
    rcases followers_cases small begins with ⟨ascii, rfl⟩ | ⟨two, rfl⟩ |
      ⟨three, low, high, rfl, bounds⟩ | ⟨four, low, high, rfl, bounds⟩
    · cases follow
      refine ⟨Char.ofNat first, ?_⟩
      rw [utf8EncodeChar_ofNat (by simp only [Nat.isValidChar]; omega), if_pos (by omega)]
    · rcases follow with _ | ⟨second, _ | _⟩
      obtain ⟨second, least, most, rfl⟩ := exists_of_inRange second
      exact exists_char_of_two two ⟨least, most⟩
    · rcases follow with _ | ⟨second, _ | ⟨third, _ | _⟩⟩
      obtain ⟨second, least, most, rfl⟩ := exists_of_inRange second
      obtain ⟨third, least', most', rfl⟩ := exists_of_inRange third
      dsimp only at least most
      exact exists_char_of_three three (by omega) ⟨least', most'⟩ (by omega) (by omega)
    · rcases follow with _ | ⟨second, _ | ⟨third, _ | ⟨fourth, _ | _⟩⟩⟩
      obtain ⟨second, least, most, rfl⟩ := exists_of_inRange second
      obtain ⟨third, least', most', rfl⟩ := exists_of_inRange third
      obtain ⟨fourth, least'', most'', rfl⟩ := exists_of_inRange fourth
      dsimp only at least most
      exact exists_char_of_four four (by omega) ⟨least', most'⟩ ⟨least'', most''⟩ (by omega)
        (by omega)

/-- The table lists the bytes that encode characters. -/
theorem isCharacter_iff {bytes : List UInt8} :
    IsCharacter bytes ↔ ∃ c, String.utf8EncodeChar c = bytes := by
  constructor
  · exact exists_char_of_isCharacter
  · rintro ⟨c, rfl⟩
    exact isCharacter_utf8EncodeChar c

/-! ## Texts -/

/-- The bytes that encode some characters. -/
def encode (s : List Char) : List UInt8 := s.flatMap String.utf8EncodeChar

/-- The bytes of a text are those of its characters. -/
theorem toList_data_toUTF8 (text : String) : text.toUTF8.data.toList = encode text.toList := by
  rw [String.toUTF8_eq_toByteArray, ← String.utf8Encode_toList]
  exact List.toList_data_toByteArray

/-- Bytes are well formed when they encode some characters. -/
theorem wellFormed_iff {bytes : List UInt8} : WellFormed bytes ↔ ∃ s, encode s = bytes := by
  constructor
  · intro wellFormed
    induction wellFormed with
    | nil => exact ⟨[], rfl⟩
    | append first _ ih =>
      obtain ⟨c, rfl⟩ := isCharacter_iff.mp first
      obtain ⟨s, rfl⟩ := ih
      exact ⟨c :: s, rfl⟩
  · rintro ⟨s, rfl⟩
    induction s with
    | nil => exact .nil
    | cons c rest ih => exact .append (isCharacter_utf8EncodeChar c) ih

/-- The bytes that are read as text are the well-formed ones. -/
theorem exists_decode_iff {bytes : ByteArray} :
    (∃ text, decode bytes = .ok text) ↔ WellFormed bytes.data.toList := by
  simp only [decode_eq_ok_iff, wellFormed_iff]
  constructor
  · rintro ⟨text, rfl⟩
    exact ⟨text.toList, (toList_data_toUTF8 text).symm⟩
  · rintro ⟨s, encoded⟩
    refine ⟨String.ofList s, ?_⟩
    apply ByteArray.ext
    apply Array.toList_inj.mp
    rw [toList_data_toUTF8, String.toList_ofList, encoded]

end SourceLens.Text.Utf8
