import SourceLens.Proofs.Text.Utf8

/-!
# Cut texts

A text is cut after some of its bytes and read leniently. The cut may fall inside a character; the
bytes of the character that are left are then a piece that no character consists of, and become one
replacement character however many they are (`lenient_of_cut`). So the reading has as many
characters as begin before the cut (`length_lenient_take`), whatever the widths of the characters
are and wherever the cut falls.
-/
namespace SourceLens.Text.Utf8

/-! ## The bytes of an array one by one -/

/-- The loop that lists the bytes of an array appends the bytes from an index on to those listed
before it. -/
theorem toList_loop (bytes : ByteArray) (index : Nat) (seen : List UInt8) :
    ByteArray.toList.loop bytes index seen = seen.reverse ++ bytes.data.toList.drop index := by
  fun_induction ByteArray.toList.loop bytes index seen with
  | case1 index seen inside ih =>
    have listed : index < bytes.data.toList.length := inside
    have here : bytes.get! index = bytes.data.toList[index] := getElem!_pos bytes.data index inside
    rw [ih, List.drop_eq_getElem_cons listed, here, List.reverse_cons, List.append_assoc,
      List.singleton_append]
  | case2 index seen outside =>
    have behind : bytes.data.toList.length ≤ index := Nat.le_of_not_lt outside
    rw [List.drop_eq_nil_of_le behind, List.append_nil]

/-- The bytes of an array are listed in order. -/
theorem toList_eq_data (bytes : ByteArray) : bytes.toList = bytes.data.toList := by
  simp [ByteArray.toList, toList_loop]

/-! ## The first piece -/

/-- Bytes in the ranges that must follow make up a character with as many bytes. -/
theorem follow_of_inRange {rest : List UInt8} {ranges : List (UInt8 × UInt8)}
    (follow : List.Forall₂ InRange rest ranges) (more : List UInt8) (point size : Nat) :
    ∃ c, Piece.follow ranges (rest ++ more) point size = .character c (size + rest.length) := by
  induction follow generalizing point size with
  | nil => exact ⟨Char.ofNat point, rfl⟩
  | @cons byte range rest ranges inside _ ih =>
    obtain ⟨c, read⟩ := ih (point * 64 + byte.toNat % 64) (size + 1)
    refine ⟨c, ?_⟩
    have fits : range.1 ≤ byte ∧ byte ≤ range.2 := inside
    rw [List.cons_append, Piece.follow, if_pos fits, read, List.length_cons,
      Nat.add_right_comm, Nat.add_assoc]

/-- Fewer bytes than must follow, each in its range, are cut short after the last of them. -/
theorem follow_of_cut {rest : List UInt8} {ranges : List (UInt8 × UInt8)}
    (follow : List.Forall₂ InRange rest ranges) {count : Nat} (fewer : count < rest.length)
    (point size : Nat) :
    Piece.follow ranges (rest.take count) point size = .fault .cutShort (size + count) := by
  induction follow generalizing count point size with
  | nil => simp at fewer
  | @cons byte range rest ranges inside _ ih =>
    cases count with
    | zero => rfl
    | succ count =>
      have later : count < rest.length := by simpa using fewer
      have fits : range.1 ≤ byte ∧ byte ≤ range.2 := inside
      rw [List.take_succ_cons, Piece.follow, if_pos fits, ih later, Nat.add_right_comm,
        Nat.add_assoc]

/-! ## The whole reading -/

/-- Nothing is read from no bytes. -/
theorem lenient_nil : lenient [] = [] := by
  rw [lenient]

/-- The bytes of a character are read as one character, whatever follows them. -/
theorem lenient_of_character {character : List UInt8} (whole : IsCharacter character)
    (more : List UInt8) : ∃ c, lenient (character ++ more) = c :: lenient more := by
  cases whole with
  | @intro lead rest ranges begins follow =>
    obtain ⟨c, read⟩ := follow_of_inRange follow more (leadBits lead ranges.length) 1
    have first : Piece.first lead (rest ++ more) = .character c (1 + rest.length) := by
      simp only [Piece.first, begins, read]
    refine ⟨c, ?_⟩
    rw [List.cons_append, lenient, first]
    simp only [Nat.add_sub_cancel_left, List.drop_left]

/-- Some of the bytes of a character, from the first on and without the last, are read as one
replacement character. -/
theorem lenient_of_cut {character : List UInt8} (whole : IsCharacter character) {count : Nat}
    (begun : 0 < count) (fewer : count < character.length) :
    lenient (character.take count) = [replacement] := by
  cases whole with
  | @intro lead rest ranges begins follow =>
    obtain ⟨count, rfl⟩ := Nat.exists_eq_succ_of_ne_zero (Nat.ne_of_gt begun)
    have later : count < rest.length := by simpa using fewer
    have cut := follow_of_cut follow later (leadBits lead ranges.length) 1
    have first : Piece.first lead (rest.take count) = .fault .cutShort (1 + count) := by
      simp only [Piece.first, begins, cut]
    have nothing : (rest.take count).drop count = [] :=
      List.drop_eq_nil_of_le (List.length_take_le _ _)
    rw [List.take_succ_cons, lenient, first]
    simp only [Nat.add_sub_cancel_left, nothing, lenient_nil]

/-! ## Characters before a cut -/

/-- The number of bytes before the character with an index. -/
def beginning (s : List Char) (index : Nat) : Nat := (encode (s.take index)).length

/-- The number of characters that begin before a byte offset. -/
def countBegun (s : List Char) (offset : Nat) : Nat :=
  (List.range s.length).countP fun index => beginning s index < offset

/-- No character begins before the first byte. -/
theorem countBegun_zero (s : List Char) : countBegun s 0 = 0 := by
  simp [countBegun]

/-- The first character begins before any other offset; the others begin behind its bytes. -/
theorem countBegun_cons (c : Char) (rest : List Char) {offset : Nat} (positive : 0 < offset) :
    countBegun (c :: rest) offset =
      countBegun rest (offset - (String.utf8EncodeChar c).length) + 1 := by
  have behind (index : Nat) : beginning (c :: rest) (index + 1) < offset ↔
      beginning rest index < offset - (String.utf8EncodeChar c).length := by
    simp only [beginning, encode, List.take_succ_cons, List.flatMap_cons, List.length_append]
    omega
  simp only [countBegun, List.length_cons, List.range_succ_eq_map, List.countP_cons,
    List.countP_map, Function.comp_def, Nat.succ_eq_add_one, behind]
  simp [beginning, encode, positive]

/-- Characters whose bytes all lie before an offset begin before it; the others are counted from
their own first byte on. -/
theorem countBegun_append (front back : List Char) {offset : Nat}
    (before : (encode front).length ≤ offset) :
    countBegun (front ++ back) offset =
      front.length + countBegun back (offset - (encode front).length) := by
  induction front generalizing offset with
  | nil => simp [encode]
  | cons c rest ih =>
    have bytes : (encode (c :: rest)).length =
        (String.utf8EncodeChar c).length + (encode rest).length := by simp [encode]
    have width : 0 < (String.utf8EncodeChar c).length := by
      rw [String.length_utf8EncodeChar]
      exact c.utf8Size_pos
    rw [List.cons_append, countBegun_cons c (rest ++ back) (by omega), ih (by omega), bytes,
      List.length_cons, Nat.sub_sub, Nat.add_right_comm]

/-- A text that is cut after some bytes and read leniently has as many characters as begin before
the cut. -/
theorem length_lenient_take (s : List Char) (offset : Nat) :
    (lenient ((encode s).take offset)).length = countBegun s offset := by
  induction s generalizing offset with
  | nil => simp [encode, lenient_nil, countBegun]
  | cons c rest ih =>
    have character := isCharacter_utf8EncodeChar c
    have bytes : encode (c :: rest) = String.utf8EncodeChar c ++ encode rest := rfl
    rcases Nat.eq_zero_or_pos offset with rfl | positive
    · rw [List.take_zero, lenient_nil, countBegun_zero, List.length_nil]
    rw [countBegun_cons c rest positive, bytes]
    by_cases whole : (String.utf8EncodeChar c).length ≤ offset
    · rw [List.take_append, List.take_of_length_le whole]
      obtain ⟨first, read⟩ := lenient_of_character character
        ((encode rest).take (offset - (String.utf8EncodeChar c).length))
      rw [read, List.length_cons, ih]
    · -- the cut falls inside the first character, so nothing of the others is left
      have fewer : offset < (String.utf8EncodeChar c).length := by omega
      rw [List.take_append_of_le_length (Nat.le_of_lt fewer), lenient_of_cut character positive fewer,
        Nat.sub_eq_zero_of_le (Nat.le_of_lt fewer), countBegun_zero, List.length_singleton]

end SourceLens.Text.Utf8
