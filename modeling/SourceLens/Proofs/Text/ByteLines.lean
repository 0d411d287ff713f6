import SourceLens.Proofs.Text.Lines
import SourceLens.Proofs.Text.Utf8

/-!
# Lines of bytes

A line feed is one byte, and no other character has this byte. So bytes have the lines of the text
that they encode. Some bytes are a block of lines of others when they begin where one line begins
and end where another one ends (`LineBlock`); lines are counted by the line feeds before them,
without any division. There is at most one such block (`LineBlock.unique`), and the lines of a text
that are joined again encode it (`lineBlock_unlines`).
-/
namespace SourceLens.Text.Utf8

/-- The byte of a line feed. -/
def feed : UInt8 := 0x0A

/-- Some bytes lie between two others such that they begin with one line and end with another, both
numbered from one. The line feed behind the last line does not belong to them. -/
structure LineCut (bytes : List UInt8) (first last : Nat) (before block after : List UInt8) :
    Prop where
  /-- The bytes are the three parts in order. -/
  parts : bytes = before ++ block ++ after
  /-- A line begins behind the bytes before. -/
  starts : ∀ byte ∈ before.getLast?, byte = feed
  /-- It is the first line. -/
  first : before.count feed + 1 = first
  /-- A line ends in front of the bytes after. -/
  stops : ∀ byte ∈ after.head?, byte = feed
  /-- It is the last line. -/
  last : (before ++ block).count feed + 1 = last

/-- Some bytes are those of others from the beginning of a line to the end of a line. -/
def LineBlock (bytes : List UInt8) (first last : Nat) (block : List UInt8) : Prop :=
  ∃ before after, LineCut bytes first last before block after

/-! ## One block at most -/

variable {bytes left right : List UInt8}

/-- Bytes behind others that add no line feed and end with one are none. -/
theorem eq_nil_of_starts {more : List UInt8}
    (starts : ∀ byte ∈ (left ++ more).getLast?, byte = feed)
    (count : left.count feed = (left ++ more).count feed) : more = [] := by
  have none : feed ∉ more := by
    rw [List.count_append] at count
    exact List.count_eq_zero.mp (by omega)
  cases last : more.getLast? with
  | none => exact List.getLast?_eq_none_iff.mp last
  | some byte =>
    have isFeed : byte = feed := starts byte (by simp [List.getLast?_append, last])
    rw [isFeed] at last
    exact absurd (List.mem_of_getLast? last) none

/-- Bytes behind others that add no line feed and begin with one are none. -/
theorem eq_nil_of_stops {more rest : List UInt8}
    (stops : ∀ byte ∈ (more ++ rest).head?, byte = feed)
    (count : left.count feed = (left ++ more).count feed) : more = [] := by
  have none : feed ∉ more := by
    rw [List.count_append] at count
    exact List.count_eq_zero.mp (by omega)
  cases first : more.head? with
  | none => exact List.head?_eq_none_iff.mp first
  | some byte =>
    have isFeed : byte = feed := stops byte (by simp [List.head?_append, first])
    rw [isFeed] at first
    exact absurd (List.mem_of_head? first) none

/-- Two beginnings with the same number of line feeds that end with a line are the same. -/
theorem eq_of_starts {rest others : List UInt8} (same : left ++ rest = right ++ others)
    (count : left.count feed = right.count feed) (starts : ∀ byte ∈ left.getLast?, byte = feed)
    (starts' : ∀ byte ∈ right.getLast?, byte = feed) : left = right := by
  rcases List.append_eq_append_iff.mp same with ⟨more, rfl, _⟩ | ⟨more, rfl, _⟩
  · simp [eq_nil_of_starts starts' count]
  · simp [eq_nil_of_starts starts count.symm]

/-- Two beginnings with the same number of line feeds in front of the end of a line are the same. -/
theorem eq_of_stops {rest others : List UInt8} (same : left ++ rest = right ++ others)
    (count : left.count feed = right.count feed) (stops : ∀ byte ∈ rest.head?, byte = feed)
    (stops' : ∀ byte ∈ others.head?, byte = feed) : left = right := by
  rcases List.append_eq_append_iff.mp same with ⟨more, rfl, rfl⟩ | ⟨more, rfl, rfl⟩
  · simp [eq_nil_of_stops stops count]
  · simp [eq_nil_of_stops stops' count.symm]

/-- The lines determine the block. -/
theorem LineBlock.unique {first last : Nat} (block : LineBlock bytes first last left)
    (other : LineBlock bytes first last right) : left = right := by
  obtain ⟨before, after, cut⟩ := block
  obtain ⟨before', after', cut'⟩ := other
  have parts := cut.parts.symm.trans cut'.parts
  have count : before.count feed = before'.count feed := by
    have one := cut.first
    have two := cut'.first
    omega
  have total : (before ++ left).count feed = (before' ++ right).count feed := by
    have one := cut.last
    have two := cut'.last
    omega
  have begins : before = before' :=
    eq_of_starts (by simpa using parts) count cut.starts cut'.starts
  have ends := eq_of_stops parts total cut.stops cut'.stops
  rw [begins] at ends
  exact List.append_cancel_left ends

/-! ## Joined lines -/

/-- The byte of a line feed has the number ten. -/
theorem feed_eq_ofNat {number : Nat} (small : number < 256) :
    feed = UInt8.ofNat number ↔ number = 10 := by
  rw [← UInt8.toNat_inj, toNat_ofNat_byte small, eq_comm]
  rfl

/-- The byte of a line feed stands in no character but the line feed. -/
theorem eq_of_feed_mem {c : Char} (inside : feed ∈ String.utf8EncodeChar c) : c = '\n' := by
  have valid : c.toNat.isValidChar := c.valid
  have point : c.toNat = 10 := by
    rw [← Char.ofNat_toNat c, utf8EncodeChar_ofNat valid] at inside
    -- all bytes of a longer form are beyond the numbers of single bytes
    split at inside
    · have ascii : c.toNat < 256 := by omega
      rw [List.mem_singleton, feed_eq_ofNat ascii] at inside
      exact inside
    split at inside
    · simp only [List.mem_cons, List.not_mem_nil, or_false] at inside
      rw [feed_eq_ofNat (by omega), feed_eq_ofNat (by omega)] at inside
      omega
    split at inside
    · simp only [List.mem_cons, List.not_mem_nil, or_false] at inside
      rw [feed_eq_ofNat (by omega), feed_eq_ofNat (by omega), feed_eq_ofNat (by omega)] at inside
      omega
    · simp only [List.mem_cons, List.not_mem_nil, or_false] at inside
      rw [feed_eq_ofNat (by omega), feed_eq_ofNat (by omega), feed_eq_ofNat (by omega),
        feed_eq_ofNat (by omega)] at inside
      omega
  rw [← Char.ofNat_toNat c, point]

/-- A text without line feeds has none of their bytes. -/
theorem feed_not_mem_encode {s : List Char} (free : '\n' ∉ s) : feed ∉ encode s := by
  intro inside
  obtain ⟨c, member, here⟩ := List.mem_flatMap.mp inside
  exact free (eq_of_feed_mem here ▸ member)

/-- The line feeds of a text are those of its bytes. -/
theorem count_encode (s : List Char) : (encode s).count feed = s.count '\n' := by
  induction s with
  | nil => rfl
  | cons c rest ih =>
    have bytes : encode (c :: rest) = String.utf8EncodeChar c ++ encode rest := rfl
    rw [bytes, List.count_append, ih, List.count_cons, Nat.add_comm]
    by_cases same : c = '\n'
    · rw [same, if_pos (by decide), show (String.utf8EncodeChar '\n').count feed = 1 by decide]
    · have none : feed ∉ String.utf8EncodeChar c := fun inside => same (eq_of_feed_mem inside)
      rw [List.count_eq_zero.mpr none, if_neg (by simpa using same)]

/-- The bytes behind the last line feed are those of the characters behind it. -/
theorem rtakeWhile_encode (s : List Char) :
    (encode s).rtakeWhile (· != feed) = encode (s.rtakeWhile (· != '\n')) := by
  by_cases inside : '\n' ∈ s
  · obtain ⟨earlier, behind, rfl, free⟩ := exists_last_of_mem inside
    have alone : String.utf8EncodeChar '\n' = [feed] := by decide
    have bytes : encode (earlier ++ '\n' :: behind) = encode earlier ++ feed :: encode behind := by
      simp [encode, alone]
    rw [bytes, rtakeWhile_append_cons _ (feed_not_mem_encode free),
      rtakeWhile_append_cons _ free]
  · rw [rtakeWhile_of_not_mem inside, rtakeWhile_of_not_mem (feed_not_mem_encode inside)]

/-- Lines that are joined are encoded one by one. -/
theorem encode_joinLines (parts : List (List Char)) :
    encode (joinLines parts) = [feed].intercalate (parts.map encode) := by
  induction parts with
  | nil => rfl
  | cons first rest ih =>
    cases rest with
    | nil => simp [joinLines]
    | cons second rest =>
      simp only [joinLines, List.intercalate_cons_cons, List.map_cons] at ih ⊢
      rw [← ih]
      have alone : String.utf8EncodeChar '\n' = [feed] := by decide
      simp [encode, alone]

variable {pieces front behind : List (List UInt8)}

/-- Pieces that are joined in two parts. -/
theorem intercalate_append (some : front ≠ []) (others : behind ≠ []) :
    [feed].intercalate (front ++ behind) =
      [feed].intercalate front ++ feed :: [feed].intercalate behind := by
  induction front with
  | nil => exact absurd rfl some
  | cons first rest ih =>
    cases rest with
    | nil => simp [List.intercalate_cons_of_ne_nil others]
    | cons second rest =>
      have later := ih (by simp)
      simp only [List.cons_append, List.intercalate_cons_cons] at later ⊢
      rw [later]
      simp

/-- There is one line feed less than pieces. -/
theorem count_intercalate (free : ∀ piece ∈ pieces, feed ∉ piece) (some : pieces ≠ []) :
    ([feed].intercalate pieces).count feed + 1 = pieces.length := by
  induction pieces with
  | nil => exact absurd rfl some
  | cons first rest ih =>
    have none : first.count feed = 0 := List.count_eq_zero.mpr (free first (by simp))
    cases rest with
    | nil => simpa using none
    | cons second rest =>
      have later := ih (fun piece inside => free piece (List.mem_cons_of_mem _ inside)) (by simp)
      simp only [List.intercalate_cons_cons, List.count_append, none, List.count_singleton_self,
        List.length_cons] at later ⊢
      omega

/-- Pieces in the middle of others that are joined are a block of their lines. -/
theorem lineBlock_intercalate (free : ∀ piece ∈ front ++ pieces ++ behind, feed ∉ piece)
    (some : pieces ≠ []) :
    LineBlock ([feed].intercalate (front ++ pieces ++ behind)) (front.length + 1)
      (front.length + pieces.length) ([feed].intercalate pieces) := by
  have count := count_intercalate (fun piece inside => free piece (by simp [inside])) some
  obtain ⟨before, joined, starts, fronts⟩ : ∃ before : List UInt8,
      [feed].intercalate (front ++ pieces) = before ++ [feed].intercalate pieces ∧
      (∀ byte ∈ before.getLast?, byte = feed) ∧ before.count feed = front.length := by
    by_cases none : front = []
    · exact ⟨[], by simp [none], by simp, by simp [none]⟩
    · refine ⟨[feed].intercalate front ++ [feed], ?_, by simp, ?_⟩
      · simp [intercalate_append none some]
      · have fronts := count_intercalate (fun piece inside => free piece (by simp [inside])) none
        simpa [List.count_append] using fronts
  obtain ⟨after, whole, stops⟩ : ∃ after : List UInt8,
      [feed].intercalate (front ++ pieces ++ behind) =
        [feed].intercalate (front ++ pieces) ++ after ∧
      ∀ byte ∈ after.head?, byte = feed := by
    by_cases none : behind = []
    · exact ⟨[], by simp [none], by simp⟩
    · exact ⟨_, intercalate_append (by simp [some]) none, by simp⟩
  refine ⟨before, after, ?_, starts, ?_, stops, ?_⟩
  · rw [whole, joined]
  · rw [fronts]
  · rw [List.count_append, fronts]
    omega

/-- Lines are encoded one by one, with a line feed between neighbours. -/
theorem toList_data_unlines (parts : List String) :
    (unlines parts).toUTF8.data.toList =
      [feed].intercalate (parts.map fun part => encode part.toList) := by
  have joined : (unlines parts).toList = joinLines (parts.map String.toList) := by
    simp [unlines, joinLines]
  rw [toList_data_toUTF8, joined, encode_joinLines, List.map_map]
  rfl

/-- Lines in the middle of others are a block of the bytes of them all. -/
theorem lineBlock_unlines {front part behind : List String}
    (free : ∀ line ∈ front ++ part ++ behind, '\n' ∉ line.toList) (some : part ≠ []) :
    LineBlock (unlines (front ++ part ++ behind)).toUTF8.data.toList (front.length + 1)
      (front.length + part.length) (unlines part).toUTF8.data.toList := by
  have pieces : ∀ piece ∈ (front.map fun line => encode line.toList) ++
      (part.map fun line => encode line.toList) ++ behind.map fun line => encode line.toList,
      feed ∉ piece := by
    intro piece inside
    rw [← List.map_append, ← List.map_append] at inside
    obtain ⟨line, member, rfl⟩ := List.mem_map.mp inside
    exact feed_not_mem_encode (free line member)
  have block := lineBlock_intercalate pieces (by simpa using some)
  simpa only [toList_data_unlines, List.map_append, List.length_map] using block

/-- A text has one line more than its bytes have line feeds. -/
theorem length_lines (text : String) :
    (lines text).length = text.toUTF8.data.toList.count feed + 1 := by
  have free : ∀ piece ∈ (lines text).map fun line => encode line.toList, feed ∉ piece := by
    intro piece inside
    obtain ⟨line, member, rfl⟩ := List.mem_map.mp inside
    exact feed_not_mem_encode (not_mem_of_mem_lines member)
  have count := count_intercalate free (by simp [lines, splitLines_ne_nil])
  rw [← toList_data_unlines, unlines_lines, List.length_map] at count
  exact count.symm

end SourceLens.Text.Utf8
