import Mathlib.Data.List.DropRight
import SourceLens.Text.Lines

/-!
# Dividing joined lines

Lines have no line feeds, and dividing undoes joining: a list of lines that is not empty is read
back from the text that it makes (`lines_unlines`). Both follow from what holds of any list that is
divided at a mark. The line of a place in a text is found by the number of line feeds before the
place (`getElem?_splitLines`).
-/
namespace SourceLens.Text

/-- The pieces of a list that is divided at a mark do not have the mark. -/
theorem not_mem_of_mem_splitOn {mark : Char} {s piece : List Char}
    (inside : piece ∈ s.splitOn mark) : mark ∉ piece := by
  induction s generalizing piece with
  | nil =>
    obtain rfl : piece = [] := by simpa using inside
    simp
  | cons c rest ih =>
    rw [List.splitOn_cons_eq_if_modifyHead] at inside
    cases divided : rest.splitOn mark with
    | nil => exact absurd divided (List.splitOn_ne_nil mark rest)
    | cons first others =>
      rw [divided] at inside ih
      split at inside
      · rcases List.mem_cons.mp inside with rfl | later
        · simp
        · exact ih later
      · next other =>
        rcases List.mem_cons.mp inside with rfl | later
        · have clean := ih (List.mem_cons_self ..)
          have differs : mark ≠ c := fun same => other (by simp [same])
          simp [clean, differs]
        · exact ih (List.mem_cons_of_mem _ later)

/-- The lines are the pieces between line feeds. -/
theorem splitLines_eq_splitOn (s : List Char) : splitLines s = s.splitOn '\n' := by
  induction s with
  | nil => rfl
  | cons c rest ih =>
    rw [List.splitOn_cons_eq_if_modifyHead, ← ih]
    cases divided : splitLines rest with
    | nil => exact absurd divided (splitLines_ne_nil rest)
    | cons first others =>
      simp only [splitLines, List.foldr_cons] at divided ⊢
      simp [divided, consLine]

/-- There is one line more than line feeds. -/
theorem length_splitLines (s : List Char) : (splitLines s).length = s.count '\n' + 1 := by
  induction s with
  | nil => rfl
  | cons c rest ih =>
    rw [splitLines_eq_splitOn] at ih ⊢
    rw [List.splitOn_cons_eq_if_modifyHead, List.count_cons]
    split <;> simp [ih]

/-- The lines of a text have no line feeds. -/
theorem not_mem_of_mem_lines {s line : String} (inside : line ∈ lines s) : '\n' ∉ line.toList := by
  obtain ⟨chars, member, rfl⟩ := List.mem_map.mp inside
  rw [splitLines_eq_splitOn] at member
  simpa using not_mem_of_mem_splitOn member

/-- Lines that are joined are divided again. -/
theorem lines_unlines {parts : List String} (started : parts ≠ [])
    (free : ∀ part ∈ parts, '\n' ∉ part.toList) : lines (unlines parts) = parts := by
  have content : (unlines parts).toList = ['\n'].intercalate (parts.map String.toList) := by
    simp [unlines]
  have divided : (['\n'].intercalate (parts.map String.toList)).splitOn '\n' =
      parts.map String.toList :=
    List.splitOn_intercalate '\n' (by simpa using free) (by simpa using started)
  rw [lines, content, splitLines_eq_splitOn, divided, List.map_map]
  simp [Function.comp_def]

/-! ## The line of a place -/

section

variable {α : Type} [BEq α] [LawfulBEq α] {mark : α}

/-- What stands before the first mark of a list that begins without marks. -/
theorem takeWhile_append_of_not_mem {front : List α} (free : mark ∉ front) (back : List α) :
    (front ++ back).takeWhile (· != mark) = front ++ back.takeWhile (· != mark) := by
  refine List.takeWhile_append_of_pos fun item inside => ?_
  simpa using fun same : item = mark => free (same ▸ inside)

/-- All of a list without a mark stands behind the last mark. -/
theorem rtakeWhile_of_not_mem {s : List α} (free : mark ∉ s) : s.rtakeWhile (· != mark) = s := by
  refine List.rtakeWhile_eq_self_iff.mpr fun item inside => ?_
  simpa using fun same : item = mark => free (same ▸ inside)

/-- What stands behind the last mark. -/
theorem rtakeWhile_append_cons (earlier : List α) {behind : List α} (free : mark ∉ behind) :
    (earlier ++ mark :: behind).rtakeWhile (· != mark) = behind := by
  have free' : mark ∉ behind.reverse := by simpa using free
  rw [List.rtakeWhile, List.reverse_append, List.reverse_cons, List.append_assoc,
    takeWhile_append_of_not_mem free']
  simp

end

/-- A list with a mark has a last one. -/
theorem exists_last_of_mem {α : Type} {mark : α} {s : List α} (inside : mark ∈ s) :
    ∃ earlier behind, s = earlier ++ mark :: behind ∧ mark ∉ behind := by
  obtain ⟨front, back, parts, free⟩ :=
    List.eq_append_cons_of_mem (List.mem_reverse.mpr inside)
  refine ⟨back.reverse, front.reverse, ?_, by simpa using free⟩
  rw [← List.reverse_reverse s, parts]
  simp

/-- The first line ends at the first line feed. -/
theorem head?_splitLines (s : List Char) :
    (splitLines s)[0]? = some (s.takeWhile (· != '\n')) := by
  rw [splitLines_eq_splitOn]
  by_cases feed : '\n' ∈ s
  · obtain ⟨line, later, rfl, free⟩ := List.eq_append_cons_of_mem feed
    rw [List.splitOn_append_cons_self_of_not_mem free, takeWhile_append_of_not_mem free]
    simp
  · have whole := takeWhile_append_of_not_mem feed []
    simp only [List.append_nil, List.takeWhile_nil] at whole
    rw [List.splitOn_eq_singleton feed, whole]
    rfl

/-- The line of a place in a text, counted by the line feeds before the place: it begins behind the
last of them and ends at the next one. -/
theorem getElem?_splitLines (front back : List Char) :
    (splitLines (front ++ back))[front.count '\n']? =
      some (front.rtakeWhile (· != '\n') ++ back.takeWhile (· != '\n')) := by
  by_cases feed : '\n' ∈ front
  · obtain ⟨earlier, behind, rfl, free⟩ := exists_last_of_mem feed
    have row : (earlier ++ '\n' :: behind).count '\n' = (splitLines earlier).length := by
      rw [length_splitLines, List.count_append, List.count_cons_self,
        List.count_eq_zero.mpr free]
    have divided : splitLines (earlier ++ '\n' :: behind ++ back) =
        splitLines earlier ++ splitLines (behind ++ back) := by
      simp only [splitLines_eq_splitOn, List.append_assoc, List.cons_append,
        List.splitOn_append_cons_self]
    rw [divided, row, List.getElem?_append_right (Nat.le_refl _), Nat.sub_self, head?_splitLines,
      takeWhile_append_of_not_mem free, rtakeWhile_append_cons earlier free]
  · rw [List.count_eq_zero.mpr feed, head?_splitLines, takeWhile_append_of_not_mem feed,
      rtakeWhile_of_not_mem feed]

end SourceLens.Text
