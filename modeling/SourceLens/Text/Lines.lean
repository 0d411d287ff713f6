/-!
# Lines

A text is divided at line feeds and nowhere else, so a carriage return belongs to the line it
ends. There is always one more line than line feeds. Joining the lines with line feeds gives the
text back.
-/
namespace SourceLens.Text

/-- The lines of a text that begins with a character, given the lines of the rest: a line feed
opens a new first line, any other character joins the first line. -/
def consLine (c : Char) : List (List Char) → List (List Char)
  | [] => [[c]]
  | line :: rest => if c = '\n' then [] :: line :: rest else (c :: line) :: rest

/-- The pieces of a character list between line feeds. -/
def splitLines (s : List Char) : List (List Char) := s.foldr consLine [[]]

/-- Character lists with a line feed between neighbours. -/
def joinLines (parts : List (List Char)) : List Char := ['\n'].intercalate parts

/-- A text has at least one line. -/
theorem splitLines_ne_nil (s : List Char) : splitLines s ≠ [] := by
  cases s with
  | nil => simp [splitLines]
  | cons c rest =>
    simp only [splitLines, List.foldr_cons]
    cases List.foldr consLine [[]] rest with
    | nil => simp [consLine]
    | cons line lines =>
      simp only [consLine]
      split <;> simp

/-- Joining the lines of a text gives the text back. -/
theorem joinLines_splitLines (s : List Char) : joinLines (splitLines s) = s := by
  induction s with
  | nil => rfl
  | cons c rest ih =>
    have nonempty := splitLines_ne_nil rest
    simp only [splitLines, List.foldr_cons] at ih nonempty ⊢
    cases divided : List.foldr consLine [[]] rest with
    | nil => exact absurd divided nonempty
    | cons line lines =>
      rw [divided] at ih
      simp only [consLine]
      split
      · next feed =>
        simp only [joinLines, List.intercalate_cons_cons, List.nil_append, feed] at ih ⊢
        simp [ih]
      · cases lines with
        | nil => simpa [joinLines] using ih
        | cons next lines => simpa [joinLines, List.intercalate_cons_cons] using ih

/-- The lines of a text. -/
def lines (s : String) : List String := (splitLines s.toList).map String.ofList

/-- Lines with a line feed between neighbours. -/
def unlines (parts : List String) : String := "\n".intercalate parts

/-- Joining the lines of a text gives the text back. -/
theorem unlines_lines (s : String) : unlines (lines s) = s := by
  apply String.toList_inj.mp
  simpa [unlines, lines, Function.comp_def, joinLines] using joinLines_splitLines s.toList

end SourceLens.Text
