import SourceLens.Proofs.Read.Bytes

/-!
# Windows around a line

A line is shown with the lines around it in three ways: a search shows it with lists of lines, a
reading shows one window of the text, and an excerpt cuts out three texts. The first counts from
zero and excludes its last bound, the others count from one and include it. All of them show the
same lines at both ends of a text and for any sizes (`line_windows_agree`), because the lists of
lines are what is picked above and below the line, and the three parts make one window
(`pick_around`).
-/
namespace SourceLens

namespace Window

variable {lines : List String} {line : Nat}

/-- Lines between two bounds counted from zero, the second one excluded, are the lines between two
numbers counted from one, both included. -/
theorem between_eq_pick {low high : Nat} (ordered : low ≤ high) (inside : high ≤ lines.length) :
    between lines low high = pick lines (low + 1 : Nat) high := by
  have block : Block lines (low + 1) (high + 1 - (low + 1)) (pick lines (low + 1 : Nat) high) :=
    block_pick (by omega) (by omega) inside
  have start : min (lines.length : Int) (max 0 (low : Int)) = low := by omega
  have stop : min (lines.length : Int) (max 0 (high : Int)) = high := by omega
  have lowNat : ¬(low : Int) < 0 := by omega
  have highNat : ¬(high : Int) < 0 := by omega
  have size : high + 1 - (low + 1) = high - low := by omega
  rw [block.content, size, Nat.add_sub_cancel]
  simp only [between, if_neg lowNat, if_neg highNat, start, stop, Int.toNat_natCast]

section Around

variable (before after : Nat) (positive : 1 ≤ line) (inside : line ≤ lines.length)

include positive inside

/-- The lines before a line are picked from the beginning of its window. -/
theorem before_around :
    (around lines line before after).before =
      pick lines (max 1 (line - before) : Nat) (line - 1 : Nat) := by
  have low : max 0 ((line : Int) - 1 - max 0 (before : Int)) =
      (max 1 (line - before) - 1 : Nat) := by omega
  have high : (line : Int) - 1 = (line - 1 : Nat) := by omega
  have next : max 1 (line - before) - 1 + 1 = max 1 (line - before) := by omega
  simp only [around]
  rw [low, high, between_eq_pick (by omega) (by omega), next]

omit positive in
/-- The lines after a line are picked up to the end of its window. -/
theorem after_around :
    (around lines line before after).after =
      pick lines (line + 1 : Nat) (min lines.length (line + after) : Nat) := by
  have low : (line : Int) - 1 + 1 = line := by omega
  have high : min (lines.length : Int) (line + max 0 (after : Int)) =
      (min lines.length (line + after) : Nat) := by omega
  simp only [around]
  rw [low, high, between_eq_pick (by omega) (by omega)]

/-- The line itself is picked alone. -/
theorem pick_self :
    pick lines line line = [(around lines line before after).code] := by
  have block : Block lines line (line + 1 - line) (pick lines line line) :=
    block_pick positive (by omega) inside
  have one : line + 1 - line = 1 := by omega
  have index : ((line : Int) - 1).toNat = line - 1 := by omega
  have bound : line - 1 < lines.length := by omega
  have counted : 0 ≤ (line : Int) - 1 := by omega
  rw [block.content, one, List.drop_eq_getElem_cons bound]
  simp only [around, if_pos counted, index, List.getElem?_eq_getElem bound, Option.getD_some,
    List.take_succ_cons, List.take_zero]

/-- A line and the lines around it are its window. -/
theorem pick_around :
    (around lines line before after).before ++ [(around lines line before after).code] ++
        (around lines line before after).after =
      pick lines (max 1 (line - before) : Nat) (min lines.length (line + after) : Nat) := by
  have next : line - 1 + 1 = line := by omega
  have upTo : pick lines (max 1 (line - before) : Nat) (line - 1 : Nat) ++
      pick lines (line - 1 + 1 : Nat) line = pick lines (max 1 (line - before) : Nat) line :=
    pick_append (by omega) (by omega) (by omega) inside
  rw [next, pick_self before after positive inside] at upTo
  rw [before_around before after positive inside, upTo, after_around before after inside]
  exact pick_append (by omega) (by omega) (by omega) (by omega)

/-- There are as many lines before a line as between it and the beginning of its window. -/
theorem length_before_around :
    ((around lines line before after).before.length : Int) =
      line - (max 1 (line - before) : Nat) := by
  have block : Block lines (max 1 (line - before)) (line - 1 + 1 - max 1 (line - before))
      (pick lines (max 1 (line - before) : Nat) (line - 1 : Nat)) :=
    block_pick (by omega) (by omega) (by omega)
  rw [before_around before after positive inside, block.full]
  omega

/-- There are as many lines after a line as between it and the end of its window. -/
theorem length_after_around :
    ((around lines line before after).after.length : Int) =
      (min lines.length (line + after) : Nat) - line := by
  have block : Block lines (line + 1) (min lines.length (line + after) + 1 - (line + 1))
      (pick lines (line + 1 : Nat) (min lines.length (line + after) : Nat)) :=
    block_pick (by omega) (by omega) (by omega)
  rw [after_around before after inside, block.full]
  omega

end Around

/-- An excerpt shows a line with the lines around it. -/
structure Excerpt.IsAround (line : Nat) (found : LineContext) (excerpt : Excerpt) : Prop where
  /-- The code is the line. -/
  code : excerpt.code = found.code
  /-- The text above is made of the lines before it. -/
  before : excerpt.before = Text.unlines found.before
  /-- The text below is made of the lines after it. -/
  after : excerpt.after = Text.unlines found.after
  /-- The window begins with the lines before it. -/
  first : excerpt.first = line - found.before.length
  /-- The window ends with the lines after it. -/
  last : excerpt.last = line + found.after.length

/-- The excerpt of a line shows it with the lines around it. -/
theorem isAround_excerpt (size : Nat) (positive : 1 ≤ line) (inside : line ≤ lines.length) :
    (excerpt lines line line size true).IsAround line (around lines line size size) := by
  have low : max 1 (line : Int) = line := by omega
  have high : min (lines.length : Int) (max line line) = line := by omega
  have window : widen line line size lines.length none =
      (((max 1 (line - size) : Nat) : Int), ((min lines.length (line + size) : Nat) : Int)) :=
    widen_line line size size lines.length
  have above : (line : Int) - 1 = (line - 1 : Nat) := by omega
  have below : (line : Int) + 1 = (line + 1 : Nat) := by omega
  have front := length_before_around size size positive inside
  have back := length_after_around size size positive inside
  have parts : excerpt lines line line size true =
      { code := slice lines line line
        before := slice lines (max 1 (line - size) : Nat) (line - 1 : Nat)
        after := slice lines (line + 1 : Nat) (min lines.length (line + size) : Nat)
        first := (max 1 (line - size) : Nat)
        last := (min lines.length (line + size) : Nat) } := by
    simp only [excerpt, low, high, if_true, window, above, below]
  rw [parts]
  constructor
  case code =>
    show slice lines line line = _
    rw [slice, pick_self size size positive inside]
    simp [Text.unlines]
  case before =>
    show slice lines _ _ = _
    rw [slice, before_around size size positive inside]
  case after =>
    show slice lines _ _ = _
    rw [slice, after_around size size inside]
  case first =>
    show ((max 1 (line - size) : Nat) : Int) = _
    omega
  case last =>
    show ((min lines.length (line + size) : Nat) : Int) = _
    omega

end Window

/-- A record shows a line with the lines around it, in one text with the numbers of lines. -/
structure ShowsContext (record : Fields) (found : Window.LineContext) : Prop where
  /-- The record reports success. -/
  success : record.get? "success" = some (.bool true)
  /-- The content is the text of all lines. -/
  content : record.get? "content" =
    some (.text (Text.unlines (found.before ++ [found.code] ++ found.after)))
  /-- It names the number of lines before the line. -/
  above : record.get? "lines_above" = some (.nat found.before.length)
  /-- It names the number of lines after the line. -/
  below : record.get? "lines_below" = some (.nat found.after.length)

/-- The record of a window shows its line with the lines around it. -/
theorem showsContext_lines (doc : Document) {line : Nat} (before after : Nat) (path : String)
    (verbose : Bool) (positive : 1 ≤ line) (inside : line ≤ doc.lineCount) :
    ShowsContext
      ((ReadResult.lines doc line (max 1 (line - before) : Nat)
        (min doc.lineCount (line + after) : Nat)).fields path verbose)
      (Window.around doc.lines line before after) := by
  have content := Window.pick_around before after positive inside
  have above := Window.length_before_around before after positive inside
  have below := Window.length_after_around before after positive inside
  constructor
  case success => exact ReadResult.get?_success _ _ _
  case content =>
    rw [ReadResult.get?_fields _ _ _ (by decide), content]
    simp [ReadResult.body, Window.slice, Document.lineCount]
  case above =>
    rw [ReadResult.get?_fields _ _ _ (by decide), Value.nat, above]
    simp [ReadResult.body]
  case below =>
    rw [ReadResult.get?_fields _ _ _ (by decide), Value.nat, below]
    simp [ReadResult.body, Document.lineCount]

/-- A line of a document is read with the lines around it, as far as the document goes. -/
theorem readDocument_lines (workspace : Workspace) (request : ReadRequest) (doc : Document)
    {line : Nat} (mode : request.mode = "lines") (given : request.line = some (line : Int))
    (positive : 1 ≤ line) (inside : line ≤ doc.lineCount) :
    request.readDocument workspace doc =
      .ok (.lines doc line (max 1 (line - request.linesAbove) : Nat)
        (min doc.lineCount (line + request.linesBelow) : Nat)) := by
  have known : ReadMode.ofName? request.mode = some .lines := ReadMode.ofName?_eq_some.mpr mode
  have within : ¬((line : Int) < 1 ∨ (doc.lineCount : Int) < line) := by omega
  simp only [ReadRequest.readDocument, known, ReadRequest.readLines, given, within, if_false,
    widen_line]

/-- The three windows around a line agree. A reading of the line shows in one text the line with the
lines before and after it, and their numbers, also when the document is loaded from a file; and with
one size on both sides the excerpt of the line has the same lines in its parts and ends where they
end. -/
theorem line_windows_agree (doc : Document) (line before after : Nat) (positive : 1 ≤ line)
    (inside : line ≤ doc.lineCount) :
    let found := Window.around doc.lines line before after
    (∀ (workspace : Workspace) (request : ReadRequest), request.mode = "lines" →
      request.line = some (line : Int) → request.linesAbove = before →
      request.linesBelow = after →
      ∃ result, request.readDocument workspace doc = .ok result ∧
        ShowsContext (result.fields request.path request.verbose) found ∧
        (workspace.files.load request.path = .ok doc →
          Answers (request.execute workspace) (ShowsContext · found))) ∧
    (before = after →
      (Window.excerpt doc.lines line line before true).IsAround line found) := by
  intro found
  constructor
  · rintro workspace request mode given rfl rfl
    have read := readDocument_lines workspace request doc mode given positive inside
    have shows : ShowsContext _ found :=
      showsContext_lines doc request.linesAbove request.linesBelow request.path request.verbose
        positive inside
    refine ⟨_, read, shows, fun loaded => ?_⟩
    refine ⟨_, ?_, shows⟩
    simp only [ReadRequest.execute, ReadRequest.read, loaded, read]
  · rintro rfl
    exact Window.isAround_excerpt before positive inside

/-- A document with a line that is empty between two others. -/
def blankBetween : Document := { path := "b.txt", text := "a\n\nc" }

/-- A workspace with the document. -/
def blankWorkspace : Workspace :=
  { unclosedScript with files := { entries := [.file "b.txt" blankBetween.text.toUTF8] } }

/-- The empty line is shown with all lines around it when the windows are larger than the
document. -/
theorem line_windows_agree_blankBetween :
    Window.around blankBetween.lines 2 5 5 = { code := "", before := ["a"], after := ["c"] } ∧
      Answers (({ path := "b.txt", mode := "lines", line := some 2, linesAbove := 5
                  linesBelow := 5 } : ReadRequest).execute blankWorkspace)
        (ShowsContext · (Window.around blankBetween.lines 2 5 5)) ∧
      (Window.excerpt blankBetween.lines 2 2 5 true).IsAround 2
        (Window.around blankBetween.lines 2 5 5) := by
  have agree := line_windows_agree blankBetween 2 5 5 (by decide) (by decide +kernel)
  have stored : blankWorkspace.files.bytesAt "b.txt" = .ok blankBetween.text.toUTF8 := rfl
  have loaded : blankWorkspace.files.load "b.txt" = .ok blankBetween := by
    rw [FileSystem.load_of_bytes stored, Text.Utf8.decode_eq_ok_iff.mpr rfl]
    rfl
  obtain ⟨_, _, _, shows⟩ := agree.1 blankWorkspace
    { path := "b.txt", mode := "lines", line := some 2, linesAbove := 5, linesBelow := 5 }
    rfl rfl rfl rfl
  exact ⟨by decide +kernel, shows loaded, agree.2 rfl⟩

end SourceLens
