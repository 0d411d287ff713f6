import SourceLens.Proofs.Read.Errors
import SourceLens.Proofs.Text.ByteLines
import SourceLens.Proofs.Window

/-!
# Bytes of readings

What is read from a file is what its bytes say. A whole file is read exactly when its bytes are well
formed, and then its content has these bytes (`ShowsWhole`). A window of lines has the bytes from
the beginning of its first line to the end of its last one (`ShowsLines`), where lines are counted
by the line feeds among the bytes. From bytes that are not well formed nothing is read in any mode
(`reads_follow_bytes`).
-/
namespace SourceLens

open Text.Utf8

/-- The number of lines of some bytes. -/
def byteLineCount (bytes : ByteArray) : Nat := 1 + bytes.data.toList.count feed

/-- A record shows all of some bytes, with their number and the number of their lines. -/
structure ShowsWhole (record : Fields) (bytes : ByteArray) : Prop where
  /-- The record reports success. -/
  success : record.get? "success" = some (.bool true)
  /-- The content is encoded by the bytes. -/
  content : ∃ content, record.get? "content" = some (.text content) ∧ content.toUTF8 = bytes
  /-- The size is the number of bytes. -/
  size : record.get? "size_bytes" = some (.nat bytes.size)
  /-- There is one line more than there are line feeds. -/
  lineCount : record.get? "line_count" = some (.nat (byteLineCount bytes))

/-- A record shows the lines of some bytes from one number to another. -/
structure ShowsLines (record : Fields) (bytes : ByteArray) (first last : Nat) : Prop where
  /-- The record reports success. -/
  success : record.get? "success" = some (.bool true)
  /-- It names the first line. -/
  start : record.get? "start_line" = some (.nat first)
  /-- It names the last line. -/
  stop : record.get? "end_line" = some (.nat last)
  /-- The content is encoded by the one block of bytes that has these lines. -/
  content : ∃ content, record.get? "content" = some (.text content) ∧
    ∀ block, LineBlock bytes.data.toList first last block ↔ block = content.toUTF8.data.toList

/-! ## Windows -/

/-- A text has as many lines as its bytes. -/
theorem length_lines_eq (text : String) :
    (Text.lines text).length = byteLineCount text.toUTF8 := by
  rw [byteLineCount, length_lines, Nat.add_comm]

/-- The lines of a text between two numbers are a block of its bytes. -/
theorem lineBlock_slice {text : String} {first last : Nat} (positive : 1 ≤ first)
    (ordered : first ≤ last) (inside : last ≤ (Text.lines text).length) :
    LineBlock text.toUTF8.data.toList first last
      (Window.slice (Text.lines text) first last).toUTF8.data.toList := by
  have block := Window.block_pick positive (by omega) inside
  generalize picked : Window.pick (Text.lines text) first last = part at block
  have rest : (Text.lines text).drop (first - 1 + (last + 1 - first)) =
      (Text.lines text).drop last := by
    congr 1
    omega
  have parts : Text.lines text =
      (Text.lines text).take (first - 1) ++ part ++ (Text.lines text).drop last := by
    rw [block.content, ← rest, ← List.drop_drop, List.append_assoc, List.take_append_drop,
      List.take_append_drop]
  have front : ((Text.lines text).take (first - 1)).length = first - 1 := by
    rw [List.length_take]
    omega
  have free : ∀ line ∈ Text.lines text, '\n' ∉ line.toList :=
    fun line member => Text.not_mem_of_mem_lines member
  have some : part ≠ [] := by
    rintro rfl
    have none : 0 = last + 1 - first := block.full
    omega
  rw [parts] at free
  have cut := lineBlock_unlines free some
  rw [← parts, Text.unlines_lines, front, block.full] at cut
  have firstLine : first - 1 + 1 = first := by omega
  have lastLine : first - 1 + (last + 1 - first) = last := by omega
  rw [firstLine, lastLine] at cut
  rwa [Window.slice, picked]

/-- The window of a line inside a text is kept inside the text. -/
theorem widen_line (line above below total : Nat) :
    Window.widen line line above total (some below) =
      (((max 1 (line - above) : Nat) : Int), ((min total (line + below) : Nat) : Int)) := by
  simp only [Window.widen, Option.getD_some, Prod.mk.injEq]
  omega

/-! ## Files -/

section Stored

variable {workspace : Workspace} {request : ReadRequest} {text : String} {bytes : ByteArray}
  (stored : workspace.files.bytesAt request.path = .ok bytes)

include stored in
/-- A file whose bytes are not well formed is not read in any mode. -/
theorem reports_readError_of_illFormed (illFormed : ¬WellFormed bytes.data.toList) :
    Answers (request.execute workspace) (Reports · .readError) := by
  cases decoded : decode bytes with
  | ok text => exact absurd (exists_decode_iff.mp ⟨text, decoded⟩) illFormed
  | error fault =>
    let error : ReadError := .unloaded (.unreadable (.encoding fault))
    have read : request.read workspace = .error error := by
      simp only [ReadRequest.read, FileSystem.load_of_bytes stored, decoded, error]
    have answered := ReadRequest.execute_of_error read (rfl : error.message? = some _)
    exact ⟨_, answered, (ReadRequest.reports_execute_iff answered).mpr ⟨error, read, rfl⟩⟩

variable (decoded : decode bytes = .ok text)

include stored decoded in
/-- A whole file is read as its text. -/
theorem execute_full (mode : request.mode = "full") :
    request.execute workspace = .ok
      ((ReadResult.full { path := request.path, text }).fields request.path request.verbose) := by
  have known : ReadMode.ofName? request.mode = some .full := ReadMode.ofName?_eq_some.mpr mode
  simp only [ReadRequest.execute, ReadRequest.read, FileSystem.load_of_bytes stored, decoded,
    ReadRequest.readDocument, known]

include stored decoded in
/-- The record of a whole file shows its bytes. -/
theorem showsWhole_of_decode (mode : request.mode = "full") :
    Answers (request.execute workspace) (ShowsWhole · bytes) := by
  obtain rfl : text.toUTF8 = bytes := decode_eq_ok_iff.mp decoded
  refine ⟨_, execute_full stored decoded mode, ?_⟩
  refine ⟨ReadResult.get?_success _ _ _, ⟨text, ?_, rfl⟩, ?_, ?_⟩ <;>
    rw [ReadResult.get?_fields _ _ _ (by decide)]
  · simp [ReadResult.body]
  · simp [ReadResult.body, Document.sizeBytes]
  · rw [← length_lines_eq]
    simp [ReadResult.body, Document.lineCount]

variable {line : Nat} (mode : request.mode = "lines") (given : request.line = some (line : Int))
  (positive : 1 ≤ line) (inside : line ≤ byteLineCount bytes)

include stored decoded mode given positive inside in
/-- A line of a file is read with the lines around it, as far as the file goes. -/
theorem execute_lines :
    request.execute workspace =
      .ok ((ReadResult.lines { path := request.path, text } line
        ((max 1 (line - request.linesAbove) : Nat) : Int)
        ((min (byteLineCount bytes) (line + request.linesBelow) : Nat) : Int)).fields request.path
          request.verbose) := by
  obtain rfl : text.toUTF8 = bytes := decode_eq_ok_iff.mp decoded
  have known : ReadMode.ofName? request.mode = some .lines := ReadMode.ofName?_eq_some.mpr mode
  have count := length_lines_eq text
  have within : ¬((line : Int) < 1 ∨ (byteLineCount text.toUTF8 : Int) < line) := by omega
  simp only [ReadRequest.execute, ReadRequest.read, FileSystem.load_of_bytes stored, decoded,
    ReadRequest.readDocument, known, ReadRequest.readLines, given, Document.lineCount, count,
    within, if_false, widen_line]

include stored decoded mode given positive inside in
/-- The record of a line shows the bytes of the lines around it. -/
theorem showsLines_of_decode :
    Answers (request.execute workspace) (ShowsLines · bytes (max 1 (line - request.linesAbove))
      (min (byteLineCount bytes) (line + request.linesBelow))) := by
  have record := execute_lines stored decoded mode given positive inside
  obtain rfl : text.toUTF8 = bytes := decode_eq_ok_iff.mp decoded
  have count := length_lines_eq text
  generalize first : max 1 (line - request.linesAbove) = low at record ⊢
  generalize last : min (byteLineCount text.toUTF8) (line + request.linesBelow) = high at record ⊢
  have block : LineBlock text.toUTF8.data.toList low high
      (Window.slice (Text.lines text) low high).toUTF8.data.toList :=
    lineBlock_slice (by omega) (by omega) (by omega)
  refine ⟨_, record, ReadResult.get?_success _ _ _, ?_, ?_,
    ⟨Window.slice (Text.lines text) low high, ?_, fun other => ⟨fun also => also.unique block, ?_⟩⟩⟩
  · rw [ReadResult.get?_fields _ _ _ (by decide)]
    simp [ReadResult.body, Value.nat]
  · rw [ReadResult.get?_fields _ _ _ (by decide)]
    simp [ReadResult.body, Value.nat]
  · rw [ReadResult.get?_fields _ _ _ (by decide)]
    simp [ReadResult.body]
  · rintro rfl
    exact block

include stored decoded mode given positive inside in
/-- A window that reaches both ends of a file has the content of the whole file. -/
theorem content_of_large_window (above : line ≤ request.linesAbove + 1)
    (below : byteLineCount bytes ≤ line + request.linesBelow) :
    (request.execute workspace).map (·.get? "content") = .ok (some (.text text)) := by
  have record := execute_lines stored decoded mode given positive inside
  obtain rfl : text.toUTF8 = bytes := decode_eq_ok_iff.mp decoded
  have count := length_lines_eq text
  have first : max 1 (line - request.linesAbove) = 1 := by omega
  have last : min (byteLineCount text.toUTF8) (line + request.linesBelow) =
      (Text.lines text).length := by omega
  have all : Window.pick (Text.lines text) (1 : Nat) (Text.lines text).length =
      Text.lines text := by
    rw [(Window.block_pick (by omega) (by omega) (by omega)).content]
    simp
  rw [record, first, last, Except.map, ReadResult.get?_fields _ _ _ (by decide)]
  simp only [ReadResult.body, Window.slice, all, Text.unlines_lines]
  simp

end Stored

/-- What is read from a file is what the system gives as its bytes. A whole file is read exactly
when its bytes are well formed, and then it is read byte by byte; of its lines, exactly the bytes
from the first to the last line of the window are read, and all of them by a window that is large
enough. Bytes that are not well formed are a failure in every mode. -/
theorem reads_follow_bytes (workspace : Workspace) (request : ReadRequest) (bytes : ByteArray)
    (stored : workspace.files.bytesAt request.path = .ok bytes) :
    (request.mode = "full" →
      (Answers (request.execute workspace) (·.get? "success" = some (.bool true)) ↔
        WellFormed bytes.data.toList) ∧
      (WellFormed bytes.data.toList →
        Answers (request.execute workspace) (ShowsWhole · bytes))) ∧
    (WellFormed bytes.data.toList → request.mode = "lines" →
      ∀ line : Nat, request.line = some (line : Int) → 1 ≤ line → line ≤ byteLineCount bytes →
        Answers (request.execute workspace)
          (ShowsLines · bytes (max 1 (line - request.linesAbove))
            (min (byteLineCount bytes) (line + request.linesBelow))) ∧
        (line ≤ request.linesAbove + 1 → byteLineCount bytes ≤ line + request.linesBelow →
          (request.execute workspace).map (·.get? "content") =
            (({ request with mode := "full" } : ReadRequest).execute workspace).map
              (·.get? "content"))) ∧
    (¬WellFormed bytes.data.toList →
      Answers (request.execute workspace) (Reports · .readError)) := by
  refine ⟨fun mode => ⟨⟨fun succeeded => ?_, fun wellFormed => ?_⟩, fun wellFormed => ?_⟩,
    fun wellFormed mode line given positive inside => ⟨?_, fun above below => ?_⟩,
    reports_readError_of_illFormed stored⟩
  · by_contra illFormed
    obtain ⟨record, answered, success⟩ := succeeded
    obtain ⟨other, alike, reported⟩ := reports_readError_of_illFormed stored illFormed
    obtain rfl := Except.ok.inj (answered.symm.trans alike)
    exact absurd (success.symm.trans reported.failed) (by simp)
  · obtain ⟨text, decoded⟩ := exists_decode_iff.mpr wellFormed
    obtain ⟨record, answered, whole⟩ := showsWhole_of_decode stored decoded mode
    exact ⟨record, answered, whole.success⟩
  · obtain ⟨text, decoded⟩ := exists_decode_iff.mpr wellFormed
    exact showsWhole_of_decode stored decoded mode
  · obtain ⟨text, decoded⟩ := exists_decode_iff.mpr wellFormed
    exact showsLines_of_decode stored decoded mode given positive inside
  · obtain ⟨text, decoded⟩ := exists_decode_iff.mpr wellFormed
    obtain ⟨record, answered, whole⟩ :=
      @showsWhole_of_decode workspace { request with mode := "full" } text bytes stored decoded rfl
    obtain ⟨content, shown, encoded⟩ := whole.content
    obtain rfl := Except.ok.inj (decoded.symm.trans (decode_eq_ok_iff.mpr encoded))
    rw [content_of_large_window stored decoded mode given positive inside above below, answered,
      Except.map, shown]

/-- A workspace with a file that begins with a byte order mark and has a carriage return and a
character of two bytes, and a file with a longer form than needed. -/
def markedAndOverlong : Workspace :=
  { unclosedScript with
    files := { entries :=
      [.file "m.txt" "\uFEFFa\r\né".toUTF8, .file "o.txt" ⟨#[0xC0, 0x80]⟩] } }

/-- The first file is read as it is stored, and so is its second line; the other file is not read,
not even in a mode that does not exist. -/
theorem reads_follow_bytes_markedAndOverlong :
    WellFormed "\uFEFFa\r\né".toUTF8.data.toList ∧ ¬WellFormed [0xC0, 0x80] ∧
      Answers (({ path := "m.txt" } : ReadRequest).execute markedAndOverlong)
        (ShowsWhole · "\uFEFFa\r\né".toUTF8) ∧
      Answers (({ path := "m.txt", mode := "lines", line := some 2, linesAbove := 0 } :
        ReadRequest).execute markedAndOverlong) (ShowsLines · "\uFEFFa\r\né".toUTF8 2 2) ∧
      Answers (({ path := "o.txt", mode := "pages" } : ReadRequest).execute markedAndOverlong)
        (Reports · .readError) := by
  have wellFormed : WellFormed "\uFEFFa\r\né".toUTF8.data.toList :=
    exists_decode_iff.mp ⟨_, decode_eq_ok_iff.mpr rfl⟩
  have illFormed : ¬WellFormed [0xC0, 0x80] := by
    intro wellFormed
    generalize whole : ([0xC0, 0x80] : List UInt8) = bytes at wellFormed
    cases wellFormed with
    | nil => cases whole
    | append first others =>
      obtain ⟨ranges, begins, _⟩ := first
      obtain ⟨rfl, _⟩ := List.cons.inj whole
      have none : followers 0xC0 = none := by decide
      cases none.symm.trans begins
  have full := reads_follow_bytes markedAndOverlong { path := "m.txt" } "\uFEFFa\r\né".toUTF8 rfl
  have lines := reads_follow_bytes markedAndOverlong
    { path := "m.txt", mode := "lines", line := some 2, linesAbove := 0 } "\uFEFFa\r\né".toUTF8 rfl
  have overlong := reads_follow_bytes markedAndOverlong { path := "o.txt", mode := "pages" }
    ⟨#[0xC0, 0x80]⟩ rfl
  exact ⟨wellFormed, illFormed, (full.1 rfl).2 wellFormed,
    (lines.2.1 wellFormed rfl 2 rfl (by decide) (by decide)).1, overlong.2.2 illFormed⟩

end SourceLens
