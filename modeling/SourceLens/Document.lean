import SourceLens.Text.Blank
import SourceLens.Text.Lines
import SourceLens.Text.Utf8

/-!
# Documents

A document is the text of a file together with the path under which it was asked for. Its lines
are numbered from one.
-/
namespace SourceLens

/-- The text of a file and the path it was read from. The lines are kept beside the text, so that
they are divided once. -/
structure Document where
  /-- The path as the caller wrote it. -/
  path : String
  /-- The whole text. -/
  text : String
  /-- The lines of the text. -/
  lines : List String := Text.lines text
  /-- The lines are those of the text. -/
  divided : lines = Text.lines text := by rfl

namespace Document

/-- The number of lines, which is one more than the number of line feeds. -/
def lineCount (doc : Document) : Nat := doc.lines.length

/-- The number of bytes that encode the text. -/
def sizeBytes (doc : Document) : Nat := doc.text.toUTF8.size

/-- The line with the given number without the blanks at its ends; empty when there is no such
line. -/
def rawLine (doc : Document) (line : Int) : String :=
  if 1 ≤ line then
    match doc.lines[line.toNat - 1]? with
    | some content => Text.strip content
    | none => ""
  else ""

/-- The number of characters before a byte offset of a row: the bytes before the offset are read
leniently, so a character that the offset cuts counts as one. A row past the end of the document
keeps its byte offset. -/
def column (doc : Document) (row offset : Nat) : Nat :=
  match doc.lines[row]? with
  | none => offset
  | some line => (Text.Utf8.lenient (line.toUTF8.toList.take offset)).length

end Document

end SourceLens
