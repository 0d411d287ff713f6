import SourceLens.Text.Lines

/-!
# Windows of lines

Spans of lines are numbered from one and include both ends. A window widens a span by some lines
of context and keeps it inside the text. An excerpt is the text of a span with the text of its
context on either side. Line numbers and sizes are integers, so a span may lie before the first
line, after the last one, or end before it starts; such spans are cut back or come out empty.
-/
namespace SourceLens.Window

/-- Widen a span by the context sizes and keep it inside `[1, total]`. A negative size counts as
zero, and the size below is the size above when it is not given. -/
def widen (start stop before total : Int) (after : Option Int) : Int × Int :=
  let below := after.getD before
  (max 1 (start - max 0 before), min total (stop + max 0 below))

/-- The lines from `start` to `stop` that exist. -/
def pick (lines : List String) (start stop : Int) : List String :=
  let first := max 1 start
  let last := min (lines.length : Int) stop
  if last < first then [] else (lines.take last.toNat).drop (first.toNat - 1)

/-- The text of the lines from `start` to `stop` that exist. -/
def slice (lines : List String) (start stop : Int) : String := Text.unlines (pick lines start stop)

/-- The text of a span with the text on either side of it. -/
structure Excerpt where
  /-- The text of the span. -/
  code : String
  /-- The text of the context above. -/
  before : String
  /-- The text of the context below. -/
  after : String
  /-- The first line of the context above, or of the span without one. -/
  first : Int
  /-- The last line of the context below, or of the span without one. -/
  last : Int
  deriving Repr, DecidableEq

/-- Carve a span out of a text with `context` lines on either side, none unless asked for. -/
def excerpt (lines : List String) (start stop context : Int) (includeContext : Bool) : Excerpt :=
  let total : Int := lines.length
  let start := max 1 start
  let stop := min total (max start stop)
  let window := widen start stop (if includeContext then context else 0) total none
  { code := slice lines start stop
    before := slice lines window.1 (start - 1)
    after := slice lines (stop + 1) window.2
    first := window.1
    last := window.2 }

/-- Whether a line lies in one of the spans. -/
def within (line : Int) (spans : List (Int × Int)) : Bool :=
  spans.any fun span => span.1 ≤ line && line ≤ span.2

/-- The items from one bound up to another, both counted from zero. A negative bound counts from
the end, and a bound outside the list is moved to its nearest end. -/
def between (items : List String) (low high : Int) : List String :=
  let total : Int := items.length
  let clamp := fun bound : Int => min total (max 0 (if bound < 0 then bound + total else bound))
  (items.drop (clamp low).toNat).take ((clamp high).toNat - (clamp low).toNat)

/-- A line with some lines before and after it. -/
structure LineContext where
  /-- The line, empty when there is none with its number. -/
  code : String
  /-- The lines before it. -/
  before : List String
  /-- The lines after it. -/
  after : List String
  deriving Repr, DecidableEq

/-- The line with a number, with at most so many lines before and after it; a negative size counts
as zero. -/
def around (lines : List String) (line before after : Int) : LineContext :=
  let index := line - 1
  let low := max 0 (index - max 0 before)
  let high := min (lines.length : Int) (line + max 0 after)
  { code := if 0 ≤ index then (lines[index.toNat]?).getD "" else ""
    before := between lines low index
    after := between lines (index + 1) high }

end SourceLens.Window
