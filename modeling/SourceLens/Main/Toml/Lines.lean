import SourceLens.Text.Letters
import SourceLens.Text.Lines
import SourceLens.Main.Toml.Scalar

/-!
# Lines of a settings document

Before a document is read line by line, its text is put in order: comments become blanks, the lines
of an array are joined, and every key is followed to its equals sign. A string must end on its line
unless three marks open it. To tell how many marks stand before a place, the text is looked at as a
ring: its end stands before its start.
-/
namespace SourceLens.Toml

/-- Where in a key the reading stands. -/
inductive KeyPlace where
  /-- In a name. -/
  | name
  /-- Behind a name. -/
  | gap
  deriving DecidableEq, Repr

/-- What is known while a text is put in order. -/
structure Scan where
  /-- The mark of the open string. -/
  quote : Option Char := none
  /-- Whether the last three marks in a row opened a string. -/
  long : Bool := false
  /-- The number of open brackets. -/
  depth : Int := 0
  /-- The open header, with two brackets on either side or one. -/
  header : Option Bool := none
  /-- Whether nothing but blanks has been read of the line. -/
  fresh : Bool := true
  /-- The place in the key that is read. -/
  key : Option KeyPlace := none
  /-- Whether the key has a dot. -/
  dotted : Bool := false
  /-- Whether a comment is read. -/
  comment : Bool := false
  deriving DecidableEq, Repr

namespace Scan

/-- Behind a gap of a key with dots, a name goes on unless a blank or a dot comes next. -/
def afterGap (scan : Scan) (rest : List Char) : Reading Scan :=
  match rest with
  | [] => .error .pieceMissing
  | next :: _ =>
    .ok (if Text.isBlank next || next = '.' then scan else { scan with key := some .name })

/-- The equals sign ends a key, and nothing else does. -/
def endKey (scan : Scan) (c : Char) : Reading Scan :=
  if c = '=' then .ok { scan with key := none, dotted := false } else .error .malformed

/-- Read on in a key; `past` holds the characters before the place, the nearest one first. -/
def inKey (scan : Scan) (place : KeyPlace) (past : List Char) (c : Char) (rest : List Char) :
    Reading Scan :=
  if c = '\n' then .error .malformed
  else
    match scan.quote, place with
    | some mark, _ =>
      .ok <|
        if c = mark && !isEscaped past then { scan with key := some .gap, quote := none } else scan
    | none, .name =>
      if Text.isBlank c then .ok { scan with key := some .gap }
      else if c = '.' then .ok { scan with dotted := true }
      else if Text.isWordChar c || c = '-' then .ok scan
      else if scan.dotted && past.head? = some '.' && isQuote c then
        .ok { scan with quote := some c }
      else scan.endKey c
    | none, .gap =>
      if Text.isBlank c then if scan.dotted then scan.afterGap rest else .ok scan
      else if c = '.' then { scan with dotted := true }.afterGap rest
      else scan.endKey c

/-- What is known behind a mark. Three marks in a row open or close a string over several lines, and
a mark by itself one on its line; a backslash before double marks escapes them. -/
def mark (scan : Scan) (past : List Char) (c : Char) : Scan :=
  let run := (past.takeWhile (· = c)).length
  let escaped := c = '"' &&
    ((run = 0 && isEscaped past) || (2 ≤ run && isEscaped (past.drop 2)))
  if escaped then scan
  else if 2 ≤ run then
    { scan with long := !scan.long, quote := if scan.long then none else some c }
  else { scan with quote := if scan.quote.isSome then none else some c }

/-- What is known behind a bracket outside of strings. -/
def bracket (scan : Scan) (past : List Char) (c : Char) (rest : List Char) : Scan :=
  match scan.header with
  | none =>
    if c = ']' then { scan with depth := scan.depth - 1 }
    else if scan.fresh then { scan with header := some (rest.head? = some '[') }
    else { scan with depth := scan.depth + 1 }
  | some double =>
    if c = ']' && (!double || past.head? = some ']') then { scan with header := none } else scan

/-- What is known behind a character that is neither a line feed nor in a key. -/
def pass (scan : Scan) (past : List Char) (c : Char) (rest : List Char) : Scan :=
  if isQuote c && (scan.quote.isNone || scan.quote = some c) then scan.mark past c
  else if scan.quote.isSome then scan
  else if c = '#' && scan.header.isNone then { scan with comment := true }
  else if c = '[' || c = ']' then scan.bracket past c rest
  else scan

/-- The first character of a line that is no blank starts a key, unless it is in a header. -/
def begin (scan : Scan) (c : Char) : Reading Scan :=
  if !scan.fresh || scan.comment || c = ' ' || c = '\t' then .ok scan
  else if scan.header.isSome then .ok { scan with fresh := false }
  else if c = '=' then .error .malformed
  else .ok { scan with fresh := false, key := some .name }

/-- The characters up to a line feed, the last one first. Inside of a string a line feed behind two
marks becomes a mark, and a third mark before them becomes a blank; in an array it becomes a
blank. -/
def feed (scan : Scan) (past : List Char) : Reading (Scan × List Char) :=
  if scan.quote.isSome || scan.long then
    if !scan.long then .error .malformed
    else
      match past with
      | first :: second :: third :: others =>
        if isQuote first && second = first then
          .ok (scan, first :: first :: second :: (if third = first then ' ' else third) :: others)
        else .ok (scan, '\n' :: past)
      | _ => .ok (scan, '\n' :: past)
  else if scan.depth ≠ 0 then .ok (scan, ' ' :: past)
  else .ok ({ scan with fresh := true }, '\n' :: past)

/-- Put a text in order from a place on; the answer holds all characters, the last one first. -/
def arrange (scan : Scan) (past : List Char) : List Char → Reading (List Char)
  | [] => if scan.key.isSome || scan.quote.isSome then .error .malformed else .ok past
  | c :: rest =>
    match scan.key with
    | some place => do arrange (← scan.inKey place past c rest) (c :: past) rest
    | none =>
      if c = '\n' then do
        let (scan, past) ← { scan with comment := false }.feed past
        arrange scan past rest
      else if scan.comment then arrange scan (' ' :: past) rest
      else do
        let passed := scan.pass past c rest
        arrange (← passed.begin c) ((if passed.comment then ' ' else c) :: past) rest

end Scan

/-- The lines of a document. -/
def logicalLines (text : List Char) : Reading (List (List Char)) := do
  let arranged ← Scan.arrange {} text.reverse text
  return Text.splitLines (arranged.take text.length).reverse

end SourceLens.Toml
