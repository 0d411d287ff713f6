import SourceLens.Text.Letters
import SourceLens.Main.Toml.Scalar

/-!
# Entries of a settings document

An entry is a key with its value. A value is a single value, an array or an inline table. Arrays
and inline tables are divided at every comma first, and pieces that cannot stand alone are put
together again: in an array of strings until a piece starts and ends with the same mark, in an
inline table until a value has an end that fits its start.
-/
namespace SourceLens.Toml

/-! ## Keys -/

/-- Divide the first part of a text at single marks together with the parts between double marks
that follow it, as long as a single mark is open. -/
def absorb (singles : List (List Char)) :
    List (List Char) → List (List Char) × List (List Char)
  | [] => (singles, [])
  | double :: doubles =>
    if singles.length % 2 = 0 then
      let last := (singles.getLast?.getD []) ++ '"' :: double
      absorb (singles.dropLast ++ Text.split '\x27' last) doubles
    else (singles, double :: doubles)

/-- The parts of a text between double marks, the first one divided at single marks. -/
def divideFirst : List (List Char) → List (List Char)
  | [] => []
  | first :: rest => Text.split '\x27' first ++ rest

/-- The parts of a text outside and inside of strings by turns. -/
def quoteParts (s : List Char) : List (List Char) :=
  match Text.split '"' s with
  | first :: second :: rest =>
    if first.contains '\x27' then
      let (singles, doubles) := absorb (Text.split '\x27' first) (second :: rest)
      singles ++ divideFirst doubles
    else divideFirst (first :: second :: rest)
  | parts => divideFirst parts

/-- The number of the first occurrence of a separator outside of strings; the parts are outside and
inside by turns, starting as `inside` says. -/
def firstOutside (separator : List Char) (inside : Bool) : List (List Char) → Nat
  | [] => 1
  | part :: parts =>
    let found := Text.occurrences separator part
    if !inside && 0 < found then 1 else found + firstOutside separator (!inside) parts

/-- The names of a key with dots: parts inside of strings are names by themselves. -/
def dottedNames (inside : Bool) : List (List Char) → List (List Char)
  | [] => []
  | part :: parts =>
    (if inside then [part] else (Text.split '.' part).map Text.trim) ++ dottedNames (!inside) parts

/-- The names of a key. The ones before the last lead to the table that the last one stands in;
empty names on the way count for nothing. -/
def keyNames (key : List Char) : Reading (List (List Char) × List Char) := do
  if key.contains '.' then
    let names := if key.any isQuote then dottedNames false (quoteParts key) else Text.split '.' key
    match (names.reverse.dropWhile List.isEmpty) with
    | [] => throw .pieceMissing
    | last :: others => return (others.reverse.filter (!·.isEmpty), Text.trim last)
  else
    let first ← firstOf key
    if isQuote first && key.getLast? = some first then return ([], Text.inner key)
    else return ([], key)

/-! ## Where a value starts -/

/-- Whether a value can start right behind an equals sign: a blank, a mark or a bracket starts one,
and so does a number, a truth value or a moment, unless it is in another base than ten. -/
def startsValue (v : List Char) : Bool :=
  match v with
  | [] => true
  | c :: _ =>
    let trimmed := Text.trim v
    c = ' ' || c = '\t' || isQuote c || c = '[' || c = '\x7b' || trimmed = ['t', 'r', 'u', 'e'] ||
      trimmed = ['f', 'a', 'l', 's', 'e'] || Text.isDecimal v || (date? v).isSome || looksLikeTime v

/-- Low lines are dropped from a text that starts with a digit. -/
def dropLowLines (v : List Char) : List Char :=
  if v.head?.any Char.isDigit then v.filter (· ≠ '_') else v

/-- The key and the value of an entry, and whether a number is tidy. The first place in the list is
taken behind which a value can start, and every place up to it has to be tidy. -/
def choosePlace : Bool → List (List Char × List Char) → Reading (List Char × List Char × Bool)
  | _, [] => .error .malformed
  | tidy, (key, written) :: later =>
    if startsValue written then .ok (key, written, tidy)
    else choosePlace (tidy && later.head?.all fun place => isTidy place.2) later

/-- The parts of an entry before and behind the places where its value can start: the first equals
sign outside of strings, or the last one, and those that follow it. -/
def places (entry : List Char) : List (List Char × List Char) :=
  let count := Text.occurrences ['='] entry
  let first := min (firstOutside ['='] false (quoteParts entry)) count
  (List.range' first (count + 1 - first)).filterMap fun number => Text.cutAt ['='] number entry

/-- The key and the value of an entry, and whether a number is tidy. -/
def cutEntry (entry : List Char) : Reading (List Char × List Char × Bool) := do
  match places entry with
  | [] => throw .malformed
  | (key, written) :: later =>
    let plain := dropLowLines written
    let others := if later.isEmpty && plain ≠ written then [(key, written)] else later
    let (key, written, tidy) ← choosePlace (isTidy written) ((key, plain) :: others)
    return (Text.trim key, Text.trim written, tidy)

/-! ## Strings over several lines -/

/-- A string that is still open at the end of a line. -/
structure Pending where
  /-- The key that it goes to. -/
  key : List Char
  /-- What has been read of it. -/
  written : List Char
  /-- Whether the last line ended with a backslash, which joins it to the next one. -/
  joined : Bool
  deriving DecidableEq, Repr

/-- What has been read of a string, with a line feed behind it unless a backslash ends the line. -/
def Pending.continued (key written : List Char) : Pending :=
  let joined := isEscaped written.reverse
  ⟨key, if joined then written.dropLast else written ++ ['\n'], joined⟩

/-- Whether what stands between the brackets of an array starts with a string. -/
def holdsStrings (v : List Char) : Bool := (Text.trim (Text.inner v)).head?.any isQuote

/-- The last string of an array that does not end: pieces that start with no mark belong to the
piece before them. -/
def lastString : List (List Char) → Reading (List Char)
  | [] => .ok []
  | [piece] => .ok piece
  | piece :: before :: others => do
    if isQuote (← firstOf piece) then return piece
    else lastString ((before ++ ',' :: piece) :: others)
termination_by pieces => pieces.length

/-- Whether a text starts with three marks and does not end with them. -/
def staysOpen (v : List Char) : Reading Bool := do
  let first ← firstOf v
  if !isQuote first then return false
  if (← firstOf (v.drop 1)) ≠ first then return false
  if (← firstOf (v.drop 2)) ≠ first then return false
  return !(5 < v.length && [first, first, first].isSuffixOf v)

/-- Whether a value goes on in the next line. -/
def goesOn (v : List Char) : Reading Bool := do
  if v.length < 3 then return false
  if v.head? = some '[' && v.getLast? ≠ some ']' && holdsStrings v then
    staysOpen (← lastString (Text.split ',' (Text.trim (v.drop 1))).reverse)
  else staysOpen v

/-! ## Arrays and inline tables -/

/-- Whether a text ends with the character it starts with, and no backslash escapes the end. -/
def isBounded (v : List Char) : Bool :=
  v.getLast? = v.head? && !isEscaped ((v.drop 1).dropLast.reverse)

/-- Whether a piece of an array of strings is a string by itself. -/
def isWhole (piece : List Char) : Bool :=
  let v := Text.trim piece
  let backward := v.reverse
  let opensLong := 2 < v.length && v[1]? = v[0]? && v[2]? = v[0]?
  isBounded v && !(opensLong && backward[1]? ≠ v[0]? && backward[2]? ≠ v[0]?)

/-- Put a piece together with those behind it until it is a string by itself. -/
def wholePiece (piece : List Char) : List (List Char) → Reading (List Char × List (List Char))
  | [] => if isWhole piece then .ok (piece, []) else .error .pieceMissing
  | next :: rest =>
    if isWhole piece then .ok (piece, next :: rest) else wholePiece (piece ++ ',' :: next) rest

/-- The strings among the pieces of an array, at most so many; a piece at the end counts as one. -/
def wholePieces : Nat → List (List Char) → Reading (List (List Char))
  | 0, pieces => .ok pieces
  | _ + 1, [] => .ok []
  | _ + 1, [piece] => .ok [piece]
  | count + 1, piece :: rest => do
    let (piece, rest) ← wholePiece piece rest
    return piece :: (← wholePieces count rest)

/-- What is known while the inline tables of an array are told apart. -/
structure Braces where
  /-- The characters of the table that is read, the last one first. -/
  table : Option (List Char)
  /-- The number of open braces. -/
  depth : Nat
  /-- Whether the place is in a string, whatever its marks are. -/
  quoted : Bool := false
  /-- Whether the last character closed a table, so that the next one is passed over. -/
  closed : Bool := false

/-- The inline tables of an array from a place on. -/
def tablesFrom (braces : Braces) : List Char → List (List Char)
  | [] => []
  | c :: rest =>
    match braces.table with
    | none =>
      if c = '\x7b' && !braces.closed then tablesFrom { braces with table := some [c] } rest
      else tablesFrom { braces with closed := false } rest
    | some read =>
      let quoted := if isQuote c then !braces.quoted || isEscaped read else braces.quoted
      let depth := if c = '\x7b' && !quoted then braces.depth + 1 else braces.depth
      if quoted || c ≠ '\x7d' then
        tablesFrom { braces with table := some (c :: read), depth, quoted } rest
      else if 1 < depth then
        tablesFrom { braces with table := some (c :: read), depth := depth - 1, quoted } rest
      else (c :: read).reverse :: tablesFrom { table := none, depth, closed := true } rest

/-- The inline tables of an array, given what stands between its brackets. -/
def inlineTables : List Char → List (List Char)
  | [] => []
  | c :: rest => tablesFrom { table := some [c], depth := if c = '\x7b' then 1 else 0 } rest

/-- The pieces of a text between the commas outside of brackets. -/
def outerPieces : Int → List Char → List (List Char)
  | _, [] => [[]]
  | depth, c :: rest =>
    if c = ',' && depth = 0 then [] :: outerPieces depth rest
    else
      let depth := if c = '[' then depth + 1 else if c = ']' then depth - 1 else depth
      Text.consPiece c (outerPieces depth rest)

/-- The pieces of an array. Its first bracket inside decides: with nothing before it, the items are
arrays. -/
def arrayPieces (v : List Char) : Reading (List (List Char)) :=
  let body := Text.inner v
  let start := Text.trim (body.takeWhile (· ≠ '['))
  if body.contains '[' && start.isEmpty then .ok (outerPieces 0 body)
  else if (Text.trim body).head? = some '\x7b' then .ok (inlineTables body)
  else
    let pieces := Text.split ',' body
    if holdsStrings v then wholePieces pieces.length pieces else .ok pieces

/-- Read the items of an array, all of which fit the first one; empty pieces count for nothing. -/
def readItems (read : List Char → Reading Item) :
    Option Kind → List (List Char) → Reading (List Item)
  | _, [] => .ok []
  | kind, piece :: pieces => do
    let written := Text.trim piece
    if written.isEmpty then readItems read kind pieces
    else
      let item ← read written
      if kind.all item.kind.fits then return item :: (← readItems read (some item.kind) pieces)
      else throw .malformed

/-- Whether an inline table takes a value: a number without a plus sign, a truth value, or anything
between marks or brackets that fit. -/
def fitsInline (v : List Char) : Reading Bool := do
  let first ← firstOf v
  let last := v.getLast?
  return (isQuote first && last = some first) || first.isDigit || first = '-' ||
    v = ['t', 'r', 'u', 'e'] || v = ['f', 'a', 'l', 's', 'e'] || (first = '[' && last = some ']') ||
    (first = '\x7b' && last = some '\x7d')

/-- The entries among the pieces of an inline table: a piece whose value does not fit goes on in the
next piece. -/
def wholeEntries : List (List Char) → Reading (List (List Char))
  | [] => .ok []
  | piece :: rest =>
    match Text.cutAt ['='] 1 piece with
    | none => .error .malformed
    | some (_, written) => do
      if ← fitsInline (Text.trim written) then return piece :: (← wholeEntries rest)
      else
        match rest with
        | [] => throw .malformed
        | next :: others => wholeEntries ((piece ++ ',' :: next) :: others)
termination_by pieces => pieces.length

/-- The entries of an inline table. -/
def inlineEntries (v : List Char) : Reading (List (List Char)) :=
  let body := Text.inner v
  if (Text.trim body).isEmpty then .ok [] else wholeEntries (Text.split ',' body)

/-! ## Entries -/

/-- Do something in the table that names lead to, making tables on the way. -/
def within {α : Type} (finish : Item → Reading (Item × α)) :
    List (List Char) → Item → Reading (Item × α)
  | [], level => finish level
  | name :: names, level => do
    let level ← if ← level.holds name then pure level else level.set name (.table [])
    let (below, answer) ← within finish names (← level.get name)
    return (← level.set name below, answer)

/-- Refuse a key that has an item already. -/
def checkFree (key : List Char) : Item → Reading Unit
  | .table fields => if (Item.lookUp key fields).isSome then .error .malformed else .ok ()
  | _ => .error .malformed

/-- Put the value of a key into a table, or answer with the string that is still open; `read` reads
the value and is told whether a number is tidy. -/
def putValue (read : Bool → List Char → Reading Item) (key written : List Char) (tidy : Bool)
    (level : Item) : Reading (Item × Option Pending) := do
  if ← goesOn written then
    checkFree key level
    if key.isEmpty then throw .keyEmpty
    return (level, some (.continued key written))
  else
    let item ← read tidy written
    checkFree key level
    return (← level.set key item, none)

/-- Put an entry into a table. -/
def putEntry (read : Bool → List Char → Reading Item) (entry : List Char) (level : Item) :
    Reading (Item × Option Pending) := do
  let (key, written, tidy) ← cutEntry entry
  let (path, name) ← keyNames key
  within (putValue read name written tidy) path level

/-- Put the entries of an inline table into a table; a string that is still open ends them. -/
def putEntries (read : Bool → List Char → Reading Item) :
    List (List Char) → Item → Reading Item
  | [], level => .ok level
  | entry :: entries, level => do
    let (level, pending) ← putEntry read entry level
    if pending.isSome then return level else putEntries read entries level

/-- The value that a text writes, nested at most so deep; `tidy` says whether a number is tidy. -/
def readValue : Nat → Bool → List Char → Reading Item
  | 0, _, _ => .error .malformed
  | depth + 1, tidy, v =>
    match v with
    | [] => .error .malformed
    | '[' :: _ => do
      return .array (← readItems (readValue depth true) none (← arrayPieces (Text.trim v)))
    | '\x7b' :: _ => do putEntries (readValue depth) (← inlineEntries v) (.table [])
    | c :: _ => if isQuote c then readString c v else readBare tidy v

end SourceLens.Toml
