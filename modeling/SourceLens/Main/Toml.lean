import SourceLens.Main.Toml.Entry
import SourceLens.Main.Toml.Lines
import SourceLens.Settings

/-!
# Settings documents

A document is a table of tables. A line is a header, which opens a table, or an entry, which goes
into the table that was opened last. No key and no table may be given twice, except a table that
only headers of its own tables have made. A header with two brackets on either side adds a table to
an array of tables.
-/
namespace SourceLens.Toml

/-! ## Headers -/

/-- Whether a name in a header is well written without marks. -/
def isPlainName (name : List Char) : Bool :=
  !name.isEmpty && name.all fun c => c.isAlphanum || c = '_' || c = '-'

/-- What stands between the marks of a name that ends with the mark it starts with. -/
def unmarkName (name : List Char) : Option (List Char) :=
  if 1 < name.length && name.getLast? = name.head? then some (Text.inner name) else none

/-- Put a name that starts with a mark together with the parts behind it until it ends with the
mark. -/
def markedName (written : List Char) : List (List Char) → Reading (List Char × List (List Char))
  | [] => ((unmarkName (Text.trim written)).map fun name => .ok (name, [])).getD (.error .malformed)
  | part :: parts =>
    match unmarkName (Text.trim written) with
    | some name => .ok (name, part :: parts)
    | none => markedName (written ++ '.' :: part) parts

/-- The names in a header, given its parts between dots, at most so many. -/
def headerNames : Nat → List (List Char) → Reading (List (List Char))
  | 0, _ | _, [] => .ok []
  | count + 1, part :: parts => do
    let name := Text.trim part
    if name.head?.any isQuote then
      let (name, parts) ← markedName name parts
      return name :: (← headerNames count parts)
    else if isPlainName name then return name :: (← headerNames count parts)
    else throw .malformed

/-- The names in a header, and whether it has two brackets on either side. -/
def readHeader (line : List Char) : Reading (List (List Char) × Bool) := do
  let double := (line.drop 1).head? = some '['
  let separator := if double then [']', ']'] else [']']
  let body := line.drop separator.length
  if line.length = 1 then throw .malformed
  match Text.cutAt separator (firstOutside separator false (quoteParts body)) body with
  | none => throw .malformed
  | some (names, rest) =>
    if !(Text.trim rest).isEmpty then throw .malformed
    let parts := Text.split '.' names
    return (← headerNames parts.length parts, double)

/-! ## Open tables -/

/-- A step from an item to a part of it. -/
inductive Step where
  /-- To the item under a key. -/
  | key (name : List Char)
  /-- To the last item. -/
  | last
  deriving DecidableEq, Repr

/-- Do something with the part of an item that steps lead to. -/
def atPath {α : Type} (change : Item → Reading (Item × α)) :
    List Step → Item → Reading (Item × α)
  | [], item => change item
  | .key name :: steps, item => do
    let (part, answer) ← atPath change steps (← item.get name)
    return (← item.set name part, answer)
  | .last :: steps, item => do
    let (part, answer) ← atPath change steps (← item.last)
    return (item.setLast part, answer)

/-- A place in a document that headers lead to. -/
structure Opened where
  /-- The item on the way, changed so that the place exists. -/
  item : Item
  /-- The steps from the item to the place. -/
  path : List Step
  /-- The names of the tables that only headers of their own tables have made. -/
  implied : List (List Char)

/-- The last table of an array of tables; a table stands for itself. -/
def enterLast (item : Item) : Reading (Item × List Step) :=
  match item with
  | .table _ => .ok (item, [])
  | other => other.last.map fun last => (last, [.last])

/-- The item that a header with two brackets on either side makes under a name, or one with one. -/
def newTable (double final : Bool) : Item :=
  if double && final then .array [.table []] else .table []

/-- What a header that ends with a name does to the item under it that is there already, and to
the implied tables. -/
def reopen (double : Bool) (implied : List (List Char)) (name : List Char) (item : Item) :
    Reading (Item × List (List Char)) :=
  if implied.contains name then
    if double then .error .malformed else .ok (item, implied.erase name)
  else if double then
    match item with
    | .array items => .ok (.array (items ++ [.table []]), implied)
    | _ => .error .notExtensible
  else .error .malformed

/-- Follow one name of a header from a table, or from the last item of an array: the item that the
name belongs to, changed so that it has one, with the steps to it, and the implied tables. -/
def openName (double final : Bool) (implied : List (List Char)) (name : List Char) (level : Item) :
    Reading (Item × Option Step × List (List Char)) := do
  match level with
  | .table fields =>
    match Item.lookUp name fields with
    | some item =>
      if final then
        let (item, implied) ← reopen double implied name item
        return (← level.set name item, none, implied)
      else return (level, none, implied)
    | none =>
      let implied := if final then implied else implied ++ [name]
      return (← level.set name (newTable double final), none, implied)
  | other =>
    let last ← other.last
    let last ← if ← last.holds name then pure last else last.set name (newTable double final)
    return (last, some .last, implied)

/-- Open the table that the names of a header lead to. -/
def openTable (double : Bool) (implied : List (List Char)) :
    List (List Char) → Item → Reading Opened
  | [], level => .ok ⟨level, [], implied⟩
  | name :: names, level => do
    if name.isEmpty then throw .malformed
    let (holder, step, implied) ← openName double names.isEmpty implied name level
    let item ← holder.get name
    let (target, steps) ← if double then enterLast item else pure (item, [])
    let below ← openTable double implied names target
    let item := if steps.isEmpty then below.item else item.setLast below.item
    let holder ← holder.set name item
    return {
      item := if step.isNone then holder else level.setLast holder
      path := step.toList ++ .key name :: steps ++ below.path
      implied := below.implied }

/-! ## Lines -/

/-- A document that is being read. -/
structure Draft where
  /-- The table of tables. -/
  root : Item := .table []
  /-- The steps to the open table. -/
  current : List Step := []
  /-- The names of the tables that only headers of their own tables have made. -/
  implied : List (List Char) := []
  /-- The string that is still open. -/
  pending : Option Pending := none

namespace Draft

/-- Put an item under a key of the open table. -/
def put (draft : Draft) (key : List Char) (item : Item) : Reading Draft := do
  let (root, _) ← atPath (fun level => return (← level.set key item, ())) draft.current draft.root
  return { draft with root, pending := none }

/-- Whether a line ends a string or an array of strings over several lines that starts with a
character. -/
def closes (first : Char) (line : List Char) : Reading Bool :=
  if first = '[' then
    match line.getLast? with
    | none => .error .characterMissing
    | some last => .ok (last = ']')
  else .ok (2 < line.length && [first, first, first].isSuffixOf line)

/-- Read a line of a string that is still open. -/
def resume (draft : Draft) (pending : Pending) (line : List Char) : Reading Draft := do
  let written := pending.written ++ line
  if ← closes (← firstOf written) line then
    draft.put pending.key (← readValue (written.length + 1) true written)
  else return { draft with pending := some (.continued pending.key written) }

/-- Read a header. -/
def openHeader (draft : Draft) (line : List Char) : Reading Draft := do
  let (names, double) ← readHeader line
  let opened ← openTable double draft.implied names draft.root
  return { draft with root := opened.item, current := opened.path, implied := opened.implied }

/-- Read a line outside of strings; a line in braces puts its entries into the open table. -/
def fresh (draft : Draft) (line : List Char) : Reading Draft := do
  let read := readValue (line.length + 1)
  if line.head? = some '[' then draft.openHeader line
  else if line.head? = some '\x7b' then
    if line.getLast? ≠ some '\x7d' then throw .malformed
    let change := fun level => do return (← putEntries read (← inlineEntries line) level, ())
    let (root, _) ← atPath change draft.current draft.root
    return { draft with root }
  else if line.contains '=' then
    let (root, pending) ← atPath (putEntry read line) draft.current draft.root
    return { draft with root, pending }
  else return draft

/-- Read a line. Blanks around it count only in a string that goes on behind a line feed. -/
def line (draft : Draft) (written : List Char) : Reading Draft :=
  match draft.pending with
  | none =>
    let line := Text.trim written
    if line.isEmpty then .ok draft else draft.fresh line
  | some pending =>
    let line :=
      if pending.joined || !pending.written.contains '\n' then Text.trim written else written
    if line.isEmpty && pending.joined then .ok draft else draft.resume pending line

end Draft

/-- The table of tables that a text writes. -/
def parse (text : List Char) : Reading Fields := do
  let lines ← logicalLines text
  let draft ← lines.foldlM Draft.line {}
  match draft.root with
  | .table fields => return Item.namedValues fields
  | _ => return []

/-- A fault as the error of a reader of tables. -/
def Fault.error (fault : Fault) : TableError :=
  match fault with
  | .malformed => .malformed
  | .pieceMissing | .characterMissing => .failed "IndexError" fault.message
  | .keyEmpty => .failed "UnboundLocalError" fault.message
  | .codeTooLarge => .failed "OverflowError" fault.message
  | _ => .failed "TypeError" fault.message

/-- The reader of tables of the program. -/
def reader : TableReader := fun text => (parse text).mapError Fault.error

end SourceLens.Toml
