import SourceLens.Text.Pieces
import SourceLens.Value

/-!
# Items of a settings document

What a document can hold, and why a text gives no document. A text that breaks the rules of
documents is malformed. Some texts are not caught by the rules: reading them runs out of
characters, or asks a value for something that values of its kind do not have. Each of these has a
reason of its own.
-/
namespace SourceLens.Toml

/-- The kind of an item. -/
inductive Kind where
  /-- A truth value. -/
  | bool
  /-- An integer. -/
  | int
  /-- A number with a fraction or an exponent, or without digits. -/
  | float
  /-- A string. -/
  | text
  /-- A time of the day. -/
  | time
  /-- A date. -/
  | date
  /-- A date with a time. -/
  | moment
  /-- An array. -/
  | array
  /-- A table. -/
  | table
  deriving DecidableEq, Repr

namespace Kind

/-- The name of a kind in messages. -/
def name : Kind → String
  | bool => "bool"
  | int => "int"
  | float => "float"
  | text => "str"
  | time => "datetime.time"
  | date => "datetime.date"
  | moment => "datetime.datetime"
  | array => "list"
  | table => "dict"

/-- Whether items of two kinds can stand in one array: those of one kind, and dates with and
without a time. -/
def fits (left right : Kind) : Bool :=
  let plain := fun kind => if kind = moment then date else kind
  plain left = plain right

end Kind

/-- Why a text gives no document. -/
inductive Fault where
  /-- The text breaks the rules of documents. -/
  | malformed
  /-- A piece behind the last one is asked for. -/
  | pieceMissing
  /-- A character behind the last one is asked for. -/
  | characterMissing
  /-- A key is looked for in an item that holds nothing. -/
  | notSearchable (kind : Kind)
  /-- A part is taken of an item that has no parts. -/
  | notDivisible (kind : Kind)
  /-- A key is set in an item that cannot be changed. -/
  | notSettable (kind : Kind)
  /-- A key is used as a position in an array. -/
  | keyInArray
  /-- A key is used as a position in a string. -/
  | keyInText
  /-- A table is added to an item that is no array. -/
  | notExtensible
  /-- A string over several lines has no key to go to. -/
  | keyEmpty
  /-- A code point is larger than the machine can tell. -/
  | codeTooLarge
  deriving DecidableEq, Repr

/-- A fault in words. -/
def Fault.message : Fault → String
  | malformed => "malformed"
  | pieceMissing => "list index out of range"
  | characterMissing => "string index out of range"
  | notSearchable kind => s!"argument of type '{kind.name}' is not iterable"
  | notDivisible kind => s!"'{kind.name}' object is not subscriptable"
  | notSettable kind => s!"'{kind.name}' object does not support item assignment"
  | keyInArray => "list indices must be integers or slices, not str"
  | keyInText => "string indices must be integers, not 'str'"
  | notExtensible => "You can only load a file descriptor, filename or list"
  | keyEmpty => "cannot access local variable 'value' where it is not associated with a value"
  | codeTooLarge => "Python int too large to convert to C int"

/-- The outcome of reading. -/
abbrev Reading : Type → Type := Except Fault

/-- The first character of a text. -/
def firstOf : List Char → Reading Char
  | [] => .error .characterMissing
  | c :: _ => .ok c

/-- What a document holds under a key. Settings have no use for numbers with a fraction and for
moments, so only their kinds are kept. -/
inductive Item where
  /-- A truth value. -/
  | bool (flag : Bool)
  /-- An integer. -/
  | int (number : Int)
  /-- A number that is no integer. -/
  | float
  /-- A string. -/
  | text (content : List Char)
  /-- A time of the day. -/
  | time
  /-- A date. -/
  | date
  /-- A date with a time. -/
  | moment
  /-- Items in order. -/
  | array (items : List Item)
  /-- Named items in order. -/
  | table (fields : List (List Char × Item))
  deriving Repr

namespace Item

/-- The kind of an item. -/
def kind : Item → Kind
  | bool _ => .bool
  | int _ => .int
  | float => .float
  | text _ => .text
  | time => .time
  | date => .date
  | moment => .moment
  | array _ => .array
  | table _ => .table

/-- Whether an item is a certain string. -/
def isText (content : List Char) : Item → Bool
  | text own => own = content
  | _ => false

/-- The item under a key among named items. -/
def lookUp (key : List Char) (fields : List (List Char × Item)) : Option Item :=
  (fields.find? (·.1 = key)).map (·.2)

/-- Named items with one more, in the place of the one with the same name if there is one. -/
def replace (key : List Char) (item : Item) (fields : List (List Char × Item)) :
    List (List Char × Item) :=
  if (lookUp key fields).isSome then
    fields.map fun field => if field.1 = key then (key, item) else field
  else fields ++ [(key, item)]

/-- Whether an item holds a key: a table among its names, an array among its strings, a string as
a part of itself. -/
def holds (key : List Char) : Item → Reading Bool
  | table fields => .ok (lookUp key fields).isSome
  | array items => .ok (items.any (isText key))
  | text content => .ok (key.isEmpty || decide (0 < Text.occurrences key content))
  | other => .error (.notSearchable other.kind)

/-- The item under a key that is there. -/
def get (key : List Char) : Item → Reading Item
  | table fields => ((lookUp key fields).map .ok).getD (.error .malformed)
  | array _ => .error .keyInArray
  | text _ => .error .keyInText
  | other => .error (.notDivisible other.kind)

/-- Put an item under a key of a holder. -/
def set (holder : Item) (key : List Char) (item : Item) : Reading Item :=
  match holder with
  | table fields => .ok (table (replace key item fields))
  | array _ => .error .keyInArray
  | other => .error (.notSettable other.kind)

/-- The last part of an item that has parts in order. -/
def last : Item → Reading Item
  | array items => (items.getLast?.map .ok).getD (.error .pieceMissing)
  | text content => (content.getLast?.map fun c => .ok (text [c])).getD (.error .characterMissing)
  | other => .error (.notDivisible other.kind)

/-- Put an item in the place of the last part of a holder. -/
def setLast (holder item : Item) : Item :=
  match holder with
  | array items => array (items.dropLast ++ [item])
  | other => other

mutual

/-- An item as a value of settings. -/
def value : Item → Value
  | bool flag => .bool flag
  | int number => .int number
  | text content => .text (String.ofList content)
  | array items => .list (values items)
  | table fields => .record (namedValues fields)
  | float | time | date | moment => .null

/-- Items as values. -/
def values : List Item → List Value
  | [] => []
  | item :: items => item.value :: values items

/-- Named items as named values. -/
def namedValues : List (List Char × Item) → Fields
  | [] => []
  | (key, item) :: fields => (String.ofList key, item.value) :: namedValues fields

end

end Item

end SourceLens.Toml
