/-!
# Dynamic values

Requests arrive and results leave as values without a fixed shape: texts, numbers, lists and
records whose fields keep the order in which they were written. `Value.layout` prints a value with
one item or field a line, two spaces deeper at every level.
-/
namespace SourceLens

/-- A value of a request, a settings file or a result. -/
inductive Value where
  /-- The absent value. -/
  | null
  /-- A truth value. -/
  | bool (flag : Bool)
  /-- An integer of any size. -/
  | int (number : Int)
  /-- A number with a fraction: the mantissa with the point before its last digit and so many digits
  more. -/
  | decimal (mantissa : Int) (places : Nat)
  /-- A text. -/
  | text (content : String)
  /-- Values in order. -/
  | list (items : List Value)
  /-- Named values in order. -/
  | record (fields : List (String × Value))
  deriving Repr, Inhabited

/-- The named values of a record. -/
abbrev Fields : Type := List (String × Value)

/-- The value of a field, the last one when the name is repeated. -/
def Fields.get? (fields : Fields) (name : String) : Option Value :=
  (fields.reverse.find? (·.1 == name)).map (·.2)

namespace Value

/-- The text of a text value. -/
def text? : Value → Option String
  | .text content => some content
  | _ => none

/-- The fields of a record. -/
def record? : Value → Option Fields
  | .record fields => some fields
  | _ => none

/-- A number as a value. -/
def nat (number : Nat) : Value := .int number

/-- Texts as a list value. -/
def texts (items : List String) : Value := .list (items.map .text)

/-- An optional text, absent as null. -/
def textOrNull : Option String → Value
  | none => .null
  | some content => .text content

/-- An optional integer, absent as null. -/
def intOrNull : Option Int → Value
  | none => .null
  | some number => .int number

/-- A field that is left out when there is no text or the text is empty. -/
def optionalField (name : String) : Option String → Fields
  | none => []
  | some content => if content.isEmpty then [] else [(name, .text content)]

end Value

end SourceLens
