import SourceLens.Value
import SourceLens.Text.Quoted

/-!
# Printed values

A value on several lines: every item of a list and every field of a record has a line of its own,
indented by two spaces a level, and an empty list or record stays on one line. Texts stand between
double quotes; the quote, the backslash and the controls below the space are escaped and every
other character is printed as it is.
-/
namespace SourceLens.Value

/-- A character inside a printed text. -/
def escapeChar (c : Char) : List Char :=
  if c = '"' then ['\\', '"']
  else if c = '\\' then ['\\', '\\']
  else if c = '\n' then ['\\', 'n']
  else if c = '\r' then ['\\', 'r']
  else if c = '\t' then ['\\', 't']
  else if c = '\x08' then ['\\', 'b']
  else if c = '\x0c' then ['\\', 'f']
  else if c.toNat < 0x20 then '\\' :: 'u' :: Text.hexDigits 4 c.toNat
  else [c]

/-- A text between double quotes. -/
def printText (s : String) : List Char := '"' :: s.toList.flatMap escapeChar ++ ['"']

/-- A number behind its sign. -/
def signed (number : Int) (digits : List Char) : List Char :=
  if number < 0 then '-' :: digits else digits

/-- The lowest `count` decimal digits of a number. -/
def lowestDigits : Nat → Nat → List Char
  | 0, _ => []
  | count + 1, number => lowestDigits count (number / 10) ++ [Nat.digitChar (number % 10)]

/-- A number without its lowest `count` decimal digits. -/
def higherPart : Nat → Nat → Nat
  | 0, number => number
  | count + 1, number => higherPart count (number / 10)

/-- An integer in decimal digits. -/
def printInt (number : Int) : List Char := signed number (Nat.toDigits 10 number.natAbs)

/-- A number with so many digits and one more behind the point. -/
def printDecimal (mantissa : Int) (places : Nat) : List Char :=
  signed mantissa <|
    Nat.toDigits 10 (higherPart (places + 1) mantissa.natAbs) ++
      '.' :: lowestDigits (places + 1) mantissa.natAbs

/-- A line break and the indentation of a level. -/
def newline (level : Nat) : List Char := '\n' :: List.replicate (2 * level) ' '

/-- Printed members of a list or record, one a line between brackets. -/
def bracket (left right : Char) (level : Nat) : List (List Char) → List Char
  | [] => [left, right]
  | first :: rest =>
    left :: newline (level + 1) ++ first ++
      rest.flatMap (fun member => ',' :: newline (level + 1) ++ member) ++ newline level ++ [right]

mutual

/-- A value printed at a level of indentation. -/
def layoutAt (level : Nat) : Value → List Char
  | .null => ['n', 'u', 'l', 'l']
  | .bool true => ['t', 'r', 'u', 'e']
  | .bool false => ['f', 'a', 'l', 's', 'e']
  | .int number => printInt number
  | .decimal mantissa places => printDecimal mantissa places
  | .text content => printText content
  | .list items => bracket '[' ']' level (layoutItems (level + 1) items)
  | .record fields => bracket '\x7b' '\x7d' level (layoutFields (level + 1) fields)

/-- The items of a list, each printed. -/
def layoutItems (level : Nat) : List Value → List (List Char)
  | [] => []
  | item :: items => layoutAt level item :: layoutItems level items

/-- The fields of a record, each printed with its name. -/
def layoutFields (level : Nat) : List (String × Value) → List (List Char)
  | [] => []
  | field :: fields => layoutField level field :: layoutFields level fields

/-- A field with its name. -/
def layoutField (level : Nat) : String × Value → List Char
  | (name, value) => printText name ++ ':' :: ' ' :: layoutAt level value

end

/-- A value on its own lines. -/
def layout (value : Value) : String := String.ofList (layoutAt 0 value)

end SourceLens.Value
