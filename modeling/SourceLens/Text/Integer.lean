import SourceLens.Text.Blank
import SourceLens.Text.Letters

/-!
# Written integers

An integer is written as decimal digits of any script behind an optional sign. Single low lines
may stand between digits, and blanks around the number do not count. Numbers of more than
`maxDigits` digits are refused, when they are read and when they are printed.
-/
namespace SourceLens.Text

/-- The greatest number of digits of a written integer. -/
def maxDigits : Nat := 4300

/-- An integer in decimal digits, unless it has too many. The sign does not count. -/
def printInt? (number : Int) : Option String :=
  if (toString number.natAbs).length ≤ maxDigits then some (toString number) else none

/-- Whether a character may stand around a number. The information separators are blank but may
not. -/
def isPadding (c : Char) : Bool := isBlank c && !(0x1C ≤ c.toNat && c.toNat ≤ 0x1F)

/-- The value of a decimal digit. Every range of digits starts with a zero and goes on in blocks of
ten. -/
def digitValue? (c : Char) : Option Nat :=
  (decimalDigits.find? fun range => range.1 ≤ c.toNat && c.toNat ≤ range.2).map fun range =>
    (c.toNat - range.1) % 10

/-- The digits of a number, read from the left; `afterDigit` says whether the last character read
was a digit. A low line stands between digits only. -/
def readDigits : Bool → List Char → Option (List Nat)
  | afterDigit, [] => if afterDigit then some [] else none
  | afterDigit, c :: rest =>
    if c = '_' then if afterDigit then readDigits false rest else none
    else do
      let value ← digitValue? c
      let values ← readDigits true rest
      some (value :: values)

/-- The number with the given decimal digits. -/
def ofDigits (digits : List Nat) : Nat := digits.foldl (fun number digit => number * 10 + digit) 0

/-- The natural number that a character list writes. -/
def readNat? (s : List Char) : Option Nat := do
  let digits ← readDigits false s
  if digits.length ≤ maxDigits then some (ofDigits digits) else none

/-- The integer that a text writes. -/
def readInt? (s : String) : Option Int :=
  let body := ((s.toList.dropWhile isPadding).reverse.dropWhile isPadding).reverse
  match body with
  | '-' :: digits => (readNat? digits).map fun number => -(number : Int)
  | '+' :: digits => (readNat? digits).map Int.ofNat
  | digits => (readNat? digits).map Int.ofNat

end SourceLens.Text
