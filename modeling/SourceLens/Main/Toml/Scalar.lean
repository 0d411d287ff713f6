import SourceLens.Text.Decimal
import SourceLens.Text.Digits
import SourceLens.Main.Toml.Item

/-!
# Single values of a settings document

Strings, numbers, truth values and moments. The bounds of a string are its first and its last
character, whatever stands between them, as long as no part of it is closed before the last. A
number may have a sign, low lines between its digits and a base; right behind a key it must not
have leading zeros or stray low lines.
-/
namespace SourceLens.Toml

/-- Whether a character opens and closes strings. -/
def isQuote (c : Char) : Bool := c = '"' || c = '\x27'

/-- Whether the characters before a place, the nearest one first, end with a backslash that is not
itself escaped. -/
def isEscaped (before : List Char) : Bool := (before.takeWhile (· = '\\')).length % 2 = 1

/-! ## Strings -/

/-- What is known of a string while its parts between marks are looked at. -/
structure Closing where
  /-- Whether the string has been closed. -/
  closed : Bool := false
  /-- The number of empty parts since the last part that is not empty. -/
  marks : Nat := 0
  deriving DecidableEq, Repr

/-- Look at the next part of a string between two marks; `long` says whether three marks open the
string. A part that ends with an escaping backslash goes on behind the mark. -/
def Closing.next (long : Bool) (closing : Closing) (part : List Char) : Reading Closing :=
  if part.isEmpty then
    .ok <|
      if long then { closing with marks := closing.marks + 1 } else { closing with closed := true }
  else if isEscaped part.reverse then .ok closing
  else if closing.closed then .error .malformed
  else if !long || 1 < closing.marks then .ok { closing with closed := true }
  else .ok { closing with marks := 0 }

/-- Refuse a string that goes on behind the mark that closes it. -/
def checkClosed (mark : Char) (v : List Char) : Reading Unit := do
  let parts := Text.split mark (v.drop 1)
  let (long, parts) := match parts with
    | [] :: [] :: rest => (true, rest)
    | parts => (false, parts)
  let _ ← parts.foldlM (Closing.next long) {}
  return ()

/-- The character that stands behind a backslash for another one. -/
def escape? : Char → Option Char
  | '0' => some '\x00'
  | 'b' => some '\x08'
  | 'f' => some '\x0c'
  | 'n' => some '\n'
  | 'r' => some '\r'
  | 't' => some '\t'
  | '"' => some '"'
  | _ => none

/-- Refuse parts of a string behind backslashes that start with no escape; `paired` says whether
the backslash before the next part is itself escaped. -/
def checkEscapes : Bool → List (List Char) → Reading Unit
  | _, [] => .ok ()
  | paired, [] :: rest => checkEscapes (!paired) rest
  | paired, (c :: _) :: rest =>
    if (escape? c).isNone && c ≠ 'u' && c ≠ 'U' && !paired then .error .malformed
    else checkEscapes false rest

/-- The greatest code point that a character can be asked for by. -/
def maxCode : Nat := 0x7FFFFFFF

/-- The character with the code point that hexadecimal digits write. The halves of a pair are no
characters. -/
def charOfHex (digits : List Char) : Reading Char := do
  if !digits.all Text.isHexDigit then throw .malformed
  match digits.map Char.toLower with
  | [] | ['d'] => throw .characterMissing
  | 'd' :: c :: _ => if '7' < c then throw .malformed
  | _ => pure ()
  let code := Text.ofDigitsIn 16 digits
  if maxCode < code then throw .codeTooLarge
  if code.isValidChar then return Char.ofNat code else throw .malformed

/-- Read the parts of a string behind the signs of code points, each of which starts with up to
`size` digits. A sign whose backslash is escaped stands for itself; that is looked at before the
first part and behind every part that was left alone. -/
def readCodes (sign : List Char) (size : Nat) :
    Bool → List Char → List (List Char) → Reading (List Char)
  | _, before, [] => .ok before
  | true, before, part :: parts =>
    readCodes sign size (isEscaped part.reverse) (before ++ sign ++ part) parts
  | false, before, part :: parts => do
    let char ← charOfHex (part.take size)
    readCodes sign size false (before ++ char :: part.drop size) parts

/-- Replace the code points behind a sign in a string. -/
def replaceCodes (sign : List Char) (size : Nat) (v : List Char) : Reading (List Char) :=
  match Text.pieces sign v with
  | [] => .ok v
  | before :: parts => readCodes sign size (isEscaped before.reverse) before parts

/-- Replace the escapes in a string; the signs of code points that are left stand for
themselves. -/
def unescape : List Char → Reading (List Char)
  | [] => .ok []
  | ['\\'] => .ok ['\\']
  | '\\' :: c :: rest =>
    match escape? c with
    | some char => (unescape rest).map (char :: ·)
    | none =>
      if c = '\\' then (unescape rest).map ('\\' :: ·)
      else if c = 'u' || c = 'U' then (unescape rest).map fun rest => '\\' :: c :: rest
      else .error .malformed
  | c :: rest => (unescape rest).map (c :: ·)

/-- A string in double marks with all its escapes replaced. -/
def resolve (v : List Char) : Reading (List Char) := do
  checkEscapes false ((Text.split '\\' v).drop 1)
  let v ← replaceCodes ['\\', 'u'] 4 v
  let v ← replaceCodes ['\\', 'U'] 8 v
  unescape v

/-- What stands between the marks of a string: one on either side, or three if it starts with
three. -/
def unmark (mark : Char) (v : List Char) : List Char :=
  if [mark, mark].isPrefixOf (v.drop 1) then Text.inner (Text.inner (Text.inner v))
  else Text.inner v

/-- The string that a text starting with a mark writes. -/
def readString (mark : Char) (v : List Char) : Reading Item := do
  checkClosed mark v
  let v ← if mark = '"' then resolve v else pure v
  return .text (unmark mark v)

/-! ## Moments -/

/-- The number that the characters from one place up to another write. -/
def numberAt (v : List Char) (start stop : Nat) : Option Int :=
  Text.readInt? (String.ofList ((v.take stop).drop start))

/-- Whether a text starts with two digits at a place. -/
def digitsAt (v : List Char) (start : Nat) : Bool :=
  let digits := (v.drop start).take 2
  digits.length = 2 && digits.all Char.isDigit

/-- Whether a text starts like a time of the day. -/
def looksLikeTime (v : List Char) : Bool :=
  digitsAt v 0 && v[2]? = some ':' && digitsAt v 3 && v[5]? = some ':' && digitsAt v 6

/-- Whether a number is there, not negative and below a bound. -/
def isBelow (bound : Int) (number : Option Int) : Bool :=
  number.any fun number => 0 ≤ number && number < bound

/-- Whether the hours, minutes and seconds from a place on are in range. -/
def isTimeAt (v : List Char) (start : Nat) : Bool :=
  isBelow 24 (numberAt v start (start + 2)) && isBelow 60 (numberAt v (start + 3) (start + 5)) &&
    isBelow 60 (numberAt v (start + 6) (start + 8))

/-- The number of days of a month. -/
def daysOf (year month : Int) : Int :=
  if month = 2 then
    if year % 4 = 0 ∧ (year % 100 ≠ 0 ∨ year % 400 = 0) then 29 else 28
  else if month = 4 ∨ month = 6 ∨ month = 9 ∨ month = 11 then 30
  else 31

/-- Whether a text starts with the year, the month and the day of a date. -/
def isDayAt (v : List Char) : Bool :=
  match numberAt v 0 4, numberAt v 5 7, numberAt v 8 10 with
  | some year, some month, some day =>
    1 ≤ year && 1 ≤ month && month ≤ 12 && 1 ≤ day && day ≤ daysOf year month
  | _, _, _ => false

/-- The date that a text writes, with or without a time. -/
def date? (v : List Char) : Option Item :=
  if !(v.drop 1).contains '-' || !isDayAt v then none
  else if v.length = 10 then some .date
  else if isTimeAt v 11 then some .moment
  else none

/-! ## Numbers -/

/-- Whether one character stands right before another one somewhere. -/
def follows (v : List Char) (first second : Char) : Bool :=
  (v.zip (v.drop 1)).contains (first, second)

/-- Whether a number, blanks around it left out, has no leading zeros and no stray low lines. -/
def isTidy (written : List Char) : Bool :=
  let v := Text.trim written
  let zeroLed := match v with
    | '0' :: c :: _ => c ≠ '.' && c ≠ 'o' && c ≠ 'b' && c ≠ 'x'
    | '+' :: '0' :: c :: _ | '-' :: '0' :: c :: _ => c ≠ '.'
    | _ => false
  !v.isEmpty && v.head? ≠ some '_' && v.getLast? ≠ some '_' && !follows v '_' '.' &&
    !follows v '.' '_' && !follows v '_' '_' && !zeroLed

/-- The digits of a text in ASCII; other characters are kept. -/
def plainDigits (v : List Char) : List Char :=
  v.map fun c => ((Text.digitValue? c).map Nat.digitChar).getD c

/-- The natural number that a text writes, in base ten or behind the sign of another base. -/
def readBased? (v : List Char) : Option Nat :=
  match plainDigits v with
  | '0' :: 'x' :: digits | '0' :: 'X' :: digits => Text.readBase? 16 digits
  | '0' :: 'o' :: digits | '0' :: 'O' :: digits => Text.readBase? 8 digits
  | '0' :: 'b' :: digits | '0' :: 'B' :: digits => Text.readBase? 2 digits
  | digits => do
    let number ← Text.readNat? digits
    if digits.head? = some '0' ∧ number ≠ 0 then none else some number

/-- The integer that a text without low lines writes. -/
def readInteger? (v : List Char) : Option Int :=
  let body := Text.unpadded v
  let number := (readBased? (Text.unsigned body)).map Int.ofNat
  if body.head? = some '-' then number.map (- ·) else number

/-- Whether a text without low lines and sign writes a number with a fraction or an exponent: it
starts with a digit, and something stands behind the point. -/
def isFraction (v : List Char) : Bool :=
  v.head?.any Char.isDigit && (v.dropWhile (· ≠ '.')) ≠ ['.'] && Text.isDecimal v

/-- The number that a text writes; `tidy` says whether its digits are in order. -/
def readNumber (tidy : Bool) (v : List Char) : Reading Item := do
  if !tidy then throw .malformed
  let plain := (Text.unsigned v).filter (· ≠ '_')
  let lower := plain.map Char.toLower
  if plain.contains '.' || (!plain.contains 'x' && lower.contains 'e') then
    if isFraction plain then return .float else throw .malformed
  else if lower = ['i', 'n', 'f'] ∨ lower = ['n', 'a', 'n'] then return .float
  else
    match readInteger? plain with
    | none => throw .malformed
    | some number => return .int (if v.head? = some '-' then -number else number)

/-- The value that a text writes which is neither a string nor in brackets. -/
def readBare (tidy : Bool) (v : List Char) : Reading Item :=
  if v = ['t', 'r', 'u', 'e'] then .ok (.bool true)
  else if v = ['f', 'a', 'l', 's', 'e'] then .ok (.bool false)
  else if looksLikeTime v then if isTimeAt v 0 then .ok .time else .error .malformed
  else ((date? v).map .ok).getD (readNumber tidy v)

end SourceLens.Toml
