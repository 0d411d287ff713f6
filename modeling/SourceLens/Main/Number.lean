import SourceLens.Text.Decimal

/-!
# Numbers in command lines

A whole number is written in ASCII digits behind an optional sign. Padding around it and zeros in
front of it do not count, single low lines may stand between digits, and a point may follow with
zeros only. What is left when all this is dropped has at most as many characters as a written
integer has digits.
-/
namespace SourceLens.Options

/-- The part of a number from its first digit that counts; `last` is the zero or low line read last.
The last zero counts when nothing else does. -/
def significant (last : Char) : List Char → Option (List Char)
  | [] => some [last]
  | c :: rest =>
    if c = '0' ∨ c = '_' then significant c rest
    else if c.isDigit then some (c :: rest)
    else if c = '.' then some (last :: c :: rest)
    else none

/-- A number without the zeros in front of it. -/
def withoutZeros : List Char → Option (List Char)
  | '0' :: rest => significant '0' rest
  | s => some s

/-- A number without the point and the zeros behind it. -/
def wholePart (s : List Char) : Option (List Char) :=
  let whole := s.takeWhile (· ≠ '.')
  match s.drop whole.length with
  | [] => some whole
  | _ :: zeros => if zeros.isEmpty || zeros.any (· ≠ '0') then none else some whole

/-- The digits that count in a number without a sign, in order. -/
def numberDigits (s : List Char) : Option (List Nat) := do
  let whole ← wholePart (← withoutZeros s)
  if whole.all fun c => c.isDigit || c = '_' then Text.readDigits false whole else none

/-- The whole number that a text writes. -/
def readNumber? (s : String) : Option Int :=
  match Text.unpadded s.toList with
  | '-' :: rest => do
    let digits ← numberDigits rest
    if digits.length < Text.maxDigits then some (-(Text.ofDigits digits : Int)) else none
  | '+' :: rest | rest => do
    let digits ← numberDigits rest
    if digits.length ≤ Text.maxDigits then some (Text.ofDigits digits) else none

end SourceLens.Options
