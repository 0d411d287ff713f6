/-!
# Digits

Digits of the bases up to sixteen.
-/
namespace SourceLens.Text

/-- The value of a hexadecimal digit. -/
def hexValue? (c : Char) : Option Nat :=
  if c.isDigit then some (c.toNat - 48)
  else if 'a' ≤ c ∧ c ≤ 'f' then some (c.toNat - 87)
  else if 'A' ≤ c ∧ c ≤ 'F' then some (c.toNat - 55)
  else none

/-- Whether a character is a hexadecimal digit. -/
def isHexDigit (c : Char) : Bool := (hexValue? c).isSome

/-- The number with the given digits in a base; other characters count as zero. -/
def ofDigitsIn (base : Nat) (digits : List Char) : Nat :=
  digits.foldl (fun number digit => number * base + (hexValue? digit).getD 0) 0

/-- The number that digits of a base write. -/
def readBase? (base : Nat) (digits : List Char) : Option Nat :=
  if !digits.isEmpty && digits.all fun digit => (hexValue? digit).any (· < base) then
    some (ofDigitsIn base digits)
  else none

end SourceLens.Text
