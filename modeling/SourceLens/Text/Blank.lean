/-!
# Blank characters

The blank characters are the separators of words and lines in every script: the ASCII controls
from tab to carriage return, the four information separators, the space, the next-line control,
and the characters that the character database lists as spaces. The zero-width space and the
byte-order mark are not blank. Trimming removes blanks from the ends of a text and never touches
its inside.
-/
namespace SourceLens.Text

/-- Inclusive ranges of blank code points. -/
def blankRanges : List (Nat × Nat) :=
  [(0x09, 0x0D), (0x1C, 0x20), (0x85, 0x85), (0xA0, 0xA0), (0x1680, 0x1680), (0x2000, 0x200A),
    (0x2028, 0x2029), (0x202F, 0x202F), (0x205F, 0x205F), (0x3000, 0x3000)]

/-- Whether a character is blank. -/
def isBlank (c : Char) : Bool :=
  blankRanges.any fun range => range.1 ≤ c.toNat && c.toNat ≤ range.2

/-- Drop the blanks at the front. -/
def trimLeft (s : List Char) : List Char := s.dropWhile isBlank

/-- Drop the blanks at the back. -/
def trimRight (s : List Char) : List Char := (s.reverse.dropWhile isBlank).reverse

/-- Drop the blanks at both ends. -/
def trim (s : List Char) : List Char := trimRight (trimLeft s)

/-- A text without the blanks at its ends. -/
def strip (s : String) : String := String.ofList (trim s.toList)

/-- A text without the blanks at its back. -/
def stripRight (s : String) : String := String.ofList (trimRight s.toList)

/-- The bytes that separate words in ASCII text. -/
def isBlankByte (b : UInt8) : Bool := b == 0x20 || (0x09 ≤ b && b ≤ 0x0D)

/-- The number of bytes before the blank bytes at the back. -/
def solidSize (bytes : ByteArray) : Nat :=
  (bytes.toList.reverse.dropWhile isBlankByte).length

end SourceLens.Text
