/-!
# Pieces

A text is divided at every occurrence of a separator, from left to right and without overlaps.
Joining the pieces with the separator gives the text back, so a text can be cut at one of the
occurrences by dividing it and joining the pieces on either side.
-/
namespace SourceLens.Text

/-- Put a character in front of the first piece. -/
def consPiece (c : Char) : List (List Char) → List (List Char)
  | [] => [[c]]
  | piece :: pieces => (c :: piece) :: pieces

/-- The pieces of a text between the occurrences of a separator, when so many characters still
belong to the last occurrence. -/
def piecesFrom (separator : List Char) : Nat → List Char → List (List Char)
  | _, [] => [[]]
  | skipped + 1, _ :: rest => piecesFrom separator skipped rest
  | 0, c :: rest =>
    if separator.isPrefixOf (c :: rest) then
      [] :: piecesFrom separator (separator.length - 1) rest
    else consPiece c (piecesFrom separator 0 rest)

/-- The pieces of a text between the occurrences of a separator, which is not empty. -/
def pieces (separator : List Char) (s : List Char) : List (List Char) := piecesFrom separator 0 s

/-- The pieces of a text between the occurrences of a character. -/
def split (separator : Char) (s : List Char) : List (List Char) := pieces [separator] s

/-- How often a separator occurs in a text. -/
def occurrences (separator : List Char) (s : List Char) : Nat := (pieces separator s).length - 1

/-- The parts of a text before and behind an occurrence of a separator, the first one having the
number one. -/
def cutAt (separator : List Char) (number : Nat) (s : List Char) :
    Option (List Char × List Char) :=
  let parts := pieces separator s
  if number < parts.length then
    some (separator.intercalate (parts.take number), separator.intercalate (parts.drop number))
  else none

/-- A text without its first and its last character. -/
def inner (s : List Char) : List Char := (s.drop 1).dropLast

end SourceLens.Text
