import SourceLens.Text.CharName.Alias
import SourceLens.Text.CharName.Asian
import SourceLens.Text.CharName.EastAsian
import SourceLens.Text.CharName.European
import SourceLens.Text.CharName.Hieroglyph
import SourceLens.Text.CharName.Historic
import SourceLens.Text.CharName.Notation
import SourceLens.Text.CharName.Picture
import SourceLens.Text.CharName.Presentation
import SourceLens.Text.CharName.Symbol
import SourceLens.Text.CodePoints
import SourceLens.Text.Digits

/-!
# Names of characters

The character with a name. Most names stand in tables and are found in any case of their letters.
The names of Korean syllables are put together from the names of their letters, and those of unified
ideographs and of some other characters end in the code point; syllables and unified ideographs are
found in capital letters only.
-/
namespace SourceLens.Text

/-- An entry of a table of names. -/
inductive NameEntry where
  /-- The code point of the next name. -/
  | jump (code : Nat)
  /-- A name: so many words of the name before, and further words. -/
  | name (shared : Nat) (words : List String)
  deriving DecidableEq, Repr

namespace NameEntry

/-- Read an entry. -/
def read (entry : String) : NameEntry :=
  match entry.toList with
  | '=' :: digits => jump (ofDigitsIn 16 digits)
  | count :: rest => name (count.toNat - '0'.toNat) ((String.ofList rest).splitOn " ")
  | [] => name 0 []

/-- Read a line of entries. -/
def readLine (line : String) : List NameEntry := (line.splitOn ";").map read

/-- The code point of a name, given as its words, in some entries; `code` and `before` are the code
point of the next name and the words of the last one. -/
def find? (wanted : List String) : Nat → List String → List NameEntry → Option Nat
  | _, _, [] => none
  | _, before, jump code :: rest => find? wanted code before rest
  | code, before, name shared words :: rest =>
    let own := before.take shared ++ words
    if own = wanted then some code else find? wanted (code + 1) own rest

end NameEntry

/-- The tables of names, each as lines of entries. -/
def nameTables : List (List String) :=
  [europeanNames, asianNames, symbolNames, eastAsianNames, presentationNames, historicNames,
    hieroglyphNames, notationNames, pictureNames, aliasNames]

/-- The characters whose names end in their code points, by the words before it. -/
def codedNames : List (String × CodePoints) :=
  [("CJK COMPATIBILITY IDEOGRAPH", #[(0xF900, 0xFA6D), (0xFA70, 0xFAD9), (0x2F800, 0x2FA1D)]),
    ("KHITAN SMALL SCRIPT CHARACTER", #[(0x18B00, 0x18CD5)]),
    ("NUSHU CHARACTER", #[(0x1B170, 0x1B2FB)])]

/-- The unified ideographs. -/
def unifiedIdeographs : CodePoints :=
  #[(0x3400, 0x4DBF), (0x4E00, 0x9FFF), (0x20000, 0x2A6DF), (0x2A700, 0x2B738), (0x2B740, 0x2B81D),
    (0x2B820, 0x2CEA1), (0x2CEB0, 0x2EBE0), (0x30000, 0x3134A)]

/-- The names of the first letters of Korean syllables. -/
def firstLetters : List String :=
  ["G", "GG", "N", "D", "DD", "R", "M", "B", "BB", "S", "SS", "", "J", "JJ", "C", "K", "T", "P", "H"]

/-- The names of the middle letters of Korean syllables. -/
def middleLetters : List String :=
  ["A", "AE", "YA", "YAE", "EO", "E", "YEO", "YE", "O", "WA", "WAE", "OE", "YO", "U", "WEO", "WE",
    "WI", "YU", "EU", "YI", "I"]

/-- The names of the last letters of Korean syllables. -/
def lastLetters : List String :=
  ["", "G", "GG", "GS", "N", "NJ", "NH", "D", "L", "LG", "LM", "LB", "LS", "LT", "LP", "LH", "M",
    "B", "BS", "S", "SS", "NG", "J", "C", "K", "T", "P", "H"]

/-- The first Korean syllable. -/
def firstSyllable : Nat := 0xAC00

/-- What follows a beginning in a text. -/
def afterBeginning? (beginning : String) (s : String) : Option String :=
  if beginning.toList.isPrefixOf s.toList then
    some (String.ofList (s.toList.drop beginning.length))
  else none

/-- The Korean syllable whose letters have these names one after the other. -/
def syllable? (letters : String) : Option Nat :=
  firstLetters.zipIdx.findSome? fun (first, high) => do
    let behindFirst ← afterBeginning? first letters
    middleLetters.zipIdx.findSome? fun (middle, next) => do
      let last ← afterBeginning? middle behindFirst
      let low ← lastLetters.idxOf? last
      some (firstSyllable + (high * middleLetters.length + next) * lastLetters.length + low)

/-- Whether a character is a digit of a written code point. -/
def isCodeDigit (c : Char) : Bool := isHexDigit c && !c.isLower

/-- The unified ideograph whose code point has these digits. -/
def ideograph? (digits : String) : Option Nat :=
  let code := ofDigitsIn 16 digits.toList
  if (digits.length = 4 ∨ digits.length = 5) ∧ digits.toList.all isCodeDigit ∧
      unifiedIdeographs.holdsPoint code then some code
  else none

/-- The character of a kind whose names end in code points. -/
def codedName? (name : String) : Option Nat :=
  codedNames.findSome? fun (kind, points) => do
    let digits ← afterBeginning? (kind ++ "-") name
    let code := ofDigitsIn 16 digits.toList
    if digits.length = (if code < 0x10000 then 4 else 5) ∧ digits.toList.all isCodeDigit ∧
        points.holdsPoint code then some code
    else none

/-- The character of a name in the tables. -/
def tabledName? (name : String) : Option Nat :=
  nameTables.findSome? fun table =>
    NameEntry.find? (name.splitOn " ") 0 [] (table.flatMap NameEntry.readLine)

/-- The code point of the character with a name. -/
def charNamed? (name : String) : Option Nat :=
  match afterBeginning? "HANGUL SYLLABLE " name, afterBeginning? "CJK UNIFIED IDEOGRAPH-" name with
  | some letters, _ => syllable? letters
  | none, some digits => ideograph? digits
  | none, none =>
    let capital := String.ofList (name.toList.map Char.toUpper)
    (tabledName? capital).or (codedName? capital)

end SourceLens.Text
