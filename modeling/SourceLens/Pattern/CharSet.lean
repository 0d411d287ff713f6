import SourceLens.Text.Blank
import SourceLens.Text.Case
import SourceLens.Text.Letters

/-!
# Sets of characters

A set lists code points, ranges of them and kinds of characters, and holds what is listed or what is
not. When letters count as the same in both cases, a character is folded and the forms of the
members are looked up; a set none of whose members has case is tested as it is written. Beyond the
first plane of code points a member of a larger set folds less than one that stands alone: a code
point is met by its own folded form only, and a range by the lower-case or the upper-case form of a
character.
-/
namespace SourceLens.Pattern

/-- Which characters count as the same. -/
inductive Folding where
  /-- Only the character itself. -/
  | exact
  /-- Also the other case of an ASCII letter. -/
  | ascii
  /-- Also the letters of every script that share a lower-case or an upper-case form. -/
  | full
  deriving DecidableEq, Repr

namespace Folding

/-- The form in which two characters are compared. -/
def fold : Folding → Char → Char
  | exact, c => c
  | ascii, c => c.toLower
  | full, c => Text.lowerChar c

/-- The code points that count as the same as a character. -/
def variants : Folding → Char → List Nat
  | exact, c => [c.toNat]
  | ascii, c => [c.toLower.toNat, c.toUpper.toNat]
  | full, c =>
    let lower := (Text.lowerChar c).toNat
    (lower :: Text.siblings lower).flatMap Text.lowerOrigins

/-- Whether a code point between two counts as the same as another one. -/
def matters (folding : Folding) (low high : Nat) : Bool :=
  match folding with
  | exact => false
  | ascii => (low ≤ 'Z'.toNat && 'A'.toNat ≤ high) || (low ≤ 'z'.toNat && 'a'.toNat ≤ high)
  | full => Text.hasCaseBetween low high

end Folding

/-- A kind of characters with a name of its own. -/
inductive Kind where
  /-- Decimal digits. -/
  | digit
  /-- Blanks. -/
  | space
  /-- Characters of words. -/
  | word
  deriving DecidableEq, Repr

/-- Whether a character is of a kind, of all scripts or of ASCII only. -/
def Kind.holds (asciiOnly : Bool) : Kind → Char → Bool
  | digit, c => if asciiOnly then c.isDigit else Text.isDecimalDigit c
  | space, c => if asciiOnly then Text.isBlankByte c.toUInt8 && c.toNat < 0x80 else Text.isBlank c
  | word, c => if asciiOnly then c.isAlphanum || c == '_' else Text.isWordChar c

/-- A member of a character set. -/
inductive Member where
  /-- One code point. -/
  | point (code : Nat)
  /-- The code points between two, both included. -/
  | range (low high : Nat)
  /-- The characters of a kind. -/
  | kind (kind : Kind)
  /-- The characters that are not of a kind. -/
  | except (kind : Kind)
  deriving DecidableEq, Repr

namespace Member

/-- The last code point of the first plane. -/
def firstPlane : Nat := 0xFFFF

/-- Whether the member has characters that are folded. A member beyond the first plane counts as
one that has. -/
def matters (folding : Folding) : Member → Bool
  | point code => folding != .exact && (firstPlane < code || folding.matters code code)
  | range low high => folding != .exact && (firstPlane < high || folding.matters low high)
  | kind _ | except _ => false

end Member

/-- A test of one character. -/
structure CharSet where
  /-- What is in the set. -/
  members : List Member
  /-- Whether the set holds the characters that are not listed. -/
  negated : Bool := false
  /-- Which characters count as the same. -/
  folding : Folding := .exact
  /-- Whether the kinds are those of ASCII. -/
  asciiOnly : Bool := false
  deriving DecidableEq, Repr

namespace CharSet

/-- The only code point that is listed. -/
def point? (set : CharSet) : Option Nat :=
  match set.members with
  | [.point code] => some code
  | _ => none

/-- The set of some members; the folding is dropped when no member needs it. A code point that
stands alone needs it only if it has case. -/
def ofMembers (folding : Folding) (asciiOnly negated : Bool) (members : List Member) : CharSet :=
  let needed := match members with
    | [.point code] => folding.matters code code
    | _ => members.any (Member.matters folding)
  { members, negated, folding := if needed then folding else .exact, asciiOnly }

/-- Whether a member of a set of several holds a character, given its folded form and its
variants. -/
def lists (set : CharSet) (folded : Char) (variants : List Nat) : Member → Bool
  | .point code =>
    if Member.firstPlane < code then folded.toNat = code else variants.contains code
  | .range low high =>
    (variants.any fun variant => low ≤ variant && variant ≤ min high Member.firstPlane) ||
      (Member.firstPlane < high &&
        ((low ≤ folded.toNat && folded.toNat ≤ high) ||
          (low ≤ (Text.upperChar folded).toNat && (Text.upperChar folded).toNat ≤ high)))
  | .kind kind => kind.holds set.asciiOnly folded
  | .except kind => !kind.holds set.asciiOnly folded

/-- Whether a member of a set without folding holds a character. -/
def listsExactly (set : CharSet) (c : Char) : Member → Bool
  | .point code => c.toNat = code
  | .range low high => low ≤ c.toNat && c.toNat ≤ high
  | .kind kind => kind.holds set.asciiOnly c
  | .except kind => !kind.holds set.asciiOnly c

/-- Whether a character is listed. -/
def listed (set : CharSet) (c : Char) : Bool :=
  if set.folding = .exact then set.members.any (set.listsExactly c)
  else match set.point? with
    | some code => (set.folding.variants c).contains code
    | none => set.members.any (set.lists (set.folding.fold c) (set.folding.variants c))

/-- Whether the set holds a character. -/
def holds (set : CharSet) (c : Char) : Bool := set.listed c != set.negated

/-- The character that the set stands for, if it is a single one and is not folded. -/
def literal? (set : CharSet) : Option Nat :=
  if set.negated || set.folding != .exact then none else set.point?

/-- Whether a choice looks at the set before it tries an alternative that begins with it. A set that
is folded, and one that leaves a single character out, are tried at once. -/
def isProbed (set : CharSet) : Bool :=
  set.folding = .exact && !(set.negated && set.point?.isSome)

/-- Whether characters of the set are counted one by one. So it is with sets that are folded, unless
a single form has to be compared. -/
def isStepwise (set : CharSet) : Bool :=
  match set.folding, set.point? with
  | .exact, _ => false
  | .ascii, some _ => false
  | .full, some code => !(Text.siblings (Text.lowerPoint code)).isEmpty
  | _, none => true

end CharSet

end SourceLens.Pattern
