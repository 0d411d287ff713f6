import SourceLens.Pattern.CharSet

/-!
# Parts of a pattern

A pattern is a tree of parts. The flags in force where a part was written are resolved into the
part itself: how letters are folded, which characters count as word characters, where lines begin
and end. Every part has a least and a greatest number of characters that it can match.

The parts of a row are a chain of `seq` that ends in `empty`, and the alternatives of a choice are a
chain of `either` whose members are rows.
-/
namespace SourceLens.Pattern

/-- A condition on a place between two characters. -/
inductive Anchor where
  /-- The start of the text. -/
  | textStart
  /-- The end of the text. -/
  | textEnd
  /-- The start of a line: of every line, or of the first one only. -/
  | lineStart (everyLine : Bool)
  /-- The end of a line: of every line, or of the last one only, before or behind the line feed that
  ends it. -/
  | lineEnd (everyLine : Bool)
  /-- A place with a word character on one side only. -/
  | boundary (asciiOnly : Bool)
  /-- A place with word characters on both sides or on neither. -/
  | inside (asciiOnly : Bool)
  deriving DecidableEq, Repr

/-- How often a repeated part is tried. -/
inductive Greed where
  /-- As often as possible, less often if the rest needs it. -/
  | greedy
  /-- As seldom as possible, more often if the rest needs it. -/
  | lazy
  /-- As often as possible, whatever the rest needs. -/
  | possessive
  deriving DecidableEq, Repr

/-- The least and the greatest number of characters of a match; no greatest number when there is
no bound. -/
structure Width where
  /-- The least number. -/
  least : Nat
  /-- The greatest number. -/
  most : Option Nat
  deriving DecidableEq, Repr

namespace Width

/-- The width of a part that matches exactly so many characters. -/
def exactly (count : Nat) : Width := ⟨count, some count⟩

/-- The width of two parts in a row. -/
def append (left right : Width) : Width :=
  ⟨left.least + right.least, do some ((← left.most) + (← right.most))⟩

/-- The width of a choice between two parts. -/
def choose (left right : Width) : Width :=
  ⟨min left.least right.least, do some (max (← left.most) (← right.most))⟩

/-- The width of a part that is repeated. -/
def times (width : Width) (low : Nat) (high : Option Nat) : Width :=
  ⟨width.least * low,
    if width.most = some 0 ∨ high = some 0 then some 0
    else do some ((← width.most) * (← high))⟩

/-- The least width that counts as no bound. -/
def limit : Nat := 0xFFFFFFFF

/-- Whether every match has the same number of characters, and not too many. -/
def isFixed (width : Width) : Bool := width.most == some width.least && width.least < limit

end Width

/-- A part of a pattern. -/
inductive Node where
  /-- Nothing. -/
  | empty
  /-- One character of a set. -/
  | one (set : CharSet)
  /-- One character, which is no line feed. -/
  | visible
  /-- One character of any kind. -/
  | any
  /-- A condition on the place. -/
  | anchor (anchor : Anchor)
  /-- A part and the row behind it. -/
  | seq (first rest : Node)
  /-- The first of some alternatives, or else one of the others. -/
  | either (first others : Node)
  /-- A group, whose text is kept under its number if it has one. -/
  | group (index : Option Nat) (body : Node)
  /-- A part repeated between `low` and `high` times. -/
  | repeated (greed : Greed) (low : Nat) (high : Option Nat) (body : Node)
  /-- A condition on the text after the place, or on that many characters before it. -/
  | look (behind : Option Nat) (negated : Bool) (body : Node)
  /-- A part that is matched in its first way only. -/
  | atomic (body : Node)
  /-- The text of a group once more; `width` is the width of the group. -/
  | again (index : Nat) (width : Width) (folding : Folding)
  /-- One part if a group has matched, and another one if not. -/
  | given (index : Nat) (yes no : Node)
  deriving DecidableEq, Repr

namespace Node

/-- The width of a part. -/
def width : Node → Width
  | empty | anchor _ | look _ _ _ => .exactly 0
  | one _ | visible | any => .exactly 1
  | seq first second => first.width.append second.width
  | either first second => first.width.choose second.width
  | group _ body | atomic body => body.width
  | repeated _ low high body => body.width.times low high
  | again _ width _ => width
  | given _ yes no => yes.width.choose no.width

/-- Parts in a row. -/
def row (parts : List Node) : Node := parts.foldr seq empty

/-- The parts of a row. -/
def parts : Node → List Node
  | empty => []
  | seq first rest => first :: rest.parts
  | other => [other]

/-- Whether the part is the last of a choice. -/
def isEither : Node → Bool
  | either _ _ => true
  | _ => false

/-- The set that the next character is tested against when the part is tried, given the set behind
the part; none when something else comes first. -/
def entry : Node → Option CharSet → Option CharSet
  | empty, behind => behind
  | seq first rest, behind => first.entry (rest.entry behind)
  | one set, _ => some set
  | group none body, behind => body.entry behind
  | _, _ => none

end Node

end SourceLens.Pattern
