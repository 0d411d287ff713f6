import SourceLens.Pattern.Node

/-!
# Trails

A trail is how a match has come to a place: the place itself, the marks that groups left on the way,
and the place that was noted last. Places are noted where something is tried and where a part that is
matched by itself ends; the note outlives a failure, and a possessive repetition goes on from it.

Marks outlive a failure too. What was marked before an attempt is put back after it: all of it inside
of a repetition, and otherwise only the number of marks, so that a mark that was set again keeps its
new place.
-/
namespace SourceLens.Pattern

/-- A place in a text. -/
structure Place where
  /-- The characters before the place, the nearest one first. -/
  before : List Char
  /-- The characters behind the place. -/
  rest : List Char
  /-- The number of characters before the place. -/
  index : Nat
  deriving DecidableEq, Repr

namespace Place

/-- The first place of a text. -/
def start (text : List Char) : Place := { before := [], rest := text, index := 0 }

/-- The place behind the next character, if the character passes a test. -/
def step (test : Char → Bool) (place : Place) : Option Place :=
  match place.rest with
  | [] => none
  | c :: rest =>
    if test c then some { before := c :: place.before, rest, index := place.index + 1 } else none

/-- The place so many characters back. -/
def back : Nat → Place → Option Place
  | 0, place => some place
  | count + 1, place =>
    match place.before with
    | [] => none
    | c :: before => back count { before, rest := c :: place.rest, index := place.index - 1 }

/-- The place behind the given characters, compared in folded form. -/
def pass (folding : Folding) : List Char → Place → Option Place
  | [], place => some place
  | c :: text, place =>
    match place.step fun d => folding.fold d == folding.fold c with
    | none => none
    | some place => pass folding text place

/-- The text between an earlier place and this one. -/
def textFrom (place earlier : Place) : List Char :=
  (place.before.take (place.index - earlier.index)).reverse

/-- The places behind up to so many characters that pass a test, the furthest one first, before
those already found. -/
def reach (test : Char → Bool) : Nat → Place → List Place → List Place
  | 0, place, found => place :: found
  | count + 1, place, found =>
    match place.step test with
    | none => place :: found
    | some next => reach test count next (place :: found)

/-- The number of characters of the text. -/
def size (place : Place) : Nat := place.before.length + place.rest.length

/-- Whether exactly one of the two sides of the place is a word character. -/
def atBoundary (asciiOnly : Bool) (place : Place) : Bool :=
  place.before.head?.any (Kind.word.holds asciiOnly) !=
    place.rest.head?.any (Kind.word.holds asciiOnly)

/-- Whether the text has no characters. -/
def isBare (place : Place) : Bool := place.before.isEmpty && place.rest.isEmpty

end Place

/-- Whether a condition holds at a place. Neither condition on words holds in an empty text. -/
def Anchor.holds (place : Place) : Anchor → Bool
  | textStart => place.before.isEmpty
  | textEnd => place.rest.isEmpty
  | lineStart everyLine =>
    place.before.isEmpty || (everyLine && place.before.head? == some '\n')
  | lineEnd everyLine =>
    place.rest.isEmpty || (if everyLine then place.rest.head? == some '\n' else place.rest == ['\n'])
  | boundary asciiOnly => !place.isBare && place.atBoundary asciiOnly
  | inside asciiOnly => !place.isBare && !place.atBoundary asciiOnly

/-- The places where groups start and end, two for each group in the order of their numbers, up to
the last one that was set. -/
abbrev Marks : Type := List (Option Place)

namespace Marks

/-- The index of the mark where a group starts. -/
def opening (group : Nat) : Nat := 2 * (group - 1)

/-- The index of the mark where a group ends. -/
def closing (group : Nat) : Nat := 2 * (group - 1) + 1

/-- The marks with one of them set; those before it that were never set stay without a place. -/
def mark (marks : Marks) (index : Nat) (place : Place) : Marks :=
  if index < marks.length then List.set marks index (some place)
  else marks ++ List.replicate (index - marks.length) none ++ [some place]

/-- The text of a group. A group that was entered again behind its end has none. -/
def text? (marks : Marks) (group : Nat) : Option (List Char) := do
  let start ← (marks[opening group]?).join
  let stop ← (marks[closing group]?).join
  if start.index ≤ stop.index then some (stop.textFrom start) else none

/-- The marks to go on with after a failure that left some: `before` are those from before the
attempt. -/
def restored (left : Marks) (inRepetition : Bool) (before : Marks) : Marks :=
  if inRepetition then before else left.take before.length

/-- Whether a group ends before it starts. -/
def anyReversed : Marks → Bool
  | some start :: some stop :: rest => stop.index < start.index || anyReversed rest
  | _ :: _ :: rest => anyReversed rest
  | _ => false

end Marks

/-- What a failure leaves behind. -/
structure Memory where
  /-- The place that was noted last. -/
  noted : Place
  /-- The marks of groups. -/
  marks : Marks
  deriving Repr

/-- How a match has come to a place. -/
structure Trail where
  /-- The place. -/
  place : Place
  /-- The place that was noted last. -/
  noted : Place
  /-- The marks of groups. -/
  marks : Marks
  deriving Repr

/-- The trail of a match, or what is left of it. -/
abbrev Outcome : Type := Except Memory Trail

/-- The rest of a pattern, from a place on. -/
abbrev Rest : Type := Trail → Outcome

namespace Trail

/-- A trail that starts at a place. -/
def start (place : Place) : Trail := ⟨place, place, []⟩

/-- The trail that goes on from a place after a failure. -/
def retry (place : Place) (marks : Marks) : Trail := ⟨place, place, marks⟩

/-- The trail with its place noted. -/
def note (trail : Trail) : Trail := { trail with noted := trail.place }

/-- The trail with a mark set at its place. -/
def mark (trail : Trail) (index : Nat) : Trail :=
  { trail with marks := trail.marks.mark index trail.place }

/-- The trail does not lead on. -/
def fail (trail : Trail) : Outcome := .error ⟨trail.noted, trail.marks⟩

/-- The trail ends here. -/
def arrive : Rest := fun trail => .ok trail.note

/-- The trail at another place, or its failure if there is none. -/
def moveTo (trail : Trail) (place : Option Place) (rest : Rest) : Outcome :=
  match place with
  | some place => rest { trail with place }
  | none => trail.fail

end Trail

namespace Outcome

/-- An outcome whose failure notes a place. -/
def notingAt (place : Place) (outcome : Outcome) : Outcome :=
  outcome.mapError fun left => { left with noted := place }

end Outcome

end SourceLens.Pattern
