import SourceLens.Pattern.Breakdown
import SourceLens.Pattern.Matching

/-!
# Searching a text

A pattern is searched from a place on: at the place itself, and then behind one character more each
time. All matches of a text are found by searching on from the end of each match; after an empty
match, the next one must not be empty at the same place.
-/
namespace SourceLens.Pattern

/-- A match in a text. -/
structure Occurrence where
  /-- The number of characters before the match. -/
  start : Nat
  /-- The text that was matched. -/
  text : List Char
  deriving DecidableEq, Repr

namespace Node

/-- The end of a match; `advancing` demands that it is not where the match starts. -/
def finish (advancing : Bool) (start : Place) : Rest := fun trail =>
  if advancing && trail.place.index == start.index then trail.fail else Trail.arrive trail

/-- Match a part at a place. -/
def matchAt (node : Node) (advancing : Bool) (place : Place) : Outcome :=
  node.run {} (.start place) (finish advancing place)

/-- The first match at a place or behind one of the following characters, with the place where it
starts; `advancing` demands a match that is not empty at the first place. -/
def searchFrom (node : Node) (advancing : Bool) (before rest : List Char) (index : Nat) :
    Option (Place × Trail) :=
  let place : Place := ⟨before, rest, index⟩
  match node.matchAt advancing place with
  | .ok found => some (place, found)
  | .error _ =>
    match rest with
    | [] => none
    | c :: rest => node.searchFrom false (c :: before) rest (index + 1)

/-- The first match from a place on. A text with fewer characters than the least width has none. -/
def search (node : Node) (advancing : Bool) (place : Place) :
    Except Breakdown (Option (Place × Trail)) :=
  if place.rest.length < node.width.least then .ok none
  else match node.searchFrom advancing place.before place.rest place.index with
    | none => .ok none
    | some (start, found) =>
      if found.marks.anyReversed then .error .groupReversed else .ok (some (start, found))

/-- The matches from a place on, at most so many. -/
def occurrencesFrom (node : Node) : Nat → Bool → Place → Except Breakdown (List Occurrence)
  | 0, _, _ => .ok []
  | count + 1, advancing, place => do
    match ← node.search advancing place with
    | none => return []
    | some (start, found) =>
      let more ← node.occurrencesFrom count (found.place.index == start.index) found.place
      return ⟨start.index, found.place.textFrom start⟩ :: more

/-- All matches in a text, from left to right. -/
def occurrences (node : Node) (text : List Char) : Except Breakdown (List Occurrence) :=
  node.occurrencesFrom (2 * text.length + 2) false (.start text)

/-- Whether there is a match in a text. -/
def occurs (node : Node) (text : List Char) : Except Breakdown Bool := do
  return (← node.search false (.start text)).isSome

end Node

end SourceLens.Pattern
