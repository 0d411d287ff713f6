import SourceLens.Pattern.Node

/-!
# Choices

A choice is simplified when it has been read. Parts that all alternatives begin with stand before
the choice, and when a single character of a listed set is left in every alternative, the choice
becomes one set. A part that has parts of its own is never taken to be the same as another one.
-/
namespace SourceLens.Pattern

namespace Node

/-- Whether the part has no parts of its own. -/
def isPlain : Node → Bool
  | one _ | visible | any | anchor _ | again _ _ _ => true
  | _ => false

/-- The parts that a row and some others all begin with. -/
def shared : List Node → List (List Node) → List Node
  | [], _ => []
  | first :: rest, others =>
    if first.isPlain && others.all (·.head? = some first) then
      first :: shared rest (others.map List.tail)
    else []

/-- The members of a set that is all of a row. -/
def listed? : List Node → Option (List Member)
  | [one set] => if set.negated then none else some set.members
  | _ => none

/-- A choice between rows, the first ones first. -/
def alternatives : List (List Node) → Node
  | [] => empty
  | [last] => row last
  | first :: others => either (row first) (alternatives others)

/-- The parts that a choice between rows comes down to; `set` makes a set of members. -/
def choice (set : List Member → CharSet) : List (List Node) → List Node
  | [] => []
  | [only] => only
  | first :: others =>
    let common := shared first others
    let rows := (first :: others).map (·.drop common.length)
    match rows.mapM listed? with
    | some members => common ++ [one (set members.flatten.eraseDups)]
    | none => common ++ [alternatives rows]

end Node

end SourceLens.Pattern
