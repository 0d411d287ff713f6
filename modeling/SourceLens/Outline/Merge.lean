import SourceLens.Outline

/-!
# Merging functions

A function can be found twice: declared and bound to a variable of the same name on a nearby line.
Functions of one name whose lines differ by at most a tolerance are one entity. Of these the first
one found is kept, except that a declared function takes the place of functions that are bound to
variables.
-/
namespace SourceLens

/-- How far apart two findings of one function may be. -/
def lineTolerance : Int := 2

namespace FunctionEntry

/-- Whether two functions are one entity: the same name on nearby lines. -/
def sameEntity (tolerance : Int) (left right : FunctionEntry) : Bool :=
  left.name == right.name && decide (((left.line - right.line).natAbs : Int) ≤ tolerance)

/-- Put a function in the place of the first one that it is the same entity as, and drop the
later ones. -/
def supplant (tolerance : Int) (entry : FunctionEntry) : List FunctionEntry → List FunctionEntry
  | [] => []
  | kept :: rest =>
    if sameEntity tolerance kept entry then
      entry :: rest.filter fun later => !sameEntity tolerance later entry
    else kept :: supplant tolerance entry rest

/-- Add a function to those kept so far: at the end when it is a new entity, in place of the
functions bound to variables when it is declared and none of the same entity is, and otherwise
not at all. -/
def take (tolerance : Int) (kept : List FunctionEntry) (entry : FunctionEntry) :
    List FunctionEntry :=
  let same := kept.filter fun other => sameEntity tolerance other entry
  if same.isEmpty then kept ++ [entry]
  else if !entry.isDeclared || same.any (·.isDeclared) then kept
  else supplant tolerance entry kept

/-- One function for every entity. -/
def merge (tolerance : Int) (entries : List FunctionEntry) : List FunctionEntry :=
  entries.foldl (take tolerance) []

end FunctionEntry

end SourceLens
