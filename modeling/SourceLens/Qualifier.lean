import SourceLens.Text.Blank

/-!
# Qualifiers

A qualifier names an entity of a file: a kind, an optional owner and a name, written
`kind:Owner.name`. Only the first colon and the first full stop divide it, and blanks around the
whole are dropped.
-/
namespace SourceLens

/-- A parsed qualifier. -/
structure Qualifier where
  /-- The text it was parsed from. -/
  raw : String
  /-- What stands before the first colon. -/
  kind : String
  /-- The name of the entity. -/
  name : String
  /-- The class that the entity belongs to. -/
  owner : Option String
  deriving Repr, DecidableEq

namespace Qualifier

/-- Divide a character list at the first occurrence of a character: what stands before it, whether
it was found, and what stands after it. -/
def cut (mark : Char) : List Char → List Char × Bool × List Char
  | [] => ([], false, [])
  | c :: rest =>
    if c = mark then ([], true, rest)
    else
      let (before, found, after) := cut mark rest
      (c :: before, found, after)

/-- Parse a qualifier. -/
def parse (text : String) : Qualifier :=
  let (kind, _, path) := cut ':' (Text.trim text.toList)
  let (owner, dotted, member) := cut '.' path
  { raw := text
    kind := String.ofList kind
    name := String.ofList (if dotted then member else path)
    owner := if dotted ∧ owner ≠ [] then some (String.ofList owner) else none }

/-- The name behind its owner. -/
def path (qualifier : Qualifier) : String :=
  match qualifier.owner with
  | none => qualifier.name
  | some owner => if owner.isEmpty then qualifier.name else owner ++ "." ++ qualifier.name

end Qualifier

end SourceLens
