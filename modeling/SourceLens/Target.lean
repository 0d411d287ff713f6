import SourceLens.Grammar
import SourceLens.Window

/-!
# Targets

A target is an entity of a file that a qualifier names, extracted with the lines around it. When
nothing has the name, a hint says what to try instead; it looks into the outline to tell a missing
method from a missing class.
-/
namespace SourceLens

/-- An entity extracted from a file. -/
structure Target where
  /-- Its lines and what it is. -/
  span : TargetSpan
  /-- Its text and the text around it. -/
  excerpt : Window.Excerpt
  deriving Repr, DecidableEq

namespace Target

/-- The kinds of entities that a qualifier may name. -/
def entityKinds : List String := ["class", "method", "function"]

/-- The advice to look at the outline. -/
def outlineHint : String := "Try using mode='outline' first to see available entities"

/-- The advice after a function or method was not found. -/
def memberHint (name : String) : String :=
  s!"Method '{name}' not found. If it's a class method, try:\n" ++
    s!"  • 'class:ClassName.{name}' (if you know the class name)\n" ++
    s!"  • 'method:{name}' (to search all classes)\n" ++
    "  • Use mode='outline' to see all available methods"

/-- The advice after a method was not found in a class. -/
def methodHint (name owner : String) : String :=
  s!"Method '{name}' not found in class '{owner}'.\n" ++
    "Use mode='outline' to see all methods in this class."

/-- The advice after a class was not found. -/
def classHint (owner : String) : String :=
  s!"Class '{owner}' not found. Use mode='outline' to see available classes."

/-- What to try when nothing has the name that a qualifier asks for. -/
def notFoundHint (grammar : Grammar) (tree : Tree) (doc : Document) (qualifier : Qualifier) :
    Reading String :=
  if qualifier.kind == "function" || qualifier.kind == "method" then
    pure (memberHint qualifier.name)
  else
    match qualifier.kind == "class", qualifier.owner.bind nonempty? with
    | true, some owner => do
      let outline ← grammar.outline tree doc
      pure (if outline.classes.any (·.name == owner) then methodHint qualifier.name owner
        else classHint owner)
    | _, _ => pure outlineHint

/-- The message when nothing has the name that a qualifier asks for. -/
def notFoundMessage (qualifier : Qualifier) : String :=
  s!"{qualifier.kind} '{qualifier.path}' not found in file"

/-- Extract the entity that a qualifier names, or give the hint for one that is not found. -/
def extract (grammar : Grammar) (tree : Tree) (doc : Document) (qualifier : Qualifier)
    (contextLines : Int) (includeContext : Bool) : Reading (Except String Target) :=
  if entityKinds.contains qualifier.kind && !qualifier.name.isEmpty then do
    let found ← grammar.resolve tree qualifier
    match found with
    | none => do
      let hint ← notFoundHint grammar tree doc qualifier
      pure (.error hint)
    | some span =>
      pure (.ok ⟨span,
        Window.excerpt doc.lines span.start span.stop contextLines includeContext⟩)
  else pure (.error outlineHint)

/-- The name of the entity behind that of its class. -/
def qualifiedName (target : Target) : String :=
  match target.span.className.bind nonempty? with
  | none => target.span.name
  | some owner => owner ++ "." ++ target.span.name

/-- The target in results. -/
def fields (target : Target) : Fields :=
  [("success", .bool true), ("mode", .text "target"),
    ("target_type", .text target.span.targetType), ("target_name", .text target.span.name)] ++
    Value.optionalField "class_name" target.span.className ++
    [("line", .int target.span.start), ("end_line", .int target.span.stop),
      ("code", .text target.excerpt.code), ("context_before", .text target.excerpt.before),
      ("context_after", .text target.excerpt.after)]

end Target

/-- The span of an entity in results. -/
def TargetSpan.fields (span : TargetSpan) : Fields :=
  [("target_type", .text span.targetType), ("name", .text span.name),
    ("start_line", .int span.start), ("end_line", .int span.stop),
    ("class_name", .textOrNull span.className)]

end SourceLens
