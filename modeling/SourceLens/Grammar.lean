import SourceLens.Document
import SourceLens.Outline
import SourceLens.Qualifier
import SourceLens.Symbol
import SourceLens.Tree.Site
import SourceLens.Window

/-!
# Grammars

A grammar reads declarations off the syntax trees of one family of languages, in three ways: as an
outline, as the span of the entity that a qualifier names, and as the symbols that a search can
find. A reading fails when it needs the text of a node whose bytes are not text, with the fault of
the first such node.

The outline is put together from what every site contributes by itself (`Findings`), in document
order. A function whose first line lies in the span of a class is left to the class.
-/
namespace SourceLens

/-- Something read off the texts of a tree. -/
abbrev Reading (α : Type) : Type := Except Text.Utf8.Fault α

/-- The lines of an entity that a qualifier names. -/
structure TargetSpan where
  /-- What the entity is. -/
  targetType : String
  /-- Its name. -/
  name : String
  /-- Its first line. -/
  start : Int
  /-- Its last line. -/
  stop : Int
  /-- The class it belongs to. -/
  className : Option String
  deriving Repr, DecidableEq

/-- What one family of languages makes of a syntax tree. -/
structure Grammar where
  /-- What the tree declares; one function may be listed twice. -/
  outline : Tree → Document → Reading Outline
  /-- The span of the first entity that a qualifier names. -/
  resolve : Tree → Qualifier → Reading (Option TargetSpan)
  /-- The symbols of the tree in document order. -/
  symbols : Tree → Document → Reading (List Symbol)

/-- The text of a site, empty when there is none. -/
def textOr (site : Option Site) : Reading String :=
  match site with
  | none => pure ""
  | some site => site.text

/-- The text of a site, none when there is none. -/
def textOf? (site : Option Site) : Reading (Option String) :=
  match site with
  | none => pure none
  | some site => do
    let content ← site.text
    pure (some content)

/-- The text of a site in a list, which is empty when there is none. -/
def textsOf (site : Option Site) : Reading (List String) := site.toList.mapM (·.text)

/-- A text that is there and not empty. -/
def nonempty? (content : String) : Option String := if content.isEmpty then none else some content

namespace Site

/-- The column of a site in a document, in characters. -/
def columnIn (site : Site) (doc : Document) : Int :=
  doc.column site.tree.info.start.row site.tree.info.start.column

/-- The lines from the first to the last of a site. -/
def span (site : Site) : Int × Int := (site.startLine, site.endLine)

/-- What a site adds to the scope of the sites below it: the word for its kind and its name, when
its kind is a scope and it has a name. A kind whose word is empty is no scope. -/
def segment (scopes : List (String × String)) (site : Site) : Reading (Option String) :=
  match (scopes.lookup site.kind).bind nonempty?, site.child? "name" with
  | some word, some name => do
    let content ← name.text
    pure (some (word ++ ":" ++ content))
  | _, _ => pure none

/-- Climb from a site to the root: what each site on the way adds comes in front of what was met
before it. -/
def climb (scopes : List (String × String)) (met : List String) : Site → Reading (List String)
  | root _ => pure met
  | child parent _ _ => do
    let own ← parent.segment scopes
    climb scopes (own.toList ++ met) parent

/-- The named scopes around a site, from the outside in. -/
def segments (scopes : List (String × String)) (site : Site) : Reading (List String) :=
  site.climb scopes []

/-- The scopes around a site in one text, or none. -/
def scope (scopes : List (String × String)) (site : Site) : Reading (Option String) := do
  let parts ← site.segments scopes
  pure (if parts.isEmpty then none else some (" > ".intercalate parts))

/-- The symbol at a site. -/
def symbol (scopes : List (String × String)) (doc : Document) (site : Site) (name form : String)
    (category : Category) (modifiers : List String) (documented : Option String) :
    Reading Symbol := do
  let scope ← site.scope scopes
  pure
    { name, line := site.startLine, column := site.columnIn doc, form, category, modifiers, scope
      doc := documented }

end Site

/-- What one site contributes to an outline. -/
structure Findings where
  /-- The site itself, if it is a class. -/
  classes : List Site
  /-- The functions it declares or binds. -/
  functions : List FunctionEntry
  /-- The imports it makes. -/
  imports : List ImportEntry
  /-- The exports it makes. -/
  exports : List ExportEntry

namespace Findings

/-- Nothing found. -/
def none : Findings := ⟨[], [], [], []⟩

/-- A class. -/
def ofClass (site : Site) : Findings := ⟨[site], [], [], []⟩

/-- Functions. -/
def ofFunctions (functions : List FunctionEntry) : Findings := ⟨[], functions, [], []⟩

/-- Imports. -/
def ofImports (imports : List ImportEntry) : Findings := ⟨[], [], imports, []⟩

/-- Exports. -/
def ofExports (exports : List ExportEntry) : Findings := ⟨[], [], [], exports⟩

/-- The outline of what all sites contribute: functions inside the span of a class are left out,
and every class is listed with its methods. -/
def outline (classSpan : Site → Int × Int) (classEntry : Site → Reading ClassEntry)
    (found : List Findings) : Reading Outline := do
  let classSites := found.flatMap (·.classes)
  let spans := classSites.map classSpan
  let classes ← classSites.mapM classEntry
  pure
    { functions := (found.flatMap (·.functions)).filter fun entry => !Window.within entry.line spans
      classes
      imports := found.flatMap (·.imports)
      exports := found.flatMap (·.exports) }

end Findings

end SourceLens
