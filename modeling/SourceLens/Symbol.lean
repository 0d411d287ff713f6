import SourceLens.Value

/-!
# Symbols

A symbol is a place of a file that a search can find by name: a declaration, an import, an export
or a call.
-/
namespace SourceLens

/-- What a symbol stands for. -/
inductive Category where
  /-- Functions and methods. -/
  | functions
  /-- Classes. -/
  | classes
  /-- Imports. -/
  | imports
  /-- Exports. -/
  | exports
  /-- Variables. -/
  | bindings
  /-- Calls. -/
  | calls
  deriving DecidableEq, Repr

namespace Category

/-- The name of one symbol of the category. -/
def name : Category → String
  | functions => "function"
  | classes => "class"
  | imports => "import"
  | exports => "export"
  | bindings => "variable"
  | calls => "call"

/-- Every category. -/
def all : List Category := [functions, classes, imports, exports, bindings, calls]

end Category

/-- A place that a search can find by name. -/
structure Symbol where
  /-- The name that is searched. -/
  name : String
  /-- The line where it stands. -/
  line : Int
  /-- The number of characters before it on its line. -/
  column : Int
  /-- The syntactic form of the place. -/
  form : String
  /-- What it stands for. -/
  category : Category
  /-- The modifiers it carries. -/
  modifiers : List String
  /-- The named scopes around it, from the outside in. -/
  scope : Option String
  /-- The comment or text that documents it. -/
  doc : Option String
  deriving Repr, DecidableEq

/-- The symbol in results. -/
def Symbol.fields (symbol : Symbol) : Fields :=
  [("name", .text symbol.name), ("line", .int symbol.line), ("column", .int symbol.column),
    ("match_type", .text symbol.form), ("category", .text symbol.category.name),
    ("modifiers", .texts symbol.modifiers), ("scope", .textOrNull symbol.scope),
    ("jsdoc", .textOrNull symbol.doc)]

end SourceLens
