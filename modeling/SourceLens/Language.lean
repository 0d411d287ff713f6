import SourceLens.Path
import SourceLens.Text.Case
import SourceLens.Tree.Breakage

/-!
# Languages

The source languages, the suffixes of their files, and the trees of their texts. Trees come from
grammars outside the program (`Grammars`): a text of a language has a tree, unless one of the
packages that the grammar needs cannot be loaded. A tree that is marked as broken is a failure to
parse, never an empty file.
-/
namespace SourceLens

/-- A source language. -/
inductive Language where
  /-- JavaScript, with or without JSX. -/
  | javascript
  /-- TypeScript. -/
  | typescript
  /-- TypeScript with JSX. -/
  | tsx
  /-- Python. -/
  | python
  deriving DecidableEq, Repr

namespace Language

/-- The name of the language. -/
def name : Language → String
  | javascript => "javascript"
  | typescript => "typescript"
  | tsx => "tsx"
  | python => "python"

/-- The language with a name. -/
def ofName? (name : String) : Option Language :=
  [javascript, typescript, tsx, python].find? (·.name == name)

/-- The language whose files have a suffix, in lower case. -/
def ofSuffix? : String → Option Language
  | ".js" | ".jsx" | ".mjs" | ".cjs" => some javascript
  | ".ts" | ".mts" | ".cts" => some typescript
  | ".tsx" => some tsx
  | ".py" | ".pyw" => some python
  | _ => none

/-- The language of a source file, by its suffix. -/
def ofPath? (path : Path) : Option Language := ofSuffix? (Text.lower path.suffix)

/-- The language of a file, JavaScript when its suffix says nothing. -/
def detect (path : String) : Language := (ofPath? (Path.parse path)).getD javascript

/-- Whether a file has the suffix of a source language. -/
def isSource (path : Path) : Bool := (ofPath? path).isSome

/-- The packages that the grammar of the language needs, in the order in which they are loaded. -/
def packages : Language → List String
  | javascript => ["tree_sitter", "tree_sitter_javascript"]
  | typescript | tsx => ["tree_sitter", "tree_sitter_typescript"]
  | python => ["tree_sitter", "tree_sitter_python"]

end Language

/-- The grammars at hand: the packages that cannot be loaded, and the tree of every text. -/
structure Grammars where
  /-- The packages that cannot be loaded. -/
  absent : List String
  /-- The tree of a text of a language. -/
  tree : Language → String → Tree

namespace Grammars

/-- The first package that the grammar of a language needs and that cannot be loaded. -/
def lacking? (grammars : Grammars) (language : Language) : Option String :=
  language.packages.find? grammars.absent.contains

/-- The failure to load a package of a grammar. -/
def unloadable (language : Language) (package : String) : ParseFailure :=
  ⟨s!"Grammar for '{language.name}' could not be loaded: No module named '{package}'",
    .unknownParse⟩

/-- The failure to find a language by its name. -/
def unknown (name : String) : ParseFailure :=
  ⟨s!"No grammar available for language '{name}'", .unknownParse⟩

/-- The tree of a text, which is not broken, or why there is none. -/
def parse (grammars : Grammars) (text : String) (language : Language) :
    Except ParseFailure Tree :=
  match grammars.lacking? language with
  | some package => .error (unloadable language package)
  | none =>
    let tree := grammars.tree language text
    if tree.info.broken then
      .error (.ofMessage (tree.describeBreakage (Text.solidSize text.toUTF8)))
    else .ok tree

end Grammars

end SourceLens
