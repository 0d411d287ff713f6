import SourceLens.FileSystem
import SourceLens.Grammar.Select
import SourceLens.Outline.Merge
import SourceLens.Settings

/-!
# Workspaces

A workspace is what the operations work on: the files, the grammars that parse them, the rules by
which requests are validated, and the settings. It gives the outline of a document, and opens a file
as a tree of a language for direct inspection.
-/
namespace SourceLens

/-- What is at hand for an operation. -/
structure Workspace where
  /-- The files. -/
  files : FileSystem
  /-- The grammars. -/
  grammars : Grammars
  /-- The rules of requests. -/
  rules : Rules
  /-- The settings. -/
  settings : Settings := {}

/-- Why there is no outline of a document. -/
inductive OutlineError where
  /-- The document could not be parsed. -/
  | unparsed (failure : ParseFailure)
  /-- The text of a node is not text. -/
  | undecodable (fault : Text.Utf8.Fault)
  deriving Repr, DecidableEq

/-- Why a file cannot be opened as a tree. -/
inductive OpenError where
  /-- The file cannot be loaded. -/
  | unloaded (error : LoadError)
  /-- There is no grammar for a language of this name. -/
  | unknownLanguage (name : String)
  /-- The document could not be parsed. -/
  | unparsed (failure : ParseFailure)
  deriving Repr, DecidableEq

namespace Workspace

/-- The tree of a document in a language. -/
def parse (workspace : Workspace) (doc : Document) (language : Language) :
    Except ParseFailure Tree :=
  workspace.grammars.parse doc.text language

/-- The outline of a document in a language, with one function for every entity. -/
def outline (workspace : Workspace) (doc : Document) (language : Language) :
    Except OutlineError Outline :=
  match workspace.parse doc language with
  | .error failure => .error (.unparsed failure)
  | .ok tree =>
    match language.grammar.outline tree doc with
    | .error fault => .error (.undecodable fault)
    | .ok outline =>
      .ok { outline with functions := FunctionEntry.merge lineTolerance outline.functions }

/-- The language with a name, or that of the path when there is no name. -/
def languageOf (path : String) (name : Option String) : Except String Language :=
  match name with
  | none => .ok (Language.detect path)
  | some name =>
    if name.isEmpty then .ok (Language.detect path)
    else match Language.ofName? name with
      | some language => .ok language
      | none => .error name

/-- The outline of a document in the language with a name, and the language. -/
def outlineNamed (workspace : Workspace) (doc : Document) (name : Option String) :
    Except OutlineError (Language × Outline) :=
  match languageOf doc.path name with
  | .error unknown => .error (.unparsed (Grammars.unknown unknown))
  | .ok language => do
    let outline ← workspace.outline doc language
    pure (language, outline)

/-- A file as a document and its tree in the language with a name. -/
def openFile (workspace : Workspace) (path : String) (name : Option String) :
    Except OpenError (Language × Document × Tree) :=
  match workspace.files.load path with
  | .error error => .error (.unloaded error)
  | .ok doc =>
    match languageOf path name with
    | .error unknown => .error (.unknownLanguage unknown)
    | .ok language =>
      match workspace.parse doc language with
      | .error failure => .error (.unparsed failure)
      | .ok tree => .ok (language, doc, tree)

end Workspace

end SourceLens
