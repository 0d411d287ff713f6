import SourceLens.Settings
import SourceLens.Symbol
import SourceLens.Text.Case

/-!
# Search requests

What to search for, where, and how much of it to show. Null counts as absent.
-/
namespace SourceLens

/-- What a search answers with. -/
inductive OutputMode where
  /-- The matches. -/
  | content
  /-- The files with a match. -/
  | filePaths
  deriving DecidableEq, Repr

/-- The name of an output mode. -/
def OutputMode.name : OutputMode → String
  | content => "content"
  | filePaths => "file_paths"

/-- The names of the output modes. -/
def OutputMode.names : List String := [content, filePaths].map name

/-- The output mode with a name. -/
def OutputMode.ofName? (name : String) : Option OutputMode :=
  [content, filePaths].find? (·.name == name)

/-- The symbols that a search keeps: those of one category, or all of them. -/
abbrev SymbolType : Type := Option Category

/-- The name of a symbol type. -/
def SymbolType.name : SymbolType → String
  | none => "all"
  | some category => category.name

/-- Every symbol type. -/
def SymbolType.all : List SymbolType := Category.all.map some ++ [none]

/-- The names of the symbol types. -/
def SymbolType.names : List String := all.map name

/-- The symbol type with a name, whatever the case of its letters. -/
def SymbolType.ofName? (name : String) : Option SymbolType :=
  SymbolType.all.find? fun wanted => SymbolType.name wanted == Text.lower name

/-- A value that is brought to lower case when it is a text. -/
def Value.lowered : Value → Value
  | .text content => .text (Text.lower content)
  | value => value

/-- A request to search. -/
structure SearchRequest where
  /-- The regular expression that names are matched with. -/
  pattern : String
  /-- The file or directory to search. -/
  path : String := "."
  /-- The glob that files must match. -/
  glob : Option String := none
  /-- Whether the case of letters is ignored. -/
  ignoreCase : Bool := false
  /-- Lines of context on both sides of a match. -/
  context : Option Nat := none
  /-- Lines of context before a match. -/
  contextBefore : Option Nat := none
  /-- Lines of context after a match. -/
  contextAfter : Option Nat := none
  /-- What to answer with. -/
  output : OutputMode := .content
  /-- The symbols to keep. -/
  type : SymbolType := none
  /-- Modifiers that every match must carry. -/
  modifiers : List String := []
  /-- The greatest number of matches to show. -/
  limit : Option Nat := none
  /-- Whether to search other texts than sources. -/
  includeNonCode : Bool := false
  deriving DecidableEq, Repr

namespace SearchRequest

/-- The check of an output mode. -/
def checkOutput (rules : Rules) : Check OutputMode :=
  (rules.oneOf OutputMode.names).named OutputMode.names OutputMode.ofName?

/-- The check of a symbol type, whose name counts in lower case. -/
def checkType (rules : Rules) : Check SymbolType :=
  .prepared Value.lowered ((rules.oneOf SymbolType.names).named SymbolType.names SymbolType.ofName?)

/-- Check the fields of a request. -/
def check (rules : Rules) (params : Fields) : Checked SearchRequest :=
  SearchRequest.mk
    <$> params.checkRequired ["pattern"] rules.text
    <*> params.checkOr ["path"] "." rules.text
    <*> params.checkOr ["glob_pattern"] none (.optional rules.text)
    <*> params.checkOr ["case_insensitive"] false rules.boolean
    <*> params.checkOr ["context"] none (.optional rules.count)
    <*> params.checkOr ["context_before"] none (.optional rules.count)
    <*> params.checkOr ["context_after"] none (.optional rules.count)
    <*> params.checkOr ["output_mode"] .content (checkOutput rules)
    <*> params.checkOr ["type"] none (checkType rules)
    <*> params.checkOr ["modifiers"] [] rules.texts
    <*> params.checkOr ["head_limit"] none (.optional rules.count)
    <*> params.checkOr ["include_non_code"] false rules.boolean

/-- Lines of context before and after a match; the size for both sides wins over the two sizes, and
the settings give a size that the request leaves out. -/
def window (settings : SearchSettings) (request : SearchRequest) : Nat × Nat :=
  match request.context with
  | some both => (both, both)
  | none =>
    (request.contextBefore.getD settings.context, request.contextAfter.getD settings.context)

/-- An optional count in results. -/
def countValue (count : Option Nat) : Value := .intOrNull (count.map Int.ofNat)

/-- The request in results. -/
def fields (settings : SearchSettings) (request : SearchRequest) : Fields :=
  [("pattern", .text request.pattern), ("path", .text request.path),
    ("glob_pattern", .textOrNull request.glob), ("case_insensitive", .bool request.ignoreCase),
    ("context", countValue request.context), ("context_before", countValue request.contextBefore),
    ("context_after", countValue request.contextAfter), ("output_mode", .text request.output.name),
    ("type", .text (SymbolType.name request.type)), ("modifiers", .texts request.modifiers),
    ("head_limit", countValue request.limit), ("include_non_code", .bool request.includeNonCode),
    ("window", .list [.nat (request.window settings).1, .nat (request.window settings).2])]

end SearchRequest

end SourceLens
