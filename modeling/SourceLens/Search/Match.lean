import SourceLens.Document
import SourceLens.Pattern
import SourceLens.Search.Request
import SourceLens.Window

/-!
# Matches

A source is searched symbol by symbol: a symbol matches by its category, its modifiers and its
name. Any other text is searched line by line. Names are tested by a predicate, so the filters do
not depend on what a pattern is.
-/
namespace SourceLens

/-- A place that a search found. -/
structure SearchMatch where
  /-- The file it is in. -/
  file : String
  /-- Its line. -/
  line : Int
  /-- The number of characters before it on its line. -/
  column : Int
  /-- The form of the place. -/
  form : String
  /-- The name of the symbol, or the text that was matched. -/
  name : String
  /-- The line with the lines around it. -/
  context : Window.LineContext
  /-- The named scopes around it, from the outside in. -/
  scope : Option String := none
  /-- The comment or text that documents it. -/
  doc : Option String := none
  /-- The modifiers it carries. -/
  modifiers : List String := []
  deriving DecidableEq, Repr

/-- The match in results. -/
def SearchMatch.fields (found : SearchMatch) : Fields :=
  [("file", .text found.file), ("line", .int found.line), ("column", .int found.column),
    ("match_type", .text found.form), ("name", .text found.name),
    ("code", .text found.context.code), ("context", .record
      [("before", .texts found.context.before), ("after", .texts found.context.after)])] ++
    Value.optionalField "scope" found.scope ++ Value.optionalField "jsdoc" found.doc ++
    if found.modifiers.isEmpty then [] else [("modifiers", .texts found.modifiers)]

/-- The part of a dotted name behind its last dot. -/
def lastSegment? (name : String) : Option String :=
  let backward := name.toList.reverse
  if backward.contains '.' then some (String.ofList (backward.takeWhile (· != '.')).reverse)
  else none

/-- Whether a test holds of a name or, when it is dotted, of its last segment. -/
def nameMatches (test : String → Bool) (name : String) : Bool :=
  test name || (lastSegment? name).any test

/-- Whether a pattern matches a name or, when it is dotted, its last segment. -/
def Pattern.matchesName (pattern : Pattern) (name : String) : Except Pattern.Breakdown Bool := do
  if ← pattern.occursIn name then return true
  match lastSegment? name with
  | none => return false
  | some segment => pattern.occursIn segment

/-- The first breakdown of a pattern among some names. -/
def Pattern.breakdownAmong? (pattern : Pattern) (names : List String) : Option Pattern.Breakdown :=
  names.findSome? fun name =>
    match pattern.matchesName name with
    | .ok _ => none
    | .error why => some why

namespace SymbolFilter

/-- The modifiers that every match must carry, in lower case. -/
def required (request : SearchRequest) : List String := request.modifiers.map Text.lower

/-- Whether the category of a symbol is asked for. -/
def wantsCategory (type : SymbolType) (symbol : Symbol) : Bool :=
  match type with
  | none => true
  | some category => symbol.category = category

/-- Whether the pattern names a required modifier, so that the name of a symbol does not matter. -/
def namesModifier (request : SearchRequest) : Bool :=
  (required request).contains (Text.lower request.pattern)

/-- Whether a symbol is asked for, whatever its name. -/
def suits (request : SearchRequest) (symbol : Symbol) : Bool :=
  wantsCategory request.type symbol && (required request).all symbol.modifiers.contains

/-- Whether a symbol is asked for. -/
def keeps (request : SearchRequest) (test : String → Bool) (symbol : Symbol) : Bool :=
  suits request symbol && (namesModifier request || nameMatches test symbol.name)

/-- The names that decide which symbols are asked for. -/
def decisiveNames (request : SearchRequest) (symbols : List Symbol) : List String :=
  if namesModifier request then [] else (symbols.filter (suits request)).map Symbol.name

end SymbolFilter

namespace SearchMatch

/-- The match of a symbol of a document. -/
def ofSymbol (doc : Document) (window : Nat × Nat) (symbol : Symbol) : SearchMatch :=
  { file := doc.path
    line := symbol.line
    column := symbol.column
    form := symbol.form
    name := symbol.name
    context := Window.around doc.lines symbol.line window.1 window.2
    scope := symbol.scope
    doc := symbol.doc
    modifiers := symbol.modifiers }

/-- The matches among the symbols of a document. -/
def ofSymbols (settings : SearchSettings) (request : SearchRequest) (test : String → Bool)
    (doc : Document) (symbols : List Symbol) : List SearchMatch :=
  (symbols.filter (SymbolFilter.keeps request test)).map (ofSymbol doc (request.window settings))

/-- The match of a text that occurs in a line of a document, with so many lines before and after it;
a negative size counts as zero. -/
def ofOccurrence (doc : Document) (before after line : Int) (occurrence : Pattern.Occurrence) :
    SearchMatch :=
  { file := doc.path
    line
    column := occurrence.start
    form := "text_match"
    name := String.ofList occurrence.text
    context := Window.around doc.lines line before after }

/-- The matches of a pattern in the lines of a document, with so many lines before and after
each. -/
def ofText (pattern : Pattern) (doc : Document) (before after : Int) :
    Except Pattern.Breakdown (List SearchMatch) := do
  let found ← doc.lines.zipIdx.mapM fun (line, index) => do
    return (← pattern.occurrences line).map (ofOccurrence doc before after (index + 1))
  return found.flatten

end SearchMatch

end SourceLens
