import SourceLens.Settings

/-!
# Read requests

What to read and how much of it. The fields of a request may be named in either of two styles;
the joined style wins when a request uses both, and null counts as absent.
-/
namespace SourceLens

/-- A request to read a file. -/
structure ReadRequest where
  /-- The path of the file. -/
  path : String
  /-- How to read it. -/
  mode : String := "full"
  /-- The entity to extract. -/
  target : Option String := none
  /-- The line to show. -/
  line : Option Int := none
  /-- How many lines to show above it. -/
  linesAbove : Nat := ({} : ReadSettings).linesAbove
  /-- How many lines to show below it. -/
  linesBelow : Nat := ({} : ReadSettings).linesBelow
  /-- Whether to show the lines around an entity. -/
  context : Bool := true
  /-- How many lines to show around an entity. -/
  contextLines : Nat := ({} : ReadSettings).contextLines
  /-- Whether to leave out the summary. -/
  verbose : Bool := true
  deriving DecidableEq, Repr

namespace ReadRequest

/-- Check the fields of a request. The settings give the sizes that it leaves out. -/
def check (rules : Rules) (settings : ReadSettings) (params : Fields) : Checked ReadRequest :=
  ReadRequest.mk
    <$> params.checkRequired ["filePath", "file_path"] rules.nonemptyText
    <*> params.checkOr ["mode"] "full" rules.text
    <*> params.checkOr ["target"] none (.optional rules.text)
    <*> params.checkOr ["line"] none (.optional rules.integer)
    <*> params.checkOr ["linesAbove", "lines_above"] settings.linesAbove rules.count
    <*> params.checkOr ["linesBelow", "lines_below"] settings.linesBelow rules.count
    <*> params.checkOr ["context"] true rules.boolean
    <*> params.checkOr ["contextLines", "context_lines"] settings.contextLines rules.count
    <*> params.checkOr ["verbose"] true rules.boolean

/-- The path that a request names, whatever else is wrong with it: the divided name of the field
comes first here, and a value that is not a text counts as none. -/
def namedPath (params : Fields) : Option String :=
  match params.get? "file_path" with
  | some value => value.text?
  | none => (params.get? "filePath").bind Value.text?

/-- The mode that a request names, whatever else is wrong with it. -/
def namedMode (params : Fields) : String := ((params.get? "mode").bind Value.text?).getD "full"

/-- The request in results. -/
def fields (request : ReadRequest) : Fields :=
  [("file_path", .text request.path), ("mode", .text request.mode),
    ("target", .textOrNull request.target), ("line", .intOrNull request.line),
    ("lines_above", .nat request.linesAbove), ("lines_below", .nat request.linesBelow),
    ("context", .bool request.context), ("context_lines", .nat request.contextLines),
    ("verbose", .bool request.verbose)]

end ReadRequest

end SourceLens
