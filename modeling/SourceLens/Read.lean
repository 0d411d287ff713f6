import SourceLens.Failure
import SourceLens.Read.Request
import SourceLens.Target
import SourceLens.Workspace

/-!
# Reading

A file is read in one of four modes: in full, as an outline, as a window of lines, or as one
entity with its context. Every error of the parts becomes a `ReadError`, and a request has a result:
what was read, or the record of its failure. The message about a line that the file does not have
shows its number; a number with too many digits to print ends the reading without a record.
-/
namespace SourceLens

/-- A way to read a file. -/
inductive ReadMode where
  /-- The whole text. -/
  | full
  /-- What the file declares. -/
  | outline
  /-- The lines around a line. -/
  | lines
  /-- One entity with the lines around it, or the list of imports or exports. -/
  | target
  deriving DecidableEq, Repr

namespace ReadMode

/-- The name of a mode. -/
def name : ReadMode → String
  | full => "full"
  | outline => "outline"
  | lines => "lines"
  | target => "target"

/-- Every mode. -/
def all : List ReadMode := [full, outline, lines, target]

/-- The mode with a name. -/
def ofName? (name : String) : Option ReadMode := all.find? (·.name == name)

end ReadMode

/-- A list of the outline that a target can stand for. -/
inductive Listing where
  /-- The imports. -/
  | imports
  /-- The exports. -/
  | exports
  deriving DecidableEq, Repr

namespace Listing

/-- The name of a listing. -/
def name : Listing → String
  | imports => "imports"
  | exports => "exports"

/-- The name of one item of a listing. -/
def itemName : Listing → String
  | imports => "import"
  | exports => "export"

/-- The listing with a name. -/
def ofName? (name : String) : Option Listing := [imports, exports].find? (·.name == name)

/-- The items of a listing in results. -/
def items (outline : Outline) : Listing → Value
  | imports => outline.importsValue
  | exports => outline.exportsValue

/-- The number of items of a listing. -/
def size (outline : Outline) : Listing → Nat
  | imports => outline.imports.length
  | exports => outline.exports.length

end Listing

/-- Why a file was not read as asked. -/
inductive ReadError where
  /-- The file cannot be loaded. -/
  | unloaded (error : LoadError)
  /-- There is no such mode. -/
  | unknownMode (mode : String)
  /-- No line was given. -/
  | lineNotGiven
  /-- The file has no such line. -/
  | lineOutside (line : Int) (total : Nat)
  /-- No target was given. -/
  | targetNotGiven
  /-- Nothing has the name that a qualifier asks for. -/
  | targetNotFound (qualifier : Qualifier) (hint : String)
  /-- The document could not be parsed. -/
  | unparsed (failure : ParseFailure)
  /-- There is no outline, because the document could not be parsed. -/
  | notOutlined (failure : ParseFailure)
  /-- The text of a node is not text. -/
  | undecodable (fault : Text.Utf8.Fault)
  deriving Repr, DecidableEq

namespace ReadError

/-- The error of an outline that could not be made. -/
def ofOutline : OutlineError → ReadError
  | .unparsed failure => notOutlined failure
  | .undecodable fault => undecodable fault

/-- The forms of a target. -/
def targetFormatHint : String :=
  "Use one of: 'function:name', 'class:Name', 'class:Name.member', " ++
    "'method:member', 'imports', 'exports'"

/-- The kind of an error. -/
def kind : ReadError → ErrorKind
  | unloaded (.notFound _) => .fileNotFound
  | unloaded (.unreadable _) => .readError
  | unknownMode _ => .invalidMode
  | lineNotGiven => .missingLine
  | lineOutside _ _ => .lineOutOfRange
  | targetNotGiven => .missingTarget
  | targetNotFound _ _ => .targetNotFound
  | unparsed failure => failure.kind
  | notOutlined failure => failure.kind
  | undecodable _ => .readError

/-- An error in words. There are none for a line whose number has too many digits to print. -/
def message? : ReadError → Option String
  | unloaded error => error.message
  | unknownMode mode =>
    s!"Unknown mode: {mode}. Expected one of: " ++ ", ".intercalate (ReadMode.all.map (·.name))
  | lineNotGiven => "line parameter required when mode='lines'"
  | lineOutside line total =>
    (Text.printInt? line).map fun line => s!"Line {line} out of range (file has {total} lines)"
  | targetNotGiven => "target parameter required when mode='target'"
  | targetNotFound qualifier _ => Target.notFoundMessage qualifier
  | unparsed failure => failure.message
  | notOutlined failure => s!"Failed to parse file: {failure.message}"
  | undecodable fault => s!"Failed to read file: {fault.message}"

/-- What to try instead. -/
def hint : ReadError → Option String
  | unloaded (.unreadable _) => some ErrorKind.fullModeHint
  | targetNotGiven => some targetFormatHint
  | targetNotFound _ hint => some hint
  | unparsed failure => some failure.hint
  | notOutlined failure => some failure.hint
  | undecodable _ => some ErrorKind.fullModeHint
  | _ => none

/-- Whether the record of an error shows an empty outline. -/
def showsOutline : ReadError → Bool
  | notOutlined _ => true
  | _ => false

/-- The failure of an error in words for a path and a mode. -/
def failure (error : ReadError) (message path mode : String) : Failure :=
  { kind := error.kind, message, path := some path, mode, hint := error.hint
    showsOutline := error.showsOutline }

/-- The record of an error for a path and a mode. -/
def record (error : ReadError) (path mode : String) : Except Breakdown Fields :=
  match error.message? with
  | some message => .ok (error.failure message path mode).fields
  | none => .error .digits

end ReadError

/-- What was read. -/
inductive ReadResult where
  /-- The whole document. -/
  | full (doc : Document)
  /-- The outline of a document in a language. -/
  | outline (language : Language) (outline : Outline)
  /-- The lines from `start` to `stop` around a line of a document. -/
  | lines (doc : Document) (line start stop : Int)
  /-- An entity. -/
  | target (target : Target)
  /-- A list of an outline. -/
  | listing (listing : Listing) (outline : Outline)

namespace ReadResult

/-- A count with the word for what is counted. -/
def plural (count : Int) (singular several : String) : String :=
  s!"{count} " ++ if count = 1 then singular else several

/-- The result in one line. -/
def summary : ReadResult → Option String
  | full _ => none
  | outline _ found =>
    some <| "File analyzed: " ++ ", ".intercalate
      [plural found.functions.length "function" "functions",
        plural found.classes.length "class" "classes",
        plural found.imports.length "import" "imports",
        plural found.exports.length "export" "exports"]
  | lines doc line start stop =>
    some s!"Showing line {line} ({start}-{stop} of {doc.lineCount} total lines)"
  | target found =>
    let count := found.span.stop - found.span.start + 1
    some <| s!"Extracted {found.span.targetType} '{found.qualifiedName}' (" ++
      plural count "line" "lines" ++ ")"
  | listing kind found =>
    some <| "Found " ++ plural (kind.size found) kind.itemName (kind.itemName ++ "s")

/-- What was read from a path, in results. -/
def body (path : String) : ReadResult → Fields
  | full doc =>
    [("success", .bool true), ("mode", .text "full"), ("file_path", .text path),
      ("line_count", .nat doc.lineCount), ("size_bytes", .nat doc.sizeBytes),
      ("content", .text doc.text)]
  | outline language found =>
    [("success", .bool true), ("mode", .text "outline"), ("file_path", .text path),
      ("language", .text language.name), ("structure", .record found.structureFields),
      ("stats", .record found.statsFields)]
  | lines doc line start stop =>
    [("success", .bool true), ("mode", .text "lines"), ("file_path", .text path),
      ("target_line", .int line), ("start_line", .int start), ("end_line", .int stop),
      ("total_lines", .nat doc.lineCount), ("lines_above", .int (line - start)),
      ("lines_below", .int (stop - line)), ("content", .text (Window.slice doc.lines start stop))]
  | target found => found.fields ++ [("file_path", .text path)]
  | listing kind found =>
    [("success", .bool true), ("mode", .text "target"), ("file_path", .text path),
      ("target_type", .text kind.name), (kind.name, kind.items found)]

/-- The result with its summary, unless the full result alone is asked for. -/
def fields (path : String) (verbose : Bool) (result : ReadResult) : Fields :=
  result.body path ++
    if verbose then [] else (result.summary.map fun line => ("summary", Value.text line)).toList

end ReadResult

namespace ReadRequest

/-- Read the lines around a line. -/
def readLines (request : ReadRequest) (doc : Document) : Except ReadError ReadResult :=
  match request.line with
  | none => .error .lineNotGiven
  | some line =>
    if line < 1 ∨ (doc.lineCount : Int) < line then .error (.lineOutside line doc.lineCount)
    else
      let window := Window.widen line line request.linesAbove doc.lineCount
        (some request.linesBelow)
      .ok (.lines doc line window.1 window.2)

/-- Read the outline. -/
def readOutline (workspace : Workspace) (doc : Document) : Except ReadError ReadResult :=
  let language := Language.detect doc.path
  match workspace.outline doc language with
  | .error error => .error (.ofOutline error)
  | .ok outline => .ok (.outline language outline)

/-- Read a list of the outline. -/
def readListing (workspace : Workspace) (doc : Document) (listing : Listing) :
    Except ReadError ReadResult :=
  match workspace.outline doc (Language.detect doc.path) with
  | .error error => .error (.ofOutline error)
  | .ok outline => .ok (.listing listing outline)

/-- Read the entity that a qualifier names. -/
def readEntity (request : ReadRequest) (workspace : Workspace) (doc : Document)
    (qualifier : Qualifier) : Except ReadError ReadResult :=
  let language := Language.detect doc.path
  match workspace.parse doc language with
  | .error failure => .error (.unparsed failure)
  | .ok tree =>
    match Target.extract language.grammar tree doc qualifier request.contextLines
        request.context with
    | .error fault => .error (.undecodable fault)
    | .ok (.error hint) => .error (.targetNotFound qualifier hint)
    | .ok (.ok target) => .ok (.target target)

/-- Read the target: a list of the outline or an entity. -/
def readTarget (request : ReadRequest) (workspace : Workspace) (doc : Document) :
    Except ReadError ReadResult :=
  match request.target.bind nonempty? with
  | none => .error .targetNotGiven
  | some target =>
    let qualifier := Qualifier.parse target
    match Listing.ofName? qualifier.kind with
    | some listing => readListing workspace doc listing
    | none => request.readEntity workspace doc qualifier

/-- Read a document in the mode of the request. -/
def readDocument (request : ReadRequest) (workspace : Workspace) (doc : Document) :
    Except ReadError ReadResult :=
  match ReadMode.ofName? request.mode with
  | none => .error (.unknownMode request.mode)
  | some .full => .ok (.full doc)
  | some .outline => readOutline workspace doc
  | some .lines => request.readLines doc
  | some .target => request.readTarget workspace doc

/-- Read the file of the request. -/
def read (request : ReadRequest) (workspace : Workspace) : Except ReadError ReadResult :=
  match workspace.files.load request.path with
  | .error error => .error (.unloaded error)
  | .ok doc => request.readDocument workspace doc

/-- The record of what was read, or of the failure. -/
def execute (request : ReadRequest) (workspace : Workspace) : Except Breakdown Fields :=
  match request.read workspace with
  | .ok result => .ok (result.fields request.path request.verbose)
  | .error error => error.record request.path request.mode

end ReadRequest

/-- Check a request and execute it; a request that does not fit has a record of its own. -/
def Workspace.readParams (workspace : Workspace) (params : Fields) : Except Breakdown Fields :=
  match ReadRequest.check workspace.rules workspace.settings.read params with
  | .ok request => request.execute workspace
  | .bad complaints =>
    .ok (Failure.ofComplaints complaints (ReadRequest.namedPath params)
      (ReadRequest.namedMode params)).fields

end SourceLens
