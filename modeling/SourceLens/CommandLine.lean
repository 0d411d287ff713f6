import SourceLens.Read
import SourceLens.Search
import SourceLens.Value.Layout

/-!
# The command line

A command line is a request in words. How the words are taken apart into options and arguments is
not the program's own business, so the parser of options is a parameter (`OptionParser`). What it
hands over is a command with what was given to it (`Command`); of the numbers it promises that an
option declared as a count is not negative. A command names the fields of its request one by one,
with the settings where nothing was given, and the request is checked before it is executed. A run
prints the record of the request, and its exit status says whether the request succeeded. A command
line that is not understood prints nothing to the standard output.
-/
namespace SourceLens

namespace CommandLine

/-- The name and the version of the program. -/
def versionLine : String := "astread v0.3.0"

/-! ## Commands -/

/-- What was given to a search. -/
structure SearchOptions where
  /-- The regular expression. -/
  pattern : String
  /-- The file or directory to search, as it was written. -/
  path : Option String := none
  /-- The name of the symbol type. -/
  type : Option String := none
  /-- Modifiers that every match must carry. -/
  modifiers : List String := []
  /-- The glob that files must match. -/
  glob : Option String := none
  /-- Whether the case of letters is ignored. -/
  ignoreCase : Bool := false
  /-- Lines of context around a match. -/
  context : Option Int := none
  /-- Whether to answer with the files that have a match. -/
  filesOnly : Bool := false
  /-- The greatest number of matches to show. -/
  limit : Option Int := none
  /-- Whether to search other texts than sources. -/
  includeNonCode : Bool := false
  deriving DecidableEq, Repr

/-- A command with what was given to it; files are as they were written. -/
inductive Command where
  /-- Read a whole file. -/
  | full (file : String)
  /-- Read an outline, with a summary when it is brief. -/
  | outline (file : String) (brief : Bool)
  /-- Read the lines around a line. -/
  | lines (file : String) (line above below : Option Int)
  /-- Read an entity. -/
  | target (file qualifier : String) (noContext : Bool) (contextLines : Option Int)
  /-- Search. -/
  | search (options : SearchOptions)
  deriving DecidableEq, Repr

/-- The numbers given to the options of a command that are declared as counts. -/
def Command.counts : Command → List Int
  | full _ | outline _ _ => []
  | lines _ _ above below => above.toList ++ below.toList
  | target _ _ _ contextLines => contextLines.toList
  | search options => options.context.toList ++ options.limit.toList

/-- What a command line asks for. -/
inductive Invocation where
  /-- Show the version. -/
  | version
  /-- Run a command, with log messages of a level. -/
  | command (level : String) (command : Command)
  deriving DecidableEq, Repr

/-- A parser of options. A command line that it does not understand has a message. -/
structure OptionParser where
  /-- What a command line asks for. -/
  parse : List String → Except String Invocation
  /-- No count is negative. -/
  counts_nonneg : ∀ args level command, parse args = .ok (.command level command) →
    ∀ number ∈ command.counts, 0 ≤ number

/-! ## Command lines that are understood -/

/-- Why a command line is not understood. -/
inductive UsageError where
  /-- The parser of options says so. -/
  | refused (message : String)
  /-- There is no such level of log messages. -/
  | unknownLevel
  /-- There is no such symbol type. -/
  | unknownType
  deriving DecidableEq, Repr

/-- The levels of log messages. -/
def logLevels : List String := ["DEBUG", "INFO", "WARNING", "ERROR", "CRITICAL"]

/-- The error in words. -/
def UsageError.message : UsageError → String
  | refused message => message
  | unknownLevel => "must be one of: " ++ ", ".intercalate logLevels
  | unknownType => "--type must be one of: " ++ ", ".intercalate SymbolType.names

/-- The name of the type of all symbols. -/
def defaultType : String := SymbolType.name none

/-- Whether a command asks for a symbol type that there is, whatever the case of its letters. -/
def Command.isTypeKnown : Command → Bool
  | search options => SymbolType.names.contains (Text.lower (options.type.getD defaultType))
  | _ => true

/-- What a command line asks for. The level of log messages is checked before the command, whatever
the case of its letters. -/
def understand (parser : OptionParser) (args : List String) : Except UsageError Invocation :=
  match parser.parse args with
  | .error message => .error (.refused message)
  | .ok .version => .ok .version
  | .ok (.command level command) =>
    if !logLevels.contains (Text.upper level) then .error .unknownLevel
    else if !command.isTypeKnown then .error .unknownType
    else .ok (.command level command)

/-! ## Requests -/

/-- A path argument in normal form. -/
def pathValue (written : String) : Value := .text (Path.parse written).render

/-- A number that was given, or the one of the settings. -/
def countOr (given : Option Int) (default : Nat) : Value := .int (given.getD default)

/-- The fields that a command which reads names in its request. -/
def fileFields (file : String) (mode : ReadMode) : Fields :=
  [("file_path", pathValue file), ("mode", .text mode.name)]

/-- The directory that is searched when no path is given. -/
def defaultRoot : String := "."

namespace SearchOptions

/-- The fields that a search names in its request. -/
def fields (options : SearchOptions) : Fields :=
  [("pattern", .text options.pattern), ("path", pathValue (options.path.getD defaultRoot)),
    ("glob_pattern", .textOrNull options.glob), ("case_insensitive", .bool options.ignoreCase),
    ("context", .intOrNull options.context),
    ("output_mode", .text
      (if options.filesOnly then OutputMode.filePaths.name else OutputMode.content.name)),
    ("type", .text (options.type.getD defaultType)), ("modifiers", .texts options.modifiers),
    ("head_limit", .intOrNull options.limit), ("include_non_code", .bool options.includeNonCode)]

end SearchOptions

namespace Command

/-- The fields that a command names in its request. -/
def fields (settings : ReadSettings) : Command → Fields
  | full file => fileFields file .full
  | outline file brief => fileFields file .outline ++ [("verbose", .bool !brief)]
  | lines file line above below =>
    fileFields file .lines ++
      [("line", .intOrNull line), ("lines_above", countOr above settings.linesAbove),
        ("lines_below", countOr below settings.linesBelow)]
  | target file qualifier noContext contextLines =>
    fileFields file .target ++
      [("target", .text qualifier), ("context", .bool !noContext),
        ("context_lines", countOr contextLines settings.contextLines)]
  | search options => options.fields

/-- Make the request of a command and execute it. -/
def execute (workspace : Workspace) (command : Command) : Except Breakdown Fields :=
  let fields := command.fields workspace.settings.read
  match command with
  | search _ =>
    match SearchRequest.check workspace.rules fields with
    | .ok request => request.execute workspace
    | .bad complaints => .error (.misfit complaints)
  | _ =>
    match ReadRequest.check workspace.rules workspace.settings.read fields with
    | .ok request => request.execute workspace
    | .bad complaints => .error (.misfit complaints)

end Command

/-! ## Runs -/

/-- What a run of the program shows. -/
structure Outcome where
  /-- The exit status. -/
  exitCode : Nat
  /-- The text on the standard output. -/
  output : String
  deriving DecidableEq, Repr

/-- Whether a record says that its request succeeded. -/
def succeeded (record : Fields) : Bool :=
  match record.get? "success" with
  | some (.bool flag) => flag
  | _ => false

/-- The outcome that shows a record. -/
def Outcome.ofRecord (record : Fields) : Outcome :=
  ⟨if succeeded record then 0 else 1, (Value.record record).layout ++ "\n"⟩

/-- The exit status of a command line that is not understood. -/
def usageStatus : Nat := 2

/-- The exit status of a command that breaks off. -/
def brokenStatus : Nat := 1

/-- Run a command line. -/
def run (parser : OptionParser) (workspace : Workspace) (args : List String) :
    Except Breakdown Outcome :=
  match understand parser args with
  | .error _ => .ok ⟨usageStatus, ""⟩
  | .ok .version => .ok ⟨0, versionLine ++ "\n"⟩
  | .ok (.command _ command) => (command.execute workspace).map Outcome.ofRecord

end CommandLine

end SourceLens
