import SourceLens.Failure
import SourceLens.Search.Discovery
import SourceLens.Search.Match
import SourceLens.Workspace

/-!
# Searching

A search looks into one file or into the files under a directory. A file that cannot be read as text
or parsed is skipped and reported. A file that does not exist, such as a link that leads nowhere,
ends the whole search with an error. The report shows the matches, as many as asked for, or the
files that have one. A path that the system refuses to look up, or a pattern that breaks off, ends
the search without a record.
-/
namespace SourceLens

/-- Why a file is skipped by a search. -/
inductive SkipReason where
  /-- The file cannot be read as text. -/
  | unreadable (why : Unreadable)
  /-- The source cannot be parsed. -/
  | unparsed (failure : ParseFailure)
  /-- The text of a node is not text. -/
  | undecodable (fault : Text.Utf8.Fault)
  deriving DecidableEq, Repr

/-- An error of a search. -/
inductive SearchError where
  /-- There is nothing at the path. -/
  | pathNotFound (path : String)
  /-- There is no file at the path of a file to search. -/
  | fileNotFound (path : String)
  /-- The pattern is no pattern. -/
  | badPattern (pattern : String) (error : Pattern.PatternError)
  deriving DecidableEq, Repr

namespace SearchError

/-- The kind of an error. -/
def kind : SearchError → ErrorKind
  | pathNotFound _ => .pathNotFound
  | fileNotFound _ => .fileNotFound
  | badPattern _ _ => .invalidPattern

/-- An error in words. -/
def message : SearchError → String
  | pathNotFound path => s!"Path not found: {path}"
  | fileNotFound path => (LoadError.notFound path).message
  | badPattern pattern error => s!"Invalid pattern '{pattern}': {error.message pattern}"

end SearchError

/-- Why a search has no results. -/
inductive SearchFailure where
  /-- The failure is reported. -/
  | reported (error : SearchError)
  /-- The search broke off. -/
  | broken (why : Breakdown)
  deriving DecidableEq, Repr

/-- What came of searching one file. -/
inductive FileOutcome where
  /-- The file was searched. -/
  | searched (found : List SearchMatch)
  /-- The file was skipped. -/
  | skipped (reason : SkipReason)
  /-- The whole search ended with the file. -/
  | ended (why : SearchFailure)
  deriving DecidableEq, Repr

namespace FileOutcome

/-- The outcome of a file that is searched, or skipped if something is missing for it. -/
def orSkipped (outcome : Except SkipReason FileOutcome) : FileOutcome :=
  match outcome with
  | .ok outcome => outcome
  | .error reason => skipped reason

/-- The outcome of a file in which a pattern was searched. -/
def ofFound (found : Except Pattern.Breakdown (List SearchMatch)) : FileOutcome :=
  match found with
  | .ok found => searched found
  | .error why => ended (.broken (.pattern why))

end FileOutcome

/-- What a search found in one file. -/
structure FileReport where
  /-- The path of the file. -/
  path : String
  /-- What came of searching it. -/
  outcome : FileOutcome
  deriving DecidableEq, Repr

namespace FileReport

/-- The matches in the file, none if it was not searched. -/
def found (report : FileReport) : List SearchMatch :=
  match report.outcome with
  | .searched found => found
  | _ => []

/-- Whether the file was skipped. -/
def isSkipped (report : FileReport) : Bool :=
  match report.outcome with
  | .skipped _ => true
  | _ => false

/-- Why the search ended with the file. -/
def ending? (report : FileReport) : Option SearchFailure :=
  match report.outcome with
  | .ended why => some why
  | _ => none

end FileReport

/-- What a search found, file by file in the order of the search. -/
structure SearchReport where
  /-- The reports of the files. -/
  files : List FileReport

namespace SearchReport

/-- All matches in order. -/
def found (report : SearchReport) : List SearchMatch := report.files.flatMap FileReport.found

/-- The files with a match. -/
def matchedFiles (report : SearchReport) : List String :=
  (report.files.filter fun file => !file.found.isEmpty).map FileReport.path

/-- The files that were skipped. -/
def skipped (report : SearchReport) : List String :=
  (report.files.filter FileReport.isSkipped).map FileReport.path

/-- Why the search ended, with the first file where it did. -/
def ending? (report : SearchReport) : Option SearchFailure :=
  report.files.findSome? FileReport.ending?

/-- The matches that are shown. -/
def shown (report : SearchReport) (limit : Option Nat) : List SearchMatch :=
  match limit with
  | none => report.found
  | some limit => report.found.take limit

/-- The part of the result that every output mode has. -/
def totals (report : SearchReport) : Fields :=
  [("success", .bool true), ("total_matches", .nat report.found.length),
    ("files_searched", .nat report.files.length), ("skipped", .texts report.skipped)]

/-- The report in results. -/
def fields (report : SearchReport) (output : OutputMode) (limit : Option Nat) : Fields :=
  match output with
  | .filePaths => report.totals ++ [("files", .texts report.matchedFiles)]
  | .content =>
    let shown := report.shown limit
    report.totals ++
      [("matches", .list (shown.map fun found => .record found.fields)),
        ("truncated", .bool (shown.length < report.found.length))]

end SearchReport

/-- The files under a root that a search looks into, if the root can be listed. -/
def FileSystem.listFiles (files : FileSystem) (settings : SearchSettings) (root : Path)
    (glob : Option String) (includeNonCode : Bool) : Except Breakdown (List Path) :=
  if root.hasNull then .error .nullInPath
  else .ok (files.findFiles settings root glob includeNonCode)

namespace SearchRequest

/-- The name of the operation in records of failures. -/
def modeName : String := "search"

/-- The matches among the symbols of a document. -/
def searchSymbols (request : SearchRequest) (settings : SearchSettings) (pattern : Pattern)
    (doc : Document) (symbols : List Symbol) : Except Pattern.Breakdown (List SearchMatch) :=
  match pattern.breakdownAmong? (SymbolFilter.decisiveNames request symbols) with
  | some why => .error why
  | none => .ok (SearchMatch.ofSymbols settings request pattern.isFoundIn doc symbols)

/-- Search the document of a file. -/
def searchDocument (request : SearchRequest) (workspace : Workspace) (pattern : Pattern)
    (file : Path) (doc : Document) : FileOutcome :=
  .orSkipped do
    let settings := workspace.settings.search
    if Language.isSource file then
      let language := Language.detect doc.path
      let tree ← (workspace.parse doc language).mapError SkipReason.unparsed
      let symbols ← (language.grammar.symbols tree doc).mapError SkipReason.undecodable
      return .ofFound (request.searchSymbols settings pattern doc symbols)
    else
      let window := request.window settings
      return .ofFound (SearchMatch.ofText pattern doc window.1 window.2)

/-- Search a file. -/
def searchFile (request : SearchRequest) (workspace : Workspace) (pattern : Pattern)
    (file : Path) : FileOutcome :=
  match workspace.files.load file.render with
  | .error (.notFound path) => .ended (.reported (.fileNotFound path))
  | .error (.unreadable why) => .skipped (.unreadable why)
  | .ok doc => request.searchDocument workspace pattern file doc

/-- The files to search under an entry: the entry itself if it is a file. -/
def searchedFiles (request : SearchRequest) (workspace : Workspace) (root : Path) :
    Entry → List Path
  | .file _ _ => [root]
  | _ =>
    workspace.files.findFiles workspace.settings.search root request.glob request.includeNonCode

/-- The entry that a request names. -/
def entry (request : SearchRequest) (files : FileSystem) : Except SearchFailure Entry :=
  let root := Path.parse request.path
  match files.find root with
  | .ok entry => .ok entry
  | .error .missing => .error (.reported (.pathNotFound request.path))
  | .error (.refused error) => .error (.broken (.path error root.render))

/-- The pattern of a request. -/
def compiled (request : SearchRequest) : Except SearchFailure Pattern :=
  match Pattern.compile request.pattern request.ignoreCase with
  | .ok pattern => .ok pattern
  | .error (.invalid error) => .error (.reported (.badPattern request.pattern error))
  | .error (.broken why) => .error (.broken (.pattern why))

/-- The report of the files under an entry. -/
def report (request : SearchRequest) (workspace : Workspace) (pattern : Pattern) (entry : Entry) :
    SearchReport :=
  ⟨(request.searchedFiles workspace (Path.parse request.path) entry).map fun file =>
    ⟨file.render, request.searchFile workspace pattern file⟩⟩

/-- Search the files of the request. The path is looked up before the pattern is compiled, and the
files are searched in order until one ends the search. -/
def search (request : SearchRequest) (workspace : Workspace) :
    Except SearchFailure SearchReport := do
  let entry ← request.entry workspace.files
  let pattern ← request.compiled
  let report := request.report workspace pattern entry
  match report.ending? with
  | some why => throw why
  | none => return report

/-- The result of a search that had no file to look into. -/
def nothingSearched : Fields :=
  [("success", .bool true), ("total_matches", .int 0), ("files_searched", .int 0),
    ("matches", .list []), ("message", .text "No code files found in search path")]

/-- The record of a report in the output mode, or that of a search without files. -/
def recordOf (request : SearchRequest) (report : SearchReport) : Fields :=
  if report.files.isEmpty then nothingSearched else report.fields request.output request.limit

/-- The record of what was found, or of the failure. -/
def execute (request : SearchRequest) (workspace : Workspace) : Except Breakdown Fields :=
  match request.search workspace with
  | .error (.broken why) => .error why
  | .error (.reported error) =>
    .ok (Failure.fields
      { kind := error.kind, message := error.message, path := some request.path, mode := modeName })
  | .ok report => .ok (request.recordOf report)

end SearchRequest

/-- Check a request and execute it; a request that does not fit has a record of its own. -/
def Workspace.searchParams (workspace : Workspace) (params : Fields) : Except Breakdown Fields :=
  match SearchRequest.check workspace.rules params with
  | .ok request => request.execute workspace
  | .bad complaints =>
    .ok (Failure.ofComplaints complaints ((params.get? "path").bind Value.text?)
      SearchRequest.modeName).fields

end SourceLens
