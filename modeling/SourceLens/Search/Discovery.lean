import SourceLens.Glob
import SourceLens.Language
import SourceLens.Settings

/-!
# Finding files

The files under a directory that a search looks into. A directory gives its own files first, in
the order of their names, and then those of its subdirectories in the order of theirs. Whatever is
no directory counts as a file here, also a special file or a link that leads nowhere. Directories
whose name begins with a dot and some others are not entered, nor are links to directories, and a
directory that the system does not list is passed over. Of the files found the sources are kept,
other texts on request, and only those that match the glob when there is one.
-/
namespace SourceLens

/-- Directories that are never searched, whatever the settings are. -/
def skippedDirectories : List String := ["node_modules", ".git", "dist", "build", ".next"]

/-- Directories that are never searched. -/
def SearchSettings.skipped (settings : SearchSettings) : List String :=
  skippedDirectories ++ settings.skipDirectories

/-- Suffixes of texts that are not sources. -/
def textSuffixes : List String :=
  [".md", ".mdx", ".txt", ".rst", ".json", ".yaml", ".yml", ".toml", ".ini", ".cfg", ".conf",
    ".html", ".htm", ".xml", ".svg", ".css", ".scss", ".sass", ".less", ".sh", ".bash", ".zsh",
    ".fish", ".ps1", ".bat", ".cmd", ".rb", ".rake", ".go", ".rs", ".c", ".cpp", ".cc", ".cxx",
    ".h", ".hpp", ".hxx", ".java", ".cs", ".php", ".swift", ".m", ".mm", ".kt", ".kts", ".scala",
    ".vue", ".sql", ".graphql", ".gql", ".proto"]

/-- Names of texts without a suffix. -/
def textNames : List String :=
  ["Dockerfile", "Makefile", "Rakefile", "Procfile", ".gitignore", ".dockerignore", ".eslintrc",
    ".prettierrc", ".babelrc", ".env", ".env.example", ".env.local", "LICENSE", "README",
    "CHANGELOG", "TODO", "AUTHORS"]

/-- Whether a file is a text that is not a source, by its name. -/
def Path.isText (path : Path) : Bool :=
  textSuffixes.contains (Text.lower path.suffix) || textNames.contains path.name

namespace Discovery

/-- Whether a directory is entered, by its name. -/
def entered (settings : SearchSettings) (name : String) : Bool :=
  !settings.skipped.contains name && !".".isPrefixOf name

/-- The names of the entries that are no directories, in order. -/
def fileNames (entries : List Entry) : List String :=
  ((entries.filter (!·.isDirectory)).map Entry.name).mergeSort fun left right =>
    decide (left ≤ right)

/-- A directory that is entered: its name and the files below it, each as the list of names that
leads to it. -/
abbrev Branch : Type := String × List (List String)

/-- The files of a directory: its own in order, then those of its branches in order. -/
def arrange (own : List String) (branches : List Branch) : List (List String) :=
  own.map ([·]) ++
    (branches.mergeSort fun left right => decide (left.1 ≤ right.1)).flatMap fun branch =>
      branch.2.map (branch.1 :: ·)

mutual

/-- The branch of an entry that is a directory and is entered. -/
def branch? (settings : SearchSettings) : Entry → Option Branch
  | .directory name entries =>
    if entered settings name then
      some (name, arrange (fileNames entries) (branches settings entries))
    else none
  | _ => none

/-- The branches of some entries. -/
def branches (settings : SearchSettings) : List Entry → List Branch
  | [] => []
  | entry :: entries => (branch? settings entry).toList ++ branches settings entries

end

/-- The files of a directory with the given entries and of those below it. -/
def filesBelow (settings : SearchSettings) (entries : List Entry) : List (List String) :=
  arrange (fileNames entries) (branches settings entries)

/-- The path under which a directory below a root is listed; a root that is a dot stays in front. -/
def listedAs (root : Path) (names : List String) : Path :=
  if root.render = "." then ⟨"", "." :: names⟩ else ⟨root.anchor, root.names ++ names⟩

/-- Whether a file below a root is listed: the system lists every directory from the root to the
file, and the file is no link to a directory. -/
def isListed (files : FileSystem) (root : Path) (file : List String) : Bool :=
  ((List.range file.length).all fun count => files.lists (listedAs root (file.take count))) &&
    !files.isDirectory (listedAs root file)

/-- Whether a search looks into a file of this name. -/
def searchable (includeNonCode : Bool) (path : Path) : Bool :=
  Language.isSource path || (includeNonCode && path.isText)

/-- Whether a glob matches the name of a file or its path below a root. -/
def globMatches (root file : Path) (glob : String) : Bool :=
  let parts := Glob.parse glob.toList
  parts.isMatch file.name || parts.isMatch (file.relativeTo root).render

/-- Whether a file passes a glob; no glob and the empty one pass every file. -/
def passes (root : Path) (glob : Option String) (file : Path) : Bool :=
  match glob with
  | none => true
  | some glob => glob.isEmpty || globMatches root file glob

end Discovery

/-- The files under a root that a search looks into; none when there is no directory there. -/
def FileSystem.findFiles (files : FileSystem) (settings : SearchSettings) (root : Path)
    (glob : Option String) (includeNonCode : Bool) : List Path :=
  match files.find root with
  | .ok (.directory _ entries) =>
    (((Discovery.filesBelow settings entries).filter (Discovery.isListed files root)).map
      fun names => ⟨root.anchor, root.names ++ names⟩).filter fun file =>
        Discovery.searchable includeNonCode file && Discovery.passes root glob file
  | _ => []

end SourceLens
