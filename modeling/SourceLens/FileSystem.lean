import SourceLens.Document
import SourceLens.Path
import SourceLens.Text.Quoted

/-!
# File systems

A file system is a tree of directories with files, symbolic links and special files, and a working
directory in it. A path is followed name by name, from the root or from the working directory: a dot
stays, two dots lead to the directory above, and a link is replaced by the path that it holds. The
system may refuse to look up names in a directory, to list it or to read a file; it refuses names
and paths that are too long.
-/
namespace SourceLens

/-- An error of the system. -/
structure SystemError where
  /-- Its number. -/
  number : Nat
  /-- Its words. -/
  words : String
  deriving DecidableEq, Repr

namespace SystemError

/-- The process may not do this. -/
def denied : SystemError := ⟨13, "Permission denied"⟩

/-- A directory has no bytes. -/
def isDirectory : SystemError := ⟨21, "Is a directory"⟩

/-- A name or a path is too long to be looked up. -/
def tooLong : SystemError := ⟨36, "File name too long"⟩

/-- The error at a path in words. -/
def message (error : SystemError) (path : String) : String :=
  s!"[Errno {error.number}] {error.words}: " ++ Text.quoted path

end SystemError

/-- What a directory holds under a name. -/
inductive Entry where
  /-- A regular file with its bytes. -/
  | file (name : String) (content : ByteArray)
  /-- A directory with its entries. -/
  | directory (name : String) (entries : List Entry)
  /-- A symbolic link with the path that it holds. -/
  | link (name : String) (target : Path)
  /-- Neither a regular file nor a directory, such as a pipe, with the bytes that reading gives. -/
  | special (name : String) (content : ByteArray)

/-- The name of an entry. -/
def Entry.name : Entry → String
  | file name _ => name
  | directory name _ => name
  | link name _ => name
  | special name _ => name

/-- Whether an entry is a directory. -/
def Entry.isDirectory : Entry → Bool
  | directory _ _ => true
  | _ => false

/-- Why a path does not lead to an entry. -/
inductive Unreached where
  /-- There is nothing at the path. -/
  | missing
  /-- The system refuses to look it up. -/
  | refused (error : SystemError)
  deriving DecidableEq, Repr

/-- Why the bytes at a path that exists cannot be had as text. -/
inductive Unreadable where
  /-- The system refuses to look up the path or to read what is there. -/
  | refused (error : SystemError) (path : String)
  /-- The bytes are not text. -/
  | encoding (fault : Text.Utf8.Fault)
  deriving DecidableEq, Repr

/-- What is wrong in words. -/
def Unreadable.message : Unreadable → String
  | refused error path => error.message path
  | encoding fault => fault.message

/-- Why a file cannot be loaded. -/
inductive LoadError where
  /-- There is no file at the path. -/
  | notFound (path : String)
  /-- The path cannot be looked up, or there is something that is not text. -/
  | unreadable (why : Unreadable)
  deriving DecidableEq, Repr

/-- The error in words. -/
def LoadError.message : LoadError → String
  | notFound path => s!"File not found: {path}"
  | unreadable why => s!"Failed to read file: {why.message}"

/-- What a process does with an entry. -/
inductive Access where
  /-- Read the bytes of a file or list the names in a directory. -/
  | read
  /-- Look up a name in a directory. -/
  | enter
  deriving DecidableEq, Repr

/-- An entry with the directories around it, from the inside out to the root. -/
structure Position where
  /-- The entry. -/
  entry : Entry
  /-- The directories around it. -/
  above : List Entry

namespace Position

/-- The names that lead from the root to the entry. -/
def place (position : Position) : List String :=
  ((position.entry :: position.above).map Entry.name).reverse.drop 1

/-- The directory above; the root is above itself. -/
def parent (position : Position) : Position :=
  match position.above with
  | [] => position
  | directory :: further => ⟨directory, further⟩

/-- An entry of the directory. -/
def enter (position : Position) (entry : Entry) : Position :=
  ⟨entry, position.entry :: position.above⟩

end Position

/-- A directory with another one in it, told by what else it holds. -/
structure Surrounding where
  /-- The name of the other directory. -/
  name : String
  /-- The entries beside it. -/
  others : List Entry

/-- The files of a system, seen from its working directory. -/
structure FileSystem where
  /-- The entries of the working directory, in any order and one of a name. -/
  entries : List Entry
  /-- The directories around the working directory, from the inside out. The last one is the root;
  when there is none, the working directory is. -/
  around : List Surrounding := []
  /-- What the system refuses the process at a place, which is given by its names from the root. -/
  refuses : Access → List String → Option SystemError := fun _ _ => none

namespace FileSystem

/-- The greatest number of bytes of a name. -/
def nameLimit : Nat := 255

/-- The greatest number of bytes of a path. -/
def pathLimit : Nat := 4095

/-- The greatest number of links that a path may go through. -/
def linkLimit : Nat := 40

/-! ## Places -/

/-- The position of a directory with these entries inside these others. -/
def positionOf (entries : List Entry) : List Surrounding → Position
  | [] => ⟨.directory "" entries, []⟩
  | ⟨name, others⟩ :: further =>
    let here : Entry := .directory name entries
    let outer := positionOf (here :: others) further
    ⟨here, outer.entry :: outer.above⟩

/-- The position of the working directory. -/
def working (files : FileSystem) : Position := positionOf files.entries files.around

/-- The position of the root. -/
def root (files : FileSystem) : Position :=
  ⟨files.working.above.getLast?.getD files.working.entry, []⟩

/-- The position that a path starts from, seen from another one. -/
def base (files : FileSystem) (here : Position) (path : Path) : Position :=
  if path.anchor.isEmpty then here else files.root

/-! ## Paths -/

/-- Where names lead before a link among them is followed. -/
inductive Way where
  /-- To an entry that is no link. -/
  | arrives (position : Position)
  /-- To a link in a directory, with names left behind it. -/
  | turns (directory : Position) (target : Path) (rest : List String)

/-- Follow names up to the first link. -/
def advance (files : FileSystem) (position : Position) : List String → Except Unreached Way
  | [] => .ok (.arrives position)
  | name :: rest =>
    match position.entry with
    | .directory _ entries =>
      match files.refuses .enter position.place with
      | some error => .error (.refused error)
      | none =>
        if name = "." then advance files position rest
        else if name = ".." then advance files position.parent rest
        else if nameLimit < name.utf8ByteSize then .error (.refused .tooLong)
        else
          match entries.find? (·.name == name) with
          | none => .error .missing
          | some (.link _ target) => .ok (.turns position target rest)
          | some entry => advance files (position.enter entry) rest
    | _ => .error .missing

/-- Follow names through so many links at most. More of them lead nowhere, because they may go in a
circle. -/
def follow (files : FileSystem) (links : Nat) (position : Position) (names : List String) :
    Except Unreached Position :=
  match files.advance position names with
  | .error why => .error why
  | .ok (.arrives position) => .ok position
  | .ok (.turns directory target rest) =>
    match links with
    | 0 => .error .missing
    | links + 1 => files.follow links (files.base directory target) (target.names ++ rest)

/-- The names of a path as the system follows them: a path without names is written as a dot. -/
def steps (path : Path) : List String :=
  if path.anchor.isEmpty && path.names.isEmpty then ["."] else path.names

/-- The position that a path leads to. -/
def locate (files : FileSystem) (path : Path) : Except Unreached Position :=
  if path.hasNull then .error .missing
  else if pathLimit < path.render.utf8ByteSize then .error (.refused .tooLong)
  else files.follow linkLimit (files.base files.working path) (steps path)

/-- The entry that a path leads to. -/
def find (files : FileSystem) (path : Path) : Except Unreached Entry :=
  (files.locate path).map Position.entry

/-- Whether a path leads to a directory. -/
def isDirectory (files : FileSystem) (path : Path) : Bool :=
  match files.find path with
  | .ok entry => entry.isDirectory
  | .error _ => false

/-- Whether the system lists the names at a path. -/
def lists (files : FileSystem) (path : Path) : Bool :=
  match files.locate path with
  | .ok position => position.entry.isDirectory && (files.refuses .read position.place).isNone
  | .error _ => false

/-! ## Contents -/

/-- The bytes that reading gives at a position. -/
def contentAt (files : FileSystem) (position : Position) : Except SystemError ByteArray :=
  match files.refuses .read position.place with
  | some error => .error error
  | none =>
    match position.entry with
    | .file _ content | .special _ content => .ok content
    | .directory _ _ | .link _ _ => .error .isDirectory

/-- The bytes of the file at a path. -/
def bytesAt (files : FileSystem) (path : String) : Except LoadError ByteArray :=
  let parsed := Path.parse path
  match files.locate parsed with
  | .error .missing => .error (.notFound path)
  | .error (.refused error) => .error (.unreadable (.refused error parsed.render))
  | .ok position =>
    (files.contentAt position).mapError fun error => .unreadable (.refused error parsed.render)

/-- The document at a path. -/
def load (files : FileSystem) (path : String) : Except LoadError Document := do
  let content ← files.bytesAt path
  match Text.Utf8.decode content with
  | .error fault => .error (.unreadable (.encoding fault))
  | .ok text => .ok { path, text }

/-! ## Changes -/

/-- Put an entry in the place of the one with the same name, or behind the others. -/
def replace (entries : List Entry) (entry : Entry) : List Entry :=
  if entries.any (·.name == entry.name) then
    entries.map fun other => if other.name == entry.name then entry else other
  else entries ++ [entry]

/-- Make an entry at the end of a list of names, and the directories on the way. -/
def place (make : String → Option Entry → Entry) : List String → List Entry → List Entry
  | [], entries => entries
  | [name], entries => replace entries (make name (entries.find? (·.name == name)))
  | name :: rest, entries =>
    let inside := match entries.find? (·.name == name) with
      | some (.directory _ inside) => inside
      | _ => []
    replace entries (.directory name (place make rest inside))

/-- Make a directory at the end of a list of names; one that exists keeps its entries. -/
def keepDirectory (name : String) : Option Entry → Entry
  | some (.directory _ inside) => .directory name inside
  | _ => .directory name []

/-- Make every directory on the way along a list of names, from the outside in. Two dots leave the
directory that was made last. -/
def makeWay (names : List String) (entries : List Entry) : List Entry :=
  (List.range (names.length + 1)).foldl (fun entries count =>
    place keepDirectory (Path.landing (names.take count)) entries) entries

/-- Make a directory below the working directory, and the directories on the way. -/
def makeDirectory (files : FileSystem) (path : String) : FileSystem :=
  { files with entries := makeWay (Path.parse path).names files.entries }

/-- Write a file below the working directory, making the directories on the way. -/
def write (files : FileSystem) (path : String) (content : ByteArray) : FileSystem :=
  let names := (Path.parse path).names
  { files with
    entries := place (fun name _ => .file name content) (Path.landing names)
      (makeWay names.dropLast files.entries) }

/-- The entries without the one at the end of a list of names. -/
def without : List String → List Entry → List Entry
  | [], entries => entries
  | [name], entries => entries.filter (·.name != name)
  | name :: rest, entries =>
    entries.map fun entry => match entry with
      | .directory own inside =>
        if own == name then .directory own (without rest inside) else .directory own inside
      | other => other

/-- Remove the file or directory at a path below the working directory, if there is one. -/
def remove (files : FileSystem) (path : String) : FileSystem :=
  let parsed := Path.parse path
  match files.find parsed with
  | .error _ => files
  | .ok _ => { files with entries := without (Path.landing parsed.names) files.entries }

end FileSystem

end SourceLens
