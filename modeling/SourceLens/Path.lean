/-!
# Paths

A path is a list of names behind an optional root. Empty names and single dots are dropped when a
path is read, and two dots are kept, because only the file system knows where they lead. The last
name is the name of the file, and its suffix goes from the last dot to the end, provided the dot
is neither the first nor the last character.
-/
namespace SourceLens

/-- A path in normal form. -/
structure Path where
  /-- What the path is relative to: nothing, or the slashes of the root. -/
  anchor : String
  /-- The names from the outside in. -/
  names : List String
  deriving Repr, DecidableEq

namespace Path

/-- The pieces of a character list between slashes. -/
def splitSlashes (s : List Char) : List (List Char) :=
  s.foldr (fun c pieces =>
    match pieces with
    | [] => [[c]]
    | piece :: rest => if c = '/' then [] :: piece :: rest else (c :: piece) :: rest) [[]]

/-- The slashes that begin a rooted path: two stay two, any other number counts as one. -/
def anchorOf (s : List Char) : String :=
  match (s.takeWhile (· == '/')).length with
  | 0 => ""
  | 2 => "//"
  | _ => "/"

/-- Read a path. -/
def parse (s : String) : Path :=
  let names := (splitSlashes s.toList).map String.ofList
  ⟨anchorOf s.toList, names.filter fun name => name ≠ "" ∧ name ≠ "."⟩

/-- The path as text; the empty path is a dot. -/
def render (path : Path) : String :=
  if path.anchor.isEmpty && path.names.isEmpty then "."
  else path.anchor ++ "/".intercalate path.names

/-- The last name, empty when there is none. -/
def name (path : Path) : String := path.names.getLast?.getD ""

/-- The end of a name from its last dot on, unless the dot begins or ends the name. -/
def suffixOf (name : String) : String :=
  let backward := name.toList.reverse
  let extension := backward.takeWhile (· != '.')
  match backward.dropWhile (· != '.') with
  | [] | [_] => ""
  | _ :: _ :: _ => if extension.isEmpty then "" else String.ofList ('.' :: extension.reverse)

/-- The suffix of the last name. -/
def suffix (path : Path) : String := suffixOf path.name

/-- Whether a name of the path has a null character, which no file has. -/
def hasNull (path : Path) : Bool := path.names.any (·.toList.contains '\x00')

/-- The names that lead to the same place without two dots, when all directories on the way
exist. -/
def landing (names : List String) : List String :=
  names.foldl (fun way name => if name = ".." then way.dropLast else way ++ [name]) []

/-- A path behind another one; a rooted path stands for itself. -/
def join (path other : Path) : Path :=
  if other.anchor.isEmpty then ⟨path.anchor, path.names ++ other.names⟩ else other

/-- The part of a path behind another one that it begins with. -/
def relativeTo (path base : Path) : Path :=
  if base.names.isPrefixOf path.names ∧ base.anchor = path.anchor then
    ⟨"", path.names.drop base.names.length⟩
  else path

end Path

end SourceLens
