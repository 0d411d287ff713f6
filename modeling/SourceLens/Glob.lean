/-!
# Globs

A glob is a pattern for file names: a star stands for any text, a question mark for any character,
and a bracketed set for one of its characters. Slashes and leading dots are ordinary characters.
A set that begins with an exclamation mark stands for the characters outside it; a closing bracket
that comes first belongs to the set; a bracket that is never closed stands for itself.

Matching keeps every rest of the text that the pattern read so far may leave, longest first.
-/
namespace SourceLens

/-- A part of a glob. -/
inductive GlobPart where
  /-- Any text. -/
  | anything
  /-- Any character. -/
  | anyChar
  /-- The given character. -/
  | char (c : Char)
  /-- A character inside one of the ranges, or outside all of them. -/
  | set (negated : Bool) (ranges : List (Char × Char))
  deriving Repr, DecidableEq

/-- A glob as its parts. -/
abbrev Glob : Type := List GlobPart

namespace Glob

/-- A character of a set, marked when it is the hyphen of a range. -/
abbrev SetChar : Type := Char × Bool

/-- Divide the body of a set at the hyphens that make ranges: the first may stand before the
character at `skip`, and at least two characters stand between two of them. -/
def chunks (skip : Nat) : List Char → List Char → List (List Char)
  | chunk, [] => [chunk.reverse]
  | chunk, c :: rest =>
    match skip with
    | skip + 1 => chunks skip (c :: chunk) rest
    | 0 => if c = '-' then chunk.reverse :: chunks 2 [] rest else chunks 0 (c :: chunk) rest

/-- A hyphen at the very end stands for itself. -/
def closeChunks : List (List Char) → List (List Char)
  | [] => []
  | [chunk] => [chunk]
  | [chunk, []] => [chunk ++ ['-']]
  | chunk :: next :: rest => chunk :: closeChunks (next :: rest)

/-- Join a chunk to those after it when the range between them would be empty; both ends of the
empty range are dropped. -/
def joinChunk (chunk : List Char) : List (List Char) → List (List Char)
  | [] => [chunk]
  | next :: rest =>
    match chunk.getLast?, next.head? with
    | some low, some high =>
      if high < low then (chunk.dropLast ++ next.drop 1) :: rest else chunk :: next :: rest
    | _, _ => chunk :: next :: rest

/-- The characters of chunks with a marked hyphen between neighbours. -/
def markedChars (parts : List (List Char)) : List SetChar :=
  [('-', true)].intercalate (parts.map fun part => part.map fun c => (c, false))

/-- The characters of the body of a set, with the hyphens of ranges marked. -/
def setChars (body : List Char) : List SetChar :=
  if body.contains '-' then
    let skip := if body.head? = some '!' then 2 else 1
    markedChars ((closeChunks (chunks skip [] body)).foldr joinChunk [])
  else body.map fun c => (c, false)

/-- The ranges that marked characters stand for; a single character is a range of its own. -/
def setRanges : List SetChar → List (Char × Char)
  | (low, _) :: (_, true) :: (high, _) :: rest => (low, high) :: setRanges rest
  | (c, _) :: rest => (c, c) :: setRanges rest
  | [] => []

/-- The set with a body. -/
def setPart (body : List Char) : GlobPart :=
  match setChars body with
  | ('!', _) :: chars => .set true (setRanges chars)
  | chars => .set false (setRanges chars)

/-- The number of characters at the front of a set that cannot close it: an exclamation mark and a
closing bracket right behind the opening one. -/
def setFront (s : List Char) : Nat :=
  let mark := if s.head? = some '!' then 1 else 0
  if (s.drop mark).head? = some ']' then mark + 1 else mark

/-- The body of a set after its opening bracket, and what follows the closing bracket. -/
def setBody? (s : List Char) : Option (List Char × List Char) :=
  match (s.drop (setFront s)).dropWhile (· != ']') with
  | [] => none
  | _ :: rest =>
    some (s.take (setFront s) ++ (s.drop (setFront s)).takeWhile (· != ']'), rest)

/-- What follows a set is shorter than the text it was read from. -/
theorem setBody?_length {s body rest : List Char} (found : setBody? s = some (body, rest)) :
    rest.length < s.length := by
  simp only [setBody?] at found
  split at found
  · contradiction
  · next dropped =>
    simp only [Option.some.injEq, Prod.mk.injEq] at found
    obtain ⟨_, rfl⟩ := found
    have shorter := (List.dropWhile_suffix (· != ']') (l := s.drop (setFront s))).length_le
    rw [dropped] at shorter
    simp only [List.length_cons, List.length_drop] at shorter
    omega

/-- Read a glob. -/
def parse : List Char → Glob
  | [] => []
  | c :: rest =>
    if c = '*' then .anything :: parse rest
    else if c = '?' then .anyChar :: parse rest
    else if c = '[' then
      match found : setBody? rest with
      | none => .char c :: parse rest
      | some (body, after) =>
        have := setBody?_length found
        setPart body :: parse after
    else .char c :: parse rest
termination_by s => s.length

/-- Whether a part stands for a single character. -/
def accepts (c : Char) : GlobPart → Bool
  | .anything => false
  | .anyChar => true
  | .char own => own == c
  | .set negated ranges => (ranges.any fun range => range.1 ≤ c && c ≤ range.2) != negated

/-- The ends of a text, the longest first. -/
def ends : List Char → List (List Char)
  | [] => [[]]
  | c :: rest => (c :: rest) :: ends rest

/-- The rests that a part leaves, given those before it, longest first. -/
def advance (rests : List (List Char)) : GlobPart → List (List Char)
  | .anything => (rests.head?.map ends).getD []
  | part => rests.filterMap fun rest => match rest with
    | [] => none
    | c :: after => if accepts c part then some after else none

/-- Whether a glob matches a whole text. -/
def isMatch (glob : Glob) (text : String) : Bool :=
  (glob.foldl advance [text.toList]).any (·.isEmpty)

end Glob

end SourceLens
