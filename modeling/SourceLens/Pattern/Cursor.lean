import SourceLens.Pattern.Fault

/-!
# Reading a pattern

A pattern is read one token at a time, with one token of look-ahead: a character, or a backslash
and the character behind it. A backslash that ends the pattern is refused as soon as it becomes
the next token, before any fault that only the token before it shows.
-/
namespace SourceLens.Pattern

/-- What is read at a time. -/
inductive Token where
  /-- A character other than the backslash. -/
  | plain (c : Char)
  /-- A character behind a backslash. -/
  | escaped (c : Char)
  /-- A backslash at the end. -/
  | dangling
  deriving DecidableEq, Repr

namespace Token

/-- The characters of a token. -/
def chars : Token → List Char
  | plain c => [c]
  | escaped c => ['\\', c]
  | dangling => ['\\']

/-- The token as text. -/
def text (token : Token) : String := String.ofList token.chars

/-- The number of characters of a token. -/
def size (token : Token) : Nat := token.chars.length

/-- The tokens of a character list. -/
def scan : List Char → List Token
  | [] => []
  | ['\\'] => [dangling]
  | '\\' :: c :: rest => escaped c :: scan rest
  | c :: rest => plain c :: scan rest

end Token

/-- A place in a pattern. -/
structure Cursor where
  /-- The tokens behind the place. -/
  rest : List Token
  /-- The number of characters before the place. -/
  position : Nat
  deriving DecidableEq, Repr

namespace Cursor

/-- The place behind the next token. -/
def next (cursor : Cursor) : Cursor :=
  match cursor.rest with
  | [] => cursor
  | token :: rest => ⟨rest, cursor.position + token.size⟩

/-- A place that the pattern can be read on from. -/
def check (cursor : Cursor) : Except CompileError Cursor :=
  match cursor.rest with
  | .dangling :: _ => .error (.invalid ⟨.danglingEscape, some cursor.position⟩)
  | _ => .ok cursor

/-- The first place of a pattern. -/
def start (pattern : List Char) : Except CompileError Cursor := check ⟨Token.scan pattern, 0⟩

end Cursor

/-- Reading from a place on. -/
abbrev Reader : Type → Type := StateT Cursor (Except CompileError)

namespace Reader

/-- The next token. -/
def peek : Reader (Option Token) := do return (← get).rest.head?

/-- The number of characters read. -/
def position : Reader Nat := do return (← get).position

/-- Pass over the next token. -/
def skip : Reader Unit := do set (← (← get).next.check)

/-- Read the next token. -/
def take : Reader (Option Token) := do
  let token ← peek
  skip
  return token

/-- Read a character if it is the next token. -/
def accept (c : Char) : Reader Bool := do
  if (← peek) = some (.plain c) then
    skip
    return true
  else return false

/-- Refuse the pattern for a fault so many characters back. -/
def refuse {α : Type} (fault : Fault) (back : Nat) : Reader α := do
  throw (.invalid ⟨fault, some ((← position) - back)⟩)

/-- Refuse the pattern for a fault at a position. -/
def refuseAt {α : Type} (fault : Fault) (position : Nat) : Reader α :=
  throw (.invalid ⟨fault, some position⟩)

/-- Break the reading off. -/
def breakOff {α : Type} (why : Breakdown) : Reader α := throw (.broken why)

/-- Read characters of a class, at most so many. -/
def takeWhile (test : Char → Bool) : Nat → Reader (List Char)
  | 0 => return []
  | count + 1 => do
    match ← peek with
    | some (.plain c) =>
      if test c then
        skip
        return c :: (← takeWhile test count)
      else return []
    | _ => return []

/-- Read all characters of a class. -/
def takeAll (test : Char → Bool) : Reader (List Char) := do takeWhile test (← get).rest.length

/-- Read the tokens up to a terminator, at most so many, after those already read. -/
def nameFrom (what : String) (terminator : Char) : Nat → List Char → Reader (List Char)
  | 0, name =>
    if name.isEmpty then refuse (.nameMissing what) 0
    else refuse (.nameUnterminated terminator) name.length
  | count + 1, name => do
    match ← take with
    | none => nameFrom what terminator count name
    | some token =>
      if token = .plain terminator then
        if name.isEmpty then refuse (.nameMissing what) 1 else return name
      else nameFrom what terminator count (name ++ token.chars)

/-- Read a name and the terminator behind it. -/
def name (what : String) (terminator : Char) : Reader String := do
  return String.ofList (← nameFrom what terminator ((← get).rest.length) [])

/-- Pass over the tokens up to a character and over the character, at most so many; the answer
says whether the character was found. -/
def skipPast (c : Char) : Nat → Reader Bool
  | 0 => return false
  | count + 1 => do
    match ← peek with
    | none => return false
    | some token =>
      skip
      if token = .plain c then return true else skipPast c count

/-- Pass over the tokens up to a character and over the character. -/
def skipThrough (c : Char) : Reader Bool := do skipPast c (← get).rest.length

end Reader

end SourceLens.Pattern
