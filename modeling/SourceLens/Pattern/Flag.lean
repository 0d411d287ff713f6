import SourceLens.Pattern.Cursor
import SourceLens.Pattern.Node

/-!
# Flags of patterns

Flags are set for a whole pattern or for one of its groups. They decide which characters count as
the same and what the parts that are read under them mean.
-/
namespace SourceLens.Pattern

/-- A switch that changes what the parts of a pattern mean. -/
inductive Flag where
  /-- The case of letters is ignored. -/
  | ignoreCase
  /-- Lines begin and end inside the text. -/
  | multiline
  /-- The dot matches line feeds. -/
  | dotAll
  /-- Blanks and comments in the pattern are skipped. -/
  | verbose
  /-- Kinds of characters are those of ASCII. -/
  | ascii
  /-- Kinds of characters are those of all scripts. -/
  | unicode
  /-- Kinds of characters are those of a locale; never accepted. -/
  | locale
  /-- The whole pattern has no repetition. -/
  | template
  deriving DecidableEq, Repr

namespace Flag

/-- The flag with a letter. -/
def ofChar? : Char → Option Flag
  | 'i' => some ignoreCase
  | 'L' => some locale
  | 'm' => some multiline
  | 's' => some dotAll
  | 'x' => some verbose
  | 'a' => some ascii
  | 't' => some template
  | 'u' => some unicode
  | _ => none

/-- The flag with the letter of a token. -/
def ofToken? : Token → Option Flag
  | .plain c => ofChar? c
  | _ => none

/-- Whether a flag chooses the letters that count. -/
def isLetters (flag : Flag) : Bool := flag = ascii || flag = unicode || flag = locale

/-- Flags after some are turned on and others off; a new choice of letters replaces the old one. -/
def combine (flags added removed : List Flag) : List Flag :=
  let kept := if added.any isLetters then flags.filter fun flag => !flag.isLetters else flags
  (kept ++ added).filter fun flag => !removed.contains flag

end Flag

/-- Which characters count as the same under some flags. -/
def Folding.ofFlags (flags : List Flag) : Folding :=
  if flags.contains .ignoreCase then if flags.contains .ascii then .ascii else .full else .exact

/-- A set of characters under some flags. -/
def CharSet.ofFlags (flags : List Flag) (negated : Bool) (members : List Member) : CharSet :=
  .ofMembers (.ofFlags flags) (flags.contains .ascii) negated members

/-- A member of a set as a part under some flags. -/
def Member.node (flags : List Flag) (member : Member) : Node := .one (.ofFlags flags false [member])

end SourceLens.Pattern
