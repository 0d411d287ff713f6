import SourceLens.Pattern.Parser
import SourceLens.Pattern.Search

/-!
# Patterns

Regular expressions with groups, references to them, conditions on the text around a place, and
greedy, lazy and possessive repetition. A pattern is compiled once and then searched in texts.
-/
namespace SourceLens

/-- A regular expression. -/
structure Pattern where
  /-- What has to match. -/
  root : Pattern.Node
  deriving DecidableEq, Repr

namespace Pattern

/-- Compile the text of a pattern. -/
def compile (source : String) (ignoreCase : Bool) : Except CompileError Pattern :=
  (Node.parse source.toList (if ignoreCase then [.ignoreCase] else [])).map Pattern.mk

/-- Whether the pattern matches somewhere in a text. -/
def occursIn (pattern : Pattern) (text : String) : Except Breakdown Bool :=
  pattern.root.occurs text.toList

/-- Whether the pattern is known to match somewhere in a text. -/
def isFoundIn (pattern : Pattern) (text : String) : Bool :=
  match pattern.occursIn text with
  | .ok found => found
  | .error _ => false

/-- All matches in a text, from left to right. -/
def occurrences (pattern : Pattern) (text : String) : Except Breakdown (List Occurrence) :=
  pattern.root.occurrences text.toList

end Pattern

end SourceLens
