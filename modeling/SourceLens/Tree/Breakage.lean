import SourceLens.ErrorKind
import SourceLens.Text.Blank
import SourceLens.Text.Case
import SourceLens.Text.Lines
import SourceLens.Text.Occurs
import SourceLens.Tree

/-!
# Broken trees

A grammar gives a tree for every text; where the text does not follow the grammar the tree holds
error nodes and missing tokens. The first of them in document order is described in words, and the
words decide the kind of the failure. The search goes only below nodes that are marked as broken.
-/
namespace SourceLens

/-- A failure to parse: what is wrong, in words, and its kind. -/
structure ParseFailure where
  /-- What is wrong. -/
  message : String
  /-- The kind of failure. -/
  kind : ErrorKind
  deriving Repr, DecidableEq

namespace ParseFailure

/-- The kind of failure that a message speaks of, whatever the case of its letters. -/
def classify (message : String) : ErrorKind :=
  let lowered := Text.lower message
  if Text.holds lowered "unexpected token" then .unsupportedSyntax
  else if Text.holds lowered "eof" || Text.holds lowered "unterminated" then .unclosedConstruct
  else .unknownParse

/-- The failure that a message speaks of. -/
def ofMessage (message : String) : ParseFailure := ⟨message, classify message⟩

/-- The advice that goes with the failure. -/
def hint (failure : ParseFailure) : String := failure.kind.parseHint

end ParseFailure

namespace Tree

/-- Whether the topmost node itself is at fault: an error or a missing token. -/
def atFault (tree : Tree) : Bool := tree.info.missing || tree.kind == "ERROR"

/-- The children below which something is broken. -/
def suspects (tree : Tree) : List Tree :=
  tree.children.filter fun child => child.info.broken || child.info.missing

/-- The first tree at fault at or below those of a stack, which only suspects are put on. -/
def findFault? : List Tree → Option Tree
  | [] => none
  | tree :: stack => if tree.atFault then some tree else findFault? (tree.suspects ++ stack)
termination_by stack => sizes stack
decreasing_by
  have fewer := sizes_filter_le (fun child => child.info.broken || child.info.missing) tree.children
  simp only [suspects, sizes_append, sizes, size_eq tree]
  omega

/-- The first node at fault that can be reached through suspects. -/
def firstFault? (tree : Tree) : Option Tree := findFault? [tree]

/-- The first forty characters of the first line of a broken piece of text. -/
def snippet (tree : Tree) : String :=
  let content := Text.trim (Text.Utf8.lenient tree.bytes.toList)
  String.ofList (((Text.splitLines content).headD []).take 40)

/-- What is wrong with a node at fault in a source of the given length. -/
def describeFault (sourceLength : Int) (tree : Tree) : String :=
  let place := s!"at line {tree.startLine}, column {tree.info.start.column}"
  if tree.info.missing then
    s!"Unterminated construct: missing '{tree.kind}' " ++ place
  else if sourceLength ≤ tree.info.endByte ∧ tree.info.startByte < tree.info.endByte then
    s!"Unterminated construct starting " ++ place ++ " runs to eof"
  else s!"Unexpected token '{tree.snippet}' " ++ place

/-- What is wrong with a broken tree over a source of the given length. -/
def describeBreakage (tree : Tree) (sourceLength : Int) : String :=
  match tree.firstFault? with
  | none => "Syntax tree reported an error without an error node"
  | some fault => fault.describeFault sourceLength

end Tree

end SourceLens
