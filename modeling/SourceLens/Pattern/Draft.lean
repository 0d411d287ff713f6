import SourceLens.Pattern.Choice
import SourceLens.Pattern.Flag

/-!
# Patterns that are being read

The groups that are open at a place form a stack of frames. Every frame holds the alternatives and
the pieces read so far and the flags in force; a draft adds what is known about all groups, so that
references to them can be checked.
-/
namespace SourceLens.Pattern

/-- What was opened and is closed by a parenthesis. -/
inductive Opening where
  /-- The whole pattern, which no parenthesis closes. -/
  | whole
  /-- A group that only holds its parts together. -/
  | plain
  /-- A group with flags of its own. -/
  | flagged
  /-- A group whose text is kept under a number. -/
  | numbered (index : Nat)
  /-- A part that is matched in its first way only. -/
  | atomic
  /-- A condition on the text behind the place. -/
  | ahead (negated : Bool)
  /-- A condition on the text before the place; `outer` is the bound on references outside of it. -/
  | behind (negated : Bool) (outer : Option Nat)
  /-- A choice that depends on a group. -/
  | given (index : Nat)
  deriving DecidableEq, Repr

/-- What stands in a row as long as the row is read. -/
inductive Piece where
  /-- A part. -/
  | part (node : Node)
  /-- The parts of a plain group. They join the row at its end, and are repeated together. -/
  | grouped (nodes : List Node)
  deriving Repr

namespace Piece

/-- The parts of a piece. -/
def parts : Piece → List Node
  | .part node => [node]
  | .grouped nodes => nodes

end Piece

/-- A group that is being read. -/
structure Frame where
  /-- What was opened. -/
  opening : Opening
  /-- The position of its parenthesis. -/
  start : Nat
  /-- The flags in force. -/
  flags : List Flag
  /-- The alternatives read, the last one first. -/
  branches : List (List Node) := []
  /-- The pieces of the current alternative, the last one first. -/
  pieces : List Piece := []
  deriving Repr

namespace Frame

/-- The parts of the current alternative. -/
def current (frame : Frame) : List Node := frame.pieces.reverse.flatMap Piece.parts

/-- All alternatives in order. -/
def alternatives (frame : Frame) : List (List Node) := (frame.current :: frame.branches).reverse

/-- What the frame holds as the parts of a row. -/
def parts (frame : Frame) : List Node :=
  Node.choice (CharSet.ofFlags frame.flags false) frame.alternatives

/-- What the frame holds as one part. -/
def body (frame : Frame) : Node := .row frame.parts

/-- The frame with one piece more. -/
def push (frame : Frame) (piece : Piece) : Frame := { frame with pieces := piece :: frame.pieces }

/-- The frame at the start of its next alternative. -/
def split (frame : Frame) : Frame :=
  { frame with branches := frame.current :: frame.branches, pieces := [] }

end Frame

/-- A pattern that is being read. -/
structure Draft where
  /-- The innermost open group. -/
  top : Frame
  /-- The open groups around it, from the inside out. -/
  outer : List Frame := []
  /-- The widths of the numbered groups in order, none while a group is open. -/
  widths : List (Option Width) := []
  /-- The names of groups. -/
  names : List (String × Nat) := []
  /-- The number of groups before the outermost look-behind that is open. -/
  bound : Option Nat := none
  /-- The groups that conditions mention by number, with the first position of each. -/
  conditions : List (Nat × Nat) := []
  deriving Repr

namespace Draft

/-- The draft with one piece more. -/
def push (draft : Draft) (piece : Piece) : Draft := { draft with top := draft.top.push piece }

/-- The flags in force. -/
def flags (draft : Draft) : List Flag := draft.top.flags

/-- Whether the flags of the whole pattern contradict each other. -/
def lettersClash (draft : Draft) : Bool :=
  let flags := ((draft.top :: draft.outer).getLast?.map Frame.flags).getD []
  flags.contains .ascii && flags.contains .unicode

/-- The draft with a new innermost group. -/
def opened (draft : Draft) (opening : Opening) (start : Nat) (flags : List Flag) : Draft :=
  { draft with top := { opening, start, flags }, outer := draft.top :: draft.outer }

/-- The width of a group that is closed. -/
def closedWidth? (draft : Draft) (index : Nat) : Option Width :=
  if index = 0 then none else (draft.widths[index - 1]?).join

/-- The piece of a closed frame, and what closing it changes besides. -/
def conclude (draft : Draft) (frame : Frame) : Draft × Piece :=
  let body := frame.body
  match frame.opening with
  | .whole | .plain => (draft, .grouped frame.parts)
  | .flagged => (draft, .part (.group none body))
  | .numbered index =>
    ({ draft with widths := draft.widths.set (index - 1) (some body.width) },
      .part (.group (some index) body))
  | .atomic => (draft, .part (.atomic body))
  | .ahead negated => (draft, .part (.look none negated body))
  | .behind negated outer =>
    ({ draft with bound := outer }, .part (.look (some body.width.least) negated body))
  | .given index =>
    match frame.alternatives with
    | [yes, no] => (draft, .part (.given index (.row yes) (.row no)))
    | _ => (draft, .part (.given index body .empty))

end Draft

end SourceLens.Pattern
