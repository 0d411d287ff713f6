import SourceLens.Text.Utf8

/-!
# Syntax trees

A syntax tree covers a source text: every node has a kind, the bytes it covers and the rows and
byte columns where it starts and stops, and perhaps a field, its role among its siblings. Named
nodes stand for constructs, the others for the tokens between them. Trees come from outside as
flat lists of nodes in document order, each with the index of its parent (`Tree.ofFlat?`).
-/
namespace SourceLens

/-- A position in a text: a row and a byte column, both from zero. -/
structure Point where
  /-- The number of line feeds before the position. -/
  row : Nat
  /-- The number of bytes between the last line feed and the position. -/
  column : Nat
  deriving Repr, DecidableEq

/-- What a syntax tree says about one node. -/
structure NodeInfo where
  /-- The kind of construct, or the token itself. -/
  kind : String
  /-- The role that the node has in its parent. -/
  field : Option String
  /-- Whether the node stands for a construct of the grammar. -/
  named : Bool
  /-- Whether the node was put in where the text lacks it. -/
  missing : Bool
  /-- Whether something is broken in or below the node. -/
  broken : Bool
  /-- The number of bytes before the node. -/
  startByte : Nat
  /-- The number of bytes before its end. -/
  endByte : Nat
  /-- Where the node starts. -/
  start : Point
  /-- Where the node stops. -/
  stop : Point

/-- A syntax tree: a node, the bytes it covers and its children in order. -/
inductive Tree where
  /-- A node over its children. -/
  | node (info : NodeInfo) (bytes : ByteArray) (children : List Tree)

namespace Tree

/-- What is known about the topmost node. -/
def info : Tree → NodeInfo
  | node info _ _ => info

/-- The bytes that the tree covers. -/
def bytes : Tree → ByteArray
  | node _ bytes _ => bytes

/-- The trees below the topmost node. -/
def children : Tree → List Tree
  | node _ _ children => children

/-- The kind of the topmost node. -/
def kind (tree : Tree) : String := tree.info.kind

/-- Whether the topmost node stands for a construct. -/
def named (tree : Tree) : Bool := tree.info.named

/-- The text that the tree covers, or the fault that keeps its bytes from being text. -/
def text (tree : Tree) : Except Text.Utf8.Fault String := Text.Utf8.decode tree.bytes

/-- The number of the first line, from one. -/
def startLine (tree : Tree) : Int := tree.info.start.row + 1

/-- The number of the last line, from one. -/
def endLine (tree : Tree) : Int := tree.info.stop.row + 1

/-- Whether a child has the given field. -/
def hasField (name : String) (tree : Tree) : Bool := tree.info.field == some name

/-- The first child with the given field. -/
def child? (tree : Tree) (field : String) : Option Tree := tree.children.find? (hasField field)

/-- Whether a child has one of the kinds. -/
def hasChild (tree : Tree) (kinds : List String) : Bool :=
  tree.children.any fun child => kinds.contains child.kind

mutual

/-- The number of nodes of a tree. -/
def size : Tree → Nat
  | node _ _ children => sizes children + 1

/-- The number of nodes of several trees. -/
def sizes : List Tree → Nat
  | [] => 0
  | tree :: trees => size tree + sizes trees

end

/-- The nodes of two lists together. -/
theorem sizes_append (first second : List Tree) :
    sizes (first ++ second) = sizes first + sizes second := by
  induction first with
  | nil => simp [sizes]
  | cons tree trees ih => simp [sizes, ih, Nat.add_assoc]

/-- A selection of trees has no more nodes. -/
theorem sizes_filter_le (keep : Tree → Bool) (trees : List Tree) :
    sizes (trees.filter keep) ≤ sizes trees := by
  induction trees with
  | nil => simp [sizes]
  | cons tree trees ih =>
    simp only [List.filter_cons]
    split <;> simp only [sizes] <;> omega

/-- A tree has one node more than its children. -/
theorem size_eq (tree : Tree) : tree.size = sizes tree.children + 1 := by
  cases tree
  simp [size, children]

mutual

/-- The trees at and below a node: the node first, then those of each child in order. -/
def preorder : Tree → List Tree
  | node info bytes children => node info bytes children :: preorders children

/-- The listings of several trees in order. -/
def preorders : List Tree → List Tree
  | [] => []
  | tree :: trees => preorder tree ++ preorders trees

end

/-- The listing of a tree is the tree and then the listings of its children. -/
theorem preorder_eq (tree : Tree) : tree.preorder = tree :: preorders tree.children := by
  cases tree
  rfl

/-- The listings of two lists of trees one after the other. -/
theorem preorders_append (first second : List Tree) :
    preorders (first ++ second) = preorders first ++ preorders second := by
  induction first with
  | nil => rfl
  | cons tree trees ih => simp [preorders, ih]

/-- A node of a flat listing: what is known about it and the index of its parent. -/
structure FlatNode where
  /-- The index of the parent, none for the root. -/
  parent : Option Nat
  /-- What is known about the node. -/
  info : NodeInfo

/-- A tree that waits for its parent: the index of the parent and the tree. -/
abbrev Pending : Type := Option Nat × Tree

/-- Put a node with the given index in its place: it takes the waiting trees that name it as their
parent, in order, and waits in front of the others. -/
def adopt (source : ByteArray) (index : Nat) (flat : FlatNode) (pending : List Pending) :
    List Pending :=
  let (own, others) := pending.partition fun waiting => waiting.1 == some index
  let bytes := source.extract flat.info.startByte flat.info.endByte
  (flat.parent, node flat.info bytes (own.map (·.2))) :: others

/-- The trees that wait for a parent outside a listing whose first node has the given index. -/
def assemble (source : ByteArray) : Nat → List FlatNode → List Pending
  | _, [] => []
  | index, flat :: rest => adopt source index flat (assemble source (index + 1) rest)

/-- The tree of a flat listing in document order over a source: the children of a node are the
nodes that name it as parent, in the order of the listing. -/
def ofFlat? (source : ByteArray) (nodes : List FlatNode) : Option Tree :=
  (assemble source 0 nodes).head?.map (·.2)

end Tree

end SourceLens
