import Mathlib.Logic.Relation
import SourceLens.Tree.Site

/-!
# Flat listings of trees

A flat listing is in preorder when every node but the first hangs at a node before it and the nodes
below a node follow it without a gap (`Tree.InPreorder`). The tree of such a listing is put together
from the back: when a node takes its place, the trees that wait for it are those in front, because a
tree that hangs higher up comes behind all that hang deeper. So nothing changes its order
(`Tree.flat_of_ofFlat?`): the listing of the tree, its nodes numbered as they come, is the listing
that it was given by.
-/
namespace SourceLens.Tree

/-! ## Numbered listings -/

mutual

/-- The listing of a tree whose topmost node has the given parent and index: the node, and then the
listings of its children, numbered as they come. -/
def flat (parent : Option Nat) (index : Nat) : Tree → List FlatNode
  | node info _ children => ⟨parent, info⟩ :: flats (some index) (index + 1) children

/-- The listings of several trees with one parent, the first of which has the given index. -/
def flats (parent : Option Nat) (index : Nat) : List Tree → List FlatNode
  | [] => []
  | tree :: trees => flat parent index tree ++ flats parent (index + tree.size) trees

end

mutual

/-- A tree has as many nodes as are listed. -/
theorem length_preorder (tree : Tree) : tree.preorder.length = tree.size := by
  cases tree with
  | node info bytes children =>
    rw [preorder, List.length_cons, length_preorders children, size]

/-- Several trees have as many nodes as are listed. -/
theorem length_preorders (trees : List Tree) : (preorders trees).length = sizes trees := by
  cases trees with
  | nil => rfl
  | cons first rest =>
    rw [preorders, List.length_append, length_preorder first, length_preorders rest, sizes]

end

mutual

/-- The listing of a tree says of each node what the tree does. -/
theorem map_info_flat (parent : Option Nat) (index : Nat) (tree : Tree) :
    (flat parent index tree).map (·.info) = tree.preorder.map info := by
  cases tree with
  | node info bytes children =>
    rw [flat, preorder, List.map_cons, List.map_cons,
      map_info_flats (some index) (index + 1) children]
    rfl

/-- The listings of several trees say of each node what the trees do. -/
theorem map_info_flats (parent : Option Nat) (index : Nat) (trees : List Tree) :
    (flats parent index trees).map (·.info) = (preorders trees).map info := by
  cases trees with
  | nil => rfl
  | cons first rest =>
    rw [flats, preorders, List.map_append, List.map_append, map_info_flat parent index first,
      map_info_flats parent (index + first.size) rest]

end

/-- The listing of a tree has as many nodes as the tree. -/
theorem length_flat (parent : Option Nat) (index : Nat) (tree : Tree) :
    (flat parent index tree).length = tree.size := by
  rw [← length_preorder tree, ← List.length_map (·.info), map_info_flat, List.length_map]

mutual

/-- In the listing of a tree all nodes but the topmost hang at nodes before them in it. -/
theorem parent_flat (parent : Option Nat) (index : Nat) (tree : Tree) {position : Nat}
    {node : FlatNode} (here : (flat parent index tree)[position]? = some node) :
    (position = 0 ∧ node.parent = parent) ∨
      ∃ above < index + position, node.parent = some above := by
  cases tree with
  | node info bytes children =>
    rw [flat] at here
    cases position with
    | zero =>
      obtain rfl := Option.some.inj here
      exact .inl ⟨rfl, rfl⟩
    | succ position =>
      obtain ⟨above, high, hangs⟩ :=
        parent_flats index (index + 1) children (Nat.lt_succ_self index) here
      exact .inr ⟨above, by omega, hangs⟩

/-- In the listings of trees below a node before them all nodes hang at it or at nodes before them
in the listings. -/
theorem parent_flats (parent index : Nat) (trees : List Tree) (before : parent < index)
    {position : Nat} {node : FlatNode}
    (here : (flats (some parent) index trees)[position]? = some node) :
    ∃ above < index + position, node.parent = some above := by
  cases trees with
  | nil => cases here
  | cons first rest =>
    rw [flats] at here
    by_cases inside : position < first.size
    · rw [List.getElem?_append_left (by rwa [length_flat])] at here
      rcases parent_flat (some parent) index first here with ⟨_, hangs⟩ | ⟨above, high, hangs⟩
      · exact ⟨parent, by omega, hangs⟩
      · exact ⟨above, high, hangs⟩
    · rw [List.getElem?_append_right (by rw [length_flat]; omega), length_flat] at here
      obtain ⟨above, high, hangs⟩ :=
        parent_flats parent (index + first.size) rest (by omega) here
      exact ⟨above, by omega, hangs⟩

end

/-- The listings of trees that wait for their parents, the first of which has the given index. -/
def waitingFlat (index : Nat) : List Pending → List FlatNode
  | [] => []
  | (parent, tree) :: rest => flat parent index tree ++ waitingFlat (index + tree.size) rest

/-- The listings of two lists of waiting trees one after the other. -/
theorem waitingFlat_append (index : Nat) (first second : List Pending) :
    waitingFlat index (first ++ second) =
      waitingFlat index first ++ waitingFlat (index + sizes (first.map (·.2))) second := by
  induction first generalizing index with
  | nil => rfl
  | cons waiting rest ih =>
    obtain ⟨parent, tree⟩ := waiting
    simp only [List.cons_append, waitingFlat, ih, List.append_assoc, List.map_cons, sizes,
      Nat.add_assoc]

/-- The listings of trees that wait for one parent. -/
theorem waitingFlat_eq_flats {parent : Option Nat} (index : Nat) {pending : List Pending}
    (common : ∀ waiting ∈ pending, waiting.1 = parent) :
    waitingFlat index pending = flats parent index (pending.map (·.2)) := by
  induction pending generalizing index with
  | nil => rfl
  | cons waiting rest ih =>
    have here : waiting.1 = parent := common waiting (by simp)
    have later := ih (index + waiting.2.size) fun other inside => common other (by simp [inside])
    rw [waitingFlat, here, later]
    rfl

/-! ## Listings in preorder -/

/-- In a listing, a node hangs directly at another; both are given by their indices. -/
def HangsAt (nodes : List FlatNode) (parent child : Nat) : Prop :=
  nodes[child]?.bind FlatNode.parent = some parent

/-- In a listing, a node is below another: it hangs at it, or at a node below it. -/
def Below (nodes : List FlatNode) : Nat → Nat → Prop := Relation.TransGen (HangsAt nodes)

/-- A flat listing is in preorder. -/
structure InPreorder (nodes : List FlatNode) : Prop where
  /-- There is a first node, and it has no parent. -/
  root : ∃ first rest, nodes = first :: rest ∧ first.parent = none
  /-- Every other node hangs at a node before it. -/
  behind : ∀ index node, nodes[index]? = some node → 0 < index →
    ∃ parent < index, node.parent = some parent
  /-- Between a node and one below it there are only nodes below it. -/
  contiguous : ∀ top between below, Below nodes top below → top < between → between < below →
    Below nodes top between

namespace InPreorder

variable {nodes : List FlatNode} {index later parent parent' : Nat} {node node' : FlatNode}

/-- A node is behind the node that it hangs at. -/
theorem lt_of_hangsAt (ordered : InPreorder nodes) (hangs : HangsAt nodes parent index) :
    parent < index := by
  obtain ⟨node, here, above⟩ := Option.bind_eq_some_iff.mp hangs
  by_cases first : index = 0
  · obtain ⟨root, rest, rfl, none⟩ := ordered.root
    subst first
    obtain rfl := Option.some.inj here
    cases none.symm.trans above
  · obtain ⟨other, before, above'⟩ := ordered.behind index node here (by omega)
    obtain rfl := Option.some.inj (above.symm.trans above')
    exact before

/-- A node is behind every node that it is below. -/
theorem lt_of_below (ordered : InPreorder nodes) (below : Below nodes parent index) :
    parent < index := by
  induction below with
  | single hangs => exact ordered.lt_of_hangsAt hangs
  | tail _ hangs ih => exact Nat.lt_trans ih (ordered.lt_of_hangsAt hangs)

/-- A later node that hangs before a node hangs no deeper than the node does. -/
theorem parent_le (ordered : InPreorder nodes) (here : nodes[index]? = some node)
    (above : node.parent = some parent) (there : nodes[later]? = some node')
    (above' : node'.parent = some parent') (between : index < later) (before : parent' < index) :
    parent' ≤ parent := by
  have hangs : HangsAt nodes parent' later := by rw [HangsAt, there]; exact above'
  have below : Below nodes parent' index :=
    ordered.contiguous parent' index later (.single hangs) before between
  -- the last step of the way down to the node is the step from its own parent
  have same : ∀ {other}, HangsAt nodes other index → other = parent := by
    intro other step
    rw [HangsAt, here] at step
    exact Option.some.inj (step.symm.trans above)
  cases below with
  | single step => exact Nat.le_of_eq (same step)
  | tail way step =>
    obtain rfl := same step
    exact Nat.le_of_lt (ordered.lt_of_below way)

end InPreorder

/-! ## Putting a tree together -/

/-- What waits once the nodes of a listing from an index on have taken their places. -/
structure Settled (nodes : List FlatNode) (index : Nat) (pending : List Pending) : Prop where
  /-- The listings of the waiting trees are the nodes from the index on. -/
  listed : waitingFlat index pending = nodes.drop index
  /-- Every waiting tree waits for the parent of one of these nodes. -/
  known : ∀ waiting ∈ pending, ∃ later node, index ≤ later ∧ nodes[later]? = some node ∧
    node.parent = waiting.1
  /-- No tree waits for a parent at or behind the index. -/
  outside : ∀ waiting ∈ pending, ∀ parent, waiting.1 = some parent → parent < index
  /-- A tree that waits behind another waits for no later parent. -/
  falling : pending.Pairwise fun first second =>
    ∀ parent', second.1 = some parent' → ∃ parent, first.1 = some parent ∧ parent' ≤ parent

/-- A list in which every item behind one without a property lacks it too is the items with the
property and then the others. -/
theorem filter_append_filter {α : Type} {keep : α → Bool} {items : List α}
    (front : items.Pairwise fun first second => keep second = true → keep first = true) :
    items.filter keep ++ items.filter (fun item => !keep item) = items := by
  induction items with
  | nil => rfl
  | cons item rest ih =>
    obtain ⟨here, later⟩ := List.pairwise_cons.mp front
    cases kept : keep item with
    | true => simp [kept, ih later]
    | false =>
      have none : ∀ other ∈ rest, keep other = false := by
        intro other inside
        apply Bool.eq_false_iff.mpr
        intro found
        cases kept.symm.trans (here other inside found)
      have nothing : rest.filter keep = [] := by
        simpa [List.filter_eq_nil_iff] using none
      have all : rest.filter (fun item => !keep item) = rest := by
        simpa [List.filter_eq_self] using none
      simp [kept, nothing, all]

/-- The waiting trees whose parent has an index. -/
def own (index : Nat) (pending : List Pending) : List Pending :=
  pending.filter fun waiting => waiting.1 == some index

/-- The waiting trees whose parent does not have the index. -/
def others (index : Nat) (pending : List Pending) : List Pending :=
  pending.filter fun waiting => !(waiting.1 == some index)

/-- What is among the own trees of a node waits for it. -/
theorem parent_of_mem_own {index : Nat} {pending : List Pending} {waiting : Pending}
    (inside : waiting ∈ own index pending) : waiting.1 = some index := by
  simpa using (List.mem_filter.mp inside).2

/-- The other trees are those that do not wait for the node. -/
theorem mem_others {index : Nat} {pending : List Pending} {waiting : Pending} :
    waiting ∈ others index pending ↔ waiting ∈ pending ∧ waiting.1 ≠ some index := by
  rw [others, List.mem_filter]
  simp

/-- A node that takes its place waits with its own trees below it, in front of the others. -/
theorem adopt_eq (source : ByteArray) (index : Nat) (node : FlatNode) (pending : List Pending) :
    adopt source index node pending =
      (node.parent, .node node.info (source.extract node.info.startByte node.info.endByte)
        ((own index pending).map (·.2))) :: others index pending := by
  rw [adopt, List.partition_eq_filter_filter]
  rfl

namespace Settled

variable {nodes : List FlatNode} {index : Nat} {pending : List Pending} {waiting : Pending}
  {node : FlatNode}

/-- The own trees of the node before the index are in front of the others. -/
theorem own_append_others (settled : Settled nodes (index + 1) pending) :
    own index pending ++ others index pending = pending := by
  apply filter_append_filter
  apply settled.falling.imp_of_mem
  intro first second inside _ falling waits
  obtain ⟨parent, above, high⟩ := falling index (by simpa using waits)
  have low := settled.outside first inside parent above
  have same : parent = index := by omega
  rw [above, same, beq_self_eq_true]

/-- What still waits once a node has its own trees waits for a parent before the node, though it
stands behind it. -/
theorem lt_of_mem_others (settled : Settled nodes (index + 1) pending)
    (inside : waiting ∈ others index pending) {parent : Nat} (above : waiting.1 = some parent) :
    parent < index := by
  obtain ⟨member, other⟩ := mem_others.mp inside
  have low := settled.outside waiting member parent above
  have differ : parent ≠ index := by
    rintro rfl
    exact other above
  omega

/-- The listing of a node with its own trees is followed by those of the others. -/
theorem listed_adopt (source : ByteArray) (here : nodes[index]? = some node)
    (settled : Settled nodes (index + 1) pending) :
    waitingFlat index (adopt source index node pending) = nodes.drop index := by
  obtain ⟨inside, same⟩ := List.getElem?_eq_some_iff.mp here
  have children : flats (some index) (index + 1) ((own index pending).map (·.2)) =
      waitingFlat (index + 1) (own index pending) :=
    (waitingFlat_eq_flats (index + 1) fun _ => parent_of_mem_own).symm
  have behind : waitingFlat (index + 1) (own index pending ++ others index pending) =
      nodes.drop (index + 1) := by
    rw [settled.own_append_others, settled.listed]
  rw [adopt_eq, waitingFlat, flat, size, ← Nat.add_assoc, Nat.add_right_comm, List.cons_append,
    children, ← waitingFlat_append, behind, List.drop_eq_getElem_cons inside, same]

/-- A node hangs no higher than what still waits behind it. -/
theorem falling_adopt (ordered : InPreorder nodes) (here : nodes[index]? = some node)
    (settled : Settled nodes (index + 1) pending) (inside : waiting ∈ others index pending)
    {parent' : Nat} (above' : waiting.1 = some parent') :
    ∃ parent, node.parent = some parent ∧ parent' ≤ parent := by
  have before := settled.lt_of_mem_others inside above'
  obtain ⟨later, node', behind, there, same⟩ := settled.known waiting (mem_others.mp inside).1
  obtain ⟨parent, _, above⟩ := ordered.behind index node here (by omega)
  have low : parent' ≤ parent :=
    ordered.parent_le here above there (same.trans above') (by omega) before
  exact ⟨parent, above, low⟩

/-- A node takes its place. -/
theorem adopt (ordered : InPreorder nodes) (source : ByteArray)
    (here : nodes[index]? = some node) (settled : Settled nodes (index + 1) pending) :
    Settled nodes index (adopt source index node pending) := by
  have listed := settled.listed_adopt source here
  rw [adopt_eq] at listed ⊢
  constructor
  · exact listed
  · intro waiting inside
    rcases List.mem_cons.mp inside with rfl | later
    · exact ⟨index, node, Nat.le_refl index, here, rfl⟩
    · obtain ⟨position, node', behind, there, above⟩ :=
        settled.known waiting (mem_others.mp later).1
      exact ⟨position, node', by omega, there, above⟩
  · intro waiting inside parent above
    rcases List.mem_cons.mp inside with rfl | later
    · apply ordered.lt_of_hangsAt
      rw [HangsAt, here]
      exact above
    · exact settled.lt_of_mem_others later above
  · apply List.pairwise_cons.mpr
    constructor
    · intro waiting inside parent' above'
      exact settled.falling_adopt ordered here inside above'
    · exact settled.falling.sublist List.filter_sublist

end Settled

/-- The nodes of a listing in preorder settle from the back. -/
theorem settled_assemble {nodes : List FlatNode} (ordered : InPreorder nodes) (source : ByteArray)
    (front rest : List FlatNode) (parts : nodes = front ++ rest) :
    Settled nodes front.length (assemble source front.length rest) := by
  induction rest generalizing front with
  | nil =>
    constructor
    · simp [assemble, waitingFlat, parts]
    · simp [assemble]
    · simp [assemble]
    · exact List.Pairwise.nil
  | cons node rest ih =>
    have here : nodes[front.length]? = some node := by simp [parts]
    have later := ih (front ++ [node]) (by simp [parts])
    rw [List.length_append, List.length_singleton] at later
    exact later.adopt ordered source here

/-- A listing in preorder is that of a tree, and it is the listing of this tree. -/
theorem flat_of_ofFlat? {nodes : List FlatNode} (ordered : InPreorder nodes)
    (source : ByteArray) : ∃ tree, ofFlat? source nodes = some tree ∧ flat none 0 tree = nodes := by
  obtain ⟨first, rest, rfl, top⟩ := ordered.root
  have later : Settled (first :: rest) 1 (assemble source 1 rest) :=
    settled_assemble ordered source [first] rest rfl
  have settled := later.adopt ordered source rfl
  -- nothing is left to wait for anything but the first node
  have all : ∀ waiting ∈ assemble source 1 rest, waiting.1 = some 0 := by
    intro waiting inside
    obtain ⟨position, node, behind, there, same⟩ := later.known waiting inside
    obtain ⟨parent, _, above⟩ := ordered.behind position node there (by omega)
    have low := later.outside waiting inside parent (same.symm.trans above)
    have first : parent = 0 := by omega
    rw [← same, above, first]
  have none : others 0 (assemble source 1 rest) = [] := by
    apply List.eq_nil_iff_forall_not_mem.mpr
    intro waiting inside
    obtain ⟨member, other⟩ := mem_others.mp inside
    exact other (all waiting member)
  have listed := settled.listed
  rw [adopt_eq, none, top, waitingFlat, waitingFlat, List.append_nil] at listed
  refine ⟨_, ?_, listed⟩
  rw [ofFlat?, assemble, adopt_eq]
  rfl

end SourceLens.Tree
