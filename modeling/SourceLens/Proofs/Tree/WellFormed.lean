import SourceLens.Proofs.Tree.Decodable

/-!
# Well-formed trees

A tree fits a text of so many lines when the rows of its nodes make sense there: a node starts no
later than it ends and ends inside the text, its children lie within its rows, and siblings start
one after the other (`Tree.WellFormed`). The same holds at every site of the walk, together with
what the siblings before it say about its first row (`Site.wellFormed_of_mem_walk`).
-/
namespace SourceLens

namespace Tree

/-- The row in which a tree starts. -/
def startRow (tree : Tree) : Nat := tree.info.start.row

/-- The row in which a tree ends. -/
def endRow (tree : Tree) : Nat := tree.info.stop.row

/-- The rows of a node make sense in a text of so many lines. -/
structure RowsFit (lineCount : Nat) (node : Tree) : Prop where
  /-- The node starts no later than it ends. -/
  ordered : node.startRow ≤ node.endRow
  /-- It ends inside the text. -/
  inside : node.endRow < lineCount
  /-- Its children lie within its rows. -/
  nested : ∀ child ∈ node.children,
    node.startRow ≤ child.startRow ∧ child.endRow ≤ node.endRow
  /-- Its children start one after the other. -/
  siblings : node.children.Pairwise fun elder younger => elder.startRow ≤ younger.startRow

/-- Whether the rows of a node make sense can be checked. -/
instance (lineCount : Nat) (node : Tree) : Decidable (node.RowsFit lineCount) :=
  decidable_of_iff
    (node.startRow ≤ node.endRow ∧ node.endRow < lineCount ∧
      (∀ child ∈ node.children, node.startRow ≤ child.startRow ∧ child.endRow ≤ node.endRow) ∧
      node.children.Pairwise fun elder younger => elder.startRow ≤ younger.startRow)
    ⟨fun ⟨ordered, inside, nested, siblings⟩ => ⟨ordered, inside, nested, siblings⟩,
      fun ⟨ordered, inside, nested, siblings⟩ => ⟨ordered, inside, nested, siblings⟩⟩

/-- The rows of every node make sense in a text of so many lines. -/
def WellFormed (lineCount : Nat) (tree : Tree) : Prop :=
  ∀ node ∈ tree.preorder, node.RowsFit lineCount

/-- Whether a tree is well-formed can be checked. -/
instance (lineCount : Nat) (tree : Tree) : Decidable (tree.WellFormed lineCount) :=
  inferInstanceAs (Decidable (∀ node ∈ tree.preorder, node.RowsFit lineCount))

namespace WellFormed

variable {lineCount : Nat} {tree child : Tree}

/-- The rows of the topmost node make sense. -/
theorem rowsFit (fits : tree.WellFormed lineCount) : tree.RowsFit lineCount :=
  fits tree (mem_preorder.mpr (.inl rfl))

/-- The children of a well-formed tree are well-formed. -/
theorem of_mem_children (fits : tree.WellFormed lineCount) (inside : child ∈ tree.children) :
    child.WellFormed lineCount := by
  intro node below
  exact fits node (mem_preorder.mpr (.inr ⟨child, inside, below⟩))

end WellFormed

end Tree

namespace Site

/-- The trees at and above a site are well-formed, and no sibling before a site starts after it. -/
def WellFormed (lineCount : Nat) : Site → Prop
  | root tree => tree.WellFormed lineCount
  | child parent elders tree =>
    parent.WellFormed lineCount ∧ (∀ elder ∈ elders, elder.startRow ≤ tree.startRow) ∧
      tree.WellFormed lineCount

namespace WellFormed

variable {lineCount : Nat} {site below parent : Site}

/-- The tree at a well-formed site is well-formed. -/
theorem tree (fits : site.WellFormed lineCount) : site.tree.WellFormed lineCount := by
  cases site with
  | root tree => exact fits
  | child parent elders tree => exact fits.2.2

/-- The siblings before a well-formed site start no later. -/
theorem startRow_le_of_mem_elders {elder : Tree} (fits : site.WellFormed lineCount)
    (before : elder ∈ site.elders) : elder.startRow ≤ site.tree.startRow := by
  cases site with
  | root tree => simp [elders] at before
  | child parent elders tree => exact fits.2.1 elder before

/-- The site above a well-formed site is well-formed. -/
theorem of_parent (fits : site.WellFormed lineCount) (above : site.parent? = some parent) :
    parent.WellFormed lineCount := by
  cases site with
  | root tree => simp [parent?] at above
  | child _ elders tree =>
    obtain rfl := Option.some.inj above
    exact fits.1

/-- Siblings below a well-formed site are well-formed when their trees are, and start one after the
other and after those before them. -/
theorem of_mem_siblingSites {elders trees : List Tree} (above : parent.WellFormed lineCount)
    (after : ∀ elder ∈ elders, ∀ tree ∈ trees, elder.startRow ≤ tree.startRow)
    (sorted : trees.Pairwise fun elder younger => elder.startRow ≤ younger.startRow)
    (here : ∀ tree ∈ trees, tree.WellFormed lineCount)
    (inside : below ∈ siblingSites parent elders trees) : below.WellFormed lineCount := by
  induction trees generalizing elders with
  | nil => simp [siblingSites] at inside
  | cons head tail ih =>
    obtain ⟨first, rest⟩ := List.pairwise_cons.mp sorted
    rcases List.mem_cons.mp inside with rfl | later
    · exact ⟨above, fun elder before => after elder before head (by simp), here head (by simp)⟩
    · refine ih ?_ rest (fun tree member => here tree (by simp [member])) later
      intro elder before tree member
      rcases List.mem_cons.mp before with rfl | earlier
      · exact first tree member
      · exact after elder earlier tree (by simp [member])

/-- The children of a well-formed site are well-formed. -/
theorem of_mem_children (fits : site.WellFormed lineCount) (inside : below ∈ site.children) :
    below.WellFormed lineCount :=
  of_mem_siblingSites fits (by simp) fits.tree.rowsFit.siblings
    (fun _ member => fits.tree.of_mem_children member) inside

/-- The children that stand for constructs are well-formed. -/
theorem of_mem_namedChildren (fits : site.WellFormed lineCount)
    (inside : below ∈ site.namedChildren) : below.WellFormed lineCount :=
  fits.of_mem_children (List.mem_filter.mp inside).1

/-- The child with a field is well-formed. -/
theorem of_child? {field : String} (fits : site.WellFormed lineCount)
    (found : site.child? field = some below) : below.WellFormed lineCount :=
  fits.of_mem_children (List.mem_of_find?_eq_some found)

end WellFormed

/-- All sites of a well-formed tree are well-formed. -/
theorem wellFormed_of_mem_walk {lineCount : Nat} {tree : Tree} (fits : tree.WellFormed lineCount) :
    ∀ site ∈ walk tree, site.WellFormed lineCount :=
  forall_mem_walk fits fun _ here _ inside => here.of_mem_children inside

end Site

end SourceLens
