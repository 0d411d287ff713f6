import SourceLens.Proofs.Tree.Ancestry
import SourceLens.Proofs.Tree.WellFormed

/-!
# Nested rows

The rows of a tree are nested when every child lies within the rows of its parent
(`Tree.RowsNested`). Then a site lies within the rows of every site above it, however far above
(`Site.encloses_of_mem_ancestors`), so what is asked about the lines of an ancestor is answered by
the lines of the site.
-/
namespace SourceLens

namespace Tree

/-- A tree lies within the rows of another: it starts there and ends there. -/
structure Encloses (outer inner : Tree) : Prop where
  /-- The first row of the inner tree is a row of the outer one. -/
  starts : outer.startRow ≤ inner.startRow ∧ inner.startRow ≤ outer.endRow
  /-- So is its last row. -/
  ends : outer.startRow ≤ inner.endRow ∧ inner.endRow ≤ outer.endRow

/-- Whether a tree lies within the rows of another can be checked. -/
instance (outer inner : Tree) : Decidable (outer.Encloses inner) :=
  decidable_of_iff
    ((outer.startRow ≤ inner.startRow ∧ inner.startRow ≤ outer.endRow) ∧
      outer.startRow ≤ inner.endRow ∧ inner.endRow ≤ outer.endRow)
    ⟨fun ⟨starts, ends⟩ => ⟨starts, ends⟩, fun ⟨starts, ends⟩ => ⟨starts, ends⟩⟩

/-- What lies within rows within other rows lies within these. -/
theorem Encloses.trans {outer middle inner : Tree} (first : outer.Encloses middle)
    (second : middle.Encloses inner) : outer.Encloses inner where
  starts :=
    ⟨Nat.le_trans first.starts.1 second.starts.1, Nat.le_trans second.starts.2 first.ends.2⟩
  ends := ⟨Nat.le_trans first.starts.1 second.ends.1, Nat.le_trans second.ends.2 first.ends.2⟩

/-- Every child of every node lies within the rows of the node. -/
def RowsNested (tree : Tree) : Prop :=
  ∀ node ∈ tree.preorder, ∀ child ∈ node.children, node.Encloses child

/-- Whether the rows of a tree are nested can be checked. -/
instance (tree : Tree) : Decidable tree.RowsNested :=
  inferInstanceAs (Decidable (∀ node ∈ tree.preorder, ∀ child ∈ node.children, node.Encloses child))

end Tree

namespace Site

variable {tree : Tree} {site below parent above : Site}

/-- The tree at a site that is visited is a node of the tree. -/
theorem tree_mem_preorder (visited : site ∈ walk tree) : site.tree ∈ tree.preorder := by
  rw [← map_tree_walk]
  exact List.mem_map_of_mem visited

/-- The first line of a site within the rows of another, and its last line, are lines of the other. -/
theorem lines_of_encloses (inside : above.tree.Encloses site.tree) :
    above.startLine ≤ site.startLine ∧ site.startLine ≤ above.endLine ∧
      site.endLine ≤ above.endLine := by
  obtain ⟨⟨low, high⟩, _, stop⟩ := inside
  simp only [Tree.startRow, Tree.endRow] at low high stop
  simp only [startLine, endLine, Tree.startLine, Tree.endLine]
  omega

/-- A site that is visited lies within the rows of the site above it. -/
theorem encloses_of_parent? (nested : tree.RowsNested) (visited : site ∈ walk tree)
    (up : site.parent? = some parent) : parent.tree.Encloses site.tree :=
  nested _ (tree_mem_preorder (mem_walk_of_parent? visited up)) _
    (tree_mem_children (mem_children_of_parent? visited up))

/-- A site that is visited lies within the rows of every site above it. -/
theorem encloses_of_mem_ancestors (nested : tree.RowsNested) (visited : site ∈ walk tree)
    (up : above ∈ site.ancestors) : above.tree.Encloses site.tree := by
  induction site with
  | root tree => simp [ancestors] at up
  | child parent elders here ih =>
    have next := encloses_of_parent? nested visited rfl
    rcases List.mem_cons.mp up with rfl | higher
    · exact next
    · exact (ih (mem_walk_of_parent? visited rfl) higher).trans next

end Site

end SourceLens
