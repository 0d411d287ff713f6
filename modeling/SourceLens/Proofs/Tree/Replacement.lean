import SourceLens.Proofs.Tree.Order

/-!
# Trees with a part replaced

What stands at a site of a tree can be replaced by any other tree; the nodes above the site keep
their own data and their other children (`Site.replaced`).
-/
namespace SourceLens

namespace Tree

/-- The tree with another child in one place. -/
def withChild (tree : Tree) (index : Nat) (other : Tree) : Tree :=
  .node tree.info tree.bytes (tree.children.set index other)

variable (tree : Tree) (index : Nat) (other : Tree)

/-- The node above the child stays as it is. -/
@[simp] theorem info_withChild : (tree.withChild index other).info = tree.info := rfl

/-- The node above the child keeps its kind. -/
@[simp] theorem kind_withChild : (tree.withChild index other).kind = tree.kind := rfl

/-- The node above the child still stands for a construct, or for a token. -/
@[simp] theorem named_withChild : (tree.withChild index other).named = tree.named := rfl

/-- The node above the child keeps its text. -/
@[simp] theorem text_withChild : (tree.withChild index other).text = tree.text := rfl

end Tree

namespace Site

variable {tree other : Tree} {site below parent : Site}

/-- The whole tree with another tree in place of what stands at the site. -/
def replaced : Site → Tree → Tree
  | root _, other => other
  | child parent elders _, other => parent.replaced (parent.tree.withChild elders.length other)

/-- Below a site that has a parent, the parent is replaced by itself with another child. -/
theorem replaced_of_parent? (above : site.parent? = some parent) (other : Tree) :
    site.replaced other = parent.replaced (parent.tree.withChild site.elders.length other) := by
  cases site with
  | root tree => simp [parent?] at above
  | child _ elders tree =>
    obtain rfl := Option.some.inj above
    rfl

/-- A sibling stands behind its elders. -/
theorem exists_parts_of_mem_siblingSites {elders trees : List Tree}
    (inside : below ∈ siblingSites parent elders trees) :
    ∃ front back, trees = front ++ below.tree :: back ∧ below.elders = front.reverse ++ elders := by
  induction trees generalizing elders with
  | nil => simp [siblingSites] at inside
  | cons head tail ih =>
    rcases List.mem_cons.mp inside with rfl | later
    · exact ⟨[], tail, rfl, rfl⟩
    · obtain ⟨front, back, rfl, before⟩ := ih later
      exact ⟨head :: front, back, rfl, by simp [before]⟩

/-- The children around a child stay when it is replaced. -/
theorem exists_parts_of_mem_children (inside : below ∈ site.children) :
    ∃ front back, site.tree.children = front ++ below.tree :: back ∧ ∀ other,
      (site.tree.withChild below.elders.length other).children = front ++ other :: back := by
  obtain ⟨front, back, parts, before⟩ := exists_parts_of_mem_siblingSites inside
  refine ⟨front, back, parts, fun other => ?_⟩
  rw [before, Tree.withChild, parts]
  simp [Tree.children]

end Site

end SourceLens
