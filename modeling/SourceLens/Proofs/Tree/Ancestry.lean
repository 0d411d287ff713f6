import Mathlib.Data.List.Nodup
import SourceLens.Proofs.Tree.Decodable

/-!
# Sites and the sites above them

The walk of a tree lists every site once (`nodup_walk`), and with a site it lists its children and
all sites above it (`mem_walk_of_mem_children`, `mem_walk_of_mem_ancestors`). Sites are told apart
by where they stand and not by what stands there, so two equal trees among siblings make two sites:
the chain of sites from a site to the root is what identifies it (`ancestors_suffix`).
-/
namespace SourceLens.Site

variable {tree : Tree} {site below parent : Site}

/-! ## Children -/

/-- The site above a sibling is the common one. -/
theorem parent?_of_mem_siblingSites {elders trees : List Tree}
    (inside : below ∈ siblingSites parent elders trees) : below.parent? = some parent := by
  induction trees generalizing elders with
  | nil => simp [siblingSites] at inside
  | cons head tail ih =>
    rcases List.mem_cons.mp inside with rfl | later
    · rfl
    · exact ih later

/-- The site above a child is the site itself. -/
theorem parent?_of_mem_children (inside : below ∈ site.children) : below.parent? = some site :=
  parent?_of_mem_siblingSites inside

/-- The sites above a site with a parent are the parent and those above it. -/
theorem ancestors_of_parent? (above : site.parent? = some parent) :
    site.ancestors = parent :: parent.ancestors := by
  cases site with
  | root tree => simp [parent?] at above
  | child _ elders tree =>
    obtain rfl := Option.some.inj above
    rfl

/-- The site above a site is one of those above it. -/
theorem mem_ancestors_of_parent? (above : site.parent? = some parent) :
    parent ∈ site.ancestors := by
  simp [ancestors_of_parent? above]

/-- The tree at a child is a child of the tree. -/
theorem tree_mem_children (inside : below ∈ site.children) : below.tree ∈ site.tree.children := by
  rw [← map_tree_children]
  exact List.mem_map_of_mem inside

/-- The tree at a child is smaller. -/
theorem size_lt_of_mem_children (inside : below ∈ site.children) :
    below.tree.size < site.tree.size := by
  obtain ⟨front, back, parts⟩ := List.append_of_mem (tree_mem_children inside)
  rw [Tree.size_eq site.tree, parts, Tree.sizes_append, Tree.sizes]
  omega

/-- What holds at a site whenever it holds at all its children holds at every site. -/
theorem induction_below {holds : Site → Prop}
    (step : ∀ site, (∀ below ∈ site.children, holds below) → holds site) (site : Site) :
    holds site :=
  step site fun below _ => induction_below step below
termination_by site.tree.size
decreasing_by exact size_lt_of_mem_children (by assumption)

/-- Siblings have at least as many siblings before them as the first of them. -/
theorem length_le_of_mem_siblingSites {elders trees : List Tree}
    (inside : below ∈ siblingSites parent elders trees) : elders.length ≤ below.elders.length := by
  induction trees generalizing elders with
  | nil => simp [siblingSites] at inside
  | cons head tail ih =>
    rcases List.mem_cons.mp inside with rfl | later
    · exact Nat.le_refl _
    · have longer := ih later
      rw [List.length_cons] at longer
      omega

/-- Siblings are different sites, because each of them has more siblings before it than those
before. -/
theorem nodup_siblingSites (parent : Site) (elders trees : List Tree) :
    (siblingSites parent elders trees).Nodup := by
  induction trees generalizing elders with
  | nil => exact List.nodup_nil
  | cons head tail ih =>
    refine List.nodup_cons.mpr ⟨fun again => ?_, ih (head :: elders)⟩
    have longer : elders.length + 1 ≤ elders.length := length_le_of_mem_siblingSites again
    omega

/-- The children are different sites. -/
theorem nodup_children (site : Site) : site.children.Nodup := nodup_siblingSites site [] _

/-! ## Sites at and below a site -/

/-- The sites at and below a site, in document order. -/
def descent (site : Site) : List Site := listing site site.tree

/-- The sites at and below a site are the site and those at and below its children. -/
theorem descent_eq (site : Site) : site.descent = site :: site.children.flatMap descent := by
  rw [descent, listing_eq, listings_eq_flatMap]
  rfl

/-- The walk lists the sites at and below the root. -/
theorem walk_eq_descent (tree : Tree) : walk tree = (root tree).descent := walk_eq_preorder tree

/-- A site at or below a site is the site or at or below one of its children. -/
theorem mem_descent : below ∈ site.descent ↔
    below = site ∨ ∃ child ∈ site.children, below ∈ child.descent := by
  rw [descent_eq, List.mem_cons, List.mem_flatMap]

/-- The children of a site at or below another are below it too. -/
theorem mem_descent_of_mem_children {child : Site} (inside : below ∈ site.descent)
    (under : child ∈ below.children) : child ∈ site.descent := by
  induction site using induction_below with
  | step site ih =>
    rcases mem_descent.mp inside with rfl | ⟨first, member, deeper⟩
    · exact mem_descent.mpr (.inr ⟨child, under, mem_descent.mpr (.inl rfl)⟩)
    · exact mem_descent.mpr (.inr ⟨first, member, ih first member deeper⟩)

/-- The chain of sites from a site at or below another to the root ends with the chain of that
one. -/
theorem ancestors_suffix (inside : below ∈ site.descent) :
    site :: site.ancestors <:+ below :: below.ancestors := by
  induction site using induction_below with
  | step site ih =>
    rcases mem_descent.mp inside with rfl | ⟨child, member, deeper⟩
    · exact List.suffix_refl _
    · have chain := ih child member deeper
      rw [ancestors_of_parent? (parent?_of_mem_children member)] at chain
      exact (List.suffix_cons child _).trans chain

/-- A site is at or below one child of a site at most: two children would end one chain at the same
length. -/
theorem eq_of_mem_descent {first second : Site} (left : first ∈ site.children)
    (right : second ∈ site.children) (inside : below ∈ first.descent)
    (inside' : below ∈ second.descent) : first = second := by
  have chain := ancestors_suffix inside
  have chain' := ancestors_suffix inside'
  rw [ancestors_of_parent? (parent?_of_mem_children left)] at chain
  rw [ancestors_of_parent? (parent?_of_mem_children right)] at chain'
  have same := (List.suffix_of_suffix_length_le chain chain' (by simp)).eq_of_length (by simp)
  exact (List.cons.inj same).1

/-- No site is listed twice among those at and below a site. -/
theorem nodup_descent (site : Site) : site.descent.Nodup := by
  induction site using induction_below with
  | step site ih =>
    rw [descent_eq, List.nodup_cons, List.nodup_flatMap]
    refine ⟨fun again => ?_, ih, ?_⟩
    · obtain ⟨child, member, deeper⟩ := List.mem_flatMap.mp again
      have chain := (ancestors_suffix deeper).length_le
      rw [ancestors_of_parent? (parent?_of_mem_children member)] at chain
      simp only [List.length_cons] at chain
      omega
    · refine (nodup_children site).pairwise_of_forall_ne fun first left second right other => ?_
      intro below inside inside'
      exact other (eq_of_mem_descent left right inside inside')

/-! ## The walk -/

/-- No site is visited twice. -/
theorem nodup_walk (tree : Tree) : (walk tree).Nodup := by
  rw [walk_eq_descent]
  exact nodup_descent (root tree)

/-- The root is visited. -/
theorem root_mem_walk (tree : Tree) : root tree ∈ walk tree := by
  rw [walk_eq_descent]
  exact mem_descent.mpr (.inl rfl)

/-- The children of a site that is visited are visited. -/
theorem mem_walk_of_mem_children (visited : site ∈ walk tree) (inside : below ∈ site.children) :
    below ∈ walk tree := by
  rw [walk_eq_descent] at visited ⊢
  exact mem_descent_of_mem_children visited inside

/-- The sites above a site that is visited are visited. -/
theorem mem_walk_of_mem_ancestors {above : Site} (visited : site ∈ walk tree)
    (up : above ∈ site.ancestors) : above ∈ walk tree := by
  have higher : ∀ site ∈ walk tree, site ∈ walk tree ∧ ∀ above ∈ site.ancestors,
      above ∈ walk tree := by
    refine forall_mem_walk ⟨root_mem_walk tree, by simp [ancestors]⟩ ?_
    intro site ⟨visited, higher⟩ below inside
    refine ⟨mem_walk_of_mem_children visited inside, ?_⟩
    rw [ancestors_of_parent? (parent?_of_mem_children inside)]
    exact List.forall_mem_cons.mpr ⟨visited, higher⟩
  exact (higher site visited).2 above up

/-- The site above a site that is visited is visited. -/
theorem mem_walk_of_parent? (visited : site ∈ walk tree) (above : site.parent? = some parent) :
    parent ∈ walk tree :=
  mem_walk_of_mem_ancestors visited (mem_ancestors_of_parent? above)

/-- A site that is visited is a child of the site above it. -/
theorem mem_children_of_parent? (visited : site ∈ walk tree)
    (above : site.parent? = some parent) : site ∈ parent.children := by
  have listed : ∀ site ∈ walk tree, ∀ parent, site.parent? = some parent →
      site ∈ parent.children := by
    refine forall_mem_walk (by simp [parent?]) ?_
    intro site _ below inside parent above
    obtain rfl := Option.some.inj ((parent?_of_mem_children inside).symm.trans above)
    exact inside
  exact listed site visited parent above

end SourceLens.Site
