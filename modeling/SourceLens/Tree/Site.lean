import SourceLens.Tree

/-!
# Sites in a tree

A site is a node together with its surroundings: the site of its parent and the siblings before
it. `Site.walk` lists the sites of a tree with a stack of sites still to visit; `Site.preorder`
lists them by recursion on the tree. The two listings are equal (`walk_eq_preorder`): a node comes
before its descendants, and the descendants of a child before those of the next child.
-/
namespace SourceLens

/-- A node in its surroundings. -/
inductive Site where
  /-- The root of a tree. -/
  | root (tree : Tree)
  /-- A child of a site, with the siblings before it, nearest first. -/
  | child (parent : Site) (elders : List Tree) (tree : Tree)

namespace Site

/-- The tree at the site. -/
def tree : Site → Tree
  | root tree => tree
  | child _ _ tree => tree

/-- The site above. -/
def parent? : Site → Option Site
  | root _ => none
  | child parent _ _ => some parent

/-- The siblings before the site, nearest first. -/
def elders : Site → List Tree
  | root _ => []
  | child _ elders _ => elders

/-- The sites above, nearest first. -/
def ancestors : Site → List Site
  | root _ => []
  | child parent _ _ => parent :: ancestors parent

/-- The kind of the node at the site. -/
def kind (site : Site) : String := site.tree.kind

/-- The text at the site. -/
def text (site : Site) : Except Text.Utf8.Fault String := site.tree.text

/-- The number of the first line, from one. -/
def startLine (site : Site) : Int := site.tree.startLine

/-- The number of the last line, from one. -/
def endLine (site : Site) : Int := site.tree.endLine

/-- The sites of siblings, given those before them. -/
def siblingSites (parent : Site) : List Tree → List Tree → List Site
  | _, [] => []
  | elders, tree :: trees => child parent elders tree :: siblingSites parent (tree :: elders) trees

/-- The sites of the children. -/
def children (site : Site) : List Site := siblingSites site [] site.tree.children

/-- The sites of the children that stand for constructs. -/
def namedChildren (site : Site) : List Site := site.children.filter (·.tree.named)

/-- The site of the first child with a field. -/
def child? (site : Site) (field : String) : Option Site :=
  site.children.find? (·.tree.hasField field)

/-- The sites of all children with a field. -/
def childrenWith (site : Site) (field : String) : List Site :=
  site.children.filter (·.tree.hasField field)

/-- The site of the first child with one of the kinds. -/
def childOfKind? (site : Site) (kinds : List String) : Option Site :=
  site.children.find? fun child => kinds.contains child.kind

/-- Whether a child has one of the kinds. -/
def hasChild (site : Site) (kinds : List String) : Bool := site.tree.hasChild kinds

/-- The nearest sibling before the site that stands for a construct. -/
def previousNamed? (site : Site) : Option Tree := site.elders.find? (·.named)

/-- The trees at the sites of siblings are the siblings. -/
theorem map_tree_siblingSites (parent : Site) (elders trees : List Tree) :
    (siblingSites parent elders trees).map tree = trees := by
  induction trees generalizing elders with
  | nil => rfl
  | cons head rest ih => simp [siblingSites, ih, Site.tree]

/-- The trees at the children's sites are the children of the tree. -/
theorem map_tree_children (site : Site) : site.children.map tree = site.tree.children :=
  map_tree_siblingSites site [] site.tree.children

/-- The number of nodes at and below several sites. -/
def weight (sites : List Site) : Nat := Tree.sizes (sites.map tree)

/-- A site weighs one more than its children. -/
theorem weight_children_append_lt (site : Site) (stack : List Site) :
    weight (site.children ++ stack) < weight (site :: stack) := by
  simp only [weight, List.map_append, map_tree_children, List.map_cons, Tree.sizes_append,
    Tree.sizes, Tree.size_eq site.tree]
  omega

/-- Visit the sites of a stack from its top after those seen before, which are listed last one
first: a visited site puts its children on the stack. -/
def visit (seen : List Site) : List Site → List Site
  | [] => seen.reverse
  | site :: stack => visit (site :: seen) (site.children ++ stack)
termination_by stack => weight stack
decreasing_by exact weight_children_append_lt site stack

/-- The sites of a tree in document order, by a stack of sites still to visit. -/
def walk (tree : Tree) : List Site := visit [] [root tree]

mutual

/-- The sites at and below a site whose tree is the given one. -/
def listing (here : Site) : Tree → List Site
  | .node _ _ children => here :: listings here [] children

/-- The sites at and below the children of a site, given the children before them. -/
def listings (parent : Site) : List Tree → List Tree → List Site
  | _, [] => []
  | elders, tree :: trees =>
    listing (child parent elders tree) tree ++ listings parent (tree :: elders) trees

end

/-- The sites of a tree in document order, by recursion on the tree. -/
def preorder (tree : Tree) : List Site := listing (root tree) tree

/-- The listing at a site is the site and then the listings of its children. -/
theorem listing_eq (here : Site) (tree : Tree) :
    listing here tree = here :: listings here [] tree.children := by
  cases tree
  rfl

/-- The listings of siblings are the listings of their sites one after the other. -/
theorem listings_eq_flatMap (parent : Site) (elders trees : List Tree) :
    listings parent elders trees =
      (siblingSites parent elders trees).flatMap fun site => listing site site.tree := by
  induction trees generalizing elders with
  | nil => rfl
  | cons tree trees ih => simp [listings, siblingSites, ih, Site.tree]

/-- Visiting a stack lists the sites at and below each of its entries in order, after those seen
before. -/
theorem visit_eq_append (seen stack : List Site) :
    visit seen stack = seen.reverse ++ stack.flatMap fun site => listing site site.tree := by
  fun_induction visit seen stack with
  | case1 seen => simp
  | case2 seen site stack ih =>
    rw [ih]
    simp only [List.flatMap_append, List.flatMap_cons, List.cons_append, List.reverse_cons,
      List.append_assoc, List.nil_append, listing_eq site site.tree, listings_eq_flatMap, children]

/-- The walk with a stack lists the sites in the order of the recursion on the tree. -/
theorem walk_eq_preorder (tree : Tree) : walk tree = preorder tree := by
  simp [walk, preorder, visit_eq_append, Site.tree]

mutual

/-- The trees at the sites at and below a site are those of its tree. -/
theorem map_tree_listing (here : Site) (below : Tree) (same : here.tree = below) :
    (listing here below).map tree = below.preorder := by
  cases below with
  | node info bytes children =>
    simp only [listing, Tree.preorder, List.map_cons, same, map_tree_listings here [] children]

/-- The trees at the sites at and below siblings are those of the siblings in order. -/
theorem map_tree_listings (parent : Site) (elders trees : List Tree) :
    (listings parent elders trees).map tree = Tree.preorders trees := by
  cases trees with
  | nil => rfl
  | cons first rest =>
    simp only [listings, Tree.preorders, List.map_append,
      map_tree_listing (child parent elders first) first rfl,
      map_tree_listings parent (first :: elders) rest]

end

/-- The trees at the sites of the walk are the nodes of the tree in document order. -/
theorem map_tree_walk (tree : Tree) : (walk tree).map Site.tree = tree.preorder := by
  rw [walk_eq_preorder]
  exact map_tree_listing (root tree) tree rfl

end Site

end SourceLens
