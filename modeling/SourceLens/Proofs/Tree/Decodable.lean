import SourceLens.Tree.Site

/-!
# Decodable trees

A tree is decodable when the bytes of every node are text. A site is decodable when its own tree is,
the siblings before it are, and the site above is: then everything that a reading can reach from
the site, in any direction, has a text. What holds at the root and passes from every site to its
children holds at all sites of the walk (`Site.forall_mem_walk`), so all sites of a decodable tree
are decodable.
-/
namespace SourceLens

namespace Tree

/-- The bytes of every node are text. -/
def Decodable (tree : Tree) : Prop := ∀ node ∈ tree.preorder, ∃ content, node.text = .ok content

/-- The nodes of several trees are those of each. -/
theorem mem_preorders {node : Tree} {trees : List Tree} :
    node ∈ preorders trees ↔ ∃ tree ∈ trees, node ∈ tree.preorder := by
  induction trees with
  | nil => simp [preorders]
  | cons head tail ih => simp [preorders, ih]

/-- The nodes of a tree are the topmost one and those of its children. -/
theorem mem_preorder {node tree : Tree} :
    node ∈ tree.preorder ↔ node = tree ∨ ∃ child ∈ tree.children, node ∈ child.preorder := by
  cases tree with
  | node info bytes children => simp [preorder, Tree.children, mem_preorders]

/-- A decodable tree has a text. -/
theorem Decodable.exists_text {tree : Tree} (decodable : tree.Decodable) :
    ∃ content, tree.text = .ok content :=
  decodable tree (mem_preorder.mpr (.inl rfl))

/-- The children of a decodable tree are decodable. -/
theorem Decodable.of_mem_children {tree child : Tree} (decodable : tree.Decodable)
    (inside : child ∈ tree.children) : child.Decodable := by
  intro node below
  exact decodable node (mem_preorder.mpr (.inr ⟨child, inside, below⟩))

/-- A construct over a text, given its kind and field, the byte where it starts and its ends. -/
def covering (kind : String) (field : Option String) (first : Nat) (start stop : Point)
    (content : String) (children : List Tree) : Tree :=
  .node
    { kind, field, named := true, missing := false, broken := false, startByte := first
      endByte := first + content.utf8ByteSize, start, stop }
    content.toUTF8 children

/-- A construct over a text is decodable exactly when its children are. -/
@[simp]
theorem decodable_covering {kind : String} {field : Option String} {first : Nat}
    {start stop : Point} {content : String} {children : List Tree} :
    (covering kind field first start stop content children).Decodable ↔
      ∀ child ∈ children, child.Decodable := by
  constructor
  · exact fun decodable child inside => decodable.of_mem_children inside
  intro below node inside
  rcases mem_preorder.mp inside with rfl | ⟨child, member, deeper⟩
  · exact ⟨content, Text.Utf8.decode_eq_ok_iff.mpr rfl⟩
  · exact below child member node deeper

/-- A token between constructs. -/
def token (content : String) (first : Nat) (start stop : Point) (field : Option String := none) :
    Tree :=
  .node
    { kind := content, field, named := false, missing := false, broken := false
      startByte := first, endByte := first + content.utf8ByteSize, start, stop }
    content.toUTF8 []

/-- A token is decodable. -/
@[simp]
theorem decodable_token {content : String} {first : Nat} {start stop : Point}
    {field : Option String} : (token content first start stop field).Decodable := by
  intro node inside
  rcases mem_preorder.mp inside with rfl | ⟨child, member, _⟩
  · exact ⟨content, Text.Utf8.decode_eq_ok_iff.mpr rfl⟩
  · simp [token, Tree.children] at member

end Tree

namespace Site

/-- Everything that can be reached from the site has a text. -/
def Decodable : Site → Prop
  | root tree => tree.Decodable
  | child parent elders tree =>
    parent.Decodable ∧ (∀ elder ∈ elders, elder.Decodable) ∧ tree.Decodable

namespace Decodable

variable {site below : Site}

/-- The tree at a decodable site is decodable. -/
theorem tree (decodable : site.Decodable) : site.tree.Decodable := by
  cases site with
  | root tree => exact decodable
  | child parent elders tree => exact decodable.2.2

/-- A decodable site has a text. -/
theorem exists_text (decodable : site.Decodable) : ∃ content, site.text = .ok content :=
  decodable.tree.exists_text

/-- The siblings before a decodable site are decodable. -/
theorem of_mem_elders {elder : Tree} (decodable : site.Decodable) (before : elder ∈ site.elders) :
    elder.Decodable := by
  cases site with
  | root tree => simp [elders] at before
  | child parent elders tree => exact decodable.2.1 elder before

/-- The site above a decodable site is decodable. -/
theorem of_parent {parent : Site} (decodable : site.Decodable)
    (above : site.parent? = some parent) : parent.Decodable := by
  cases site with
  | root tree => simp [parent?] at above
  | child _ elders tree =>
    obtain rfl := Option.some.inj above
    exact decodable.1

/-- Siblings below a decodable site are decodable when their trees are. -/
theorem of_mem_siblingSites {parent : Site} {elders trees : List Tree} (above : parent.Decodable)
    (before : ∀ elder ∈ elders, elder.Decodable) (here : ∀ tree ∈ trees, tree.Decodable)
    (inside : below ∈ siblingSites parent elders trees) : below.Decodable := by
  induction trees generalizing elders with
  | nil => simp [siblingSites] at inside
  | cons head tail ih =>
    rcases List.mem_cons.mp inside with rfl | later
    · exact ⟨above, before, here head (by simp)⟩
    · refine ih ?_ (fun tree member => here tree (by simp [member])) later
      intro elder member
      rcases List.mem_cons.mp member with rfl | earlier
      · exact here elder (by simp)
      · exact before elder earlier

/-- The children of a decodable site are decodable. -/
theorem of_mem_children (decodable : site.Decodable) (inside : below ∈ site.children) :
    below.Decodable :=
  of_mem_siblingSites decodable (by simp)
    (fun _ member => decodable.tree.of_mem_children member) inside

/-- The children that stand for constructs are decodable. -/
theorem of_mem_namedChildren (decodable : site.Decodable) (inside : below ∈ site.namedChildren) :
    below.Decodable :=
  decodable.of_mem_children ((List.mem_filter.mp inside).1)

/-- The child with a field is decodable. -/
theorem of_child? {field : String} (decodable : site.Decodable)
    (found : site.child? field = some below) : below.Decodable :=
  decodable.of_mem_children (List.mem_of_find?_eq_some found)

/-- The child with one of some kinds is decodable. -/
theorem of_childOfKind? {kinds : List String} (decodable : site.Decodable)
    (found : site.childOfKind? kinds = some below) : below.Decodable :=
  decodable.of_mem_children (List.mem_of_find?_eq_some found)

/-- The sibling before a decodable site that stands for a construct is decodable. -/
theorem of_previousNamed? {previous : Tree} (decodable : site.Decodable)
    (found : site.previousNamed? = some previous) : previous.Decodable :=
  decodable.of_mem_elders (List.mem_of_find?_eq_some found)

end Decodable

/-- What passes from every site to its children holds at all sites that are visited, if it holds at
those seen before and at those on the stack. -/
theorem forall_mem_visit {holds : Site → Prop}
    (step : ∀ site, holds site → ∀ below ∈ site.children, holds below) (seen stack : List Site)
    (before : ∀ site ∈ seen, holds site) (waiting : ∀ site ∈ stack, holds site) :
    ∀ site ∈ visit seen stack, holds site := by
  fun_induction visit seen stack with
  | case1 seen => simpa using before
  | case2 seen site stack ih =>
    have here : holds site := waiting site (by simp)
    refine ih (List.forall_mem_cons.mpr ⟨here, before⟩) ?_
    intro other member
    rcases List.mem_append.mp member with inside | later
    · exact step site here other inside
    · exact waiting other (by simp [later])

/-- What holds at the root and passes from every site to its children holds at all sites of a
tree. -/
theorem forall_mem_walk {holds : Site → Prop} {tree : Tree} (start : holds (root tree))
    (step : ∀ site, holds site → ∀ below ∈ site.children, holds below) :
    ∀ site ∈ walk tree, holds site :=
  forall_mem_visit step [] [root tree] (by simp) (by simpa using start)

/-- All sites of a decodable tree are decodable. -/
theorem decodable_of_mem_walk {tree : Tree} (decodable : tree.Decodable) :
    ∀ site ∈ walk tree, site.Decodable :=
  forall_mem_walk decodable fun _ here _ inside => here.of_mem_children inside

end Site

end SourceLens
