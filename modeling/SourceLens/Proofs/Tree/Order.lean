import Mathlib.Data.List.Flatten
import SourceLens.Proofs.Tree.Ancestry
import SourceLens.Proofs.Tree.Flat

/-!
# Document order

The walk of a tree keeps a stack of sites still to visit, and yet it lists the sites in preorder.
The sites at and below a site follow one another in it without a gap
(`descent_infix_walk`), each one after those above it (`sublist_walk_of_mem_ancestors`), and what
stands at or below a child comes before what stands at or below a later one
(`sublist_walk_of_siblings`). For a tree that was given by a flat listing in preorder the walk gives
back that listing, the indices of the parents with it.
-/
namespace SourceLens.Site

variable {tree : Tree} {site upper parent below : Site}

/-! ## Which sites are visited -/

/-- A site stands in a tree: it is the root or a child of a site in the tree. -/
inductive StandsIn (tree : Tree) : Site → Prop where
  /-- The root. -/
  | root : StandsIn tree (.root tree)
  /-- A child of a site in the tree. -/
  | child {parent below : Site} (above : StandsIn tree parent) (inside : below ∈ parent.children) :
    StandsIn tree below

/-- The walk visits the sites in the tree and no others. -/
theorem mem_walk : site ∈ walk tree ↔ StandsIn tree site := by
  constructor
  · intro visited
    exact forall_mem_walk .root (fun _ above _ inside => .child above inside) site visited
  · intro stands
    induction stands with
    | root => exact root_mem_walk tree
    | child _ inside ih => exact mem_walk_of_mem_children ih inside

/-- There are as many sites at and below a site as its tree has nodes. -/
theorem length_listing (here : Site) (tree : Tree) (same : here.tree = tree) :
    (listing here tree).length = tree.size := by
  rw [← Tree.length_preorder, ← map_tree_listing here tree same, List.length_map]

/-- The walk makes as many visits as the tree has nodes. -/
theorem length_walk (tree : Tree) : (walk tree).length = tree.size := by
  rw [walk_eq_preorder]
  exact length_listing (root tree) tree rfl

/-! ## In which order they are visited -/

/-- The sites at and below a child follow one another among those at and below its parent. -/
theorem descent_infix_of_mem_children (inside : below ∈ site.children) :
    below.descent <:+: site.descent := by
  obtain ⟨front, back, parts⟩ := List.append_of_mem inside
  rw [descent_eq site, parts, List.flatMap_append, List.flatMap_cons]
  exact ⟨site :: front.flatMap descent, back.flatMap descent, by simp⟩

/-- The sites at and below a site follow one another in the walk. -/
theorem descent_infix_walk (visited : site ∈ walk tree) : site.descent <:+: walk tree := by
  have stands := mem_walk.mp visited
  induction stands with
  | root => exact ⟨[], [], by simp [walk_eq_descent]⟩
  | child above inside ih =>
    exact (descent_infix_of_mem_children inside).trans (ih (mem_walk.mpr above))

/-- A site is at or below every site of the chain from it to the root. -/
theorem mem_descent_of_mem_chain (visited : site ∈ walk tree)
    (up : upper ∈ site :: site.ancestors) : site ∈ upper.descent := by
  have stands := mem_walk.mp visited
  induction stands with
  | root =>
    obtain rfl := List.mem_singleton.mp up
    exact mem_descent.mpr (.inl rfl)
  | child above inside ih =>
    rcases List.mem_cons.mp up with rfl | higher
    · exact mem_descent.mpr (.inl rfl)
    · rw [ancestors_of_parent? (parent?_of_mem_children inside)] at higher
      exact mem_descent_of_mem_children (ih (mem_walk.mpr above) higher) inside

/-- Fewer sites are above a site that is above another. -/
theorem length_ancestors_lt (up : upper ∈ site.ancestors) :
    upper.ancestors.length < site.ancestors.length := by
  induction site with
  | root tree => cases up
  | child parent elders tree ih =>
    rw [ancestors, List.length_cons]
    rcases List.mem_cons.mp up with rfl | higher
    · exact Nat.lt_succ_self _
    · exact Nat.lt_succ_of_lt (ih higher)

/-- The sites above a site are visited before it. -/
theorem sublist_walk_of_mem_ancestors (visited : site ∈ walk tree) (up : upper ∈ site.ancestors) :
    [upper, site].Sublist (walk tree) := by
  have inside : site ∈ upper.descent :=
    mem_descent_of_mem_chain visited (List.mem_cons_of_mem site up)
  have other : site ≠ upper := by
    rintro rfl
    exact Nat.lt_irrefl _ (length_ancestors_lt up)
  have deeper : site ∈ upper.children.flatMap descent := by
    rw [descent_eq] at inside
    exact (List.mem_cons.mp inside).resolve_left other
  have pair : [upper, site].Sublist upper.descent := by
    rw [descent_eq]
    exact (List.singleton_sublist.mpr deeper).cons_cons upper
  exact pair.trans (descent_infix_walk (mem_walk_of_mem_ancestors visited up)).sublist

/-- What stands at or below a child is visited before what stands at or below a later one. -/
theorem sublist_walk_of_siblings {elder younger first second : Site}
    (visited : parent ∈ walk tree) (order : [elder, younger].Sublist parent.children)
    (visitedFirst : first ∈ walk tree) (underElder : elder ∈ first :: first.ancestors)
    (visitedSecond : second ∈ walk tree) (underYounger : younger ∈ second :: second.ancestors) :
    [first, second].Sublist (walk tree) := by
  have left := List.singleton_sublist.mpr (mem_descent_of_mem_chain visitedFirst underElder)
  have right := List.singleton_sublist.mpr (mem_descent_of_mem_chain visitedSecond underYounger)
  have pair : [first, second].Sublist ([elder, younger].flatMap descent) := by
    simpa using left.append right
  have among : ([elder, younger].flatMap descent).Sublist parent.descent := by
    rw [descent_eq]
    exact (order.flatMap descent).cons parent
  exact (pair.trans among).trans (descent_infix_walk visited).sublist

/-! ## Positions in a list without repetitions -/

section Positions

variable {α : Type} {items part : List α} {low middle high : Nat} {first last item : α}

/-- An item stands at one position only. -/
theorem position_unique (distinct : items.Nodup) (left : items[low]? = some item)
    (right : items[high]? = some item) : low = high :=
  (List.getElem?_inj (List.getElem?_eq_some_iff.mp left).1 distinct).mp (left.trans right.symm)

/-- Between two items of a part of a list without repetitions there are only items of that part. -/
theorem exists_mem_of_infix (distinct : items.Nodup) (within : part <:+: items)
    (atLow : items[low]? = some first) (firstInside : first ∈ part)
    (atHigh : items[high]? = some last) (lastInside : last ∈ part)
    (after : low ≤ middle) (before : middle ≤ high) :
    ∃ item ∈ part, items[middle]? = some item := by
  obtain ⟨front, back, rfl⟩ := within
  -- an item of the part stands in the list where the part does
  have position : ∀ {index item}, (front ++ part ++ back)[index]? = some item → item ∈ part →
      front.length ≤ index ∧ index < front.length + part.length := by
    intro index item there inside
    obtain ⟨offset, short, rfl⟩ := List.getElem_of_mem inside
    have again : (front ++ part ++ back)[front.length + offset]? = some part[offset] := by
      rw [List.append_assoc, List.getElem?_append_right (Nat.le_add_right _ _),
        Nat.add_sub_cancel_left, List.getElem?_append_left short, List.getElem?_eq_getElem short]
    have same := position_unique distinct there again
    omega
  have start := (position atLow firstInside).1
  have stop := (position atHigh lastInside).2
  have short : middle - front.length < part.length := by omega
  refine ⟨part[middle - front.length], List.getElem_mem short, ?_⟩
  rw [List.append_assoc, List.getElem?_append_right (by omega), List.getElem?_append_left short,
    List.getElem?_eq_getElem short]

end Positions

/-! ## Flat listings -/

/-- The site above a node of a flat listing, among the sites of the listing's nodes. -/
def parentAmong (sites : List Site) (node : Tree.FlatNode) : Option Site :=
  node.parent.bind (sites[·]?)

section Parents

variable (sites : List Site)

mutual

/-- The sites at and below a site are below the sites of the parents that the listing of its tree
names, if it is so for the site itself. -/
theorem map_parent?_listing (front back : List Site) (here : Site) (index : Option Nat)
    (tree : Tree) (parts : sites = front ++ listing here tree ++ back)
    (above : here.parent? = index.bind (sites[·]?)) :
    (listing here tree).map parent? =
      (Tree.flat index front.length tree).map (parentAmong sites) := by
  cases tree with
  | node info bytes children =>
    have found : sites[front.length]? = some here := by simp [parts, listing]
    have later := map_parent?_listings (front ++ [here]) back here front.length found [] children
      (by simp [parts, listing])
    rw [List.length_append, List.length_singleton] at later
    rw [listing, Tree.flat, List.map_cons, List.map_cons, later, above]
    rfl

/-- The sites at and below siblings are below the sites of the parents that the listings of their
trees name. -/
theorem map_parent?_listings (front back : List Site) (here : Site) (index : Nat)
    (found : sites[index]? = some here) (elders trees : List Tree)
    (parts : sites = front ++ listings here elders trees ++ back) :
    (listings here elders trees).map parent? =
      (Tree.flats (some index) front.length trees).map (parentAmong sites) := by
  cases trees with
  | nil => rfl
  | cons first rest =>
    have head := map_parent?_listing front (listings here (first :: elders) rest ++ back)
      (child here elders first) (some index) first (by simp [parts, listings]) found.symm
    have tail := map_parent?_listings (front ++ listing (child here elders first) first) back here
      index found (first :: elders) rest (by simp [parts, listings])
    rw [List.length_append, length_listing _ first rfl] at tail
    rw [listings, Tree.flats, List.map_append, List.map_append, head, tail]

end

end Parents

/-- The walk visits the nodes of a tree, each below the site of the parent that the listing of the
tree names. -/
theorem map_parent?_walk (tree : Tree) :
    (walk tree).map parent? = (Tree.flat none 0 tree).map (parentAmong (walk tree)) := by
  have whole : walk tree = [] ++ listing (root tree) tree ++ [] := by
    rw [walk_eq_preorder, preorder, List.nil_append, List.append_nil]
  have above := map_parent?_listing (walk tree) [] [] (root tree) none tree whole rfl
  rwa [← preorder, ← walk_eq_preorder] at above

/-- The site above the site of a node is that of the parent that the listing names. -/
theorem parent?_of_getElem? {index : Nat} {node : Tree.FlatNode}
    (there : (walk tree)[index]? = some site)
    (here : (Tree.flat none 0 tree)[index]? = some node) :
    site.parent? = parentAmong (walk tree) node := by
  have same := congrArg (·[index]?) (map_parent?_walk tree)
  simpa [there, here] using same

/-- In the listing of a tree a node hangs at another if the site of the other is above its own. -/
theorem hangsAt_flat {index later : Nat} : Tree.HangsAt (Tree.flat none 0 tree) index later ↔
    ∃ upper site, (walk tree)[index]? = some upper ∧ (walk tree)[later]? = some site ∧
      site.parent? = some upper := by
  have total : (Tree.flat none 0 tree).length = (walk tree).length := by
    rw [Tree.length_flat, length_walk]
  constructor
  · intro hangs
    obtain ⟨node, here, above⟩ := Option.bind_eq_some_iff.mp hangs
    have inside : later < (walk tree).length := by
      rw [← total]
      exact (List.getElem?_eq_some_iff.mp here).1
    have before : index < later := by
      rcases Tree.parent_flat none 0 tree here with ⟨_, none⟩ | ⟨other, high, hangs⟩
      · cases none.symm.trans above
      · obtain rfl := Option.some.inj (above.symm.trans hangs)
        omega
    have there : (walk tree)[later]? = some (walk tree)[later] := List.getElem?_eq_getElem inside
    have upper : (walk tree)[index]? = some (walk tree)[index] :=
      List.getElem?_eq_getElem (Nat.lt_trans before inside)
    refine ⟨_, _, upper, there, ?_⟩
    rw [parent?_of_getElem? there here, parentAmong, above]
    exact upper
  · rintro ⟨upper, site, up, there, above⟩
    have inside : later < (Tree.flat none 0 tree).length := by
      rw [total]
      exact (List.getElem?_eq_some_iff.mp there).1
    have here := List.getElem?_eq_getElem inside
    obtain ⟨other, named, found⟩ :=
      Option.bind_eq_some_iff.mp ((parent?_of_getElem? there here).symm.trans above)
    have same : other = index := position_unique (nodup_walk tree) found up
    rw [Tree.HangsAt, here, ← same]
    exact named

/-- In the listing of a tree a node is below another if the site of the other is one of those above
its own. -/
theorem below_flat {index later : Nat} : Tree.Below (Tree.flat none 0 tree) index later ↔
    ∃ upper site, (walk tree)[index]? = some upper ∧ (walk tree)[later]? = some site ∧
      upper ∈ site.ancestors := by
  constructor
  · intro below
    induction below with
    | single hangs =>
      obtain ⟨upper, site, up, there, above⟩ := hangsAt_flat.mp hangs
      exact ⟨upper, site, up, there, mem_ancestors_of_parent? above⟩
    | tail _ hangs ih =>
      obtain ⟨upper, middle, up, between, higher⟩ := ih
      obtain ⟨middle', site, between', there, above⟩ := hangsAt_flat.mp hangs
      obtain rfl := Option.some.inj (between.symm.trans between')
      refine ⟨upper, site, up, there, ?_⟩
      rw [ancestors_of_parent? above]
      exact List.mem_cons_of_mem middle higher
  · rintro ⟨upper, site, up, there, higher⟩
    have stands := mem_walk.mp (List.mem_of_getElem? there)
    induction stands generalizing later with
    | root => cases higher
    | @child parent site above inside ih =>
      have hangs : site.parent? = some parent := parent?_of_mem_children inside
      rw [ancestors_of_parent? hangs] at higher
      rcases List.mem_cons.mp higher with rfl | higher
      · exact .single (hangsAt_flat.mpr ⟨_, site, up, there, hangs⟩)
      · obtain ⟨middle, between⟩ := List.mem_iff_getElem?.mp (mem_walk.mpr above)
        exact (ih between higher).tail (hangsAt_flat.mpr ⟨parent, site, between, there, hangs⟩)

/-- The listing of every tree is in preorder. -/
theorem inPreorder_flat (tree : Tree) : Tree.InPreorder (Tree.flat none 0 tree) := by
  constructor
  · cases tree with
    | node info bytes children => exact ⟨_, _, rfl, rfl⟩
  · intro index node here behind
    rcases Tree.parent_flat none 0 tree here with ⟨first, _⟩ | ⟨above, before, hangs⟩
    · omega
    · exact ⟨above, by omega, hangs⟩
  · intro top between low below after before
    obtain ⟨upper, site, up, there, higher⟩ := below_flat.mp below
    have visited := List.mem_of_getElem? up
    have inside := mem_descent_of_mem_chain (List.mem_of_getElem? there)
      (List.mem_cons_of_mem site higher)
    obtain ⟨middle, deeper, between⟩ := exists_mem_of_infix (nodup_walk tree)
      (descent_infix_walk visited) up (mem_descent.mpr (.inl rfl)) there inside
      (Nat.le_of_lt after) (Nat.le_of_lt before)
    refine below_flat.mpr ⟨upper, middle, up, between, ?_⟩
    have other : upper ≠ middle := by
      rintro rfl
      have same := position_unique (nodup_walk tree) up between
      omega
    have chain := (ancestors_suffix deeper).subset List.mem_cons_self
    exact (List.mem_cons.mp chain).resolve_left other

/-! ## The order of the walk -/

/-- Sites are those of a tree in preorder. -/
structure ListsInPreorder (tree : Tree) (sites : List Site) : Prop where
  /-- They are listed as by recursion on the tree: a site, and then the listing of each child. -/
  recursive : sites = preorder tree
  /-- What stands at the sites is the recursive listing of the nodes. -/
  nodes : sites.map Site.tree = tree.preorder
  /-- They are the sites in the tree. -/
  complete : ∀ site, site ∈ sites ↔ StandsIn tree site
  /-- None of them is listed twice. -/
  distinct : sites.Nodup
  /-- There are as many of them as the tree has nodes. -/
  counted : sites.length = tree.size
  /-- A site comes after all sites above it. -/
  downward : ∀ site ∈ sites, ∀ upper ∈ site.ancestors, [upper, site].Sublist sites
  /-- What is at or below a child comes before what is at or below a later child. -/
  across : ∀ parent ∈ sites, ∀ elder younger, [elder, younger].Sublist parent.children →
    ∀ first ∈ sites, elder ∈ first :: first.ancestors →
    ∀ second ∈ sites, younger ∈ second :: second.ancestors → [first, second].Sublist sites

/-- Sites are those of the nodes of a flat listing, in its order. -/
structure FollowsListing (nodes : List Tree.FlatNode) (sites : List Site) : Prop where
  /-- What stands at the sites is what the listing says of its nodes. -/
  infos : sites.map (·.tree.info) = nodes.map (·.info)
  /-- The site above each site is that of the parent that the listing names. -/
  parents : sites.map parent? = nodes.map (parentAmong sites)

/-- The walk of a tree, which comes to an end after as many visits as the tree has nodes, visits the
sites of the tree in preorder; that of a tree put together from a flat listing in preorder visits
the nodes in the order of the listing. -/
theorem walk_visits_in_preorder :
    (∀ tree, ListsInPreorder tree (walk tree)) ∧
      ∀ (source : ByteArray) (nodes : List Tree.FlatNode), Tree.InPreorder nodes →
        ∃ tree, Tree.ofFlat? source nodes = some tree ∧ FollowsListing nodes (walk tree) := by
  constructor
  · intro tree
    exact {
      recursive := walk_eq_preorder tree
      nodes := map_tree_walk tree
      complete := fun _ => mem_walk
      distinct := nodup_walk tree
      counted := length_walk tree
      downward := fun _ visited _ up => sublist_walk_of_mem_ancestors visited up
      across := fun _ visited _ _ order _ visitedFirst underElder _ visitedSecond underYounger =>
        sublist_walk_of_siblings visited order visitedFirst underElder visitedSecond underYounger }
  · intro source nodes ordered
    obtain ⟨tree, put, listed⟩ := Tree.flat_of_ofFlat? ordered source
    refine ⟨tree, put, ?_, ?_⟩
    · rw [← listed, Tree.map_info_flat, ← map_tree_walk, List.map_map]
      rfl
    · rw [← listed]
      exact map_parent?_walk tree

/-- Two statements with a token between them. -/
def twoStatements : Tree :=
  .covering "module" none 0 ⟨0, 0⟩ ⟨0, 3⟩ "a;b"
    [.covering "expression_statement" none 0 ⟨0, 0⟩ ⟨0, 1⟩ "a"
      [.covering "identifier" none 0 ⟨0, 0⟩ ⟨0, 1⟩ "a" []],
    .token ";" 1 ⟨0, 1⟩ ⟨0, 2⟩,
    .covering "expression_statement" none 2 ⟨0, 2⟩ ⟨0, 3⟩ "b"
      [.covering "identifier" none 2 ⟨0, 2⟩ ⟨0, 3⟩ "b" []]]

/-- The walk of the tree that the listing of two statements gives follows the listing. -/
theorem walk_visits_in_preorder_twoStatements :
    (Tree.flat none 0 twoStatements).map (·.parent) =
      [none, some 0, some 1, some 0, some 0, some 4] ∧
    ∃ tree, Tree.ofFlat? "a;b".toUTF8 (Tree.flat none 0 twoStatements) = some tree ∧
      FollowsListing (Tree.flat none 0 twoStatements) (walk tree) :=
  ⟨rfl, walk_visits_in_preorder.2 "a;b".toUTF8 (Tree.flat none 0 twoStatements)
    (inPreorder_flat twoStatements)⟩

end SourceLens.Site
