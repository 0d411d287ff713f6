import SourceLens.Proofs.Python.Targets
import SourceLens.Proofs.Tree.Nesting

/-!
# Methods in the bodies of classes

There are two ways to tell the methods of a Python class. One goes down: from the class to its body
and through the decorators there (`methods`). The other goes up: from a function through its
decorators to a block and to the class around it (`isMethod`). On a tree in which the body is the
only block of a class and a definition the only one behind its decorators (`Shaped`), the two ways
meet (`mem_methods_of_standsIn`, `standsIn_of_mem_methods`): the methods of all classes are the
functions that stand directly in the body of one, though in another order, because the methods of a
class come before those of a class inside it (`perm_methods`).
-/
namespace SourceLens

/-- The child with a field has one of some kinds, and no other child has. -/
structure Tree.OnlyChild (node : Tree) (field : String) (kinds : List String) : Prop where
  /-- The child with the field has one of the kinds. -/
  present : (node.child? field).any (fun child => kinds.contains child.kind) = true
  /-- There is one child with one of the kinds. -/
  single : (node.children.filter fun child => kinds.contains child.kind).length = 1

/-- Whether a child is the only one can be checked. -/
instance (node : Tree) (field : String) (kinds : List String) :
    Decidable (node.OnlyChild field kinds) :=
  decidable_of_iff
    ((node.child? field).any (fun child => kinds.contains child.kind) = true ∧
      (node.children.filter fun child => kinds.contains child.kind).length = 1)
    ⟨fun ⟨present, single⟩ => ⟨present, single⟩, fun ⟨present, single⟩ => ⟨present, single⟩⟩

namespace Site

/-- The child with a field is read off the tree at the site. -/
theorem tree_child? (site : Site) (field : String) :
    site.tree.child? field = (site.child? field).map tree := by
  rw [Tree.child?, ← map_tree_children, List.find?_map]
  rfl

/-- A child with one of the kinds that one child has is that child. -/
theorem child?_of_onlyChild {site below : Site} {field : String} {kinds : List String}
    (only : site.tree.OnlyChild field kinds) (inside : below ∈ site.children)
    (kind : below.kind ∈ kinds) : site.child? field = some below := by
  obtain ⟨present, single⟩ := only
  rw [tree_child?, Option.any_map, Option.any_eq_true] at present
  obtain ⟨found, child, passes⟩ := present
  rw [← map_tree_children, List.filter_map, List.length_map, List.length_eq_one_iff] at single
  obtain ⟨one, same⟩ := single
  have isOne {other : Site} (member : other ∈ site.children)
      (passes : kinds.contains other.tree.kind = true) : other = one := by
    have kept : other ∈ [one] := same ▸ List.mem_filter.mpr ⟨member, passes⟩
    exact List.mem_singleton.mp kept
  rw [child, isOne (List.mem_of_find?_eq_some child) passes,
    isOne inside (List.contains_iff_mem.mpr kind)]

end Site

namespace Python

variable {tree : Tree} {site parent method : Site}

/-! ## Shape -/

/-- A node of a Python tree has its parts where the grammar puts them. -/
structure NodeShape (node : Tree) : Prop where
  /-- A class has a name. -/
  named : node.kind = "class_definition" → (node.child? "name").isSome = true
  /-- The body of a class is its only block. -/
  body : node.kind = "class_definition" → node.OnlyChild "body" ["block"]
  /-- A decorated definition holds one function or class, the definition. -/
  decorated : node.kind = "decorated_definition" →
    node.OnlyChild "definition" ["function_definition", "class_definition"]
  /-- Functions and decorated definitions stand for constructs. -/
  construct : node.kind ∈ ["function_definition", "decorated_definition"] → node.named = true

/-- Whether a node has its parts where the grammar puts them can be checked. -/
instance (node : Tree) : Decidable (NodeShape node) :=
  decidable_of_iff
    ((node.kind = "class_definition" → (node.child? "name").isSome = true) ∧
      (node.kind = "class_definition" → node.OnlyChild "body" ["block"]) ∧
      (node.kind = "decorated_definition" →
        node.OnlyChild "definition" ["function_definition", "class_definition"]) ∧
      (node.kind ∈ ["function_definition", "decorated_definition"] → node.named = true))
    ⟨fun ⟨named, body, decorated, construct⟩ => ⟨named, body, decorated, construct⟩,
      fun ⟨named, body, decorated, construct⟩ => ⟨named, body, decorated, construct⟩⟩

/-- All nodes of a tree have their parts where the grammar puts them. -/
def Shaped (tree : Tree) : Prop := ∀ node ∈ tree.preorder, NodeShape node

/-- Whether a tree has the shape of the grammar can be checked. -/
instance (tree : Tree) : Decidable (Shaped tree) :=
  inferInstanceAs (Decidable (∀ node ∈ tree.preorder, NodeShape node))

/-- The nodes at the sites of a tree have its shape. -/
theorem Shaped.of_mem_walk (shaped : Shaped tree) (visited : site ∈ Site.walk tree) :
    NodeShape site.tree :=
  shaped site.tree (Site.tree_mem_preorder visited)

/-! ## Down and up -/

/-- Behind decorators the node that holds a definition is the one around it. -/
theorem outer_of_decorated (above : site.parent? = some parent)
    (kind : parent.kind = "decorated_definition") : outer site = parent := by
  simp [outer, above, kind]

/-- Anywhere else it is the definition itself. -/
theorem outer_of_not_decorated (above : site.parent? = some parent)
    (kind : parent.kind ≠ "decorated_definition") : outer site = site := by
  simp [outer, above, kind]

/-- From a statement of a block the way down to its definition leads back up to it. -/
theorem outer_inner (above : site.parent? = some parent) (block : parent.kind = "block") :
    outer (inner site) = site := by
  have plain : outer site = site := outer_of_not_decorated above (by simp [block])
  unfold inner
  split
  · next kind =>
    cases held : site.child? "definition" with
    | none => exact plain
    | some definition =>
      have inside := Site.parent?_of_mem_children (List.mem_of_find?_eq_some held)
      exact outer_of_decorated inside (beq_iff_eq.mp kind)
  · exact plain

/-- From a function the way up through its decorators leads back down to it. -/
theorem inner_outer (shaped : Shaped tree) (visited : site ∈ Site.walk tree)
    (kind : site.kind = "function_definition") : inner (outer site) = site := by
  rcases outer_cases site with same | ⟨above, decorated⟩
  · simp [same, inner, kind]
  · have only := (shaped.of_mem_walk (Site.mem_walk_of_parent? visited above)).decorated decorated
    have held := Site.child?_of_onlyChild only (Site.mem_children_of_parent? visited above)
      (by simp [kind])
    simp [inner, decorated, held]

/-- A definition stands in a class when the node that holds it stands in a block right below the
class. -/
def StandsIn (definition site : Site) : Prop :=
  ∃ block, (outer definition).parent? = some block ∧ block.kind = "block" ∧
    block.parent? = some site

/-- A definition stands in one class at most. -/
theorem StandsIn.unique {other : Site} (first : StandsIn method site)
    (second : StandsIn method other) : site = other := by
  obtain ⟨block, up, _, above⟩ := first
  obtain ⟨block', up', _, above'⟩ := second
  obtain rfl := Option.some.inj (up.symm.trans up')
  exact Option.some.inj (above.symm.trans above')

/-- What stands in a class is a method. -/
theorem StandsIn.isMethod (stands : StandsIn method site) (kind : site.kind = "class_definition") :
    isMethod method = true := by
  obtain ⟨block, up, ofBlock, above⟩ := stands
  simp [Python.isMethod, up, ofBlock, above, kind]

/-- A method stands in a class. -/
theorem exists_standsIn (isMethodSite : isMethod method = true) :
    ∃ site, StandsIn method site ∧ site.kind = "class_definition" := by
  unfold isMethod at isMethodSite
  split at isMethodSite
  · contradiction
  · next block up =>
    obtain ⟨ofBlock, owned⟩ := Bool.and_eq_true_iff.mp isMethodSite
    rw [Option.any_eq_true] at owned
    obtain ⟨site, above, kind⟩ := owned
    exact ⟨site, ⟨block, up, beq_iff_eq.mp ofBlock, above⟩, beq_iff_eq.mp kind⟩

/-- The body of a class is a block. -/
theorem kind_of_body (shaped : Shaped tree) (visited : site ∈ Site.walk tree)
    (kind : site.kind = "class_definition") (held : site.child? "body" = some parent) :
    parent.kind = "block" := by
  have present := ((shaped.of_mem_walk visited).body kind).present
  rw [Site.tree_child?, held] at present
  simpa [Site.kind] using present

/-- The way down from a class leads to functions with a name that stand in it. -/
theorem standsIn_of_mem_methods (shaped : Shaped tree) (visited : site ∈ Site.walk tree)
    (kind : site.kind = "class_definition") (listed : method ∈ methods site) :
    method ∈ Site.walk tree ∧ isNamedFunction method = true ∧ StandsIn method site := by
  unfold methods at listed
  split at listed
  · cases listed
  · next body held =>
    obtain ⟨kept, isFunction⟩ := List.mem_filter.mp listed
    obtain ⟨statement, construct, rfl⟩ := List.mem_map.mp kept
    have inBody := (List.mem_filter.mp construct).1
    have inClass := List.mem_of_find?_eq_some held
    have block := kind_of_body shaped visited kind held
    have up := Site.parent?_of_mem_children inBody
    have walked := Site.mem_walk_of_mem_children
      (Site.mem_walk_of_mem_children visited inClass) inBody
    refine ⟨?_, isFunction, body, ?_, block, Site.parent?_of_mem_children inClass⟩
    · rcases inner_cases statement with same | below
      · rwa [same]
      · exact Site.mem_walk_of_mem_children walked below
    · rw [outer_inner up block, up]

/-- The node that holds a definition of a tree is visited. -/
theorem outer_mem_walk (visited : site ∈ Site.walk tree) : outer site ∈ Site.walk tree := by
  rcases outer_cases site with same | ⟨holder, _⟩
  · rwa [same]
  · exact Site.mem_walk_of_parent? visited holder

/-- The node that holds a function stands for a construct. -/
theorem named_outer (shaped : Shaped tree) (visited : site ∈ Site.walk tree)
    (kind : site.kind = "function_definition") : (outer site).tree.named = true := by
  refine (shaped.of_mem_walk (outer_mem_walk visited)).construct ?_
  rcases outer_cases site with same | ⟨_, decorated⟩
  · rw [same]
    exact List.mem_cons.mpr (.inl kind)
  · exact List.mem_cons.mpr (.inr (List.mem_singleton.mpr decorated))

/-- The way down from a class leads to every function with a name that stands in it. -/
theorem mem_methods_of_standsIn (shaped : Shaped tree) (visited : method ∈ Site.walk tree)
    (isFunction : isNamedFunction method = true) (stands : StandsIn method site)
    (kind : site.kind = "class_definition") : method ∈ methods site := by
  obtain ⟨block, up, ofBlock, above⟩ := stands
  have function := kind_of_isNamedFunction isFunction
  have blockVisited := Site.mem_walk_of_parent? (outer_mem_walk visited) up
  have only := (shaped.of_mem_walk (Site.mem_walk_of_parent? blockVisited above)).body kind
  have held := Site.child?_of_onlyChild only (Site.mem_children_of_parent? blockVisited above)
    (by simp [ofBlock])
  have inBody : outer method ∈ block.namedChildren :=
    List.mem_filter.mpr ⟨Site.mem_children_of_parent? (outer_mem_walk visited) up,
      named_outer shaped visited function⟩
  have down := inner_outer shaped visited function
  unfold methods
  rw [held]
  exact List.mem_filter.mpr ⟨List.mem_map.mpr ⟨outer method, inBody, down⟩, isFunction⟩

/-- No method of a class is listed twice: the ways down from different statements lead back up to
them. -/
theorem nodup_methods (shaped : Shaped tree) (visited : site ∈ Site.walk tree)
    (kind : site.kind = "class_definition") : (methods site).Nodup := by
  unfold methods
  split
  · exact List.nodup_nil
  · next body held =>
    have block := kind_of_body shaped visited kind held
    refine List.Nodup.filter _ (List.Nodup.map_on ?_ ((Site.nodup_children body).filter _))
    intro first left second right same
    have up := Site.parent?_of_mem_children (List.mem_filter.mp left).1
    have up' := Site.parent?_of_mem_children (List.mem_filter.mp right).1
    rw [← outer_inner up block, same, outer_inner up' block]

/-- No method is listed twice among those of all classes: a method stands in one class only. -/
theorem nodup_allMethods (shaped : Shaped tree) :
    (((Site.walk tree).filter isNamedClass).flatMap methods).Nodup := by
  refine List.nodup_flatMap.mpr ⟨fun site kept => ?_, ?_⟩
  · obtain ⟨visited, isClassSite⟩ := List.mem_filter.mp kept
    exact nodup_methods shaped visited (kind_of_isNamedClass isClassSite)
  · refine ((Site.nodup_walk tree).filter _).pairwise_of_forall_ne ?_
    intro first left second right other method inside inside'
    obtain ⟨visited, isClassSite⟩ := List.mem_filter.mp left
    obtain ⟨visited', isClassSite'⟩ := List.mem_filter.mp right
    have stands := standsIn_of_mem_methods shaped visited (kind_of_isNamedClass isClassSite) inside
    have stands' :=
      standsIn_of_mem_methods shaped visited' (kind_of_isNamedClass isClassSite') inside'
    exact other (stands.2.2.unique stands'.2.2)

/-- What stands in a class of a tree stands in one that is visited and has a name. -/
theorem StandsIn.isNamedClass (stands : StandsIn method site) (shaped : Shaped tree)
    (visited : method ∈ Site.walk tree) (kind : site.kind = "class_definition") :
    site ∈ Site.walk tree ∧ isNamedClass site = true := by
  obtain ⟨block, up, _, above⟩ := stands
  have walked := Site.mem_walk_of_parent?
    (Site.mem_walk_of_parent? (outer_mem_walk visited) up) above
  have named := (shaped.of_mem_walk walked).named kind
  rw [Site.tree_child?, Option.isSome_map] at named
  exact ⟨walked, by simp [Python.isNamedClass, isClass, kind, named]⟩

/-- The methods of all classes are the functions with a name that are methods. -/
theorem mem_allMethods_iff (shaped : Shaped tree) :
    method ∈ ((Site.walk tree).filter isNamedClass).flatMap methods ↔
      method ∈ (Site.walk tree).filter fun site => isNamedFunction site && isMethod site := by
  rw [List.mem_flatMap, List.mem_filter, Bool.and_eq_true]
  constructor
  · rintro ⟨site, kept, listed⟩
    obtain ⟨visited, isClassSite⟩ := List.mem_filter.mp kept
    have kind := kind_of_isNamedClass isClassSite
    obtain ⟨visited, isFunction, stands⟩ := standsIn_of_mem_methods shaped visited kind listed
    exact ⟨visited, isFunction, stands.isMethod kind⟩
  · rintro ⟨visited, isFunction, isMethodSite⟩
    obtain ⟨site, stands, kind⟩ := exists_standsIn isMethodSite
    exact ⟨site, List.mem_filter.mpr (stands.isNamedClass shaped visited kind),
      mem_methods_of_standsIn shaped visited isFunction stands kind⟩

/-- The methods of all classes with a name are the functions with a name that are methods, up to their
order. -/
theorem perm_methods (shaped : Shaped tree) :
    (((Site.walk tree).filter isNamedClass).flatMap methods).Perm
      ((Site.walk tree).filter fun site => isNamedFunction site && isMethod site) :=
  (List.perm_ext_iff_of_nodup (nodup_allMethods shaped) ((Site.nodup_walk tree).filter _)).mpr
    fun _ => mem_allMethods_iff shaped

end Python

end SourceLens
