import SourceLens.Proofs.EcmaScript.Totality
import SourceLens.Proofs.Tree.Replacement

/-!
# Names that patterns bind

A pattern binds the names in it that stand neither in the key of a pair nor in the default of an
assignment. The reading goes down one field of a pair or an assignment and through all constructs of
any other node, and it knows nothing of what is above the node that it has come to. Here the names
are found the other way round: the whole pattern is walked in document order, and a name counts when
no site from it up to the root is a key or a default (`isReached`). The two agree on every tree that
is put together like a pattern (`IsPattern`), however its parts are nested (`mapM_text_descent`).

That keys and defaults are passed over is a law of its own: any tree in place of one of them, at any
depth, leaves what is bound as it was (`bindingNames_replaced_of_isSetAside`). It holds of all
trees, because the names of a node depend on no more of a child than its field, whether it is a
construct and the names that it binds itself.
-/
namespace SourceLens

open Reading

namespace EcmaScript

variable {tree other : Tree} {site below : Site} {field aside : String}

/-! ## Patterns -/

/-- Whether a node of a kind is a name. -/
def isName (kind : String) : Bool :=
  kind == "identifier" || kind == "shorthand_property_identifier_pattern"

/-- The fields of a pair and of an assignment in a pattern: that of the pattern which is bound, and
that of the key or the default. -/
def partFields? (kind : String) : Option (String × String) :=
  if kind == "pair_pattern" then some ("value", "key")
  else if kind == "assignment_pattern" || kind == "object_assignment_pattern" then
    some ("left", "right")
  else none

/-- No node of a tree is a name. -/
def NameFree (tree : Tree) : Prop := ∀ node ∈ tree.preorder, isName node.kind = false

/-- Whether a tree is free of names can be checked. -/
instance (tree : Tree) : Decidable (NameFree tree) :=
  inferInstanceAs (Decidable (∀ node ∈ tree.preorder, isName node.kind = false))

/-- A tree is a pattern. -/
inductive IsPattern : Tree → Prop where
  /-- A name, which has no names below it. -/
  | name {tree : Tree} (ofName : isName tree.kind = true)
    (leaf : ∀ child ∈ tree.children, NameFree child) : IsPattern tree
  /-- A pair or an assignment: a pattern, a key or a default, whatever that is, and beside them only
  what has no names. -/
  | parts {tree : Tree} {field aside : String}
    (ofParts : partFields? tree.kind = some (field, aside))
    (single : (tree.children.filter (·.hasField field)).length ≤ 1)
    (bound : ∀ child ∈ tree.children, child.hasField field = true → IsPattern child)
    (beside : ∀ child ∈ tree.children, child.hasField field = false →
      child.hasField aside = true ∨ NameFree child) : IsPattern tree
  /-- Any other node whose constructs are patterns, with tokens between them. -/
  | container {tree : Tree} (noName : isName tree.kind = false)
    (noParts : partFields? tree.kind = none)
    (constructs : ∀ child ∈ tree.children, child.named = true → IsPattern child)
    (tokens : ∀ child ∈ tree.children, child.named = false → NameFree child) : IsPattern tree

/-- A pair or an assignment is no name, and its pattern is not its key or default. -/
theorem isName_of_partFields? {kind : String} (ofParts : partFields? kind = some (field, aside)) :
    isName kind = false ∧ field ≠ aside := by
  unfold partFields? at ofParts
  split at ofParts
  · next pair =>
    obtain ⟨rfl, rfl⟩ := Prod.mk.inj (Option.some.inj ofParts)
    rw [eq_of_beq pair]
    decide
  · split at ofParts
    · next assignment =>
      obtain ⟨rfl, rfl⟩ := Prod.mk.inj (Option.some.inj ofParts)
      rcases Bool.or_eq_true_iff.mp assignment with plain | shorthand
      · rw [eq_of_beq plain]
        decide
      · rw [eq_of_beq shorthand]
        decide
    · cases ofParts

/-! ## What is read of a node -/

/-- A name binds its text, a pair or an assignment what the pattern in it binds, and any other node
what its constructs bind. -/
theorem bindingNames_eq (tree : Tree) : bindingNames tree =
    if isName tree.kind then (do
      let content ← tree.text
      pure [content])
    else match partFields? tree.kind with
      | some fields => fieldBindings fields.1 tree.children
      | none => allBindings tree.children := by
  cases tree with
  | node info bytes children =>
    rw [bindingNames]
    by_cases ofName : isName info.kind = true
    · exact (if_pos ofName).trans (if_pos ofName).symm
    · refine (if_neg ofName).trans (Eq.trans ?_ (if_neg ofName).symm)
      rw [partFields?, Tree.kind, Tree.info]
      by_cases pair : (info.kind == "pair_pattern") = true
      · rw [if_pos pair, if_pos pair]
        rfl
      · rw [if_neg pair, if_neg pair]
        split_ifs <;> rfl

/-- The first child with a field is read for what it binds. -/
theorem fieldBindings_map (sites : List Site) :
    fieldBindings field (sites.map Site.tree) =
      boundNames (sites.find? fun site => site.tree.hasField field) := by
  induction sites with
  | nil => rfl
  | cons head rest ih =>
    rw [List.map_cons, fieldBindings, List.find?_cons, ih]
    cases head.tree.hasField field <;> rfl

/-- The children that stand for constructs are read one after the other. -/
theorem allBindings_map (sites : List Site) :
    allBindings (sites.map Site.tree) = (do
      let names ← (sites.filter (·.tree.named)).mapM fun site => bindingNames site.tree
      pure names.flatten) := by
  induction sites with
  | nil => rfl
  | cons head rest ih =>
    rw [List.map_cons, allBindings, List.filter_cons, ih]
    cases head.tree.named with
    | false => rfl
    | true => simp

/-- A pair or an assignment binds what the child with the field of the bound pattern binds. -/
theorem bindingNames_of_parts (ofParts : partFields? site.tree.kind = some (field, aside)) :
    bindingNames site.tree = boundNames (site.child? field) := by
  have noName := (isName_of_partFields? ofParts).1
  rw [bindingNames_eq, if_neg (Bool.eq_false_iff.mp noName), ofParts, ← Site.map_tree_children]
  exact fieldBindings_map site.children

/-- A node that is no name and has no parts binds what its constructs bind. -/
theorem bindingNames_of_container (noName : isName site.tree.kind = false)
    (noParts : partFields? site.tree.kind = none) :
    bindingNames site.tree = (do
      let names ← site.namedChildren.mapM fun child => bindingNames child.tree
      pure names.flatten) := by
  rw [bindingNames_eq, if_neg (Bool.eq_false_iff.mp noName), noParts, ← Site.map_tree_children]
  exact allBindings_map site.children

/-! ## Names that are reached -/

/-- Whether a site is the key of a pair or the default of an assignment. -/
def isSetAside (site : Site) : Bool :=
  site.parent?.any fun parent => (partFields? parent.kind).any fun fields =>
    site.tree.hasField fields.2

/-- Whether no site from a site up to the root is set aside. -/
def isOpen (site : Site) : Bool := (site :: site.ancestors).all fun upper => !isSetAside upper

/-- Whether a site is a name that is reached without going into a key or a default. -/
def isReached (site : Site) : Bool := isName site.kind && isOpen site

/-- The texts of the names in a pattern that are reached, in document order. -/
def reachedNames (pattern : Tree) : Reading (List String) :=
  ((Site.walk pattern).filter isReached).mapM Site.text

/-- A child of an open site is open unless it is set aside. -/
theorem isOpen_of_mem_children (inside : below ∈ site.children) :
    isOpen below = (!isSetAside below && isOpen site) := by
  rw [isOpen, Site.ancestors_of_parent? (Site.parent?_of_mem_children inside), List.all_cons,
    isOpen]

/-- The names that are reached at and below a site are the site, if it is one, and those at and
below its children. -/
theorem filter_descent (site : Site) : site.descent.filter isReached =
    (if isReached site then [site] else []) ++
      site.children.flatMap fun child => child.descent.filter isReached := by
  rw [Site.descent_eq, List.filter_cons, List.filter_flatMap]
  cases isReached site <;> rfl

/-- No name is reached at or below a site that is not open. -/
theorem filter_descent_of_closed (closed : isOpen site = false) :
    site.descent.filter isReached = [] := by
  rw [List.filter_eq_nil_iff]
  intro below inside reached
  have chain := (Site.ancestors_suffix inside).subset
  have opened := List.all_eq_true.mp (Bool.and_eq_true_iff.mp reached).2
  rw [isOpen, List.all_eq_true.mpr fun upper up => opened upper (chain up)] at closed
  cases closed

/-- No name is reached in a tree without names. -/
theorem filter_descent_of_nameFree (free : NameFree site.tree) :
    site.descent.filter isReached = [] := by
  rw [List.filter_eq_nil_iff]
  intro below inside reached
  have listed : below.tree ∈ site.tree.preorder := by
    rw [← Site.map_tree_listing site site.tree rfl]
    exact List.mem_map_of_mem inside
  have noName := free below.tree listed
  rw [isReached, Site.kind, noName] at reached
  cases reached

/-- What counts as the key or the default of a node is told by the field of a child. -/
theorem isSetAside_of_mem_children (inside : below ∈ site.children) :
    isSetAside below = (partFields? site.kind).any fun fields => below.tree.hasField fields.2 := by
  rw [isSetAside, Site.parent?_of_mem_children inside, Option.any_some]

/-- A child has one field at most. -/
theorem hasField_unique {first second : String} (left : tree.hasField first = true)
    (right : tree.hasField second = true) : first = second :=
  Option.some.inj ((eq_of_beq left).symm.trans (eq_of_beq right))

/-- A child of an open node that has the field of the bound pattern is open. -/
theorem isOpen_of_bound (ofParts : partFields? site.kind = some (field, aside))
    (inside : below ∈ site.children) (has : below.tree.hasField field = true)
    (opened : isOpen site = true) : isOpen below = true := by
  have other : below.tree.hasField aside = false := by
    apply Bool.eq_false_iff.mpr
    intro hasToo
    exact (isName_of_partFields? ofParts).2 (hasField_unique has hasToo)
  rw [isOpen_of_mem_children inside, isSetAside_of_mem_children inside, ofParts, Option.any_some,
    other, opened]
  rfl

/-- Beside the bound pattern of a pair or an assignment no name is reached. -/
theorem filter_descent_of_beside (ofParts : partFields? site.kind = some (field, aside))
    (inside : below ∈ site.children)
    (beside : below.tree.hasField aside = true ∨ NameFree below.tree) :
    below.descent.filter isReached = [] := by
  rcases beside with hidden | free
  · apply filter_descent_of_closed
    rw [isOpen_of_mem_children inside, isSetAside_of_mem_children inside, ofParts, Option.any_some,
      hidden]
    rfl
  · exact filter_descent_of_nameFree free

/-- Items that give nothing can be left out beforehand. -/
theorem flatMap_filter {α β : Type} {items : List α} {part : α → List β} {keep : α → Bool}
    (nothing : ∀ item ∈ items, keep item = false → part item = []) :
    items.flatMap part = (items.filter keep).flatMap part := by
  induction items with
  | nil => rfl
  | cons head rest ih =>
    have later := ih fun item inside => nothing item (by simp [inside])
    cases kept : keep head with
    | false => simp [kept, nothing head (by simp) kept, later]
    | true => simp [kept, later]

/-- Of items of which one at most passes a test, those that pass are the first one. -/
theorem filter_eq_find? {α : Type} {items : List α} {keep : α → Bool}
    (single : (items.filter keep).length ≤ 1) : items.filter keep = (items.find? keep).toList := by
  rw [← List.head?_filter]
  match items.filter keep, single with
  | [], _ => rfl
  | [item], _ => rfl

/-- At and below a site that is no name, names are reached at and below those children only that
have some to reach. -/
theorem filter_descent_of_noName {keep : Site → Bool} (noName : isName site.kind = false)
    (hidden : ∀ child ∈ site.children, keep child = false → child.descent.filter isReached = []) :
    site.descent.filter isReached =
      (site.children.filter keep).flatMap fun child => child.descent.filter isReached := by
  have notReached : isReached site = false := by
    rw [isReached, noName]
    rfl
  rw [filter_descent, if_neg (Bool.eq_false_iff.mp notReached), List.nil_append,
    flatMap_filter hidden]

/-- At and below an open site that is a name, only the name is reached. -/
theorem filter_descent_of_name (ofName : isName site.kind = true)
    (leaf : ∀ child ∈ site.tree.children, NameFree child) (opened : isOpen site = true) :
    site.descent.filter isReached = [site] := by
  have reached : isReached site = true := by
    rw [isReached, ofName, opened]
    rfl
  have nothing : (site.children.flatMap fun child => child.descent.filter isReached) = [] := by
    rw [List.flatMap_eq_nil_iff]
    intro child inside
    exact filter_descent_of_nameFree (leaf _ (Site.tree_mem_children inside))
  rw [filter_descent, if_pos reached, nothing, List.append_nil]

/-- At and below a pair or an assignment, names are reached in the bound pattern only. -/
theorem filter_descent_of_parts (ofParts : partFields? site.kind = some (field, aside))
    (single : (site.tree.children.filter (·.hasField field)).length ≤ 1)
    (beside : ∀ child ∈ site.tree.children, child.hasField field = false →
      child.hasField aside = true ∨ NameFree child) :
    site.descent.filter isReached =
      (site.child? field).toList.flatMap fun child => child.descent.filter isReached := by
  have kept : site.children.filter (fun child => child.tree.hasField field) =
      (site.child? field).toList := by
    apply filter_eq_find?
    rw [← Site.map_tree_children, List.filter_map, List.length_map] at single
    exact single
  have hidden : ∀ child ∈ site.children, child.tree.hasField field = false →
      child.descent.filter isReached = [] := fun child inside lacks =>
    filter_descent_of_beside ofParts inside (beside _ (Site.tree_mem_children inside) lacks)
  rw [filter_descent_of_noName (isName_of_partFields? ofParts).1 hidden, kept]

/-- At and below any other node, names are reached in the constructs only. -/
theorem filter_descent_of_container (noName : isName site.kind = false)
    (tokens : ∀ child ∈ site.tree.children, child.named = false → NameFree child) :
    site.descent.filter isReached =
      site.namedChildren.flatMap fun child => child.descent.filter isReached := by
  apply filter_descent_of_noName noName
  intro child inside token
  exact filter_descent_of_nameFree (tokens _ (Site.tree_mem_children inside) token)

/-- The names that are reached at and below an open site with a pattern are those that are read of
the pattern. -/
theorem mapM_text_descent (pattern : IsPattern tree) (same : site.tree = tree)
    (opened : isOpen site = true) :
    (site.descent.filter isReached).mapM Site.text = bindingNames tree := by
  induction pattern generalizing site with
  | @name tree ofName leaf =>
    subst same
    rw [filter_descent_of_name ofName leaf opened, List.mapM_cons, List.mapM_nil, bindingNames_eq,
      if_pos ofName]
    rfl
  | @parts tree field aside ofParts single bound beside ih =>
    subst same
    rw [filter_descent_of_parts ofParts single beside, bindingNames_of_parts ofParts]
    cases found : site.child? field with
    | none => rfl
    | some child =>
      have inside := List.mem_of_find?_eq_some found
      have has : child.tree.hasField field = true := by simpa using List.find?_some found
      have deeper := ih child.tree (Site.tree_mem_children inside) has rfl
        (isOpen_of_bound ofParts inside has opened)
      simpa [boundNames] using deeper
  | @container tree noName noParts constructs tokens ih =>
    subst same
    have each : ∀ child ∈ site.namedChildren,
        (child.descent.filter isReached).mapM Site.text = bindingNames child.tree := by
      intro child kept
      obtain ⟨inside, construct⟩ := List.mem_filter.mp kept
      have aside : isSetAside child = false := by
        rw [isSetAside_of_mem_children inside, Site.kind, noParts, Option.any_none]
      have below : isOpen child = true := by
        rw [isOpen_of_mem_children inside, aside, opened]
        rfl
      exact ih child.tree (Site.tree_mem_children inside) construct rfl below
    rw [filter_descent_of_container noName tokens, mapM_flatMap,
      bindingNames_of_container noName noParts, mapM_congr each]

/-- What is read of a pattern are the texts of the names that are reached in it. -/
theorem bindingNames_eq_reachedNames (pattern : IsPattern tree) :
    bindingNames tree = reachedNames tree := by
  rw [reachedNames, Site.walk_eq_descent]
  exact (mapM_text_descent pattern rfl rfl).symm

/-! ## Other keys and defaults -/

/-- Another child with the same field makes no difference to what the first child with a field
binds, unless it is that child and binds other names. -/
theorem fieldBindings_replaced {here : Tree} (front back : List Tree)
    (role : other.info.field = here.info.field)
    (same : here.hasField field = true → bindingNames other = bindingNames here) :
    fieldBindings field (front ++ other :: back) = fieldBindings field (front ++ here :: back) := by
  have alike : other.hasField field = here.hasField field := by
    rw [Tree.hasField, Tree.hasField, role]
  induction front with
  | nil =>
    rw [List.nil_append, List.nil_append, fieldBindings, fieldBindings, alike]
    cases has : here.hasField field with
    | false => rfl
    | true => simp [same has]
  | cons head rest ih => simp only [List.cons_append, fieldBindings, ih]

/-- Another child that binds the same names makes no difference to what all children bind. -/
theorem allBindings_replaced {here : Tree} (front back : List Tree)
    (construct : other.named = here.named) (same : bindingNames other = bindingNames here) :
    allBindings (front ++ other :: back) = allBindings (front ++ here :: back) := by
  induction front with
  | nil => rw [List.nil_append, List.nil_append, allBindings, allBindings, construct, same]
  | cons head rest ih => simp only [List.cons_append, allBindings, ih]

/-- A node with another child in the same role binds the same names if the other child does. What
the other child binds does not count where the node is a pair or an assignment and the child not the
pattern in it. -/
theorem bindingNames_withChild (inside : below ∈ site.children)
    (role : other.info.field = below.tree.info.field)
    (listed : partFields? site.kind = none →
      other.named = below.tree.named ∧ bindingNames other = bindingNames below.tree)
    (bound : ∀ fields, partFields? site.kind = some fields →
      below.tree.hasField fields.1 = true → bindingNames other = bindingNames below.tree) :
    bindingNames (site.tree.withChild below.elders.length other) = bindingNames site.tree := by
  obtain ⟨front, back, parts, around⟩ := Site.exists_parts_of_mem_children inside
  rw [bindingNames_eq, bindingNames_eq site.tree, around, parts, Tree.kind_withChild,
    Tree.text_withChild]
  rw [Site.kind] at listed bound
  cases ofParts : partFields? site.tree.kind with
  | none =>
    obtain ⟨construct, same⟩ := listed ofParts
    simp only [allBindings_replaced front back construct same]
  | some fields => simp only [fieldBindings_replaced front back role (bound fields ofParts)]

/-- A tree with another part in the same role binds the same names if the other part does. -/
theorem bindingNames_replaced (visited : site ∈ Site.walk tree)
    (role : other.info.field = site.tree.info.field) (construct : other.named = site.tree.named)
    (same : bindingNames other = bindingNames site.tree) :
    bindingNames (site.replaced other) = bindingNames tree := by
  have stands := Site.mem_walk.mp visited
  induction stands generalizing other with
  | root => exact same
  | child above inside ih =>
    have kept := bindingNames_withChild inside role (fun _ => ⟨construct, same⟩) fun _ _ _ => same
    rw [Site.replaced_of_parent? (Site.parent?_of_mem_children inside)]
    exact ih (Site.mem_walk.mpr above) rfl rfl kept

/-- A tree with any other key or default in it binds the same names. -/
theorem bindingNames_replaced_of_isSetAside (visited : site ∈ Site.walk tree)
    (hidden : isSetAside site = true) (role : other.info.field = site.tree.info.field) :
    bindingNames (site.replaced other) = bindingNames tree := by
  cases above : site.parent? with
  | none => simp [isSetAside, above] at hidden
  | some parent =>
    have inside := Site.mem_children_of_parent? visited above
    rw [isSetAside_of_mem_children inside, Option.any_eq_true] at hidden
    obtain ⟨⟨field, aside⟩, ofParts, hasAside⟩ := hidden
    have same : bindingNames (parent.tree.withChild site.elders.length other) =
        bindingNames parent.tree := by
      apply bindingNames_withChild inside role
      · intro noParts
        rw [noParts] at ofParts
        cases ofParts
      · intro fields again has
        obtain rfl := Option.some.inj (ofParts.symm.trans again)
        exact absurd (hasField_unique has hasAside) (isName_of_partFields? ofParts).2
    rw [Site.replaced_of_parent? above]
    exact bindingNames_replaced (Site.mem_walk_of_parent? visited above) rfl rfl same

/-! ## Imports and exports -/

/-- The pattern that a declarator around a call binds the result to. -/
def resultPattern? (call : Site) : Option Site :=
  match call.parent? with
  | none => none
  | some parent => if parent.kind == "variable_declarator" then parent.child? "name" else none

/-- The patterns that the declarators of a declaration bind. -/
def declaredPatterns (declaration : Site) : List Site :=
  (declaration.namedChildren.filter (·.kind == "variable_declarator")).filterMap (·.child? "name")

/-- The names that are reached in a pattern, none when there is no pattern. -/
def reachedIn : Option Site → Reading (List String)
  | none => pure []
  | some pattern => reachedNames pattern.tree

/-- What is read of a pattern that is perhaps there are the names that are reached in it. -/
theorem boundNames_eq_reachedIn {pattern? : Option Site}
    (patterns : ∀ pattern ∈ pattern?, IsPattern pattern.tree) :
    boundNames pattern? = reachedIn pattern? := by
  cases pattern? with
  | none => rfl
  | some pattern => exact bindingNames_eq_reachedNames (patterns pattern rfl)

/-- The result of a call is bound to the names of the pattern that it is bound to. -/
theorem resultNames_eq (call : Site) : resultNames call = boundNames (resultPattern? call) := by
  rw [resultNames, resultPattern?]
  cases call.parent? with
  | none => rfl
  | some parent => exact (apply_ite boundNames _ (parent.child? "name") none).symm

/-- An import by a call of `require` is under the names that the call is bound to, if there are
any. -/
theorem requireImport_eq_some_iff {doc : Document} {call : Site} {entry : ImportEntry} :
    requireImport doc call = .ok (some entry) ↔ ∃ literal source names,
      requireLiteral call = .ok (some literal) ∧ stringValue (some literal) = .ok source ∧
        resultNames call = .ok names ∧
          entry = ⟨source, if names.isEmpty then ["unknown"] else names, call.startLine,
            doc.rawLine call.startLine⟩ := by
  rw [requireImport, bind_eq_ok]
  constructor
  · rintro ⟨_ | literal, required, made⟩
    · cases pure_eq_ok.mp made
    · obtain ⟨names, bound, made⟩ := bind_eq_ok.mp made
      obtain ⟨source, read, made⟩ := bind_eq_ok.mp made
      exact ⟨literal, source, names, required, read, bound,
        (Option.some.inj (pure_eq_ok.mp made)).symm⟩
  · rintro ⟨literal, source, names, required, read, bound, rfl⟩
    refine ⟨some literal, required, bind_eq_ok.mpr ⟨names, bound, ?_⟩⟩
    exact bind_eq_ok.mpr ⟨source, read, rfl⟩

/-- A variable declaration declares what the patterns of its declarators bind. -/
theorem declaredNames_of_variable {declaration : Site}
    (ofVariables : variableDeclarations.contains declaration.kind = true) :
    declaredNames declaration = (do
      let names ← (declaredPatterns declaration).mapM fun pattern => bindingNames pattern.tree
      pure names.flatten) := by
  have other : namedDeclarations.contains declaration.kind = false := by
    have kinds : ∀ kind ∈ variableDeclarations, namedDeclarations.contains kind = false := by
      decide
    exact kinds declaration.kind (List.contains_iff_mem.mp ofVariables)
  rw [declaredNames, if_neg (Bool.eq_false_iff.mp other), if_pos ofVariables, declaredPatterns]
  induction declaration.namedChildren.filter (·.kind == "variable_declarator") with
  | nil => rfl
  | cons head rest ih =>
    cases named : head.child? "name" with
    | none => simpa [named, boundNames] using ih
    | some pattern =>
      -- the names of the other declarators come behind those of the first one
      have joined := congrArg (fun others : Reading (List String) => do
        let first ← bindingNames pattern.tree
        let rest ← others
        pure (first ++ rest)) ih
      simpa [named, boundNames] using joined

/-- An export of a declaration of variables exports the names that are reached in the patterns of
its declarators. -/
theorem exportStatement_of_variable {doc : Document} {site declaration : Site}
    (plain : site.hasChild ["default"] = false)
    (declares : site.child? "declaration" = some declaration)
    (ofVariables : variableDeclarations.contains declaration.kind = true)
    (patterns : ∀ pattern ∈ declaredPatterns declaration, IsPattern pattern.tree) :
    exportStatement doc site = (do
      let names ← (declaredPatterns declaration).mapM fun pattern => reachedNames pattern.tree
      pure (names.flatten.map fun name => exportAt doc site false (some name))) := by
  have reached := mapM_congr fun pattern inside =>
    bindingNames_eq_reachedNames (patterns pattern inside)
  rw [exportStatement, if_neg (Bool.eq_false_iff.mp plain), declares]
  simp only [declaredNames_of_variable ofVariables, reached, bind_assoc, pure_bind]

/-- A pattern binds the names that are reached in it without going into a key or a default, from
left to right and as often as they stand there. Whatever stands in place of a key or a default, the
names are the same. An import by a call of `require` is under the names of the pattern that the
call is bound to, or under none known, and an export of variables exports the names of their
patterns. -/
theorem patterns_bind_reached_names :
    (∀ pattern, IsPattern pattern → bindingNames pattern = reachedNames pattern ∧
      (pattern.Decodable → ∃ names, bindingNames pattern = .ok names)) ∧
    (∀ pattern, ∀ site ∈ Site.walk pattern, isSetAside site = true → ∀ other : Tree,
      other.info.field = site.tree.info.field →
      bindingNames (site.replaced other) = bindingNames pattern) ∧
    (∀ doc call, (∀ pattern ∈ resultPattern? call, IsPattern pattern.tree) → ∀ entry,
      (requireImport doc call = .ok (some entry) ↔ ∃ literal source names,
        requireLiteral call = .ok (some literal) ∧ stringValue (some literal) = .ok source ∧
          reachedIn (resultPattern? call) = .ok names ∧
            entry = ⟨source, if names.isEmpty then ["unknown"] else names, call.startLine,
              doc.rawLine call.startLine⟩)) ∧
    (∀ doc (site declaration : Site), site.hasChild ["default"] = false →
      site.child? "declaration" = some declaration →
      variableDeclarations.contains declaration.kind = true →
      (∀ pattern ∈ declaredPatterns declaration, IsPattern pattern.tree) → ∀ entries,
      (exportStatement doc site = .ok entries ↔ ∃ names,
        (declaredPatterns declaration).mapM (fun pattern => reachedNames pattern.tree) = .ok names ∧
          names.flatten.map (fun name => exportAt doc site false (some name)) = entries)) := by
  refine ⟨?_, ?_, ?_, ?_⟩
  · intro pattern ofPattern
    exact ⟨bindingNames_eq_reachedNames ofPattern, succeeds_bindingNames pattern⟩
  · intro pattern site visited hidden other role
    exact bindingNames_replaced_of_isSetAside visited hidden role
  · intro doc call patterns entry
    rw [requireImport_eq_some_iff, resultNames_eq, boundNames_eq_reachedIn patterns]
  · intro doc site declaration plain declares ofVariables patterns entries
    rw [exportStatement_of_variable plain declares ofVariables patterns]
    exact bind_pure_eq_ok

/-! ## A sample -/

/-- The text of an export of what a call of `require` is destructured to. -/
def requiredText : String := "export const \x7b[k]: \x7bb = f(c)\x7d, ...r\x7d = require(\"m\")"

/-- The tree of a name with a default. -/
def defaultTree : Tree :=
  .covering "object_assignment_pattern" none 20 ⟨0, 20⟩ ⟨0, 28⟩ "b = f(c)"
    [.covering "shorthand_property_identifier_pattern" (some "left") 20 ⟨0, 20⟩ ⟨0, 21⟩ "b" [],
      .token "=" 22 ⟨0, 22⟩ ⟨0, 23⟩,
      .covering "call_expression" (some "right") 24 ⟨0, 24⟩ ⟨0, 28⟩ "f(c)"
        [.covering "identifier" (some "function") 24 ⟨0, 24⟩ ⟨0, 25⟩ "f" [],
          .covering "arguments" (some "arguments") 25 ⟨0, 25⟩ ⟨0, 28⟩ "(c)"
            [.token "(" 25 ⟨0, 25⟩ ⟨0, 26⟩, .covering "identifier" none 26 ⟨0, 26⟩ ⟨0, 27⟩ "c" [],
              .token ")" 27 ⟨0, 27⟩ ⟨0, 28⟩]]]

/-- The tree of a pattern with the default. -/
def valueTree : Tree :=
  .covering "object_pattern" (some "value") 19 ⟨0, 19⟩ ⟨0, 29⟩ "\x7bb = f(c)\x7d"
    [.token "\x7b" 19 ⟨0, 19⟩ ⟨0, 20⟩, defaultTree, .token "\x7d" 28 ⟨0, 28⟩ ⟨0, 29⟩]

/-- The tree of a pair of a computed key and that pattern. -/
def pairTree : Tree :=
  .covering "pair_pattern" none 14 ⟨0, 14⟩ ⟨0, 29⟩ "[k]: \x7bb = f(c)\x7d"
    [.covering "computed_property_name" (some "key") 14 ⟨0, 14⟩ ⟨0, 17⟩ "[k]"
        [.token "[" 14 ⟨0, 14⟩ ⟨0, 15⟩, .covering "identifier" none 15 ⟨0, 15⟩ ⟨0, 16⟩ "k" [],
          .token "]" 16 ⟨0, 16⟩ ⟨0, 17⟩],
      .token ":" 17 ⟨0, 17⟩ ⟨0, 18⟩, valueTree]

/-- The tree of a name for the rest. -/
def restTree : Tree :=
  .covering "rest_pattern" none 31 ⟨0, 31⟩ ⟨0, 35⟩ "...r"
    [.token "..." 31 ⟨0, 31⟩ ⟨0, 34⟩, .covering "identifier" none 34 ⟨0, 34⟩ ⟨0, 35⟩ "r" []]

/-- The tree of the pattern of the sample. -/
def patternTree : Tree :=
  .covering "object_pattern" (some "name") 13 ⟨0, 13⟩ ⟨0, 36⟩ "\x7b[k]: \x7bb = f(c)\x7d, ...r\x7d"
    [.token "\x7b" 13 ⟨0, 13⟩ ⟨0, 14⟩, pairTree, .token "," 29 ⟨0, 29⟩ ⟨0, 30⟩, restTree,
      .token "\x7d" 35 ⟨0, 35⟩ ⟨0, 36⟩]

/-- The tree of the call in the sample. -/
def requireTree : Tree :=
  .covering "call_expression" (some "value") 39 ⟨0, 39⟩ ⟨0, 51⟩ "require(\"m\")"
    [.covering "identifier" (some "function") 39 ⟨0, 39⟩ ⟨0, 46⟩ "require" [],
      .covering "arguments" (some "arguments") 46 ⟨0, 46⟩ ⟨0, 51⟩ "(\"m\")"
        [.token "(" 46 ⟨0, 46⟩ ⟨0, 47⟩,
          .covering "string" none 47 ⟨0, 47⟩ ⟨0, 50⟩ "\"m\""
            [.token "\"" 47 ⟨0, 47⟩ ⟨0, 48⟩,
              .covering "string_fragment" none 48 ⟨0, 48⟩ ⟨0, 49⟩ "m" [],
              .token "\"" 49 ⟨0, 49⟩ ⟨0, 50⟩],
          .token ")" 50 ⟨0, 50⟩ ⟨0, 51⟩]]

/-- The tree of the declarator in the sample. -/
def declaratorTree : Tree :=
  .covering "variable_declarator" none 13 ⟨0, 13⟩ ⟨0, 51⟩
    "\x7b[k]: \x7bb = f(c)\x7d, ...r\x7d = require(\"m\")"
    [patternTree, .token "=" 37 ⟨0, 37⟩ ⟨0, 38⟩, requireTree]

/-- The tree of the declaration in the sample. -/
def declarationTree : Tree :=
  .covering "lexical_declaration" (some "declaration") 7 ⟨0, 7⟩ ⟨0, 51⟩
    "const \x7b[k]: \x7bb = f(c)\x7d, ...r\x7d = require(\"m\")"
    [.token "const" 7 ⟨0, 7⟩ ⟨0, 12⟩, declaratorTree]

/-- The site of the export in the sample. -/
def exportSite : Site :=
  .root (.covering "export_statement" none 0 ⟨0, 0⟩ ⟨0, 51⟩ requiredText
    [.token "export" 0 ⟨0, 0⟩ ⟨0, 6⟩, declarationTree])

/-- The site of the declaration. -/
def declarationSite : Site := .child exportSite [.token "export" 0 ⟨0, 0⟩ ⟨0, 6⟩] declarationTree

/-- The site of the declarator. -/
def declaratorSite : Site :=
  .child declarationSite [.token "const" 7 ⟨0, 7⟩ ⟨0, 12⟩] declaratorTree

/-- The site of the call. -/
def requireSite : Site :=
  .child declaratorSite [.token "=" 37 ⟨0, 37⟩ ⟨0, 38⟩, patternTree] requireTree

/-- The pattern of the sample is one. -/
theorem isPattern_patternTree : IsPattern patternTree := by
  have assignment : IsPattern defaultTree := by
    refine .parts (show partFields? defaultTree.kind = some ("left", "right") from rfl)
      (by decide) ?_ (by decide)
    refine List.forall_mem_cons.mpr ⟨fun _ => .name rfl (by decide), ?_⟩
    exact fun child inside has => absurd has (by revert child; decide)
  have value : IsPattern valueTree := by
    refine .container rfl rfl ?_ (by decide)
    simp [valueTree, Tree.covering, Tree.token, Tree.children, Tree.named, Tree.info, assignment]
  have pair : IsPattern pairTree := by
    refine .parts (show partFields? pairTree.kind = some ("value", "key") from rfl)
      (by decide) ?_ (by decide)
    simp [pairTree, Tree.covering, Tree.token, Tree.children, Tree.hasField, Tree.info, value]
  have rest : IsPattern restTree := by
    refine .container rfl rfl ?_ (by decide)
    refine List.forall_mem_cons.mpr ⟨fun construct => absurd construct (by decide), ?_⟩
    exact List.forall_mem_singleton.mpr fun _ => .name rfl (by decide)
  refine .container rfl rfl ?_ (by decide)
  simp [patternTree, Tree.covering, Tree.token, Tree.children, Tree.named, Tree.info, pair, rest]

/-- A pattern with a computed key, a default in a nested pattern and a rest: its two names are those
of an import and of exports, and they stay when the default is another name. -/
theorem patterns_bind_reached_names_samples :
    bindingNames patternTree = .ok ["b", "r"] ∧
      (∃ site ∈ Site.walk patternTree, site.text = .ok "f(c)" ∧ bindingNames (site.replaced
        (.covering "identifier" (some "right") 24 ⟨0, 24⟩ ⟨0, 25⟩ "d" [])) = .ok ["b", "r"]) ∧
      requireImport ⟨"m.js", requiredText, Text.lines requiredText, rfl⟩ requireSite =
        .ok (some ⟨"m", ["b", "r"], 1, requiredText⟩) ∧
      exportStatement ⟨"m.js", requiredText, Text.lines requiredText, rfl⟩ exportSite =
        .ok [⟨false, 1, requiredText, some "b"⟩, ⟨false, 1, requiredText, some "r"⟩] := by
  obtain ⟨binds, stays, imported, exported⟩ := patterns_bind_reached_names
  have reached : reachedNames patternTree = .ok ["b", "r"] := by
    rw [reachedNames, Site.walk_eq_preorder]
    decide +kernel
  have bound : bindingNames patternTree = .ok ["b", "r"] :=
    (binds patternTree isPattern_patternTree).1.trans reached
  refine ⟨bound, ?_, ?_, ?_⟩
  · obtain ⟨site, visited, text, hidden, role⟩ : ∃ site ∈ Site.walk patternTree,
        site.text = .ok "f(c)" ∧ isSetAside site = true ∧ site.tree.info.field = some "right" := by
      rw [Site.walk_eq_preorder]
      decide +kernel
    refine ⟨site, visited, text, (stays patternTree site visited hidden _ ?_).trans bound⟩
    exact role.symm
  · have result : resultPattern? requireSite = some (.child declaratorSite [] patternTree) := rfl
    have source : (requireLiteral requireSite >>= stringValue) = .ok "m" := by decide +kernel
    obtain ⟨_ | literal, required, read⟩ := bind_eq_ok.mp source
    · exact absurd read (by decide)
    · rw [imported _ _ (by simpa [result, Site.tree] using isPattern_patternTree), result]
      exact ⟨literal, "m", ["b", "r"], required, read, reached, by decide +kernel⟩
  · have patterns : declaredPatterns declarationSite = [.child declaratorSite [] patternTree] := rfl
    have names : (declaredPatterns declarationSite).mapM
        (fun pattern => reachedNames pattern.tree) = .ok [["b", "r"]] := by
      simp only [patterns, List.mapM_cons, List.mapM_nil, Site.tree, reached]
      rfl
    refine (exported _ exportSite declarationSite (by decide) rfl (by decide) ?_ _).mpr
      ⟨[["b", "r"]], names, by decide +kernel⟩
    simpa [patterns, Site.tree] using isPattern_patternTree

end EcmaScript

end SourceLens
