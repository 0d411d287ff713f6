import SourceLens.Grammar.Python
import SourceLens.Proofs.Grammar.Totality

/-!
# Outlines, targets and symbols of decodable Python trees

Every part of an outline and every symbol is read at a decodable site, so a decodable tree has its
symbols (`succeeds_symbols`), and whatever a qualifier asks for is found there or not
(`succeeds_resolve`). Each reading of the grammar has one lemma, in the order of the definitions.
-/
namespace SourceLens.Python

open Reading

variable {site : Site} {doc : Document}

/-- The content of a string literal is read. -/
theorem succeeds_stringValue (decodable : site.Decodable) : Succeeds (stringValue site) :=
  succeeds_bind decodable.succeeds_text fun _ _ => succeeds_pure _

/-! ## Parts of declarations -/

/-- The node that holds a definition with its decorators is the definition, or the decorated one right
above it. -/
theorem outer_cases (site : Site) :
    outer site = site ∨
      site.parent? = some (outer site) ∧ (outer site).kind = "decorated_definition" := by
  unfold outer
  split
  · exact .inl rfl
  · next parent above =>
    split
    · next kind => exact .inr ⟨above, beq_iff_eq.mp kind⟩
    · exact .inl rfl

/-- The definition of a statement is the statement, or a child of it. -/
theorem inner_cases (site : Site) : inner site = site ∨ inner site ∈ site.children := by
  unfold inner
  split
  · cases held : site.child? "definition" with
    | none => exact .inl rfl
    | some definition => exact .inr (List.mem_of_find?_eq_some held)
  · exact .inl rfl

/-- The node around a definition and its decorators is decodable. -/
theorem decodable_outer (decodable : site.Decodable) : (outer site).Decodable := by
  rcases outer_cases site with same | ⟨above, _⟩
  · rwa [same]
  · exact decodable.of_parent above

/-- The definition inside a decorated one is decodable. -/
theorem decodable_inner (decodable : site.Decodable) : (inner site).Decodable := by
  rcases inner_cases site with same | below
  · rwa [same]
  · exact decodable.of_mem_children below

/-- The name of a decorator stands at a decodable site. -/
theorem decodable_of_decoratorName? {name : Option Site} (decodable : site.Decodable)
    (found : decoratorName? site = some name) : ∀ inside ∈ name, inside.Decodable := by
  intro inside here
  unfold decoratorName? at found
  split at found
  · obtain ⟨expression, first, rfl⟩ := Option.map_eq_some_iff.mp found
    have below := decodable.of_mem_namedChildren (List.mem_of_head? first)
    split at here
    · exact below.of_child? here
    · exact Option.some.inj here ▸ below
  · contradiction

/-- The names of decorators are read. -/
theorem succeeds_decoratorNames (decodable : site.Decodable) :
    Succeeds (decoratorNames site) := by
  refine succeeds_mapM fun name kept => ?_
  obtain ⟨decorator, inside, found⟩ := List.mem_filterMap.mp kept
  exact succeeds_textOr
    (decodable_of_decoratorName? ((decodable_outer decodable).of_mem_children inside) found)

/-- The plain name of a parameter stands at a decodable site. -/
theorem decodable_of_plainName? (decodable : site.Decodable) :
    ∀ name ∈ plainName? site, name.Decodable := by
  intro name found
  unfold plainName? at found
  split at found
  · exact Option.some.inj found ▸ decodable
  · split at found
    · have first := (Option.mem_filter_iff.mp found).1
      exact decodable.of_mem_namedChildren (List.mem_of_head? first)
    · contradiction

/-- The names of parameters are read. -/
theorem succeeds_parameterNames (decodable : site.Decodable) : Succeeds (parameterNames site) := by
  unfold parameterNames
  split
  · exact succeeds_pure []
  · next found =>
    refine succeeds_mapM fun parameter kept => ?_
    have inside := (decodable.of_child? found).of_mem_namedChildren (List.mem_filter.mp kept).1
    exact succeeds_textOf? (decodable_of_plainName? inside)

/-- The string literal that documents a definition stands at a decodable site. -/
theorem decodable_of_docLiteral? {literal : Site} (decodable : site.Decodable)
    (found : docLiteral? site = some literal) : literal.Decodable := by
  simp only [docLiteral?, Option.bind_eq_bind, Option.bind_eq_some_iff] at found
  obtain ⟨body, hasBody, first, head, found⟩ := found
  have kept := (List.mem_filter.mp (List.mem_of_head? head)).1
  have statement := (decodable.of_child? hasBody).of_mem_namedChildren kept
  split at found
  · obtain ⟨inside, expression, chosen⟩ := Option.bind_eq_some_iff.mp found
    have below := statement.of_mem_namedChildren (List.mem_of_head? expression)
    split at chosen
    · exact Option.some.inj chosen ▸ below
    · contradiction
  · contradiction

/-- The text that documents a definition is read. -/
theorem succeeds_docString (decodable : site.Decodable) : Succeeds (docString site) := by
  unfold docString
  split
  · exact succeeds_pure none
  · next found =>
    exact succeeds_bind (succeeds_stringValue (decodable_of_docLiteral? decodable found))
      fun _ _ => succeeds_pure _

/-- The methods of a class stand at decodable sites. -/
theorem decodable_of_mem_methods {method : Site} (decodable : site.Decodable)
    (listed : method ∈ methods site) : method.Decodable := by
  unfold methods at listed
  split at listed
  · simp at listed
  · next body =>
    obtain ⟨statement, inside, rfl⟩ := List.mem_map.mp (List.mem_filter.mp listed).1
    exact decodable_inner ((decodable.of_child? body).of_mem_namedChildren inside)

/-- The base of a class is read. -/
theorem succeeds_superclass (decodable : site.Decodable) : Succeeds (superclass site) := by
  refine succeeds_textOf? fun base found => ?_
  obtain ⟨arguments, listed, chosen⟩ := Option.bind_eq_some_iff.mp found
  exact (decodable.of_child? listed).of_mem_namedChildren (List.mem_of_find?_eq_some chosen)

/-- A lambda expression that an assignment binds stands at a decodable site. -/
theorem decodable_of_boundLambda? {function : Site} (decodable : site.Decodable)
    (found : boundLambda? site = some function) : function.Decodable := by
  unfold boundLambda? at found
  split at found
  · next value =>
    split at found
    · exact Option.some.inj found ▸ decodable.of_child? value
    · contradiction
  · contradiction

mutual

/-- The names of an attribute chain are read. -/
theorem succeeds_chainNames (tree : Tree) (decodable : tree.Decodable) :
    Succeeds (chainNames tree) := by
  match tree with
  | .node info bytes children =>
    have below : ∀ child ∈ children, child.Decodable :=
      fun child inside => decodable.of_mem_children inside
    have rest := succeeds_fieldChain "object" children below
    unfold chainNames
    split
    · dsimp only
      split
      · exact succeeds_bind (succeeds_pure _) fun _ _ =>
          succeeds_bind rest fun _ _ => succeeds_pure _
      · next found =>
        have name := below _ (List.mem_of_find?_eq_some found)
        refine succeeds_bind name.exists_text fun _ _ => ?_
        exact succeeds_bind (succeeds_pure _) fun _ _ =>
          succeeds_bind rest fun _ _ => succeeds_pure _
    · split
      · exact succeeds_bind decodable.exists_text fun _ _ => succeeds_pure _
      · exact succeeds_pure []

/-- The names of the chain in the first child with a field are read. -/
theorem succeeds_fieldChain (field : String) (trees : List Tree)
    (decodable : ∀ tree ∈ trees, tree.Decodable) : Succeeds (fieldChain field trees) := by
  match trees with
  | [] => exact succeeds_pure []
  | tree :: trees =>
    unfold fieldChain
    split
    · exact succeeds_chainNames tree (decodable tree (by simp))
    · exact succeeds_fieldChain field trees fun other later => decodable other (by simp [later])

end

mutual

/-- The dotted name of what is called is read. -/
theorem succeeds_calleeName (tree : Tree) (decodable : tree.Decodable) :
    Succeeds (calleeName tree) := by
  match tree with
  | .node info bytes children =>
    unfold calleeName
    split
    · exact decodable.exists_text
    · split
      · exact succeeds_bind (succeeds_chainNames _ decodable) fun _ _ => succeeds_pure _
      · split
        · exact succeeds_fieldCallee "function" children
            fun child inside => decodable.of_mem_children inside
        · exact succeeds_pure ""

/-- The dotted name in the first child with a field is read. -/
theorem succeeds_fieldCallee (field : String) (trees : List Tree)
    (decodable : ∀ tree ∈ trees, tree.Decodable) : Succeeds (fieldCallee field trees) := by
  match trees with
  | [] => exact succeeds_pure ""
  | tree :: trees =>
    unfold fieldCallee
    split
    · exact succeeds_calleeName tree (decodable tree (by simp))
    · exact succeeds_fieldCallee field trees fun other later => decodable other (by simp [later])

end

/-! ## Imports and exports -/

/-- The imports of an import statement are read. -/
theorem succeeds_imports (decodable : site.Decodable) : Succeeds (imports doc site) := by
  have named : ∀ name ∈ site.childrenWith "name", name.Decodable :=
    fun name kept => decodable.of_mem_children (List.mem_filter.mp kept).1
  unfold imports
  dsimp only
  split
  · refine succeeds_mapM fun name listed => ?_
    have here := named name listed
    split
    · refine succeeds_bind (here.succeeds_textOr_child? _) fun _ _ => ?_
      exact succeeds_bind (here.succeeds_textOr_child? _) fun _ _ => succeeds_pure _
    · exact succeeds_bind here.succeeds_text fun _ _ => succeeds_pure _
  · refine succeeds_bind ?_ fun source _ => ?_
    · cases found : site.child? "module_name" with
      | none => exact succeeds_pure _
      | some name => exact (decodable.of_child? found).succeeds_text
    refine succeeds_bind (succeeds_mapM fun name listed => ?_) fun _ _ => succeeds_pure _
    have here := named name listed
    split
    · exact here.succeeds_textOr_child? _
    · exact here.succeeds_text

/-- The exports that an assignment lists are read. -/
theorem succeeds_listedExports (decodable : site.Decodable) :
    Succeeds (listedExports doc site) := by
  unfold listedExports
  split
  · exact succeeds_pure []
  · next leftFound =>
    refine succeeds_bind (decodable.of_child? leftFound).succeeds_text fun name _ => ?_
    split
    · exact succeeds_pure []
    · next rightFound =>
      split
      · refine succeeds_mapM fun element kept => ?_
        have right := decodable.of_child? rightFound
        have inside := right.of_mem_namedChildren (List.mem_filter.mp kept).1
        exact succeeds_bind (succeeds_stringValue inside) fun _ _ => succeeds_pure _
      · exact succeeds_pure []

/-- The exports of a statement of the module are read. -/
theorem succeeds_moduleExports (decodable : site.Decodable) :
    Succeeds (moduleExports doc site) := by
  unfold moduleExports
  split
  · exact succeeds_listedExports decodable
  · exact succeeds_pure []

/-! ## Outline -/

/-- A declared function is read. -/
theorem succeeds_declaredFunction (decodable : site.Decodable) :
    Succeeds (declaredFunction doc site) := by
  refine succeeds_bind (decodable.succeeds_textOr_child? _) fun name _ => ?_
  refine succeeds_bind (succeeds_parameterNames decodable) fun _ _ => ?_
  exact succeeds_bind (succeeds_docString decodable) fun _ _ => succeeds_pure _

/-- A bound lambda expression is read. -/
theorem succeeds_boundFunction {function : Site} (decodable : site.Decodable)
    (value : function.Decodable) : Succeeds (boundFunction doc site function) := by
  refine succeeds_bind (decodable.succeeds_textOr_child? _) fun name _ => ?_
  exact succeeds_bind (succeeds_parameterNames value) fun _ _ => succeeds_pure _

/-- A method of a class is read. -/
theorem succeeds_methodEntry (decodable : site.Decodable) (className : String) :
    Succeeds (methodEntry className site) := by
  refine succeeds_bind (decodable.succeeds_textOr_child? _) fun name _ => ?_
  refine succeeds_bind (succeeds_decoratorNames decodable) fun _ _ => ?_
  exact succeeds_bind (succeeds_parameterNames decodable) fun _ _ => succeeds_pure _

/-- A class with its methods is read. -/
theorem succeeds_classEntry (decodable : site.Decodable) : Succeeds (classEntry doc site) := by
  refine succeeds_bind (decodable.succeeds_textOr_child? _) fun name _ => ?_
  refine succeeds_bind (succeeds_mapM fun method listed => ?_) fun _ _ => ?_
  · exact succeeds_methodEntry (decodable_of_mem_methods decodable listed) name
  refine succeeds_bind (succeeds_superclass decodable) fun _ _ => ?_
  exact succeeds_bind (succeeds_docString decodable) fun _ _ => succeeds_pure _

/-- What a site contributes to the outline is read. -/
theorem succeeds_findings (decodable : site.Decodable) : Succeeds (findings doc site) := by
  unfold findings
  split
  · exact succeeds_pure _
  split
  · exact succeeds_bind (succeeds_declaredFunction decodable) fun _ _ => succeeds_pure _
  split
  · split
    · next binds =>
      have value := decodable_of_boundLambda? decodable binds
      exact succeeds_bind (succeeds_boundFunction decodable value) fun _ _ => succeeds_pure _
    · exact succeeds_bind (succeeds_moduleExports decodable) fun _ _ => succeeds_pure _
  split
  · exact succeeds_bind (succeeds_moduleExports decodable) fun _ _ => succeeds_pure _
  split
  · exact succeeds_bind (succeeds_imports decodable) fun _ _ => succeeds_pure _
  · exact succeeds_pure _

/-! ## Targets -/

section Targets

variable {tree : Tree}

/-- The classes of a decodable tree stand at decodable sites. -/
theorem decodable_of_mem_classes (decodable : tree.Decodable)
    (listed : site ∈ (Site.walk tree).filter isClass) : site.Decodable :=
  Site.decodable_of_mem_walk decodable site (List.mem_filter.mp listed).1

/-- The search for a class is read. -/
theorem succeeds_findClass (decodable : tree.Decodable) (name : String) :
    Succeeds (findClass tree name) := by
  refine succeeds_findSomeM? fun site listed => ?_
  have here := decodable_of_mem_classes decodable listed
  exact succeeds_bind (here.succeeds_textOr_child? _) fun _ _ => succeeds_pure _

/-- The search for a method is read. -/
theorem succeeds_findMethod (decodable : tree.Decodable) (name : String)
    (className : Option String) : Succeeds (findMethod tree name className) := by
  refine succeeds_findSomeM? fun site listed => ?_
  have here := decodable_of_mem_classes decodable listed
  refine succeeds_bind (here.succeeds_textOr_child? _) fun owner _ => ?_
  split
  · refine succeeds_findSomeM? fun method inside => ?_
    have method := decodable_of_mem_methods here inside
    exact succeeds_bind (method.succeeds_textOr_child? _) fun _ _ => succeeds_pure _
  · exact succeeds_pure none

/-- The name of a function stands at a decodable site. -/
theorem decodable_of_functionName? {named : Option Site} (decodable : site.Decodable)
    (function : functionName? site = some named) : ∀ name ∈ named, name.Decodable := by
  unfold functionName? at function
  split at function
  · obtain rfl := Option.some.inj function
    exact fun _ found => decodable.of_child? found
  split at function
  · obtain rfl := Option.some.inj function
    exact fun _ found => decodable.of_child? found
  · cases function

/-- The search for a function is read. -/
theorem succeeds_findFunction (decodable : tree.Decodable) (name : String) :
    Succeeds (findFunction tree name) := by
  refine succeeds_findSomeM? fun site listed => ?_
  have here := Site.decodable_of_mem_walk decodable site listed
  split
  · exact succeeds_pure none
  · next named function =>
    exact succeeds_bind (succeeds_textOr (decodable_of_functionName? here function))
      fun _ _ => succeeds_pure _

/-- What a qualifier asks for is looked up in a decodable tree. -/
theorem succeeds_resolve (decodable : tree.Decodable) (qualifier : Qualifier) :
    Succeeds (resolve tree qualifier) := by
  unfold resolve
  split
  · exact succeeds_findMethod decodable _ _
  split
  · exact succeeds_findClass decodable _
  split
  · exact succeeds_findMethod decodable _ _
  split
  · refine succeeds_bind (succeeds_findFunction decodable _) fun found _ => ?_
    cases found with
    | none => exact succeeds_findMethod decodable _ _
    | some span => exact succeeds_pure _
  · exact succeeds_pure none

end Targets

/-! ## Symbols -/

/-- The modifiers of a function or method are read. -/
theorem succeeds_functionModifiers (decodable : site.Decodable) :
    Succeeds (functionModifiers site) := by
  unfold functionModifiers
  split
  · exact succeeds_bind (succeeds_decoratorNames decodable) fun _ _ => succeeds_pure _
  · exact succeeds_pure _

/-- The symbol of a function is read. -/
theorem succeeds_functionSymbols (decodable : site.Decodable) :
    Succeeds (functionSymbols doc site) := by
  unfold functionSymbols
  split
  · exact succeeds_pure []
  · next found =>
    refine succeeds_bind (decodable.of_child? found).succeeds_text fun _ _ => ?_
    refine succeeds_bind (succeeds_functionModifiers decodable) fun _ _ => ?_
    refine succeeds_bind (succeeds_docString decodable) fun _ _ => ?_
    exact succeeds_bind (decodable.succeeds_symbol ..) fun _ _ => succeeds_pure _

/-- The symbol of a class is read. -/
theorem succeeds_classSymbols (decodable : site.Decodable) : Succeeds (classSymbols doc site) := by
  unfold classSymbols
  split
  · exact succeeds_pure []
  · next found =>
    refine succeeds_bind (decodable.of_child? found).succeeds_text fun _ _ => ?_
    refine succeeds_bind (succeeds_docString decodable) fun _ _ => ?_
    exact succeeds_bind (decodable.succeeds_symbol ..) fun _ _ => succeeds_pure _

/-- The symbols of an assignment are read. -/
theorem succeeds_assignmentSymbols (decodable : site.Decodable) :
    Succeeds (assignmentSymbols doc site) := by
  unfold assignmentSymbols
  split
  · exact succeeds_pure []
  · next found =>
    split
    · refine succeeds_bind (decodable.of_child? found).succeeds_text fun _ _ => ?_
      split
      · exact succeeds_bind (decodable.succeeds_symbol ..) fun _ _ => succeeds_pure _
      · refine succeeds_bind (decodable.succeeds_symbol ..) fun _ _ => ?_
        exact succeeds_bind (succeeds_moduleExports decodable) fun _ _ => succeeds_pure _
    · exact succeeds_pure []

/-- The symbol of a call is read. -/
theorem succeeds_callSymbols (decodable : site.Decodable) : Succeeds (callSymbols doc site) := by
  refine succeeds_bind ?_ fun callee _ => ?_
  · cases found : site.child? "function" with
    | none => exact succeeds_pure ""
    | some function => exact succeeds_calleeName _ (decodable.of_child? found).tree
  split
  · exact succeeds_pure []
  · exact succeeds_bind (decodable.succeeds_symbol ..) fun _ _ => succeeds_pure _

/-- The symbols of a site are read. -/
theorem succeeds_siteSymbols (decodable : site.Decodable) : Succeeds (siteSymbols doc site) := by
  unfold siteSymbols
  split
  · exact succeeds_functionSymbols decodable
  split
  · exact succeeds_classSymbols decodable
  split
  · exact succeeds_assignmentSymbols decodable
  split
  · refine succeeds_bind (succeeds_imports decodable) fun _ _ => ?_
    exact succeeds_mapM fun _ _ => decodable.succeeds_symbol ..
  split
  · exact succeeds_callSymbols decodable
  · exact succeeds_pure []

/-- A decodable tree has its symbols. -/
theorem succeeds_symbols {tree : Tree} (decodable : tree.Decodable) (doc : Document) :
    Succeeds (symbols tree doc) := by
  refine succeeds_bind (succeeds_mapM fun site inside => ?_) fun _ _ => succeeds_pure _
  exact succeeds_siteSymbols (Site.decodable_of_mem_walk decodable site inside)

end SourceLens.Python
