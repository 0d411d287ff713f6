import SourceLens.Grammar.EcmaScript
import SourceLens.Proofs.Grammar.Totality

/-!
# Outlines and targets of decodable JavaScript trees

Every part of an outline is read at a decodable site, so a decodable tree has an outline
(`succeeds_outline`). Whatever a qualifier asks for is found there or not (`succeeds_resolve`), and
the tree has its symbols (`succeeds_symbols`). Each reading of the grammar has one lemma, in the
order of the definitions.
-/
namespace SourceLens.EcmaScript

open Reading

variable {site : Site} {doc : Document}

/-- The content of a string literal that may be absent is read. -/
theorem succeeds_stringValue {site? : Option Site} (decodable : ∀ site ∈ site?, site.Decodable) :
    Succeeds (stringValue site?) := by
  cases site? with
  | none => exact succeeds_pure ""
  | some site =>
    exact succeeds_bind (decodable site rfl).succeeds_text fun content _ => succeeds_pure _

/-- The plain name of a parameter stands at a decodable site. -/
theorem decodable_of_plainName? (decodable : site.Decodable) :
    ∀ name ∈ plainName? site, name.Decodable := by
  intro name found
  unfold plainName? at found
  split at found
  · obtain rfl := Option.some.inj found
    exact decodable
  · split at found
    · exact decodable.of_child? (Option.mem_filter_iff.mp found).1
    · contradiction

/-- The names of parameters are read. -/
theorem succeeds_parameterNames (decodable : site.Decodable) : Succeeds (parameterNames site) := by
  unfold parameterNames
  split
  · next found =>
    have name := succeeds_textOf? (decodable_of_plainName? (decodable.of_child? found))
    exact succeeds_bind name fun _ _ => succeeds_pure _
  · exact succeeds_pure []
  · next found =>
    refine succeeds_mapM fun parameter kept => ?_
    have inside := (List.mem_filter.mp kept).1
    exact succeeds_textOf?
      (decodable_of_plainName? ((decodable.of_child? found).of_mem_namedChildren inside))

/-- The display form of a function is read. -/
theorem succeeds_signature (decodable : site.Decodable) (name : String) :
    Succeeds (signature site name) :=
  succeeds_bind (succeeds_parameterNames decodable) fun _ _ => succeeds_pure _

/-- The statement that a comment documents stands at a decodable site. -/
theorem decodable_commentAnchor (decodable : site.Decodable) : (commentAnchor site).Decodable := by
  induction site with
  | root tree => exact decodable
  | child parent elders tree ih =>
    unfold commentAnchor
    split
    · exact ih decodable.1
    · exact decodable

/-- The documentation comment is read. -/
theorem succeeds_docComment (decodable : site.Decodable) : Succeeds (docComment site) := by
  unfold docComment
  split
  · exact succeeds_pure none
  · next found =>
    split
    · have previous := (decodable_commentAnchor decodable).of_previousNamed? found
      exact succeeds_bind previous.exists_text fun _ _ => succeeds_pure _
    · exact succeeds_pure none

mutual

/-- The names that a pattern binds are read. -/
theorem succeeds_bindingNames (tree : Tree) (decodable : tree.Decodable) :
    Succeeds (bindingNames tree) := by
  match tree with
  | .node info bytes children =>
    have below : ∀ child ∈ children, child.Decodable :=
      fun child inside => decodable.of_mem_children inside
    unfold bindingNames
    split
    · exact succeeds_bind decodable.exists_text fun _ _ => succeeds_pure _
    · split
      · exact succeeds_fieldBindings "value" children below
      · split
        · exact succeeds_fieldBindings "left" children below
        · exact succeeds_allBindings children below

/-- The names that the first child with a field binds are read. -/
theorem succeeds_fieldBindings (field : String) (trees : List Tree)
    (decodable : ∀ tree ∈ trees, tree.Decodable) : Succeeds (fieldBindings field trees) := by
  match trees with
  | [] => exact succeeds_pure []
  | tree :: trees =>
    unfold fieldBindings
    split
    · exact succeeds_bindingNames tree (decodable tree (by simp))
    · exact succeeds_fieldBindings field trees fun other later => decodable other (by simp [later])

/-- The names that several children bind are read. -/
theorem succeeds_allBindings (trees : List Tree) (decodable : ∀ tree ∈ trees, tree.Decodable) :
    Succeeds (allBindings trees) := by
  match trees with
  | [] => exact succeeds_pure []
  | tree :: trees =>
    have rest := succeeds_allBindings trees fun other later => decodable other (by simp [later])
    unfold allBindings
    split
    · refine succeeds_bind (succeeds_bindingNames tree (decodable tree (by simp))) fun _ _ => ?_
      exact succeeds_bind rest fun _ _ => succeeds_pure _
    · exact rest

end

/-- The names that a pattern which may be absent binds are read. -/
theorem succeeds_boundNames {site? : Option Site} (decodable : ∀ site ∈ site?, site.Decodable) :
    Succeeds (boundNames site?) := by
  cases site? with
  | none => exact succeeds_pure []
  | some site => exact succeeds_bindingNames site.tree (decodable site rfl).tree

/-- The expression of a decodable heritage is decodable. -/
theorem decodable_of_extended? {expression : Site} (decodable : site.Decodable)
    (chosen : extended? site = some expression) : expression.Decodable := by
  unfold extended? at chosen
  split at chosen
  · next clause =>
    have clause := decodable.of_childOfKind? clause
    rcases Option.or_eq_some_iff.mp chosen with value | ⟨_, first⟩
    · exact clause.of_child? value
    · exact clause.of_mem_namedChildren (List.mem_of_head? first)
  · exact decodable.of_mem_namedChildren (List.mem_of_head? chosen)

/-- The class that a class extends is read. -/
theorem succeeds_superclass (decodable : site.Decodable) : Succeeds (superclass site) := by
  unfold superclass
  split
  · exact succeeds_pure none
  · next chosen =>
    obtain ⟨heritage, found, extended⟩ := Option.bind_eq_some_iff.mp chosen
    have expression := decodable_of_extended? (decodable.of_childOfKind? found) extended
    split
    · exact succeeds_textOf? fun _ same => Option.some.inj same ▸ expression
    · exact succeeds_pure none

/-- The name and the function of a member stand at decodable sites. -/
theorem decodable_of_memberParts? {name function : Site} (decodable : site.Decodable)
    (found : memberParts? site = some (name, function)) :
    name.Decodable ∧ function.Decodable := by
  unfold memberParts? at found
  split at found
  · split at found
    · next named =>
      split at found
      · obtain ⟨rfl, rfl⟩ := Prod.mk.inj (Option.some.inj found)
        exact ⟨decodable.of_child? named, decodable⟩
      · contradiction
    · contradiction
  · split at found
    · split at found
      · next named valued =>
        split at found
        · obtain ⟨rfl, rfl⟩ := Prod.mk.inj (Option.some.inj found)
          refine ⟨?_, decodable.of_child? valued⟩
          rcases Option.or_eq_some_iff.mp named with property | ⟨_, own⟩
          · exact decodable.of_child? property
          · exact decodable.of_child? own
        · contradiction
      · contradiction
    · contradiction

/-- A member of a class body is read. -/
theorem succeeds_member? (decodable : site.Decodable) : Succeeds (member? site) := by
  unfold member?
  split
  · exact succeeds_pure none
  · next found =>
    refine succeeds_bind (succeeds_textsOf fun _ => decodable.of_childOfKind?) fun _ _ => ?_
    have name := (decodable_of_memberParts? decodable found).1
    exact succeeds_bind name.succeeds_text fun _ _ => succeeds_pure _

/-- The members of a class are read. -/
theorem succeeds_members (decodable : site.Decodable) : Succeeds (members site) := by
  unfold members
  split
  · exact succeeds_pure []
  · next found =>
    exact succeeds_filterMapM fun member inside =>
      succeeds_member? ((decodable.of_child? found).of_mem_namedChildren inside)

/-- The site of a member that was read and that of its function, as its parts say. -/
theorem memberParts?_of_member? {member : Member} (read : member? site = .ok (some member)) :
    member.site = site ∧ ∃ name, memberParts? site = some (name, member.function) := by
  unfold member? at read
  split at read
  · simp [pure_eq_ok] at read
  · next found =>
    obtain ⟨access, _, read⟩ := bind_eq_ok.mp read
    obtain ⟨content, _, read⟩ := bind_eq_ok.mp read
    obtain rfl := Option.some.inj (pure_eq_ok.mp read)
    exact ⟨rfl, _, found⟩

/-- The members of a class and their functions stand at decodable sites. -/
theorem decodable_of_mem_members {found : List Member} {member : Member}
    (decodable : site.Decodable) (read : members site = .ok found) (listed : member ∈ found) :
    member.site.Decodable ∧ member.function.Decodable := by
  unfold members at read
  split at read
  · obtain rfl := pure_eq_ok.mp read
    simp at listed
  · next body =>
    obtain ⟨inner, inside, here⟩ := exists_of_mem_filterMapM read listed
    have below := (decodable.of_child? body).of_mem_namedChildren inside
    obtain ⟨same, name, parts⟩ := memberParts?_of_member? here
    exact ⟨same ▸ below, (decodable_of_memberParts? below parts).2⟩

/-- The display form of a member is read. -/
theorem succeeds_memberSignature {member : Member} (decodable : member.function.Decodable) :
    Succeeds (memberSignature member) :=
  succeeds_bind (succeeds_parameterNames decodable) fun _ _ => succeeds_pure _

/-! ## Imports and exports -/

/-- The name of a default export is read. -/
theorem succeeds_defaultExportName {site? : Option Site}
    (decodable : ∀ site ∈ site?, site.Decodable) : Succeeds (defaultExportName site?) := by
  cases site? with
  | none => exact succeeds_pure none
  | some target =>
    rw [defaultExportName]
    split
    · exact succeeds_textOf? decodable
    · split
      · exact succeeds_textOf? fun _ => (decodable target rfl).of_child?
      · exact succeeds_pure none

/-- The names of an exported declaration are read. -/
theorem succeeds_declaredNames (decodable : site.Decodable) : Succeeds (declaredNames site) := by
  unfold declaredNames
  split
  · split
    · exact succeeds_pure []
    · next found =>
      exact succeeds_bind (decodable.of_child? found).succeeds_text fun _ _ => succeeds_pure _
  · split
    · refine succeeds_bind (succeeds_mapM fun declarator kept => ?_) fun _ _ => succeeds_pure _
      have inside := decodable.of_mem_namedChildren (List.mem_filter.mp kept).1
      exact succeeds_boundNames fun _ => inside.of_child?
    · exact succeeds_pure []

/-- The comparison with an identifier is read. -/
theorem succeeds_isIdentifier (decodable : site.Decodable) (name : String) :
    Succeeds (isIdentifier name site) := by
  unfold isIdentifier
  split
  · exact succeeds_bind decodable.succeeds_text fun _ _ => succeeds_pure _
  · exact succeeds_pure false

/-- The comparison with `module.exports` is read. -/
theorem succeeds_isModuleExports (decodable : site.Decodable) :
    Succeeds (isModuleExports site) := by
  unfold isModuleExports
  split
  · exact succeeds_pure false
  · next found =>
    split
    · refine succeeds_bind (succeeds_isIdentifier (decodable.of_child? found) _) fun owned _ => ?_
      split
      · exact succeeds_bind (decodable.succeeds_textOr_child? _) fun _ _ => succeeds_pure _
      · exact succeeds_pure false
    · exact succeeds_pure false

/-- The key of a property is read. -/
theorem succeeds_objectKey (decodable : site.Decodable) : Succeeds (objectKey site) := by
  unfold objectKey
  split
  · exact succeeds_bind decodable.succeeds_text fun _ _ => succeeds_pure _
  · split
    · exact succeeds_bind (succeeds_stringValue fun _ => decodable.of_child?)
        fun _ _ => succeeds_pure _
    · split
      · exact succeeds_bind (decodable.succeeds_textOr_child? _) fun _ _ => succeeds_pure _
      · exact succeeds_pure none

/-- The first argument of a call stands at a decodable site. -/
theorem decodable_of_literalArgument? {literal : Site} (decodable : site.Decodable)
    (found : literalArgument? site = some literal) : literal.Decodable := by
  simp only [literalArgument?, Option.bind_eq_bind, Option.bind_eq_some_iff] at found
  obtain ⟨arguments, listed, first, head, chosen⟩ := found
  split at chosen
  · obtain rfl := Option.some.inj chosen
    have inside := (List.mem_filter.mp (List.mem_of_head? head)).1
    exact (decodable.of_child? listed).of_mem_namedChildren inside
  · contradiction

/-- The literal of a call of `require` is read. -/
theorem succeeds_requireLiteral (decodable : site.Decodable) : Succeeds (requireLiteral site) := by
  unfold requireLiteral
  split
  · exact succeeds_pure none
  · next found =>
    exact succeeds_bind (succeeds_isIdentifier (decodable.of_child? found) _)
      fun _ _ => succeeds_pure _

/-- The literal of a call of `require` is the first argument of the call. -/
theorem literalArgument?_of_requireLiteral {literal : Site}
    (read : requireLiteral site = .ok (some literal)) : literalArgument? site = some literal := by
  unfold requireLiteral at read
  split at read
  · simp [pure_eq_ok] at read
  · obtain ⟨required, _, read⟩ := bind_eq_ok.mp read
    have chosen := pure_eq_ok.mp read
    split at chosen
    · exact chosen
    · contradiction

/-- The names that a part of an import clause binds are read. -/
theorem succeeds_importedNames (decodable : site.Decodable) : Succeeds (importedNames site) := by
  unfold importedNames
  split
  · exact succeeds_bind decodable.succeeds_text fun _ _ => succeeds_pure _
  · split
    · exact succeeds_bind (succeeds_textOr fun _ => decodable.of_childOfKind?)
        fun _ _ => succeeds_pure _
    · split
      · refine succeeds_mapM fun specifier kept => ?_
        have inside := decodable.of_mem_namedChildren (List.mem_filter.mp kept).1
        exact succeeds_stringValue fun _ => inside.of_child?
      · exact succeeds_pure []

/-- The names that an import clause binds are read. -/
theorem succeeds_clauseImports {site? : Option Site} (decodable : ∀ site ∈ site?, site.Decodable) :
    Succeeds (clauseImports site?) := by
  cases site? with
  | none => exact succeeds_pure []
  | some clause =>
    have parts := succeeds_mapM fun part (inside : part ∈ clause.namedChildren) =>
      succeeds_importedNames ((decodable clause rfl).of_mem_namedChildren inside)
    exact succeeds_bind parts fun _ _ => succeeds_pure _

/-- An import statement is read. -/
theorem succeeds_importStatement (decodable : site.Decodable) :
    Succeeds (importStatement doc site) := by
  refine succeeds_bind (succeeds_textsOf ?_) fun bound _ => ?_
  · intro name found
    obtain ⟨clause, required, named⟩ := Option.bind_eq_some_iff.mp found
    exact (decodable.of_childOfKind? required).of_childOfKind? named
  refine succeeds_bind (succeeds_clauseImports fun _ => decodable.of_childOfKind?) fun _ _ => ?_
  refine succeeds_bind (succeeds_stringValue ?_) fun _ _ => succeeds_pure _
  intro source found
  split at found
  · exact decodable.of_child? found
  · next required =>
    have clause := decodable.of_childOfKind? required
    rcases Option.or_eq_some_iff.mp found with named | ⟨_, first⟩
    · exact clause.of_child? named
    · exact clause.of_childOfKind? first

/-- The names that the result of a call is bound to are read. -/
theorem succeeds_resultNames (decodable : site.Decodable) : Succeeds (resultNames site) := by
  unfold resultNames
  split
  · exact succeeds_pure []
  · next above =>
    split
    · exact succeeds_boundNames fun _ => (decodable.of_parent above).of_child?
    · exact succeeds_pure []

/-- The import that a call of `require` makes is read. -/
theorem succeeds_requireImport (decodable : site.Decodable) :
    Succeeds (requireImport doc site) := by
  refine succeeds_bind (succeeds_requireLiteral decodable) fun literal read => ?_
  cases literal with
  | none => exact succeeds_pure none
  | some literal =>
    have inside := decodable_of_literalArgument? decodable (literalArgument?_of_requireLiteral read)
    refine succeeds_bind (succeeds_resultNames decodable) fun _ _ => ?_
    refine succeeds_bind (succeeds_stringValue ?_) fun _ _ => succeeds_pure _
    intro site same
    exact Option.some.inj same ▸ inside

/-- The names in the clause of an export statement are read. -/
theorem succeeds_clauseNames (decodable : site.Decodable) : Succeeds (clauseNames site) := by
  unfold clauseNames
  split
  · next found =>
    refine succeeds_bind (succeeds_mapM fun specifier kept => ?_) fun _ _ => succeeds_pure _
    have clause := decodable.of_childOfKind? found
    have inside := clause.of_mem_namedChildren (List.mem_filter.mp kept).1
    refine succeeds_stringValue fun name chosen => ?_
    rcases Option.or_eq_some_iff.mp chosen with renamed | ⟨_, own⟩
    · exact inside.of_child? renamed
    · exact inside.of_child? own
  · next found =>
    split
    · exact succeeds_pure _
    · next first =>
      refine succeeds_bind (succeeds_stringValue fun name same => ?_) fun _ _ => succeeds_pure _
      have kept := (List.mem_filter.mp (List.mem_of_head? first)).1
      exact Option.some.inj same ▸ (decodable.of_childOfKind? found).of_mem_namedChildren kept
  · exact succeeds_pure _

/-- The exports of an export statement are read. -/
theorem succeeds_exportStatement (decodable : site.Decodable) :
    Succeeds (exportStatement doc site) := by
  unfold exportStatement
  split
  · refine succeeds_bind (succeeds_defaultExportName ?_) fun _ _ => succeeds_pure _
    intro target chosen
    rcases Option.or_eq_some_iff.mp chosen with declaration | ⟨_, value⟩
    · exact decodable.of_child? declaration
    · exact decodable.of_child? value
  · split
    · next found =>
      exact succeeds_bind (succeeds_declaredNames (decodable.of_child? found))
        fun _ _ => succeeds_pure _
    · refine succeeds_bind (succeeds_clauseNames decodable) fun clause _ => ?_
      cases clause with
      | some names => exact succeeds_pure _
      | none =>
        dsimp only
        split
        · refine succeeds_bind (succeeds_defaultExportName ?_) fun _ _ => succeeds_pure _
          intro target first
          exact decodable.of_mem_namedChildren (List.mem_filter.mp (List.mem_of_head? first)).1
        · exact succeeds_pure []

/-- The comparison with the objects that hold exports is read. -/
theorem succeeds_isExportsObject {site? : Option Site}
    (decodable : ∀ site ∈ site?, site.Decodable) : Succeeds (isExportsObject site?) := by
  cases site? with
  | none => exact succeeds_pure false
  | some object =>
    rw [isExportsObject]
    split
    · exact succeeds_isIdentifier (decodable object rfl) _
    · exact succeeds_isModuleExports (decodable object rfl)

/-- The exports of an assignment to `module.exports` are read. -/
theorem succeeds_moduleExports {value : Site} (decodable : value.Decodable) :
    Succeeds (moduleExports doc site value) := by
  unfold moduleExports
  split
  · refine succeeds_filterMapM fun property inside => ?_
    exact succeeds_bind (succeeds_objectKey (decodable.of_mem_namedChildren inside))
      fun _ _ => succeeds_pure _
  · refine succeeds_bind (succeeds_defaultExportName ?_) fun _ _ => succeeds_pure _
    intro target same
    exact Option.some.inj same ▸ decodable

/-- The exports of an assignment are read. -/
theorem succeeds_assignmentExports (decodable : site.Decodable) :
    Succeeds (assignmentExports doc site) := by
  unfold assignmentExports
  split
  · next leftFound rightFound =>
    have left := decodable.of_child? leftFound
    split
    · refine succeeds_bind (left.succeeds_textOr_child? _) fun property _ => ?_
      refine succeeds_bind (succeeds_isExportsObject fun _ => left.of_child?) fun member _ => ?_
      split
      · exact succeeds_pure _
      · refine succeeds_bind (succeeds_isModuleExports left) fun whole _ => ?_
        split
        · exact succeeds_moduleExports (decodable.of_child? rightFound)
        · exact succeeds_pure []
    · exact succeeds_pure []
  · exact succeeds_pure []

/-! ## Outline -/

/-- A declared function is read. -/
theorem succeeds_declaredFunction (decodable : site.Decodable) :
    Succeeds (declaredFunction doc site) := by
  refine succeeds_bind (decodable.succeeds_textOr_child? _) fun name _ => ?_
  refine succeeds_bind (succeeds_signature decodable name) fun _ _ => ?_
  exact succeeds_bind (succeeds_docComment decodable) fun _ _ => succeeds_pure _

/-- A function that a declarator binds stands at a decodable site. -/
theorem decodable_of_boundFunction? {function : Site} (decodable : site.Decodable)
    (found : boundFunction? site = some function) : function.Decodable := by
  unfold boundFunction? at found
  split at found
  · next value =>
    split at found
    · obtain rfl := Option.some.inj found
      exact decodable.of_child? value
    · contradiction
  · contradiction

/-- A function bound by a declarator is read. -/
theorem succeeds_boundFunction {function : Site} (decodable : site.Decodable)
    (value : function.Decodable) : Succeeds (boundFunction doc site function) := by
  refine succeeds_bind (decodable.succeeds_textOr_child? _) fun name _ => ?_
  refine succeeds_bind (value.succeeds_textOr_child? _) fun own _ => ?_
  refine succeeds_bind (succeeds_signature value own) fun _ _ => ?_
  exact succeeds_bind (succeeds_docComment decodable) fun _ _ => succeeds_pure _

/-- A class with its methods is read. -/
theorem succeeds_classEntry (decodable : site.Decodable) : Succeeds (classEntry doc site) := by
  refine succeeds_bind (decodable.succeeds_textOr_child? _) fun name _ => ?_
  refine succeeds_bind (succeeds_members decodable) fun found read => ?_
  refine succeeds_bind (succeeds_mapM fun member listed => ?_) fun methods _ => ?_
  · have function := (decodable_of_mem_members decodable read listed).2
    exact succeeds_bind (succeeds_memberSignature function) fun _ _ => succeeds_pure _
  refine succeeds_bind (succeeds_superclass decodable) fun _ _ => ?_
  exact succeeds_bind (succeeds_docComment decodable) fun _ _ => succeeds_pure _

/-- What a site contributes to the outline is read. -/
theorem succeeds_findings (decodable : site.Decodable) : Succeeds (findings doc site) := by
  unfold findings
  split
  · exact succeeds_pure _
  split
  · exact succeeds_bind (succeeds_declaredFunction decodable) fun _ _ => succeeds_pure _
  split
  · split
    · exact succeeds_pure _
    · next bound =>
      have value := decodable_of_boundFunction? decodable bound
      exact succeeds_bind (succeeds_boundFunction decodable value) fun _ _ => succeeds_pure _
  split
  · exact succeeds_bind (succeeds_importStatement decodable) fun _ _ => succeeds_pure _
  split
  · exact succeeds_bind (succeeds_requireImport decodable) fun _ _ => succeeds_pure _
  split
  · exact succeeds_bind (succeeds_exportStatement decodable) fun _ _ => succeeds_pure _
  split
  · exact succeeds_bind (succeeds_assignmentExports decodable) fun _ _ => succeeds_pure _
  · exact succeeds_pure _

/-! ## Targets -/

variable {tree : Tree}

/-- The classes of a decodable tree stand at decodable sites. -/
theorem decodable_of_mem_classes (decodable : tree.Decodable)
    (listed : site ∈ (Site.walk tree).filter isClass) : site.Decodable :=
  Site.decodable_of_mem_walk decodable site (List.mem_filter.mp listed).1

/-- The search for a class is read. -/
theorem succeeds_findClass (decodable : tree.Decodable) (name : String) :
    Succeeds (findClass tree name) := by
  refine succeeds_findSomeM? fun site listed => ?_
  have here := decodable_of_mem_classes decodable listed
  exact succeeds_bind (here.succeeds_textOr_child? _) fun _ _ => succeeds_pure _

/-- The search for a member is read. -/
theorem succeeds_findMember (decodable : tree.Decodable) (name : String)
    (className : Option String) : Succeeds (findMember tree name className) := by
  refine succeeds_findSomeM? fun site listed => ?_
  have here := decodable_of_mem_classes decodable listed
  refine succeeds_bind (here.succeeds_textOr_child? _) fun owner _ => ?_
  split
  · exact succeeds_bind (succeeds_members here) fun _ _ => succeeds_pure _
  · exact succeeds_pure none

/-- The search for a function is read. -/
theorem succeeds_findFunction (decodable : tree.Decodable) (name : String) :
    Succeeds (findFunction tree name) := by
  refine succeeds_findSomeM? fun site listed => ?_
  have here := Site.decodable_of_mem_walk decodable site (List.mem_filter.mp listed).1
  exact succeeds_bind (here.succeeds_textOr_child? _) fun _ _ => succeeds_pure _

/-- What a qualifier asks for is looked up in a decodable tree. -/
theorem succeeds_resolve (decodable : tree.Decodable) (qualifier : Qualifier) :
    Succeeds (resolve tree qualifier) := by
  unfold resolve
  split
  · exact succeeds_findMember decodable _ _
  split
  · exact succeeds_findClass decodable _
  split
  · exact succeeds_findMember decodable _ _
  split
  · refine succeeds_bind (succeeds_findFunction decodable _) fun found _ => ?_
    cases found with
    | none => exact succeeds_findMember decodable _ _
    | some span => exact succeeds_pure _
  · exact succeeds_pure none

/-! ## Symbols -/

mutual

/-- The dotted name of what is called is read. -/
theorem succeeds_calleeName (tree : Tree) (decodable : tree.Decodable) :
    Succeeds (calleeName tree) := by
  match tree with
  | .node info bytes children =>
    have below : ∀ child ∈ children, child.Decodable :=
      fun child inside => decodable.of_mem_children inside
    unfold calleeName
    split
    · exact decodable.exists_text
    · split
      · refine succeeds_bind (succeeds_fieldCallee "object" children below) fun _ _ => ?_
        cases found : children.find? (·.hasField "property") with
        | none => exact succeeds_bind (succeeds_pure "") fun _ _ => succeeds_pure _
        | some property =>
          have text := (below property (List.mem_of_find?_eq_some found)).exists_text
          exact succeeds_bind text fun _ _ => succeeds_pure _
      · exact succeeds_pure ""

/-- The dotted name in the first child with a field is read. -/
theorem succeeds_fieldCallee (field : String) (trees : List Tree)
    (decodable : ∀ tree ∈ trees, tree.Decodable) : Succeeds (fieldCallee field trees) := by
  match trees with
  | [] => exact succeeds_pure ""
  | tree :: trees =>
    unfold fieldCallee
    split
    · exact succeeds_calleeName tree (decodable tree (by simp))
    · exact succeeds_fieldCallee field trees fun other later => decodable other (by simp [later])

end

/-- The keyword of a declaration is read. -/
theorem succeeds_declarationKeyword (decodable : site.Decodable) :
    Succeeds (declarationKeyword site) := by
  unfold declarationKeyword
  split
  · exact succeeds_pure []
  · next above =>
    split
    · split
      · exact succeeds_pure []
      · next first =>
        have keyword := (decodable.of_parent above).tree.of_mem_children (List.mem_of_head? first)
        exact succeeds_bind keyword.exists_text fun _ _ => succeeds_pure _
    · exact succeeds_pure []

/-- The symbol of a declared function is read. -/
theorem succeeds_functionSymbol (decodable : site.Decodable) :
    Succeeds (functionSymbol doc site) := by
  refine succeeds_bind (decodable.succeeds_textOr_child? _) fun _ _ => ?_
  exact succeeds_bind (succeeds_docComment decodable) fun _ _ => decodable.succeeds_symbol ..

/-- The symbol of a declarator is read, whether it binds a function or another value. -/
theorem succeeds_boundSymbol (decodable : site.Decodable) (keyword : List String) (name : String)
    (documented : Option String) : Succeeds (boundSymbol doc site keyword name documented) := by
  unfold boundSymbol
  split <;> exact decodable.succeeds_symbol ..

/-- The symbols of a declarator are read. -/
theorem succeeds_variableSymbols (decodable : site.Decodable) :
    Succeeds (variableSymbols doc site) := by
  unfold variableSymbols
  split
  · exact succeeds_pure []
  · next found =>
    split
    · exact succeeds_pure []
    · refine succeeds_bind (succeeds_declarationKeyword decodable) fun _ _ => ?_
      refine succeeds_bind (decodable.of_child? found).succeeds_text fun _ _ => ?_
      refine succeeds_bind (succeeds_docComment decodable) fun _ _ => ?_
      exact succeeds_bind (succeeds_boundSymbol decodable ..) fun _ _ => succeeds_pure _

/-- The symbols of a class and its members are read. -/
theorem succeeds_classSymbols (decodable : site.Decodable) : Succeeds (classSymbols doc site) := by
  refine succeeds_bind (decodable.succeeds_textOr_child? _) fun _ _ => ?_
  refine succeeds_bind (succeeds_docComment decodable) fun _ _ => ?_
  refine succeeds_bind (decodable.succeeds_symbol ..) fun _ _ => ?_
  refine succeeds_bind (succeeds_members decodable) fun found read => ?_
  refine succeeds_bind (succeeds_mapM fun member listed => ?_) fun _ _ => succeeds_pure _
  have inside := (decodable_of_mem_members decodable read listed).1
  exact succeeds_bind (succeeds_docComment inside) fun _ _ => inside.succeeds_symbol ..

/-- The symbol of a call of `require` is read. -/
theorem succeeds_requireSymbols (decodable : site.Decodable) :
    Succeeds (requireSymbols doc site) := by
  refine succeeds_bind (succeeds_requireLiteral decodable) fun literal read => ?_
  cases literal with
  | none => exact succeeds_pure []
  | some literal =>
    have inside := decodable_of_literalArgument? decodable (literalArgument?_of_requireLiteral read)
    refine succeeds_bind (succeeds_stringValue ?_) fun _ _ => ?_
    · exact fun _ same => Option.some.inj same ▸ inside
    exact succeeds_bind (decodable.succeeds_symbol ..) fun _ _ => succeeds_pure _

/-- The symbols of a call are read. -/
theorem succeeds_callSymbols (decodable : site.Decodable) : Succeeds (callSymbols doc site) := by
  refine succeeds_bind (succeeds_requireSymbols decodable) fun _ _ => ?_
  refine succeeds_bind ?_ fun callee _ => ?_
  · cases found : site.child? "function" with
    | none => exact succeeds_pure ""
    | some function => exact succeeds_calleeName _ (decodable.of_child? found).tree
  split
  · exact succeeds_pure _
  · exact succeeds_bind (decodable.succeeds_symbol ..) fun _ _ => succeeds_pure _

/-- The symbols of a site are read. -/
theorem succeeds_siteSymbols (decodable : site.Decodable) : Succeeds (siteSymbols doc site) := by
  unfold siteSymbols
  split
  · exact succeeds_bind (succeeds_functionSymbol decodable) fun _ _ => succeeds_pure _
  split
  · exact succeeds_variableSymbols decodable
  split
  · exact succeeds_classSymbols decodable
  split
  · refine succeeds_bind (succeeds_importStatement decodable) fun _ _ => ?_
    exact succeeds_bind (decodable.succeeds_symbol ..) fun _ _ => succeeds_pure _
  split
  · exact succeeds_callSymbols decodable
  split
  · refine succeeds_bind (succeeds_exportStatement decodable) fun _ _ => ?_
    exact succeeds_mapM fun _ _ => decodable.succeeds_symbol ..
  split
  · exact succeeds_bind (succeeds_assignmentExports decodable) fun _ _ => succeeds_pure _
  · exact succeeds_pure []

/-- A decodable tree has its symbols. -/
theorem succeeds_symbols (decodable : tree.Decodable) (doc : Document) :
    Succeeds (symbols tree doc) := by
  refine succeeds_bind (succeeds_mapM fun site inside => ?_) fun _ _ => succeeds_pure _
  exact succeeds_siteSymbols (Site.decodable_of_mem_walk decodable site inside)

end SourceLens.EcmaScript
