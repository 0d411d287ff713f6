import SourceLens.Proofs.EcmaScript.Totality
import SourceLens.Proofs.Grammar.Survey

/-!
# Contributions to JavaScript outlines

What a site contributes to an outline, by the kind of the site (`Contribution`): every successful
reading is one of eight cases, each with the condition under which it arises. The conditions exclude
each other, so the order in which a reading asks for them does not matter. From the cases follow the
survey of an outline, the origins of its functions and the existence of an outline for every
decodable tree.
-/
namespace SourceLens.EcmaScript

open Reading

variable {site : Site} {doc : Document} {found : Findings}

/-! ## Kinds exclude each other -/

/-- The kinds of classes. -/
theorem kind_of_isClass (isClassSite : isClass site = true) :
    site.kind ∈ ["class_declaration", "abstract_class_declaration", "class"] := by
  unfold isClass at isClassSite
  split at isClassSite
  · next declared =>
    simp only [classDeclarations, List.contains_eq_mem, decide_eq_true_eq] at declared
    rcases List.mem_pair.mp declared with kind | kind <;> simp [kind]
  · simp only [classExpressions, Bool.and_eq_true, List.contains_eq_mem, decide_eq_true_eq,
      List.mem_singleton] at isClassSite
    simp [isClassSite.1]

/-- The kinds of declared functions. -/
theorem kind_of_isDeclaredFunction (declared : isDeclaredFunction site = true) :
    site.kind ∈ ["function_declaration", "generator_function_declaration", "function_expression",
      "function", "generator_function"] := by
  unfold isDeclaredFunction at declared
  split at declared
  · next kind =>
    simp only [functionDeclarations, List.contains_eq_mem, decide_eq_true_eq] at kind
    rcases List.mem_pair.mp kind with kind | kind <;> simp [kind]
  · simp only [functionValues, Bool.and_eq_true, List.contains_eq_mem, decide_eq_true_eq,
      List.mem_cons, List.not_mem_nil, or_false, bne_iff_ne, ne_eq] at declared
    obtain ⟨⟨kind, notArrow⟩, _⟩ := declared
    rcases kind with kind | kind | kind | kind <;> simp_all

/-- A class is no declared function. -/
theorem isDeclaredFunction_of_isClass (isClassSite : isClass site = true) :
    isDeclaredFunction site = false := by
  have kind := kind_of_isClass isClassSite
  by_contra declared
  have other := kind_of_isDeclaredFunction (eq_true_of_ne_false declared)
  simp only [List.mem_cons, List.not_mem_nil, or_false] at kind other
  rcases kind with kind | kind | kind <;> simp [kind] at other

/-- A site of a kind that classes do not have is no class. -/
theorem isClass_of_kind {kind : String} (here : site.kind = kind)
    (other : kind ∉ ["class_declaration", "abstract_class_declaration", "class"]) :
    isClass site = false := by
  by_contra isClassSite
  exact other (here ▸ kind_of_isClass (eq_true_of_ne_false isClassSite))

/-- A site of a kind that declared functions do not have is no declared function. -/
theorem isDeclaredFunction_of_kind {kind : String} (here : site.kind = kind)
    (other : kind ∉ ["function_declaration", "generator_function_declaration",
      "function_expression", "function", "generator_function"]) :
    isDeclaredFunction site = false := by
  by_contra declared
  exact other (here ▸ kind_of_isDeclaredFunction (eq_true_of_ne_false declared))

/-! ## The cases of a contribution -/

/-- What a site contributes, with the reading that gives it. -/
inductive Contribution (doc : Document) (site : Site) : Findings → Prop
  /-- A class contributes itself. -/
  | ofClass (isClassSite : isClass site = true) : Contribution doc site (.ofClass site)
  /-- A declared function. -/
  | declared (entry : FunctionEntry) (isDeclared : isDeclaredFunction site = true)
      (read : declaredFunction doc site = .ok entry) :
      Contribution doc site (.ofFunctions [entry])
  /-- A declarator that binds a function. -/
  | bound (function : Site) (entry : FunctionEntry) (kind : site.kind = "variable_declarator")
      (binds : boundFunction? site = some function)
      (read : boundFunction doc site function = .ok entry) :
      Contribution doc site (.ofFunctions [entry])
  /-- A declarator that binds no function contributes nothing. -/
  | binding (kind : site.kind = "variable_declarator") (binds : boundFunction? site = none) :
      Contribution doc site .none
  /-- An import statement. -/
  | imported (entry : ImportEntry) (kind : site.kind = "import_statement")
      (read : importStatement doc site = .ok entry) : Contribution doc site (.ofImports [entry])
  /-- A call contributes the import that it makes, if it does. -/
  | called (entry : Option ImportEntry) (kind : site.kind = "call_expression")
      (read : requireImport doc site = .ok entry) :
      Contribution doc site (.ofImports entry.toList)
  /-- An export statement. -/
  | exported (entries : List ExportEntry) (kind : site.kind = "export_statement")
      (read : exportStatement doc site = .ok entries) : Contribution doc site (.ofExports entries)
  /-- An assignment contributes the exports that it makes. -/
  | assigned (entries : List ExportEntry) (kind : site.kind = "assignment_expression")
      (read : assignmentExports doc site = .ok entries) :
      Contribution doc site (.ofExports entries)
  /-- Any other site contributes nothing. -/
  | nothing (noClass : isClass site = false) (noFunction : isDeclaredFunction site = false)
      (kind : site.kind ∉ ["variable_declarator", "import_statement", "call_expression",
        "export_statement", "assignment_expression"]) : Contribution doc site .none

/-- Every contribution that is read is one of the cases. -/
theorem contribution_of_findings (read : findings doc site = .ok found) :
    Contribution doc site found := by
  unfold findings at read
  split at read
  · next isClassSite =>
    obtain rfl := pure_eq_ok.mp read
    exact .ofClass isClassSite
  next noClass =>
  split at read
  · next isDeclared =>
    obtain ⟨entry, here, rfl⟩ := bind_pure_eq_ok.mp read
    exact .declared entry isDeclared here
  next noFunction =>
  split at read
  · next kind =>
    split at read
    · next binds =>
      obtain rfl := pure_eq_ok.mp read
      exact .binding (beq_iff_eq.mp kind) binds
    · next function binds =>
      obtain ⟨entry, here, rfl⟩ := bind_pure_eq_ok.mp read
      exact .bound function entry (beq_iff_eq.mp kind) binds here
  next noVariable =>
  split at read
  · next kind =>
    obtain ⟨entry, here, rfl⟩ := bind_pure_eq_ok.mp read
    exact .imported entry (beq_iff_eq.mp kind) here
  next noImport =>
  split at read
  · next kind =>
    obtain ⟨entry, here, rfl⟩ := bind_pure_eq_ok.mp read
    exact .called entry (beq_iff_eq.mp kind) here
  next noCall =>
  split at read
  · next kind =>
    obtain ⟨entries, here, rfl⟩ := bind_pure_eq_ok.mp read
    exact .exported entries (beq_iff_eq.mp kind) here
  next noExport =>
  split at read
  · next kind =>
    obtain ⟨entries, here, rfl⟩ := bind_pure_eq_ok.mp read
    exact .assigned entries (beq_iff_eq.mp kind) here
  next noAssignment =>
  obtain rfl := pure_eq_ok.mp read
  refine .nothing (by simpa using noClass) (by simpa using noFunction) ?_
  simp_all

/-! ## Outlines -/

/-- Exactly the classes contribute themselves. -/
theorem classes_of_findings (read : findings doc site = .ok found) :
    found.classes = if isClass site then [site] else [] := by
  have other {kind : String} (here : site.kind = kind)
      (unlike : kind ∉ ["class_declaration", "abstract_class_declaration", "class"]) :
      [] = if isClass site then [site] else [] := by
    rw [isClass_of_kind here unlike]
    rfl
  cases contribution_of_findings read with
  | ofClass isClassSite =>
    rw [if_pos isClassSite]
    rfl
  | declared entry isDeclared =>
    have noClass : isClass site ≠ true := by
      intro isClassSite
      rw [isDeclaredFunction_of_isClass isClassSite] at isDeclared
      contradiction
    rw [if_neg noClass]
    rfl
  | bound function entry kind => exact other kind (by decide)
  | binding kind => exact other kind (by decide)
  | imported entry kind => exact other kind (by decide)
  | called entry kind => exact other kind (by decide)
  | exported entries kind => exact other kind (by decide)
  | assigned entries kind => exact other kind (by decide)
  | nothing noClass =>
    rw [noClass]
    rfl

/-- A site of another kind is no site of a function. -/
theorem isFunctionSite_of_kind {kind : String} (here : site.kind = kind)
    (unlike : kind ∉ ["function_declaration", "generator_function_declaration",
      "function_expression", "function", "generator_function"])
    (other : kind ≠ "variable_declarator") : isFunctionSite site = false := by
  simp [isFunctionSite, isDeclaredFunction_of_kind here unlike, here, other]

/-- The site of a function contributes one function, and nothing else. -/
theorem findings_of_isFunctionSite (isFunction : isFunctionSite site = true)
    (read : findings doc site = .ok found) : ∃ entry, found = .ofFunctions [entry] := by
  have none {kind : String} (here : site.kind = kind)
      (unlike : kind ∉ ["function_declaration", "generator_function_declaration",
        "function_expression", "function", "generator_function"])
      (other : kind ≠ "variable_declarator") : False := by
    rw [isFunctionSite_of_kind here unlike other] at isFunction
    contradiction
  cases contribution_of_findings read with
  | ofClass isClassSite =>
    have kind := kind_of_isClass isClassSite
    simp only [List.mem_cons, List.not_mem_nil, or_false] at kind
    rcases kind with kind | kind | kind <;> exact (none kind (by decide) (by decide)).elim
  | declared entry => exact ⟨entry, rfl⟩
  | bound function entry => exact ⟨entry, rfl⟩
  | binding kind binds =>
    simp [isFunctionSite, binds, isDeclaredFunction_of_kind kind] at isFunction
  | imported entry kind => exact (none kind (by decide) (by decide)).elim
  | called entry kind => exact (none kind (by decide) (by decide)).elim
  | exported entries kind => exact (none kind (by decide) (by decide)).elim
  | assigned entries kind => exact (none kind (by decide) (by decide)).elim
  | nothing _ noFunction kind =>
    simp only [List.mem_cons, not_or] at kind
    simp [isFunctionSite, noFunction, kind.1] at isFunction

/-- Any other site contributes no function. -/
theorem functions_of_not_isFunctionSite (noFunction : isFunctionSite site = false)
    (read : findings doc site = .ok found) : found.functions = [] := by
  cases contribution_of_findings read with
  | declared entry isDeclared => simp [isFunctionSite, isDeclared] at noFunction
  | bound function entry kind binds => simp [isFunctionSite, kind, binds] at noFunction
  | ofClass | binding | imported | called | exported | assigned | nothing => rfl

/-- The spans of the classes of a tree. -/
def classSpans (tree : Tree) : List (Int × Int) := ((Site.walk tree).filter isClass).map Site.span

/-- The outline of a tree, part by part. -/
abbrev Survey (tree : Tree) (doc : Document) (found : List Findings) (outline : Outline) : Prop :=
  Findings.Survey (findings doc) isClass Site.span (classEntry doc) (Site.walk tree) found outline

/-- Every outline is surveyed. -/
theorem exists_survey {tree : Tree} {result : Outline} (read : outline tree doc = .ok result) :
    ∃ found, Survey tree doc found result :=
  Findings.exists_survey (fun _ _ => classes_of_findings) read

/-- The functions of an outline have origins: the function sites outside the spans of classes. -/
theorem exists_origins {tree : Tree} {result : Outline} (read : outline tree doc = .ok result) :
    ∃ candidates : List (Site × FunctionEntry),
      candidates.map (·.1) = (Site.walk tree).filter isFunctionSite ∧
      (∀ origin ∈ candidates, findings doc origin.1 = .ok (.ofFunctions [origin.2])) ∧
      Origins (findings doc) tree result.functions
        (candidates.filter fun origin => !Window.within origin.2.line (classSpans tree)) := by
  obtain ⟨found, survey⟩ := exists_survey read
  exact survey.exists_origins (fun _ _ => findings_of_isFunctionSite)
    (fun _ _ => functions_of_not_isFunctionSite)

/-- A decodable tree has an outline. -/
theorem succeeds_outline {tree : Tree} (decodable : tree.Decodable) (doc : Document) :
    Succeeds (outline tree doc) :=
  Findings.succeeds_outline_of (fun _ _ => classes_of_findings)
    (fun site inside => succeeds_findings (Site.decodable_of_mem_walk decodable site inside))
    (fun site inside => succeeds_classEntry (Site.decodable_of_mem_walk decodable site inside))

end SourceLens.EcmaScript
