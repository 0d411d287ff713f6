import SourceLens.Proofs.Grammar.Survey
import SourceLens.Proofs.Python.Totality

/-!
# Contributions to Python outlines

What a site contributes to an outline, by the kind of the site (`Contribution`): every successful
reading is one of seven cases, each with the condition under which it arises. From the cases follow
the survey of an outline, the origins of its functions and the existence of an outline for every
decodable tree.
-/
namespace SourceLens.Python

open Reading

variable {site : Site} {doc : Document} {found : Findings}

/-- Whether a site is a class with a name; only these are listed. -/
def isNamedClass (site : Site) : Bool := isClass site && (site.child? "name").isSome

/-- Whether a site is a function with a name. -/
def isNamedFunction (site : Site) : Bool :=
  site.kind == "function_definition" && (site.child? "name").isSome

/-- Whether a site is a function with a name of its own or of a variable. -/
def isFunctionSite (site : Site) : Bool :=
  isNamedFunction site || (site.kind == "assignment" && (boundLambda? site).isSome)

/-- What a site contributes, with the reading that gives it. -/
inductive Contribution (doc : Document) (site : Site) : Findings → Prop
  /-- A class contributes itself. -/
  | ofClass (isClassSite : isNamedClass site = true) : Contribution doc site (.ofClass site)
  /-- A declared function. -/
  | declared (entry : FunctionEntry) (isDeclared : isNamedFunction site = true)
      (read : declaredFunction doc site = .ok entry) :
      Contribution doc site (.ofFunctions [entry])
  /-- An assignment that binds a lambda expression. -/
  | bound (function : Site) (entry : FunctionEntry) (kind : site.kind = "assignment")
      (binds : boundLambda? site = some function)
      (read : boundFunction doc site function = .ok entry) :
      Contribution doc site (.ofFunctions [entry])
  /-- Any other assignment contributes the exports that it lists. -/
  | assigned (entries : List ExportEntry) (kind : site.kind = "assignment")
      (binds : boundLambda? site = none) (read : moduleExports doc site = .ok entries) :
      Contribution doc site (.ofExports entries)
  /-- An augmented assignment contributes the exports that it lists. -/
  | augmented (entries : List ExportEntry) (kind : site.kind = "augmented_assignment")
      (read : moduleExports doc site = .ok entries) : Contribution doc site (.ofExports entries)
  /-- An import statement. -/
  | imported (entries : List ImportEntry) (kind : site.kind ∈ importStatements)
      (read : imports doc site = .ok entries) : Contribution doc site (.ofImports entries)
  /-- Any other site contributes nothing. -/
  | nothing (noClass : isNamedClass site = false) (noFunction : isNamedFunction site = false)
      (noAssignment : site.kind ≠ "assignment") (noAugmented : site.kind ≠ "augmented_assignment")
      (noImport : site.kind ∉ importStatements) : Contribution doc site .none

/-- Every contribution that is read is one of the cases. -/
theorem contribution_of_findings (read : findings doc site = .ok found) :
    Contribution doc site found := by
  unfold findings at read
  split at read
  · next isClassSite =>
    obtain rfl := pure_eq_ok.mp read
    exact .ofClass isClassSite
  next noClass =>
  split at read
  · next isDeclared =>
    obtain ⟨entry, here, rfl⟩ := bind_pure_eq_ok.mp read
    exact .declared entry isDeclared here
  next noFunction =>
  split at read
  · next kind =>
    split at read
    · next function binds =>
      obtain ⟨entry, here, rfl⟩ := bind_pure_eq_ok.mp read
      exact .bound function entry (beq_iff_eq.mp kind) binds here
    · next binds =>
      obtain ⟨entries, here, rfl⟩ := bind_pure_eq_ok.mp read
      exact .assigned entries (beq_iff_eq.mp kind) binds here
  next noAssignment =>
  split at read
  · next kind =>
    obtain ⟨entries, here, rfl⟩ := bind_pure_eq_ok.mp read
    exact .augmented entries (beq_iff_eq.mp kind) here
  next noAugmented =>
  split at read
  · next kind =>
    obtain ⟨entries, here, rfl⟩ := bind_pure_eq_ok.mp read
    exact .imported entries (by simpa using kind) here
  next noImport =>
  obtain rfl := pure_eq_ok.mp read
  exact .nothing (eq_false_of_ne_true noClass) (eq_false_of_ne_true noFunction)
    (by simpa using noAssignment) (by simpa using noAugmented) (by simpa using noImport)

/-! ## Outlines -/

/-- A site of another kind is no class. -/
theorem isNamedClass_of_kind (other : site.kind ≠ "class_definition") :
    isNamedClass site = false := by
  simp [isNamedClass, isClass, other]

/-- A site that is neither a function nor an assignment is no site of a function. -/
theorem isFunctionSite_of_kind (noFunction : site.kind ≠ "function_definition")
    (noAssignment : site.kind ≠ "assignment") : isFunctionSite site = false := by
  simp [isFunctionSite, isNamedFunction, noFunction, noAssignment]

/-- The kind of a class. -/
theorem kind_of_isNamedClass (isClassSite : isNamedClass site = true) :
    site.kind = "class_definition" := by
  simp only [isNamedClass, isClass, Bool.and_eq_true, beq_iff_eq] at isClassSite
  exact isClassSite.1

/-- The kind of a declared function. -/
theorem kind_of_isNamedFunction (isDeclared : isNamedFunction site = true) :
    site.kind = "function_definition" := by
  simp only [isNamedFunction, Bool.and_eq_true, beq_iff_eq] at isDeclared
  exact isDeclared.1

/-- The kinds of import statements are none of the others. -/
theorem kind_ne_of_import {kind : String} (imported : site.kind ∈ importStatements)
    (other : kind ∉ importStatements) : site.kind ≠ kind := by
  rintro rfl
  exact other imported

/-- Exactly the classes with a name contribute themselves. -/
theorem classes_of_findings (read : findings doc site = .ok found) :
    found.classes = if isNamedClass site then [site] else [] := by
  have other (unlike : site.kind ≠ "class_definition") :
      [] = if isNamedClass site then [site] else [] := by
    rw [isNamedClass_of_kind unlike]
    rfl
  cases contribution_of_findings read with
  | ofClass isClassSite =>
    rw [if_pos isClassSite]
    rfl
  | declared entry isDeclared => exact other (by simp [kind_of_isNamedFunction isDeclared])
  | bound function entry kind => exact other (by simp [kind])
  | assigned entries kind => exact other (by simp [kind])
  | augmented entries kind => exact other (by simp [kind])
  | imported entries kind => exact other (kind_ne_of_import kind (by decide))
  | nothing noClass =>
    rw [noClass]
    rfl

/-- The site of a function contributes one function, and nothing else. -/
theorem findings_of_isFunctionSite (isFunction : isFunctionSite site = true)
    (read : findings doc site = .ok found) : ∃ entry, found = .ofFunctions [entry] := by
  have none (noFunction : site.kind ≠ "function_definition")
      (noAssignment : site.kind ≠ "assignment") : False := by
    rw [isFunctionSite_of_kind noFunction noAssignment] at isFunction
    contradiction
  cases contribution_of_findings read with
  | ofClass isClassSite =>
    have kind := kind_of_isNamedClass isClassSite
    exact (none (by simp [kind]) (by simp [kind])).elim
  | declared entry => exact ⟨entry, rfl⟩
  | bound function entry => exact ⟨entry, rfl⟩
  | assigned entries kind binds => simp [isFunctionSite, isNamedFunction, kind, binds] at isFunction
  | augmented entries kind => exact (none (by simp [kind]) (by simp [kind])).elim
  | imported entries kind =>
    exact (none (kind_ne_of_import kind (by decide)) (kind_ne_of_import kind (by decide))).elim
  | nothing _ noFunction noAssignment =>
    simp [isFunctionSite, noFunction, noAssignment] at isFunction

/-- Any other site contributes no function. -/
theorem functions_of_not_isFunctionSite (noFunction : isFunctionSite site = false)
    (read : findings doc site = .ok found) : found.functions = [] := by
  cases contribution_of_findings read with
  | declared entry isDeclared => simp [isFunctionSite, isDeclared] at noFunction
  | bound function entry kind binds => simp [isFunctionSite, kind, binds] at noFunction
  | ofClass | assigned | augmented | imported | nothing => rfl

/-- The spans of the classes of a tree that have a name. -/
def classSpans (tree : Tree) : List (Int × Int) :=
  ((Site.walk tree).filter isNamedClass).map classSpan

/-- The outline of a tree, part by part. -/
abbrev Survey (tree : Tree) (doc : Document) (found : List Findings) (outline : Outline) : Prop :=
  Findings.Survey (findings doc) isNamedClass classSpan (classEntry doc) (Site.walk tree) found
    outline

/-- Every outline is surveyed. -/
theorem exists_survey {tree : Tree} {result : Outline} (read : outline tree doc = .ok result) :
    ∃ found, Survey tree doc found result :=
  Findings.exists_survey (fun _ _ => classes_of_findings) read

/-- The functions of an outline have origins: the function sites outside the spans of classes. -/
theorem exists_origins {tree : Tree} {result : Outline} (read : outline tree doc = .ok result) :
    ∃ candidates : List (Site × FunctionEntry),
      candidates.map (·.1) = (Site.walk tree).filter isFunctionSite ∧
      (∀ origin ∈ candidates, findings doc origin.1 = .ok (.ofFunctions [origin.2])) ∧
      Origins (findings doc) tree result.functions
        (candidates.filter fun origin => !Window.within origin.2.line (classSpans tree)) := by
  obtain ⟨found, survey⟩ := exists_survey read
  exact survey.exists_origins (fun _ _ => findings_of_isFunctionSite)
    (fun _ _ => functions_of_not_isFunctionSite)

/-- A decodable tree has an outline. -/
theorem succeeds_outline {tree : Tree} (decodable : tree.Decodable) (doc : Document) :
    Succeeds (outline tree doc) :=
  Findings.succeeds_outline_of (fun _ _ => classes_of_findings)
    (fun site inside => succeeds_findings (Site.decodable_of_mem_walk decodable site inside))
    (fun site inside => succeeds_classEntry (Site.decodable_of_mem_walk decodable site inside))

end SourceLens.Python
