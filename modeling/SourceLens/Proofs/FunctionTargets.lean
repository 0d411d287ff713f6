import SourceLens.Proofs.EcmaScript.Targets
import SourceLens.Proofs.Python.Targets

/-!
# Functions as targets

The outline and the search for a target go through a tree separately, each with its own notion of a
function and of the lines that belong to classes. They agree: a name is found as a function exactly
when the outline lists a function with that name, and the lines that are found are those of the
first one listed (`function_target_iff_listed`). In Python the decorators of a declared function
belong to its lines; a lambda expression has no decorators, so its lines are those of its assignment
alone, whatever stands around it (`lambda_target_without_decorators`).
-/
namespace SourceLens

open Reading

/-- The outline and the search for functions of a JavaScript tree agree about a name: the name is
found as a function exactly when a function with that name is listed, and then the first line found
is that of the first such function. -/
def EcmaScript.FunctionTargetAgrees (tree : Tree) (doc : Document) (raw name : String) : Prop :=
  ∃ outline found, EcmaScript.outline tree doc = .ok outline ∧
    EcmaScript.resolve tree ⟨raw, "function", name, none⟩ = .ok found ∧
    ((∃ span, found = some span ∧ span.targetType = "function") ↔
      ∃ entry ∈ outline.functions, entry.name = name) ∧
    ∀ span, found = some span → span.targetType = "function" → ∃ entry,
      outline.functions.find? (fun entry => entry.name == name) = some entry ∧
        span.start = entry.line

/-- The outline and the search for functions of a Python tree agree about a name: the name is found
as a function exactly when a function with that name is listed, and then the lines that are found
are the lines of the site that the first such function comes from. -/
def Python.FunctionTargetAgrees (lines : Site → Int × Int) (tree : Tree) (doc : Document)
    (raw name : String) : Prop :=
  ∃ outline found origins, Python.outline tree doc = .ok outline ∧
    Python.resolve tree ⟨raw, "function", name, none⟩ = .ok found ∧
    Origins (Python.findings doc) tree outline.functions origins ∧
    ((∃ span, found = some span ∧ span.targetType = "function") ↔
      ∃ entry ∈ outline.functions, entry.name = name) ∧
    ∀ span, found = some span → span.targetType = "function" → ∃ site entry,
      origins.find? (fun origin => origin.2.name == name) = some (site, entry) ∧
        (span.start, span.stop) = lines site

/-- The outline and the search for a target agree about functions, in JavaScript for all names, in
Python for trees whose classes all have names and for names that are not empty. The lines found in
Python are those of the decorated definition around a declared function, if there is one, and of
the assignment of a lambda expression. -/
theorem function_target_iff_listed :
    (∀ (tree : Tree) (doc : Document) (raw name : String), tree.Decodable →
      EcmaScript.FunctionTargetAgrees tree doc raw name) ∧
    (∀ (tree : Tree) (doc : Document) (raw name : String), tree.Decodable →
      Python.ClassesNamed tree → name ≠ "" →
      Python.FunctionTargetAgrees
        (fun site => if site.kind = "function_definition" then (Python.outer site).span
          else site.span) tree doc raw name) := by
  constructor
  · intro tree doc raw name decodable
    obtain ⟨outline, read⟩ := EcmaScript.succeeds_outline decodable doc
    obtain ⟨origins, directory, known, places, resolved⟩ := EcmaScript.resolve_function_eq read
    obtain ⟨agrees, first⟩ :=
      known.function_found_iff places name (EcmaScript.functionTarget name) (fun _ => rfl) rfl
    refine ⟨outline, _, read, resolved raw name, agrees, fun span found kind => ?_⟩
    obtain ⟨site, entry, origin, rfl⟩ := first span found kind
    refine ⟨entry, by rw [known.find?_entries fun entry => entry.name == name, origin]; rfl, ?_⟩
    have contributed := known.contributed _ (List.mem_of_find?_eq_some origin)
    exact (EcmaScript.name_line_of_findings contributed).2.symm
  · intro tree doc raw name decodable named nonempty
    obtain ⟨outline, read⟩ := Python.succeeds_outline decodable doc
    obtain ⟨origins, directory, known, places, resolved⟩ := Python.resolve_function_eq named read
    obtain ⟨agrees, first⟩ :=
      known.function_found_iff places name (Python.functionTarget name) (fun _ => rfl) rfl
    refine ⟨outline, _, origins, read, resolved raw name nonempty, known, agrees,
      fun span found kind => ?_⟩
    obtain ⟨site, entry, origin, rfl⟩ := first span found kind
    refine ⟨site, entry, origin, ?_⟩
    simp only [Python.functionTarget, Python.functionSpan, beq_iff_eq]

/-- The agreement at a tree of either language. -/
theorem function_target_iff_listed_samples :
    EcmaScript.methodThenFunction.Decodable ∧ Python.methodThenFunction.Decodable ∧
      Python.ClassesNamed Python.methodThenFunction ∧ "f" ≠ "" ∧
      EcmaScript.FunctionTargetAgrees EcmaScript.methodThenFunction
        ⟨"c.js", EcmaScript.methodThenFunctionText, _, rfl⟩ "function:f" "f" ∧
      Python.FunctionTargetAgrees
        (fun site => if site.kind = "function_definition" then (Python.outer site).span
          else site.span)
        Python.methodThenFunction ⟨"p.py", Python.methodThenFunctionText, _, rfl⟩ "function:f"
        "f" := by
  have script : EcmaScript.methodThenFunction.Decodable := by
    simp [EcmaScript.methodThenFunction]
  have module : Python.methodThenFunction.Decodable := by simp [Python.methodThenFunction]
  have nonempty : "f" ≠ "" := by decide
  exact ⟨script, module, Python.classesNamed_methodThenFunction, nonempty,
    function_target_iff_listed.1 _ _ _ _ script,
    function_target_iff_listed.2 _ _ _ _ module Python.classesNamed_methodThenFunction nonempty⟩

/-- A lambda expression bound where a decorator asks for a definition. -/
def decoratedLambda : Tree :=
  .covering "module" none 0 ⟨0, 0⟩ ⟨2, 0⟩ "@d\nf = lambda: 0\n"
    [.covering "decorated_definition" none 0 ⟨0, 0⟩ ⟨1, 13⟩ "@d\nf = lambda: 0"
      [.covering "decorator" none 0 ⟨0, 0⟩ ⟨0, 2⟩ "@d" [],
        .covering "assignment" (some "definition") 3 ⟨1, 0⟩ ⟨1, 13⟩ "f = lambda: 0"
          [.covering "identifier" (some "left") 3 ⟨1, 0⟩ ⟨1, 1⟩ "f" [],
            .covering "lambda" (some "right") 7 ⟨1, 4⟩ ⟨1, 13⟩ "lambda: 0" []]]]

/-- The sample has no classes. -/
theorem classesNamed_decoratedLambda : Python.ClassesNamed decoratedLambda := by
  have noClass : (Site.walk decoratedLambda).filter Python.isClass = [] := by
    rw [Site.walk_eq_preorder]
    rfl
  intro site inside isClassSite
  have member := List.mem_filter.mpr ⟨inside, isClassSite⟩
  simp [noClass] at member

/-- The lines of a lambda expression are never those of a decorated definition around it: the
sample is found in the second line alone, and the node around it has two. -/
theorem lambda_target_without_decorators :
    decoratedLambda.Decodable ∧ Python.ClassesNamed decoratedLambda ∧
      ¬ Python.FunctionTargetAgrees (fun site => (Python.outer site).span) decoratedLambda
        ⟨"p.py", "@d\nf = lambda: 0\n", _, rfl⟩ "function:f" "f" := by
  refine ⟨by simp [decoratedLambda], classesNamed_decoratedLambda, ?_⟩
  rintro ⟨outline, found, origins, read, resolved, known, agrees, first⟩
  have answer : Python.resolve decoratedLambda ⟨"function:f", "function", "f", none⟩ =
      .ok (some ⟨"function", "f", 2, 2, none⟩) := by
    simp only [Python.resolve, Python.findFunction, Python.findMethod, Site.walk_eq_preorder]
    rfl
  obtain rfl := Except.ok.inj (resolved.symm.trans answer)
  obtain ⟨site, entry, origin, lines⟩ := first _ rfl rfl
  -- the assignment is the only site that a function comes from
  have only : ((Site.walk decoratedLambda).filter fun site =>
      (Python.functionName? site).isSome).map (fun site => (Python.outer site).span) =
        [(1, 2)] := by
    rw [Site.walk_eq_preorder]
    rfl
  have inside := List.mem_of_find?_eq_some origin
  obtain ⟨named, here, _⟩ := Python.name_line_of_findings (known.contributed (site, entry) inside)
  dsimp only at here lines
  have walked : site ∈ Site.walk decoratedLambda :=
    known.order.subset (List.mem_map_of_mem (f := (·.1)) inside)
  have member : (Python.outer site).span ∈ [(1, 2)] := by
    rw [← only]
    exact List.mem_map.mpr ⟨site, List.mem_filter.mpr ⟨walked, by simp [here]⟩, rfl⟩
  rw [← lines] at member
  exact absurd member (by decide)

end SourceLens
