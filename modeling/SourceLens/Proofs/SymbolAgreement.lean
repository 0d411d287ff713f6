import SourceLens.Proofs.EcmaScript.Symbols
import SourceLens.Proofs.EcmaScript.Targets
import SourceLens.Proofs.Python.Symbols
import SourceLens.Proofs.Python.Targets

/-!
# Outline and search

The outline of a tree and the symbols that a search goes through are made by two passes over the
tree that share no case distinction. Whenever both are read, they show the same declarations in the
same order (`outline_symbols_agree`).
-/
namespace SourceLens

/-- The outline and the symbols of a tree show the same declarations, in JavaScript functions,
classes, members, imports and exports, in Python functions, classes and imports. -/
theorem outline_symbols_agree :
    (∀ (tree : Tree) (doc : Document) (outline : Outline) (symbols : List Symbol),
      EcmaScript.outline tree doc = .ok outline → EcmaScript.symbols tree doc = .ok symbols →
      EcmaScript.SameDeclarations (EcmaScript.classSpans tree) outline symbols) ∧
    (∀ (tree : Tree) (doc : Document) (outline : Outline) (symbols : List Symbol),
      Python.outline tree doc = .ok outline → Python.symbols tree doc = .ok symbols →
      Python.SameDeclarations (Python.classSpans tree) outline symbols) := by
  constructor
  · intro tree doc outline symbols read made
    exact EcmaScript.sameDeclarations_of_outline read made
  · intro tree doc outline symbols read made
    exact Python.sameDeclarations_of_outline read made

/-- The symbols of a class with a method and of a function with the same name. -/
def EcmaScript.methodThenFunctionSymbols : List Symbol :=
  [⟨"C", 1, 0, "class_declaration", .classes, [], none, none⟩,
    ⟨"f", 1, 10, "class_method", .functions, [], some "class:C", none⟩,
    ⟨"f", 2, 0, "function_declaration", .functions, [], none, none⟩]

/-- The agreement at a tree of either language. -/
theorem outline_symbols_agree_samples :
    EcmaScript.outline EcmaScript.methodThenFunction
        ⟨"c.js", EcmaScript.methodThenFunctionText, _, rfl⟩ =
          .ok EcmaScript.methodThenFunctionOutline ∧
      EcmaScript.symbols EcmaScript.methodThenFunction
        ⟨"c.js", EcmaScript.methodThenFunctionText, _, rfl⟩ =
          .ok EcmaScript.methodThenFunctionSymbols ∧
      EcmaScript.SameDeclarations (EcmaScript.classSpans EcmaScript.methodThenFunction)
        EcmaScript.methodThenFunctionOutline EcmaScript.methodThenFunctionSymbols ∧
      ∃ outline symbols,
        Python.outline Python.methodThenFunction
          ⟨"p.py", Python.methodThenFunctionText, _, rfl⟩ = .ok outline ∧
        Python.symbols Python.methodThenFunction
          ⟨"p.py", Python.methodThenFunctionText, _, rfl⟩ = .ok symbols ∧
        Python.SameDeclarations (Python.classSpans Python.methodThenFunction) outline symbols := by
  have shown : EcmaScript.symbols EcmaScript.methodThenFunction
      ⟨"c.js", EcmaScript.methodThenFunctionText, _, rfl⟩ =
        .ok EcmaScript.methodThenFunctionSymbols := by
    simp only [EcmaScript.symbols, Site.walk_eq_preorder]
    decide +kernel
  have decodable : Python.methodThenFunction.Decodable := by simp [Python.methodThenFunction]
  obtain ⟨outline, read⟩ := Python.succeeds_outline decodable
    ⟨"p.py", Python.methodThenFunctionText, _, rfl⟩
  obtain ⟨symbols, made⟩ := Python.succeeds_symbols decodable
    ⟨"p.py", Python.methodThenFunctionText, _, rfl⟩
  exact ⟨EcmaScript.outline_methodThenFunction, shown,
    outline_symbols_agree.1 _ _ _ _ EcmaScript.outline_methodThenFunction shown,
    outline, symbols, read, made, outline_symbols_agree.2 _ _ _ _ read made⟩

end SourceLens
