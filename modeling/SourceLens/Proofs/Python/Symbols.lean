import SourceLens.Proofs.Grammar.Sightings
import SourceLens.Proofs.Python.Contribution

/-!
# Python symbols beside the outline

At every site the outline and the symbols show the same functions, classes and imports
(`sameDeclarations_of_site`), so they do for the whole tree, apart from the functions inside
classes, which the outline leaves out (`sameDeclarations_of_outline`). Exports are compared
elsewhere: an augmented assignment can list exports in the outline and has no symbols
(`siteSymbols_of_augmented`).
-/
namespace SourceLens.Python

open Reading

variable {tree : Tree} {doc : Document} {site : Site} {found : Findings}
  {classes : List ClassEntry} {symbols : List Symbol}

/-- An outline and symbols show the same functions outside some spans, and the same classes and
imports, in the same order. Methods count as functions here. -/
structure SameDeclarations (spans : List (Int × Int)) (outline : Outline)
    (symbols : List Symbol) : Prop where
  /-- The functions have the same places. -/
  functions : outline.functions.map (·.place) =
    ((symbolsOf .functions symbols).filter fun symbol =>
      !Window.within symbol.line spans).map (·.place)
  /-- The classes have the same places. -/
  classes : outline.classes.map (·.place) = (symbolsOf .classes symbols).map (·.place)
  /-- The imports have the same sources and lines. -/
  imports : outline.imports.map (fun entry => (entry.source, entry.line)) =
    (symbolsOf .imports symbols).map fun symbol => (symbol.name, symbol.line)

namespace SameDeclarations

/-- Where nothing is declared, nothing is shown. -/
theorem nothing : SameDeclarations [] .empty [] := ⟨rfl, rfl, rfl⟩

/-- Parts that show the same declarations do so together. -/
theorem join {first second : Outline} {left right : List Symbol}
    (head : SameDeclarations [] first left) (tail : SameDeclarations [] second right) :
    SameDeclarations [] (first.join second) (left ++ right) where
  functions := by simpa [Outline.join] using congrArg₂ (· ++ ·) head.functions tail.functions
  classes := by simpa [Outline.join] using congrArg₂ (· ++ ·) head.classes tail.classes
  imports := by simpa [Outline.join] using congrArg₂ (· ++ ·) head.imports tail.imports

/-- The functions outside some spans are the same when all functions are. -/
theorem outside {whole : Outline} (same : SameDeclarations [] whole symbols)
    (spans : List (Int × Int)) :
    SameDeclarations spans
      { whole with
        functions := whole.functions.filter fun entry => !Window.within entry.line spans }
      symbols where
  functions := by
    have all : (symbolsOf .functions symbols).filter (fun symbol =>
        !Window.within symbol.line []) = symbolsOf .functions symbols :=
      List.filter_eq_self.mpr fun symbol _ => by simp [Window.within]
    have functions := same.functions
    rw [all] at functions
    exact map_filter_eq_of_map_eq (fun key => !Window.within key.2.1 spans) functions
  classes := same.classes
  imports := same.imports

/-- One function and its symbol. -/
theorem function {entry : FunctionEntry} {symbol : Symbol} (shown : entry.place = symbol.place)
    (category : symbol.category = .functions) :
    SameDeclarations [] ⟨[entry], [], [], []⟩ [symbol] := by
  constructor <;> simp [category, shown, Window.within]

/-- One class and its symbol. -/
theorem ofClass {entry : ClassEntry} {symbol : Symbol} (shown : entry.place = symbol.place)
    (category : symbol.category = .classes) :
    SameDeclarations [] ⟨[], [entry], [], []⟩ [symbol] := by
  constructor <;> simp [category, shown]

/-- Imports and their symbols. -/
theorem importList {entries : List ImportEntry}
    (shown : entries.map (fun entry => (entry.source, entry.line)) =
      symbols.map fun symbol => (symbol.name, symbol.line))
    (category : ∀ symbol ∈ symbols, symbol.category = .imports) :
    SameDeclarations [] ⟨[], [], entries, []⟩ symbols := by
  constructor <;> simp [symbolsOf_of_forall category, shown]

/-- Symbols that stand for none of these declarations, whatever is exported. -/
theorem other {exports : List ExportEntry}
    (category : ∀ symbol ∈ symbols, symbol.category ∈ [Category.exports, .bindings, .calls]) :
    SameDeclarations [] ⟨[], [], [], exports⟩ symbols := by
  have none (declared : Category) (unlike : declared ∉ [Category.exports, .bindings, .calls]) :
      symbolsOf declared symbols = [] := by
    refine List.filter_eq_nil_iff.mpr fun symbol inside same => ?_
    obtain rfl : symbol.category = declared := by simpa using same
    exact unlike (category symbol inside)
  constructor
  · simp [none .functions (by decide)]
  · simp [none .classes (by decide)]
  · simp [none .imports (by decide)]

end SameDeclarations

/-! ## One site -/

/-- The symbols of a function: itself, if it has a name. -/
theorem functionSymbols_cases (made : functionSymbols doc site = .ok symbols) :
    (site.child? "name" = none ∧ symbols = []) ∨
      ∃ name modifiers scope documented, textOr (site.child? "name") = .ok name ∧
        functionModifiers site = .ok modifiers ∧ site.scope scopes = .ok scope ∧
        docString site = .ok documented ∧
        symbols = [⟨name, site.startLine, site.columnIn doc,
          if isMethod site then "class_method" else FunctionEntry.declaredForm, .functions,
          modifiers, scope, documented⟩] := by
  unfold functionSymbols at made
  split at made
  · next absent => exact .inl ⟨absent, (pure_eq_ok.mp made).symm⟩
  · next present =>
    obtain ⟨name, named, made⟩ := bind_eq_ok.mp made
    obtain ⟨modifiers, modified, made⟩ := bind_eq_ok.mp made
    obtain ⟨documented, docRead, made⟩ := bind_eq_ok.mp made
    obtain ⟨symbol, shown, rfl⟩ := bind_pure_eq_ok.mp made
    obtain ⟨scope, placed, rfl⟩ := bind_pure_eq_ok.mp shown
    rw [present]
    exact .inr ⟨name, modifiers, scope, documented, named, modified, placed, docRead, rfl⟩

/-- The symbols of a class: itself, if it has a name. -/
theorem classSymbols_cases (made : classSymbols doc site = .ok symbols) :
    (site.child? "name" = none ∧ symbols = []) ∨
      ∃ name scope documented, textOr (site.child? "name") = .ok name ∧
        docString site = .ok documented ∧
        symbols = [⟨name, site.startLine, site.columnIn doc, "class_declaration", .classes, [],
          scope, documented⟩] := by
  unfold classSymbols at made
  split at made
  · next absent => exact .inl ⟨absent, (pure_eq_ok.mp made).symm⟩
  · next present =>
    obtain ⟨name, named, made⟩ := bind_eq_ok.mp made
    obtain ⟨documented, docRead, made⟩ := bind_eq_ok.mp made
    obtain ⟨symbol, shown, rfl⟩ := bind_pure_eq_ok.mp made
    obtain ⟨scope, rfl⟩ := Site.exists_scope_of_symbol shown
    rw [present]
    exact .inr ⟨name, scope, documented, named, docRead, rfl⟩

/-- A declared function shows itself. -/
theorem sameDeclarations_of_declared {entry : FunctionEntry}
    (isDeclared : isNamedFunction site = true) (read : declaredFunction doc site = .ok entry)
    (made : siteSymbols doc site = .ok symbols) :
    SameDeclarations [] ⟨[entry], [], [], []⟩ symbols := by
  have kind := kind_of_isNamedFunction isDeclared
  obtain ⟨name, named, read⟩ := bind_eq_ok.mp read
  obtain ⟨names, _, read⟩ := bind_eq_ok.mp read
  obtain ⟨documented, docRead, rfl⟩ := bind_pure_eq_ok.mp read
  have asked : siteSymbols doc site = functionSymbols doc site := by simp [siteSymbols, kind]
  rw [asked] at made
  rcases functionSymbols_cases made with
    ⟨absent, _⟩ | ⟨_, _, _, _, nameShown, _, _, docShown, rfl⟩
  · simp [isNamedFunction, absent] at isDeclared
  · obtain rfl := value_unique named nameShown
    obtain rfl := value_unique docRead docShown
    exact .function rfl rfl

/-- A class shows itself. -/
theorem sameDeclarations_of_class {entry : ClassEntry} (isClassSite : isNamedClass site = true)
    (read : classEntry doc site = .ok entry) (made : siteSymbols doc site = .ok symbols) :
    SameDeclarations [] ⟨[], [entry], [], []⟩ symbols := by
  have kind := kind_of_isNamedClass isClassSite
  obtain ⟨name, named, read⟩ := bind_eq_ok.mp read
  obtain ⟨methods, _, read⟩ := bind_eq_ok.mp read
  obtain ⟨extended, _, read⟩ := bind_eq_ok.mp read
  obtain ⟨documented, docRead, rfl⟩ := bind_pure_eq_ok.mp read
  have asked : siteSymbols doc site = classSymbols doc site := by simp [siteSymbols, kind]
  rw [asked] at made
  rcases classSymbols_cases made with ⟨absent, _⟩ | ⟨_, _, _, nameShown, docShown, rfl⟩
  · simp [isNamedClass, absent] at isClassSite
  · obtain rfl := value_unique named nameShown
    obtain rfl := value_unique docRead docShown
    exact .ofClass rfl rfl

/-- The symbols of an assignment. -/
theorem siteSymbols_of_assignment (kind : site.kind = "assignment") :
    siteSymbols doc site = assignmentSymbols doc site := by
  simp [siteSymbols, kind]

/-- A lambda expression is bound to a plain name. -/
theorem left_of_boundLambda? {function : Site} (binds : boundLambda? site = some function) :
    ∃ left, site.child? "left" = some left ∧ left.kind = "identifier" := by
  unfold boundLambda? at binds
  split at binds
  · next left right present _ =>
    split at binds
    · next plain => exact ⟨left, present, beq_iff_eq.mp (Bool.and_eq_true_iff.mp plain).1⟩
    · contradiction
  · contradiction

/-- The symbols of an assignment that binds a lambda expression: the function alone. -/
theorem symbols_of_bound {function : Site} (kind : site.kind = "assignment")
    (binds : boundLambda? site = some function) (made : siteSymbols doc site = .ok symbols) :
    ∃ name scope, textOr (site.child? "left") = .ok name ∧
      symbols = [⟨name, site.startLine, site.columnIn doc, "lambda", .functions, [], scope,
        none⟩] := by
  obtain ⟨left, present, plain⟩ := left_of_boundLambda? binds
  rw [siteSymbols_of_assignment kind, assignmentSymbols, present] at made
  simp only [plain, beq_self_eq_true, if_true, binds, Option.isSome_some] at made
  obtain ⟨name, named, made⟩ := bind_eq_ok.mp made
  obtain ⟨symbol, shown, rfl⟩ := bind_pure_eq_ok.mp made
  obtain ⟨scope, rfl⟩ := Site.exists_scope_of_symbol shown
  rw [present]
  exact ⟨name, scope, named, rfl⟩

/-- An assignment that binds a lambda expression shows the function. -/
theorem sameDeclarations_of_bound {function : Site} {entry : FunctionEntry}
    (kind : site.kind = "assignment") (binds : boundLambda? site = some function)
    (read : boundFunction doc site function = .ok entry)
    (made : siteSymbols doc site = .ok symbols) :
    SameDeclarations [] ⟨[entry], [], [], []⟩ symbols := by
  obtain ⟨name, named, read⟩ := bind_eq_ok.mp read
  obtain ⟨names, _, rfl⟩ := bind_pure_eq_ok.mp read
  obtain ⟨_, scope, nameShown, rfl⟩ := symbols_of_bound kind binds made
  obtain rfl := value_unique named nameShown
  exact .function rfl rfl

/-- The symbols of an assignment that binds no lambda expression: none if nothing or no plain name
is assigned to, and otherwise the variable and the exports that the assignment lists. -/
theorem assigned_cases (kind : site.kind = "assignment") (binds : boundLambda? site = none)
    (made : siteSymbols doc site = .ok symbols) :
    (symbols = [] ∧ ∀ left, site.child? "left" = some left → left.kind ≠ "identifier") ∨
      ∃ symbol entries, symbol.category = .bindings ∧ symbol.form = "variable" ∧
        moduleExports doc site = .ok entries ∧
        symbols = symbol :: entries.map exportSymbol := by
  rw [siteSymbols_of_assignment kind] at made
  unfold assignmentSymbols at made
  cases present : site.child? "left" with
  | none =>
    rw [present] at made
    obtain rfl := pure_eq_ok.mp made
    exact .inl ⟨rfl, by simp⟩
  | some left =>
    simp only [present, binds] at made
    split at made
    · obtain ⟨name, _, made⟩ := bind_eq_ok.mp made
      simp only [Option.isSome_none, Bool.false_eq_true, if_false] at made
      obtain ⟨symbol, shown, made⟩ := bind_eq_ok.mp made
      obtain ⟨scope, same⟩ := Site.exists_scope_of_symbol shown
      obtain ⟨entries, listed, rfl⟩ := bind_pure_eq_ok.mp made
      exact .inr ⟨symbol, entries, by rw [same], by rw [same], listed, rfl⟩
    · next other =>
      obtain rfl := pure_eq_ok.mp made
      refine .inl ⟨rfl, fun other same => ?_⟩
      obtain rfl := Option.some.inj same
      simpa using other

/-- Any other assignment shows no such declaration. -/
theorem sameDeclarations_of_assigned {entries : List ExportEntry} (kind : site.kind = "assignment")
    (binds : boundLambda? site = none) (made : siteSymbols doc site = .ok symbols) :
    SameDeclarations [] ⟨[], [], [], entries⟩ symbols := by
  refine .other fun symbol inside => ?_
  rcases assigned_cases kind binds made with ⟨rfl, _⟩ | ⟨own, _, category, _, _, rfl⟩
  · simp at inside
  · rcases List.mem_cons.mp inside with rfl | listed
    · simp [category]
    · obtain ⟨entry, _, rfl⟩ := List.mem_map.mp listed
      simp [exportSymbol]

/-- The imports of a statement stand on its first line. -/
theorem line_of_imports {entries : List ImportEntry} (read : imports doc site = .ok entries) :
    ∀ entry ∈ entries, entry.line = site.startLine := by
  intro entry inside
  simp only [imports] at read
  split at read
  · obtain ⟨pairs, _, rfl, each⟩ := exists_pairs read
    obtain ⟨pair, here, rfl⟩ := List.mem_map.mp inside
    have made := each pair here
    split at made
    · obtain ⟨_, _, made⟩ := bind_eq_ok.mp made
      obtain ⟨_, _, made⟩ := bind_pure_eq_ok.mp made
      rw [← made]
    · obtain ⟨_, _, made⟩ := bind_pure_eq_ok.mp made
      rw [← made]
  · obtain ⟨_, _, read⟩ := bind_eq_ok.mp read
    obtain ⟨_, _, rfl⟩ := bind_pure_eq_ok.mp read
    obtain rfl := List.mem_singleton.mp inside
    rfl

/-- An import statement shows its imports. -/
theorem sameDeclarations_of_imported {entries : List ImportEntry}
    (kind : site.kind ∈ importStatements) (read : imports doc site = .ok entries)
    (made : siteSymbols doc site = .ok symbols) :
    SameDeclarations [] ⟨[], [], entries, []⟩ symbols := by
  have noFunction : site.kind ≠ "function_definition" := kind_ne_of_import kind (by decide)
  have noClass : site.kind ≠ "class_definition" := kind_ne_of_import kind (by decide)
  have noAssignment : site.kind ≠ "assignment" := kind_ne_of_import kind (by decide)
  have asked : siteSymbols doc site = (do
      let entries ← imports doc site
      entries.mapM fun entry => site.symbol scopes doc entry.source "import" .imports [] none) := by
    simp [siteSymbols, noFunction, noClass, noAssignment, kind]
  rw [asked] at made
  obtain ⟨_, entriesShown, made⟩ := bind_eq_ok.mp made
  obtain rfl := value_unique read entriesShown
  obtain ⟨shown, each⟩ := Site.symbols_of_mapM made
  refine .importList ?_ fun symbol inside => (each symbol inside).1
  rw [shown]
  exact List.map_congr_left fun entry inside => by rw [line_of_imports read entry inside]

/-- The symbol of a call is one. -/
theorem call_of_callSymbols (made : callSymbols doc site = .ok symbols) :
    ∀ symbol ∈ symbols, symbol.category = .calls ∧ symbol.form = "function_call" := by
  obtain ⟨callee, _, made⟩ := bind_eq_ok.mp made
  split at made
  · obtain rfl := pure_eq_ok.mp made
    simp
  · obtain ⟨symbol, shown, rfl⟩ := bind_pure_eq_ok.mp made
    obtain ⟨scope, rfl⟩ := Site.exists_scope_of_symbol shown
    simp

/-- A site that contributes nothing shows at most a call. -/
theorem category_of_nothing (noClass : isNamedClass site = false)
    (noFunction : isNamedFunction site = false) (noAssignment : site.kind ≠ "assignment")
    (noImport : site.kind ∉ importStatements) (made : siteSymbols doc site = .ok symbols) :
    ∀ symbol ∈ symbols, symbol.category = .calls := by
  unfold siteSymbols at made
  split at made
  · next kind =>
    -- a function without a name
    have absent : site.child? "name" = none := by simpa [isNamedFunction, kind] using noFunction
    rw [functionSymbols, absent] at made
    obtain rfl := pure_eq_ok.mp made
    simp
  split at made
  · next kind =>
    -- a class without a name
    have absent : site.child? "name" = none := by
      simpa [isNamedClass, isClass, kind] using noClass
    rw [classSymbols, absent] at made
    obtain rfl := pure_eq_ok.mp made
    simp
  split at made
  · next kind => exact absurd (beq_iff_eq.mp kind) noAssignment
  split at made
  · next kind => exact absurd (by simpa using kind) noImport
  split at made
  · exact fun symbol inside => (call_of_callSymbols made symbol inside).1
  · obtain rfl := pure_eq_ok.mp made
    simp

/-- An augmented assignment has no symbols. -/
theorem siteSymbols_of_augmented (kind : site.kind = "augmented_assignment") :
    siteSymbols doc site = .ok [] := by
  simp [siteSymbols, kind, importStatements, pure, Except.pure]

/-- At every site the outline and the symbols show the same functions, classes and imports. -/
theorem sameDeclarations_of_site (read : findings doc site = .ok found)
    (listed : ClassesAt isNamedClass (classEntry doc) site classes)
    (made : siteSymbols doc site = .ok symbols) :
    SameDeclarations [] (found.part classes) symbols := by
  have unlisted (other : site.kind ≠ "class_definition") : classes = [] :=
    listed.eq_nil (isNamedClass_of_kind other)
  cases contribution_of_findings read with
  | ofClass isClassSite =>
    cases listed with
    | one entry _ entryRead => exact sameDeclarations_of_class isClassSite entryRead made
    | none noClass => simp [isClassSite] at noClass
  | declared entry isDeclared here =>
    obtain rfl := unlisted (by simp [kind_of_isNamedFunction isDeclared])
    exact sameDeclarations_of_declared isDeclared here made
  | bound function entry kind binds here =>
    obtain rfl := unlisted (by simp [kind])
    exact sameDeclarations_of_bound kind binds here made
  | assigned entries kind binds here =>
    obtain rfl := unlisted (by simp [kind])
    exact sameDeclarations_of_assigned kind binds made
  | augmented entries kind here =>
    obtain rfl := unlisted (by simp [kind])
    obtain rfl := value_unique (siteSymbols_of_augmented kind) made
    exact .other (by simp)
  | imported entries kind here =>
    obtain rfl := unlisted (kind_ne_of_import kind (by decide))
    exact sameDeclarations_of_imported kind here made
  | nothing noClass noFunction noAssignment noAugmented noImport =>
    obtain rfl := listed.eq_nil noClass
    refine .other fun symbol inside => ?_
    simp [category_of_nothing noClass noFunction noAssignment noImport made symbol inside]

/-! ## The whole tree -/

/-- The outline and the symbols of a tree show the same functions, classes and imports, when the
functions in the lines of classes are left out of the symbols too. -/
theorem sameDeclarations_of_outline {result : Outline} (read : outline tree doc = .ok result)
    (made : Python.symbols tree doc = .ok symbols) :
    SameDeclarations (classSpans tree) result symbols := by
  obtain ⟨founds, survey⟩ := exists_survey read
  obtain ⟨shown, seen, rfl⟩ := bind_pure_eq_ok.mp made
  have same := agree_of_sites SameDeclarations.nothing (fun _ _ _ _ => SameDeclarations.join)
    (fun _ _ _ _ => sameDeclarations_of_site) survey.contributed survey.classes seen
  have outside := same.outside (classSpans tree)
  rw [← survey.imports, ← survey.exports, classSpans, ← survey.functions] at outside
  exact outside

end SourceLens.Python
