import SourceLens.Proofs.EcmaScript.Contribution
import SourceLens.Proofs.Grammar.Sightings

/-!
# JavaScript symbols beside the outline

The outline and the symbols of a tree ask the same questions about a site in different orders and
make different records from the answers. At every site they show the same declarations
(`sameDeclarations_of_site`), so they do for the whole tree, apart from the functions inside
classes, which the outline leaves out (`sameDeclarations_of_outline`).
-/
namespace SourceLens.EcmaScript

open Reading

variable {tree : Tree} {doc : Document} {site : Site} {found : Findings}
  {classes : List ClassEntry} {symbols : List Symbol}

/-- The symbols of functions that are not members of classes and lie outside some spans. -/
def freeFunctions (spans : List (Int × Int)) (symbols : List Symbol) : List Symbol :=
  (symbolsOf .functions symbols).filter fun symbol =>
    symbol.form != "class_method" && !Window.within symbol.line spans

/-- The functions outside some spans are selected from all functions. -/
theorem freeFunctions_eq_filter (spans : List (Int × Int)) (symbols : List Symbol) :
    freeFunctions spans symbols =
      (freeFunctions [] symbols).filter fun symbol => !Window.within symbol.line spans := by
  rw [freeFunctions, freeFunctions, List.filter_filter]
  refine List.filter_congr fun symbol _ => ?_
  simp [Window.within, Bool.and_comm]

/-- The symbols of members of classes. -/
def memberSymbols (symbols : List Symbol) : List Symbol :=
  symbols.filter (·.form == "class_method")

/-- An outline and symbols show the same functions outside some spans, and the same classes,
members, imports and exports, in the same order. -/
structure SameDeclarations (spans : List (Int × Int)) (outline : Outline)
    (symbols : List Symbol) : Prop where
  /-- The functions have the same places and forms. -/
  functions : outline.functions.map (fun entry => (entry.place, entry.form)) =
    (freeFunctions spans symbols).map fun symbol => (symbol.place, symbol.form)
  /-- The classes have the same places. -/
  classes : outline.classes.map (·.place) = (symbolsOf .classes symbols).map (·.place)
  /-- The members have the same names and lines. -/
  members : (outline.classes.flatMap fun entry => entry.methods.map fun method =>
      (method.name, method.line)) =
    (memberSymbols symbols).map fun symbol => (symbol.name, symbol.line)
  /-- The imports have the same sources and lines. -/
  imports : outline.imports.map (fun entry => (entry.source, entry.line)) =
    (symbolsOf .imports symbols).map fun symbol => (symbol.name, symbol.line)
  /-- The exports have the same names and lines. -/
  exports : outline.exports.map (fun entry => (exportName entry, entry.line)) =
    (symbolsOf .exports symbols).map fun symbol => (symbol.name, symbol.line)

namespace SameDeclarations

/-- Where nothing is declared, nothing is shown. -/
theorem nothing : SameDeclarations [] .empty [] := ⟨rfl, rfl, rfl, rfl, rfl⟩

/-- Parts that show the same declarations do so together. -/
theorem join {first second : Outline} {left right : List Symbol}
    (head : SameDeclarations [] first left) (tail : SameDeclarations [] second right) :
    SameDeclarations [] (first.join second) (left ++ right) where
  functions := by
    simpa [Outline.join, freeFunctions] using congrArg₂ (· ++ ·) head.functions tail.functions
  classes := by simpa [Outline.join] using congrArg₂ (· ++ ·) head.classes tail.classes
  members := by
    simpa [Outline.join, memberSymbols] using congrArg₂ (· ++ ·) head.members tail.members
  imports := by simpa [Outline.join] using congrArg₂ (· ++ ·) head.imports tail.imports
  exports := by simpa [Outline.join] using congrArg₂ (· ++ ·) head.exports tail.exports

/-- The functions outside some spans are the same when all functions are. -/
theorem outside {whole : Outline} (same : SameDeclarations [] whole symbols)
    (spans : List (Int × Int)) :
    SameDeclarations spans
      { whole with
        functions := whole.functions.filter fun entry => !Window.within entry.line spans }
      symbols where
  functions := by
    rw [freeFunctions_eq_filter]
    exact map_filter_eq_of_map_eq (fun key => !Window.within key.1.2.1 spans) same.functions
  classes := same.classes
  members := same.members
  imports := same.imports
  exports := same.exports

/-- One function and its symbol. -/
theorem function {entry : FunctionEntry} {symbol : Symbol}
    (shown : (entry.place, entry.form) = (symbol.place, symbol.form))
    (category : symbol.category = .functions) (free : symbol.form ≠ "class_method") :
    SameDeclarations [] ⟨[entry], [], [], []⟩ [symbol] := by
  constructor <;> simp [freeFunctions, memberSymbols, category, free, shown, Window.within]

/-- A symbol that stands for no declaration. -/
theorem other {symbol : Symbol}
    (category : symbol.category = .bindings ∨ symbol.category = .calls)
    (free : symbol.form ≠ "class_method") : SameDeclarations [] .empty [symbol] := by
  rcases category with category | category <;>
    constructor <;> simp [Outline.empty, freeFunctions, memberSymbols, category, free]

/-- Symbols whose form is not that of a member are no members. -/
theorem memberSymbols_eq_nil (free : ∀ symbol ∈ symbols, symbol.form ≠ "class_method") :
    memberSymbols symbols = [] :=
  List.filter_eq_nil_iff.mpr fun symbol inside => by simp [free symbol inside]

/-- Imports and their symbols. -/
theorem importList {entries : List ImportEntry}
    (shown : entries.map (fun entry => (entry.source, entry.line)) =
      symbols.map fun symbol => (symbol.name, symbol.line))
    (category : ∀ symbol ∈ symbols, symbol.category = .imports)
    (free : ∀ symbol ∈ symbols, symbol.form ≠ "class_method") :
    SameDeclarations [] ⟨[], [], entries, []⟩ symbols := by
  constructor <;>
    simp [freeFunctions, symbolsOf_of_forall category, memberSymbols_eq_nil free, shown]

/-- Exports and their symbols. -/
theorem exportList {entries : List ExportEntry}
    (shown : entries.map (fun entry => (exportName entry, entry.line)) =
      symbols.map fun symbol => (symbol.name, symbol.line))
    (category : ∀ symbol ∈ symbols, symbol.category = .exports)
    (free : ∀ symbol ∈ symbols, symbol.form ≠ "class_method") :
    SameDeclarations [] ⟨[], [], [], entries⟩ symbols := by
  constructor <;>
    simp [freeFunctions, symbolsOf_of_forall category, memberSymbols_eq_nil free, shown]

/-- A class with its members and their symbols. -/
theorem classWithMembers {entry : ClassEntry} {symbol : Symbol} {members : List Symbol}
    (shown : entry.place = symbol.place) (category : symbol.category = .classes)
    (form : symbol.form ≠ "class_method")
    (methods : entry.methods.map (fun method => (method.name, method.line)) =
      members.map fun member => (member.name, member.line))
    (functions : ∀ member ∈ members, member.category = .functions)
    (forms : ∀ member ∈ members, member.form = "class_method") :
    SameDeclarations [] ⟨[], [entry], [], []⟩ (symbol :: members) := by
  have free : members.filter (fun member =>
      member.form != "class_method" && !Window.within member.line []) = [] :=
    List.filter_eq_nil_iff.mpr fun member inside => by simp [forms member inside]
  have all : memberSymbols members = members :=
    List.filter_eq_self.mpr fun member inside => by simp [forms member inside]
  have own : memberSymbols (symbol :: members) = members := by
    rw [memberSymbols, List.filter_cons_of_neg (by simpa using form)]
    exact all
  constructor
  · simp only [freeFunctions, symbolsOf_cons, category, symbolsOf_of_forall functions,
      reduceCtorEq, if_false, if_true, List.nil_append, free, List.map_nil]
  · simp [category, symbolsOf_of_forall functions, shown]
  · simp [own, methods]
  · simp [category, symbolsOf_of_forall functions]
  · simp [category, symbolsOf_of_forall functions]

end SameDeclarations

/-! ## One site -/

/-- The symbols of a declared function. -/
theorem siteSymbols_of_isDeclaredFunction (isDeclared : isDeclaredFunction site = true)
    (made : siteSymbols doc site = .ok symbols) :
    ∃ symbol, functionSymbol doc site = .ok symbol ∧ [symbol] = symbols := by
  rw [siteSymbols, if_pos isDeclared] at made
  exact bind_pure_eq_ok.mp made

/-- The symbols of a class. -/
theorem siteSymbols_of_isClass (isClassSite : isClass site = true) :
    siteSymbols doc site = classSymbols doc site := by
  have noVariable : site.kind ≠ "variable_declarator" := by
    intro kind
    simp [isClass_of_kind kind] at isClassSite
  simp [siteSymbols, isDeclaredFunction_of_isClass isClassSite, noVariable, isClassSite]

/-- A declared function shows itself. -/
theorem sameDeclarations_of_declared {entry : FunctionEntry}
    (isDeclared : isDeclaredFunction site = true) (read : declaredFunction doc site = .ok entry)
    (made : siteSymbols doc site = .ok symbols) :
    SameDeclarations [] ⟨[entry], [], [], []⟩ symbols := by
  obtain ⟨symbol, shown, rfl⟩ := siteSymbols_of_isDeclaredFunction isDeclared made
  obtain ⟨name, named, read⟩ := bind_eq_ok.mp read
  obtain ⟨signature, _, read⟩ := bind_eq_ok.mp read
  obtain ⟨documented, docRead, rfl⟩ := bind_pure_eq_ok.mp read
  obtain ⟨_, nameShown, shown⟩ := bind_eq_ok.mp shown
  obtain rfl := value_unique named nameShown
  obtain ⟨_, docShown, shown⟩ := bind_eq_ok.mp shown
  obtain rfl := value_unique docRead docShown
  obtain ⟨scope, rfl⟩ := Site.exists_scope_of_symbol shown
  exact .function rfl rfl (by simp [FunctionEntry.declaredForm])

/-- The symbols of a declarator. -/
theorem siteSymbols_of_declarator (kind : site.kind = "variable_declarator") :
    siteSymbols doc site = variableSymbols doc site := by
  simp [siteSymbols, isDeclaredFunction_of_kind kind, kind]

/-- A function that a declarator binds is bound to a plain name. -/
theorem name_of_boundFunction? {function : Site} (binds : boundFunction? site = some function) :
    ∃ name, site.child? "name" = some name ∧ name.kind = "identifier" := by
  unfold boundFunction? at binds
  split at binds
  · next name value named _ =>
    split at binds
    · next plain => exact ⟨name, named, beq_iff_eq.mp (Bool.and_eq_true_iff.mp plain).1⟩
    · contradiction
  · contradiction

/-- The form of a bound function is not that of a member. -/
theorem boundForm_ne (function : Site) : boundForm function ≠ "class_method" := by
  unfold boundForm
  split <;> decide

/-- A declarator that binds a function shows the function. -/
theorem sameDeclarations_of_bound {function : Site} {entry : FunctionEntry}
    (kind : site.kind = "variable_declarator") (binds : boundFunction? site = some function)
    (read : boundFunction doc site function = .ok entry)
    (made : siteSymbols doc site = .ok symbols) :
    SameDeclarations [] ⟨[entry], [], [], []⟩ symbols := by
  obtain ⟨nameSite, present, plain⟩ := name_of_boundFunction? binds
  obtain ⟨name, named, read⟩ := bind_eq_ok.mp read
  obtain ⟨own, _, read⟩ := bind_eq_ok.mp read
  obtain ⟨value, _, read⟩ := bind_eq_ok.mp read
  obtain ⟨documented, docRead, rfl⟩ := bind_pure_eq_ok.mp read
  rw [present] at named
  rw [siteSymbols_of_declarator kind, variableSymbols, present] at made
  simp only [plain, bne_self_eq_false, Bool.false_eq_true, if_false] at made
  obtain ⟨keyword, _, made⟩ := bind_eq_ok.mp made
  obtain ⟨_, nameShown, made⟩ := bind_eq_ok.mp made
  obtain rfl := value_unique named nameShown
  obtain ⟨_, docShown, made⟩ := bind_eq_ok.mp made
  obtain rfl := value_unique docRead docShown
  obtain ⟨symbol, shown, rfl⟩ := bind_pure_eq_ok.mp made
  rw [boundSymbol, binds] at shown
  obtain ⟨scope, rfl⟩ := Site.exists_scope_of_symbol shown
  exact .function rfl rfl (boundForm_ne function)

/-- A declarator that binds no function shows at most a variable. -/
theorem sameDeclarations_of_binding (kind : site.kind = "variable_declarator")
    (binds : boundFunction? site = none) (made : siteSymbols doc site = .ok symbols) :
    SameDeclarations [] .empty symbols := by
  rw [siteSymbols_of_declarator kind, variableSymbols] at made
  split at made
  · obtain rfl := pure_eq_ok.mp made
    exact .nothing
  split at made
  · obtain rfl := pure_eq_ok.mp made
    exact .nothing
  obtain ⟨keyword, _, made⟩ := bind_eq_ok.mp made
  obtain ⟨name, _, made⟩ := bind_eq_ok.mp made
  obtain ⟨documented, _, made⟩ := bind_eq_ok.mp made
  obtain ⟨symbol, shown, rfl⟩ := bind_pure_eq_ok.mp made
  rw [boundSymbol, binds] at shown
  obtain ⟨scope, rfl⟩ := Site.exists_scope_of_symbol shown
  exact .other (.inl rfl) (by simp)

/-- A class shows itself and its members. -/
theorem sameDeclarations_of_class {entry : ClassEntry} (isClassSite : isClass site = true)
    (read : classEntry doc site = .ok entry) (made : siteSymbols doc site = .ok symbols) :
    SameDeclarations [] ⟨[], [entry], [], []⟩ symbols := by
  obtain ⟨name, named, read⟩ := bind_eq_ok.mp read
  obtain ⟨found, membersRead, read⟩ := bind_eq_ok.mp read
  obtain ⟨methods, methodsRead, read⟩ := bind_eq_ok.mp read
  obtain ⟨_, _, read⟩ := bind_eq_ok.mp read
  obtain ⟨documented, docRead, rfl⟩ := bind_pure_eq_ok.mp read
  rw [siteSymbols_of_isClass isClassSite] at made
  obtain ⟨_, nameShown, made⟩ := bind_eq_ok.mp made
  obtain rfl := value_unique named nameShown
  obtain ⟨_, docShown, made⟩ := bind_eq_ok.mp made
  obtain rfl := value_unique docRead docShown
  obtain ⟨symbol, symbolShown, made⟩ := bind_eq_ok.mp made
  obtain ⟨scope, rfl⟩ := Site.exists_scope_of_symbol symbolShown
  obtain ⟨_, membersShown, made⟩ := bind_eq_ok.mp made
  obtain rfl := value_unique membersRead membersShown
  obtain ⟨shown, shownRead, rfl⟩ := bind_pure_eq_ok.mp made
  -- methods and symbols are both made from the members, one each
  have listed : found.map (fun member => (member.name, member.site.startLine)) =
      methods.map fun method => (method.name, method.line) := by
    refine map_eq_of_mapM (fun member method read => ?_) methodsRead
    obtain ⟨_, _, rfl⟩ := bind_pure_eq_ok.mp read
    rfl
  have seen (member : Member) (symbol : Symbol) (read : (do
      let documented ← docComment member.site
      member.site.symbol scopes doc member.name "class_method" .functions member.modifiers
        documented) = .ok symbol) :
      (member.name, member.site.startLine) = (symbol.name, symbol.line) ∧
        symbol.category = .functions ∧ symbol.form = "class_method" := by
    obtain ⟨_, _, read⟩ := bind_eq_ok.mp read
    obtain ⟨scope, rfl⟩ := Site.exists_scope_of_symbol read
    exact ⟨rfl, rfl, rfl⟩
  have each : ∀ symbol ∈ shown, symbol.category = .functions ∧ symbol.form = "class_method" := by
    intro symbol inside
    obtain ⟨pairs, _, rfl, read⟩ := exists_pairs shownRead
    obtain ⟨pair, here, rfl⟩ := List.mem_map.mp inside
    exact (seen pair.1 pair.2 (read pair here)).2
  refine .classWithMembers rfl rfl (by simp) ?_ (fun symbol inside => (each symbol inside).1)
    (fun symbol inside => (each symbol inside).2)
  rw [← listed]
  exact map_eq_of_mapM (fun member symbol read => (seen member symbol read).1) shownRead

/-- An import statement shows its import. -/
theorem sameDeclarations_of_imported {entry : ImportEntry} (kind : site.kind = "import_statement")
    (read : importStatement doc site = .ok entry) (made : siteSymbols doc site = .ok symbols) :
    SameDeclarations [] ⟨[], [], [entry], []⟩ symbols := by
  have line : entry.line = site.startLine := by
    obtain ⟨_, _, read⟩ := bind_eq_ok.mp read
    obtain ⟨_, _, read⟩ := bind_eq_ok.mp read
    obtain ⟨_, _, rfl⟩ := bind_pure_eq_ok.mp read
    rfl
  have asked : siteSymbols doc site = (do
      let entry ← importStatement doc site
      let symbol ← site.symbol scopes doc entry.source "import" .imports [] none
      pure [symbol]) := by
    simp [siteSymbols, isDeclaredFunction_of_kind kind, isClass_of_kind kind, kind]
  rw [asked] at made
  obtain ⟨_, entryShown, made⟩ := bind_eq_ok.mp made
  obtain rfl := value_unique read entryShown
  obtain ⟨symbol, shown, rfl⟩ := bind_pure_eq_ok.mp made
  obtain ⟨scope, rfl⟩ := Site.exists_scope_of_symbol shown
  exact .importList (by simp [line]) (by simp) (by simp)

/-- The import that a call makes is shown. -/
theorem sameDeclarations_of_required {entry : Option ImportEntry}
    (read : requireImport doc site = .ok entry) (made : requireSymbols doc site = .ok symbols) :
    SameDeclarations [] ⟨[], [], entry.toList, []⟩ symbols := by
  obtain ⟨literal, literalRead, read⟩ := bind_eq_ok.mp read
  obtain ⟨_, literalShown, made⟩ := bind_eq_ok.mp made
  obtain rfl := value_unique literalRead literalShown
  cases literal with
  | none =>
    obtain rfl := pure_eq_ok.mp read
    obtain rfl := pure_eq_ok.mp made
    exact .nothing
  | some literal =>
    obtain ⟨names, _, read⟩ := bind_eq_ok.mp read
    obtain ⟨source, sourceRead, rfl⟩ := bind_pure_eq_ok.mp read
    obtain ⟨_, sourceShown, made⟩ := bind_eq_ok.mp made
    obtain rfl := value_unique sourceRead sourceShown
    obtain ⟨symbol, shown, rfl⟩ := bind_pure_eq_ok.mp made
    obtain ⟨scope, rfl⟩ := Site.exists_scope_of_symbol shown
    exact .importList (by simp) (by simp) (by simp)

/-- A call shows the import that it makes, if it does, and what it calls. -/
theorem sameDeclarations_of_called {entry : Option ImportEntry}
    (kind : site.kind = "call_expression") (read : requireImport doc site = .ok entry)
    (made : siteSymbols doc site = .ok symbols) :
    SameDeclarations [] ⟨[], [], entry.toList, []⟩ symbols := by
  have asked : siteSymbols doc site = callSymbols doc site := by
    simp [siteSymbols, isDeclaredFunction_of_kind kind, isClass_of_kind kind, kind]
  rw [asked] at made
  obtain ⟨imported, importShown, made⟩ := bind_eq_ok.mp made
  have required := sameDeclarations_of_required read importShown
  obtain ⟨callee, _, made⟩ := bind_eq_ok.mp made
  split at made
  · obtain rfl := pure_eq_ok.mp made
    exact required
  · obtain ⟨call, shown, rfl⟩ := bind_pure_eq_ok.mp made
    obtain ⟨scope, same⟩ := Site.exists_scope_of_symbol shown
    have calls : SameDeclarations [] .empty [call] :=
      .other (.inr (by rw [same])) (by simp [same])
    simpa [Outline.join, Outline.empty] using required.join calls

/-- The exports of an export statement stand on its first line. -/
theorem line_of_exportStatement {entries : List ExportEntry}
    (read : exportStatement doc site = .ok entries) :
    ∀ entry ∈ entries, entry.line = site.startLine := by
  have named (names : List String) : ∀ entry ∈ names.map (fun name =>
      exportAt doc site false (some name)), entry.line = site.startLine := by
    intro entry inside
    obtain ⟨name, _, rfl⟩ := List.mem_map.mp inside
    rfl
  have default (name : Option String) :
      ∀ entry ∈ [exportAt doc site true name], entry.line = site.startLine := by
    simp [exportAt]
  unfold exportStatement at read
  split at read
  · obtain ⟨name, _, rfl⟩ := bind_pure_eq_ok.mp read
    exact default name
  split at read
  · obtain ⟨names, _, rfl⟩ := bind_pure_eq_ok.mp read
    exact named names
  obtain ⟨clause, _, read⟩ := bind_eq_ok.mp read
  cases clause with
  | some names =>
    obtain rfl := pure_eq_ok.mp read
    exact named names
  | none =>
    dsimp only at read
    split at read
    · obtain ⟨name, _, rfl⟩ := bind_pure_eq_ok.mp read
      exact default name
    · obtain rfl := pure_eq_ok.mp read
      simp

/-- An export statement shows its exports. -/
theorem sameDeclarations_of_exported {entries : List ExportEntry}
    (kind : site.kind = "export_statement") (read : exportStatement doc site = .ok entries)
    (made : siteSymbols doc site = .ok symbols) :
    SameDeclarations [] ⟨[], [], [], entries⟩ symbols := by
  have asked : siteSymbols doc site = (do
      let entries ← exportStatement doc site
      entries.mapM fun entry =>
        site.symbol scopes doc (exportName entry) "export" .exports [] none) := by
    simp [siteSymbols, isDeclaredFunction_of_kind kind, isClass_of_kind kind, kind]
  rw [asked] at made
  obtain ⟨_, entriesShown, made⟩ := bind_eq_ok.mp made
  obtain rfl := value_unique read entriesShown
  obtain ⟨shown, each⟩ := Site.symbols_of_mapM made
  refine .exportList ?_ (fun symbol inside => (each symbol inside).1) ?_
  · rw [shown]
    exact List.map_congr_left fun entry inside => by rw [line_of_exportStatement read entry inside]
  · intro symbol inside
    rw [(each symbol inside).2]
    decide

/-- An assignment shows its exports. -/
theorem sameDeclarations_of_assigned {entries : List ExportEntry}
    (kind : site.kind = "assignment_expression") (read : assignmentExports doc site = .ok entries)
    (made : siteSymbols doc site = .ok symbols) :
    SameDeclarations [] ⟨[], [], [], entries⟩ symbols := by
  have asked : siteSymbols doc site = (do
      let entries ← assignmentExports doc site
      pure (entries.map fun entry => (⟨exportName entry, entry.line,
        if entry.line = site.startLine then site.columnIn doc else 0, "commonjs_export", .exports,
        [], none, none⟩ : Symbol))) := by
    simp [siteSymbols, isDeclaredFunction_of_kind kind, isClass_of_kind kind, kind]
  rw [asked, read] at made
  obtain rfl := pure_eq_ok.mp made
  exact .exportList (by simp) (by simp) (by simp)

/-- At every site the outline and the symbols show the same declarations. -/
theorem sameDeclarations_of_site (read : findings doc site = .ok found)
    (listed : ClassesAt isClass (classEntry doc) site classes)
    (made : siteSymbols doc site = .ok symbols) :
    SameDeclarations [] (found.part classes) symbols := by
  have unlisted {kind : String} (here : site.kind = kind)
      (other : kind ∉ ["class_declaration", "abstract_class_declaration", "class"]) :
      classes = [] :=
    listed.eq_nil (isClass_of_kind here other)
  cases contribution_of_findings read with
  | ofClass isClassSite =>
    cases listed with
    | one entry _ entryRead => exact sameDeclarations_of_class isClassSite entryRead made
    | none noClass => simp [isClassSite] at noClass
  | declared entry isDeclared here =>
    have notClass : isClass site = false := by
      by_contra isClassSite
      have undeclared := isDeclaredFunction_of_isClass (eq_true_of_ne_false isClassSite)
      simp [isDeclared] at undeclared
    obtain rfl := listed.eq_nil notClass
    exact sameDeclarations_of_declared isDeclared here made
  | bound function entry kind binds here =>
    obtain rfl := unlisted kind (by decide)
    exact sameDeclarations_of_bound kind binds here made
  | binding kind binds =>
    obtain rfl := unlisted kind (by decide)
    exact sameDeclarations_of_binding kind binds made
  | imported entry kind here =>
    obtain rfl := unlisted kind (by decide)
    exact sameDeclarations_of_imported kind here made
  | called entry kind here =>
    obtain rfl := unlisted kind (by decide)
    exact sameDeclarations_of_called kind here made
  | exported entries kind here =>
    obtain rfl := unlisted kind (by decide)
    exact sameDeclarations_of_exported kind here made
  | assigned entries kind here =>
    obtain rfl := unlisted kind (by decide)
    exact sameDeclarations_of_assigned kind here made
  | nothing notClass noFunction kind =>
    obtain rfl := listed.eq_nil notClass
    have asked : siteSymbols doc site = pure [] := by
      simp_all [siteSymbols]
    obtain rfl := pure_eq_ok.mp (asked.symm.trans made)
    exact .nothing

/-! ## The whole tree -/

/-- The outline and the symbols of a tree show the same declarations, when the functions in the
lines of classes are left out of the symbols too. -/
theorem sameDeclarations_of_outline {result : Outline} (read : outline tree doc = .ok result)
    (made : EcmaScript.symbols tree doc = .ok symbols) :
    SameDeclarations (classSpans tree) result symbols := by
  obtain ⟨founds, survey⟩ := exists_survey read
  obtain ⟨shown, seen, rfl⟩ := bind_pure_eq_ok.mp made
  have same := agree_of_sites SameDeclarations.nothing (fun _ _ _ _ => SameDeclarations.join)
    (fun _ _ _ _ => sameDeclarations_of_site) survey.contributed survey.classes seen
  have outside := same.outside (classSpans tree)
  rw [← survey.imports, ← survey.exports, classSpans, ← survey.functions] at outside
  exact outside

end SourceLens.EcmaScript
