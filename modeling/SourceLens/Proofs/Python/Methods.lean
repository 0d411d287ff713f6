import Mathlib.Data.List.Perm.Basic
import SourceLens.Proofs.Python.ClassBody
import SourceLens.Proofs.Python.Symbols
import SourceLens.Proofs.Scope

/-!
# Methods in outlines and in searches

An outline lists the methods of every class below it, and a search finds a method among the symbols
by the class above it. On a tree with the shape of the grammar both show the same methods, in
different orders (`methods_coincide`): the entry and the symbol of a method come from one site
(`EntryAt`, `SymbolAt`), and there they agree on the name, the line, the class and the modifiers
(`sameMethod_of_site`).
-/
namespace SourceLens.Python

open Reading

variable {tree : Tree} {doc : Document} {site parent method : Site}

/-! ## Entries and symbols -/

/-- Whether a symbol is that of a method. -/
def isMethodSymbol (symbol : Symbol) : Bool := symbol.form == "class_method"

/-- A method that an outline lists and a symbol that a search finds are the same method. -/
structure SameMethod (method : MethodEntry) (symbol : Symbol) : Prop where
  /-- They have the same name. -/
  name : symbol.name = method.name
  /-- They stand on the same line. -/
  line : symbol.line = method.line
  /-- The innermost scope of the symbol is the class of the method. -/
  scope : ∃ around,
    symbol.scope = some (" > ".intercalate (around ++ ["class:" ++ method.className]))
  /-- The symbol says that the method is asynchronous. -/
  async : method.isAsync = true → "async" ∈ symbol.modifiers
  /-- The symbol says that the method belongs to the class. -/
  static : method.isStatic = true → "static" ∈ symbol.modifiers

variable {owner : String} {entry : MethodEntry} {symbols : List Symbol} {scope : Option String}

/-- What the entry of a method is made from. -/
theorem parts_of_methodEntry (read : methodEntry owner site = .ok entry) :
    textOr (site.child? "name") = .ok entry.name ∧ entry.line = site.startLine ∧
      entry.className = owner ∧ entry.isAsync = isAsync site ∧
      ∃ decorators, decoratorNames site = .ok decorators ∧
        entry.isStatic = decorators.contains "staticmethod" := by
  obtain ⟨name, named, read⟩ := bind_eq_ok.mp read
  obtain ⟨decorators, decorated, read⟩ := bind_eq_ok.mp read
  obtain ⟨names, _, rfl⟩ := bind_pure_eq_ok.mp read
  exact ⟨named, rfl, rfl, rfl, decorators, decorated, rfl⟩

/-- A class with a name is a scope. -/
theorem segment_of_class (isClassSite : isNamedClass site = true)
    (named : textOr (site.child? "name") = .ok owner) :
    site.segment scopes = .ok (some ("class:" ++ owner)) := by
  have word : scopes.lookup site.kind = some "class" := by
    rw [kind_of_isNamedClass isClassSite]
    decide
  obtain ⟨name, present⟩ := Option.isSome_iff_exists.mp (Bool.and_eq_true_iff.mp isClassSite).2
  have isScope : site.IsScope scopes "class" name := ⟨word, by decide, present⟩
  rw [present] at named
  rw [isScope.segment]
  exact bind_eq_ok.mpr ⟨owner, named, rfl⟩

/-- A site of a kind without a word is no scope. -/
theorem not_isScope_of_kind (plain : scopes.lookup site.kind = none) (word : String) (name : Site) :
    ¬ site.IsScope scopes word name := by
  intro isScope
  cases plain.symm.trans isScope.worded

/-- The innermost scope of what stands in a class is the class. -/
theorem scope_of_standsIn (stands : StandsIn method site) (isClassSite : isNamedClass site = true)
    (named : textOr (site.child? "name") = .ok owner) (placed : method.scope scopes = .ok scope) :
    ∃ around, scope = some (" > ".intercalate (around ++ ["class:" ++ owner])) := by
  obtain ⟨block, up, ofBlock, above⟩ := stands
  have holder : method.segments scopes = (outer method).segments scopes := by
    rcases outer_cases method with same | ⟨parent, decorated⟩
    · rw [same]
    · exact Site.segments_of_plain parent (not_isScope_of_kind (by rw [decorated]; decide))
  have inBlock : (outer method).segments scopes = block.segments scopes :=
    Site.segments_of_plain up (not_isScope_of_kind (by rw [ofBlock]; decide))
  obtain ⟨parts, read, rfl⟩ := bind_pure_eq_ok.mp placed
  rw [holder, inBlock, Site.segments_of_parent? above, segment_of_class isClassSite named] at read
  obtain ⟨around, _, rfl⟩ := bind_pure_eq_ok.mp read
  exact ⟨around, by simp⟩

/-- A function that is a method has one symbol, that of a method. -/
theorem symbols_of_method (isFunction : isNamedFunction site = true)
    (isMethodSite : isMethod site = true) (made : siteSymbols doc site = .ok symbols) :
    ∃ name modifiers scope documented, textOr (site.child? "name") = .ok name ∧
      methodModifiers site = .ok modifiers ∧ site.scope scopes = .ok scope ∧
      symbols = [⟨name, site.startLine, site.columnIn doc, "class_method", .functions, modifiers,
        scope, documented⟩] := by
  have asked : siteSymbols doc site = functionSymbols doc site := by
    simp [siteSymbols, kind_of_isNamedFunction isFunction]
  rw [asked] at made
  rcases functionSymbols_cases made with
    ⟨absent, _⟩ | ⟨name, modifiers, scope, documented, named, modified, placed, _, rfl⟩
  · simp [isNamedFunction, absent] at isFunction
  · rw [functionModifiers, if_pos isMethodSite] at modified
    exact ⟨name, modifiers, scope, documented, named, modified, placed, by rw [if_pos isMethodSite]⟩

/-- No other site has a symbol of a method. -/
theorem isMethodSymbol_of_other (other : (isNamedFunction site && isMethod site) = false)
    (made : siteSymbols doc site = .ok symbols) :
    ∀ symbol ∈ symbols, isMethodSymbol symbol = false := by
  have ofForm {form : String} (unlike : form ≠ "class_method")
      (formed : ∀ symbol ∈ symbols, symbol.form = form) :
      ∀ symbol ∈ symbols, isMethodSymbol symbol = false :=
    fun symbol inside => by simp [isMethodSymbol, formed symbol inside, unlike]
  have whole := made
  unfold siteSymbols at made
  split at made
  · next kind =>
    cases present : site.child? "name" with
    | none =>
      rw [functionSymbols, present] at made
      obtain rfl := pure_eq_ok.mp made
      simp
    | some name =>
      have noMethod : isMethod site = false := by simpa [isNamedFunction, kind, present] using other
      rcases functionSymbols_cases made with ⟨_, rfl⟩ | ⟨_, _, _, _, _, _, _, _, rfl⟩ <;>
        simp [isMethodSymbol, noMethod, FunctionEntry.declaredForm]
  split at made
  · rcases classSymbols_cases made with ⟨_, rfl⟩ | ⟨_, _, _, _, _, rfl⟩ <;> simp [isMethodSymbol]
  split at made
  · next kind =>
    cases binds : boundLambda? site with
    | some function =>
      obtain ⟨_, _, _, rfl⟩ := symbols_of_bound (beq_iff_eq.mp kind) binds whole
      simp [isMethodSymbol]
    | none =>
      rcases assigned_cases (beq_iff_eq.mp kind) binds whole with
        ⟨rfl, _⟩ | ⟨own, entries, _, form, _, rfl⟩
      · simp
      · simp [isMethodSymbol, form, exportSymbol]
  split at made
  · obtain ⟨entries, _, made⟩ := bind_eq_ok.mp made
    exact ofForm (by decide) fun symbol inside => ((Site.symbols_of_mapM made).2 symbol inside).2
  split at made
  · exact ofForm (by decide) fun symbol inside => (call_of_callSymbols made symbol inside).2
  · obtain rfl := pure_eq_ok.mp made
    simp

/-- What decorators and asynchrony make of the entry of a method and of its symbol. -/
theorem mem_modifiers {modifiers : List String} (read : methodEntry owner site = .ok entry)
    (modified : methodModifiers site = .ok modifiers) :
    (entry.isAsync = true → "async" ∈ modifiers) ∧ (entry.isStatic = true → "static" ∈ modifiers) := by
  obtain ⟨_, _, _, async, decorators, decorated, static⟩ := parts_of_methodEntry read
  obtain ⟨decorators', decorated', rfl⟩ := bind_pure_eq_ok.mp modified
  obtain rfl := value_unique decorated decorated'
  constructor
  · intro isAsyncEntry
    rw [async] at isAsyncEntry
    simp [asyncModifier, isAsyncEntry]
  · intro isStaticEntry
    rw [static, List.contains_iff_mem] at isStaticEntry
    have modifier : decoratorModifiers.lookup "staticmethod" = some "static" := by decide
    exact List.mem_append_left _ (List.mem_filterMap.mpr ⟨_, isStaticEntry, modifier⟩)

/-- An entry is that of a method of a class. -/
def EntryAt (method : Site) (entry : MethodEntry) : Prop :=
  isNamedFunction method = true ∧ ∃ site owner, isNamedClass site = true ∧ StandsIn method site ∧
    textOr (site.child? "name") = .ok owner ∧ methodEntry owner method = .ok entry

/-- A symbol is that of a method. -/
def SymbolAt (doc : Document) (method : Site) (symbol : Symbol) : Prop :=
  isMethod method = true ∧ siteSymbols doc method = .ok [symbol]

/-- The entry and the symbol of a method are those of the same method. -/
theorem sameMethod_of_site {symbol : Symbol} (listed : EntryAt method entry)
    (shown : SymbolAt doc method symbol) : SameMethod entry symbol := by
  obtain ⟨isFunction, site, owner, isClassSite, stands, named, read⟩ := listed
  obtain ⟨isMethodSite, made⟩ := shown
  obtain ⟨name, modifiers, scope, documented, nameRead, modified, placed, same⟩ :=
    symbols_of_method isFunction isMethodSite made
  obtain rfl := List.singleton_inj.mp same
  obtain ⟨nameListed, line, className, _⟩ := parts_of_methodEntry read
  obtain ⟨async, static⟩ := mem_modifiers read modified
  refine ⟨value_unique nameRead nameListed, line.symm, ?_, async, static⟩
  rw [className]
  exact scope_of_standsIn stands isClassSite named placed

/-- The methods of an outline are those of its classes, one class after the other. -/
theorem forall₂_entries {result : Outline} (shaped : Shaped tree)
    (read : outline tree doc = .ok result) :
    List.Forall₂ EntryAt (((Site.walk tree).filter isNamedClass).flatMap methods)
      (result.classes.flatMap (·.methods)) := by
  obtain ⟨pairs, sites, entries, each⟩ := exists_classSites read
  have classes : List.Forall₂
      (fun site entry => site ∈ Site.walk tree ∧ isNamedClass site = true ∧
        classEntry doc site = .ok entry) (pairs.map (·.1)) (pairs.map (·.2)) := by
    refine forall₂_of_pairs fun pair inside => ?_
    have kept : pair.1 ∈ (Site.walk tree).filter isNamedClass :=
      sites ▸ List.mem_map_of_mem inside
    obtain ⟨visited, isClassSite⟩ := List.mem_filter.mp kept
    exact ⟨visited, isClassSite, each pair inside⟩
  rw [← sites, ← entries]
  refine List.rel_flatMap classes ?_
  rintro site entry ⟨visited, isClassSite, made⟩
  obtain ⟨named, listed⟩ := parts_of_classEntry made
  obtain ⟨inner, methodSites, methodEntries, made⟩ := exists_pairs listed
  show List.Forall₂ EntryAt (methods site) entry.methods
  rw [← methodSites, ← methodEntries]
  refine forall₂_of_pairs fun pair inside => ?_
  have member : pair.1 ∈ methods site := methodSites ▸ List.mem_map_of_mem inside
  obtain ⟨_, isFunction, stands⟩ :=
    standsIn_of_mem_methods shaped visited (kind_of_isNamedClass isClassSite) member
  exact ⟨isFunction, site, entry.name, isClassSite, stands, named, made pair inside⟩

/-- The symbols of methods are those of the functions that are methods, in document order. -/
theorem forall₂_symbols (made : Python.symbols tree doc = .ok symbols) :
    List.Forall₂ (SymbolAt doc)
      ((Site.walk tree).filter fun site => isNamedFunction site && isMethod site)
      (symbols.filter isMethodSymbol) := by
  obtain ⟨found, each, rfl⟩ := bind_pure_eq_ok.mp made
  have kept : ∀ site symbols, (isNamedFunction site && isMethod site) = true →
      siteSymbols doc site = .ok symbols →
      ∃ symbol, symbols.filter isMethodSymbol = [symbol] ∧ SymbolAt doc site symbol := by
    intro site symbols isMethodSite made
    obtain ⟨isFunction, isMethodSite⟩ := Bool.and_eq_true_iff.mp isMethodSite
    obtain ⟨_, _, _, _, _, _, _, rfl⟩ := symbols_of_method isFunction isMethodSite made
    exact ⟨_, rfl, isMethodSite, made⟩
  have dropped : ∀ site symbols, (isNamedFunction site && isMethod site) = false →
      siteSymbols doc site = .ok symbols → symbols.filter isMethodSymbol = [] := by
    intro site symbols other made
    exact List.filter_eq_nil_iff.mpr fun symbol inside => by
      simp [isMethodSymbol_of_other other made symbol inside]
  obtain ⟨pairs, sites, shown, holds⟩ := exists_pairs_filter (SymbolAt doc) kept dropped each
  rw [← sites, List.filter_flatten, ← List.flatMap_def, ← shown]
  exact forall₂_of_pairs holds

/-- An outline and symbols show the same methods, in whatever order. -/
structure SameMethods (outline : Outline) (symbols : List Symbol) : Prop where
  /-- The methods of all classes and the symbols of methods have the same names and lines, as often
  as each other. -/
  places : ((outline.classes.flatMap (·.methods)).map fun method => (method.name, method.line)).Perm
    ((symbols.filter isMethodSymbol).map fun symbol => (symbol.name, symbol.line))
  /-- The methods can be arranged so that each goes with the symbol of the same method. -/
  matched : ∃ arranged : List MethodEntry,
    arranged.Perm (outline.classes.flatMap (·.methods)) ∧
      List.Forall₂ SameMethod arranged (symbols.filter isMethodSymbol)

/-- Methods that go with symbols have their names and lines. -/
theorem places_of_sameMethod {listed : List MethodEntry}
    (matched : List.Forall₂ SameMethod listed symbols) :
    listed.map (fun method => (method.name, method.line)) =
      symbols.map fun symbol => (symbol.name, symbol.line) := by
  induction matched with
  | nil => rfl
  | cons same _ ih => simp [ih, same.name, same.line]

/-- On a Python tree with the shape of the grammar the outline and a search show the same methods:
those that are listed with the classes are, up to their order, those that have symbols, each with its
name, its line, its class as the innermost scope, and its modifiers. On a decodable tree both are
read. -/
theorem methods_coincide (tree : Tree) (doc : Document) (shaped : Shaped tree) :
    (tree.Decodable → ∃ result symbols,
      outline tree doc = .ok result ∧ Python.symbols tree doc = .ok symbols) ∧
    ∀ result symbols, outline tree doc = .ok result → Python.symbols tree doc = .ok symbols →
      SameMethods result symbols := by
  constructor
  · intro decodable
    obtain ⟨result, read⟩ := succeeds_outline decodable doc
    obtain ⟨symbols, made⟩ := succeeds_symbols decodable doc
    exact ⟨result, symbols, read, made⟩
  · intro result symbols read made
    -- the entries follow the classes and the symbols the text, so the entries are arranged first
    obtain ⟨arranged, listed, order⟩ :=
      List.perm_comp_forall₂ (perm_methods shaped).symm (forall₂_entries shaped read)
    have matched : List.Forall₂ SameMethod arranged (symbols.filter isMethodSymbol) :=
      forall₂_of_common listed (forall₂_symbols made) fun _ _ _ => sameMethod_of_site
    exact ⟨places_of_sameMethod matched ▸ (order.map _).symm, arranged, order, matched⟩

/-- The body of a function that does nothing, at a place. -/
def emptyBody (first row column : Nat) : Tree :=
  .covering "block" (some "body") first ⟨row, column⟩ ⟨row, column + 3⟩ "..."
    [.covering "expression_statement" none first ⟨row, column⟩ ⟨row, column + 3⟩ "..."
      [.covering "ellipsis" none first ⟨row, column⟩ ⟨row, column + 3⟩ "..." []]]

/-- The text of a class with a class before its method; the method inside is static and the other one
asynchronous. -/
def classInClassText : String :=
  "class A:\n    class B:\n        @staticmethod\n        def f(): ...\n" ++
    "    async def g(self): ...\n"

/-- The tree of a class with a class before its method. -/
def classInClass : Tree :=
  .covering "module" none 0 ⟨0, 0⟩ ⟨5, 0⟩ classInClassText
    [.covering "class_definition" none 0 ⟨0, 0⟩ ⟨4, 26⟩
      ("class A:\n    class B:\n        @staticmethod\n        def f(): ...\n" ++
        "    async def g(self): ...")
      [.token "class" 0 ⟨0, 0⟩ ⟨0, 5⟩, .covering "identifier" (some "name") 6 ⟨0, 6⟩ ⟨0, 7⟩ "A" [],
        .token ":" 7 ⟨0, 7⟩ ⟨0, 8⟩,
        .covering "block" (some "body") 13 ⟨1, 4⟩ ⟨4, 26⟩
          ("class B:\n        @staticmethod\n        def f(): ...\n" ++
            "    async def g(self): ...")
          [.covering "class_definition" none 13 ⟨1, 4⟩ ⟨3, 20⟩
            "class B:\n        @staticmethod\n        def f(): ..."
            [.token "class" 13 ⟨1, 4⟩ ⟨1, 9⟩,
              .covering "identifier" (some "name") 19 ⟨1, 10⟩ ⟨1, 11⟩ "B" [],
              .token ":" 20 ⟨1, 11⟩ ⟨1, 12⟩,
              .covering "block" (some "body") 30 ⟨2, 8⟩ ⟨3, 20⟩
                "@staticmethod\n        def f(): ..."
                [.covering "decorated_definition" none 30 ⟨2, 8⟩ ⟨3, 20⟩
                  "@staticmethod\n        def f(): ..."
                  [.covering "decorator" none 30 ⟨2, 8⟩ ⟨2, 21⟩ "@staticmethod"
                    [.token "@" 30 ⟨2, 8⟩ ⟨2, 9⟩,
                      .covering "identifier" none 31 ⟨2, 9⟩ ⟨2, 21⟩ "staticmethod" []],
                    .covering "function_definition" (some "definition") 52 ⟨3, 8⟩ ⟨3, 20⟩
                      "def f(): ..."
                      [.token "def" 52 ⟨3, 8⟩ ⟨3, 11⟩,
                        .covering "identifier" (some "name") 56 ⟨3, 12⟩ ⟨3, 13⟩ "f" [],
                        .covering "parameters" (some "parameters") 57 ⟨3, 13⟩ ⟨3, 15⟩ "()"
                          [.token "(" 57 ⟨3, 13⟩ ⟨3, 14⟩, .token ")" 58 ⟨3, 14⟩ ⟨3, 15⟩],
                        .token ":" 59 ⟨3, 15⟩ ⟨3, 16⟩, emptyBody 61 3 17]]]],
            .covering "function_definition" none 69 ⟨4, 4⟩ ⟨4, 26⟩ "async def g(self): ..."
              [.token "async" 69 ⟨4, 4⟩ ⟨4, 9⟩, .token "def" 75 ⟨4, 10⟩ ⟨4, 13⟩,
                .covering "identifier" (some "name") 79 ⟨4, 14⟩ ⟨4, 15⟩ "g" [],
                .covering "parameters" (some "parameters") 80 ⟨4, 15⟩ ⟨4, 21⟩ "(self)"
                  [.token "(" 80 ⟨4, 15⟩ ⟨4, 16⟩,
                    .covering "identifier" none 81 ⟨4, 16⟩ ⟨4, 20⟩ "self" [],
                    .token ")" 85 ⟨4, 20⟩ ⟨4, 21⟩],
                .token ":" 86 ⟨4, 21⟩ ⟨4, 22⟩, emptyBody 88 4 23]]]]

/-- The outline lists the method of the outer class first, the search finds that of the inner class
first, and both show the same methods. -/
theorem methods_coincide_classInClass :
    Shaped classInClass ∧ classInClass.Decodable ∧
      ∃ result symbols,
        outline classInClass ⟨"a.py", classInClassText, _, rfl⟩ = .ok result ∧
        Python.symbols classInClass ⟨"a.py", classInClassText, _, rfl⟩ = .ok symbols ∧
        (result.classes.flatMap (·.methods)).map (·.name) = ["g", "f"] ∧
        (symbols.filter isMethodSymbol).map (·.name) = ["f", "g"] ∧ SameMethods result symbols := by
  have shaped : Shaped classInClass := by decide +kernel
  have decodable : classInClass.Decodable := by simp [classInClass, emptyBody]
  obtain ⟨reads, same⟩ :=
    methods_coincide classInClass ⟨"a.py", classInClassText, _, rfl⟩ shaped
  obtain ⟨result, symbols, read, made⟩ := reads decodable
  have listed : (outline classInClass ⟨"a.py", classInClassText, _, rfl⟩).toOption.map
      (fun result => (result.classes.flatMap (·.methods)).map (·.name)) = some ["g", "f"] := by
    simp only [outline, Site.walk_eq_preorder]
    decide +kernel
  have searched : (Python.symbols classInClass ⟨"a.py", classInClassText, _, rfl⟩).toOption.map
      (fun symbols => (symbols.filter isMethodSymbol).map (·.name)) = some ["f", "g"] := by
    simp only [Python.symbols, Site.walk_eq_preorder]
    decide +kernel
  rw [read] at listed
  rw [made] at searched
  exact ⟨shaped, decodable, result, symbols, read, made, Option.some.inj listed,
    Option.some.inj searched, same result symbols read made⟩

end SourceLens.Python
