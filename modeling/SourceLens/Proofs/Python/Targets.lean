import SourceLens.Proofs.Python.Contribution

/-!
# Python targets in the outline

The span of an entity is looked for among the sites of a tree, the entry of an entity among the
lists of an outline. Each search is here expressed by the outline. A class without a name is never
listed, and yet its lines hide functions from the search, and the empty name finds it; so the trees
are those whose classes all have names (`ClassesNamed`), except where a search asks for a class with
a name. The function that is found is the first one listed with its name (`findFunction_eq`), and
classes and methods are found in the classes that are listed (`findClass_eq`, `findMethod_eq`).
-/
namespace SourceLens.Python

open Reading

variable {tree : Tree} {doc : Document} {site : Site} {result : Outline}

/-- All classes of a tree have names. -/
def ClassesNamed (tree : Tree) : Prop :=
  ∀ site ∈ Site.walk tree, isClass site = true → (site.child? "name").isSome = true

/-- When all classes have names, the classes are the classes with a name. -/
theorem filter_isClass (named : ClassesNamed tree) :
    (Site.walk tree).filter isClass = (Site.walk tree).filter isNamedClass := by
  refine List.filter_congr fun site inside => ?_
  cases isClassSite : isClass site with
  | false => simp [isNamedClass, isClassSite]
  | true => simp [isNamedClass, isClassSite, named site inside isClassSite]

/-! ## Functions -/

/-- The name and the line of a function are those of the site that contributes it. -/
theorem name_line_of_findings {entry : FunctionEntry}
    (read : findings doc site = .ok (.ofFunctions [entry])) :
    ∃ named, functionName? site = some named ∧ textOr named = .ok entry.name ∧
      entry.line = site.startLine := by
  generalize same : Findings.ofFunctions [entry] = found at read
  cases contribution_of_findings read with
  | declared other isDeclared here =>
    obtain rfl : entry = other := by simpa [Findings.ofFunctions] using same
    obtain ⟨name, named, here⟩ := bind_eq_ok.mp here
    obtain ⟨_, _, here⟩ := bind_eq_ok.mp here
    obtain ⟨_, _, rfl⟩ := bind_pure_eq_ok.mp here
    exact ⟨_, by simp [functionName?, kind_of_isNamedFunction isDeclared], named, rfl⟩
  | bound function other kind binds here =>
    obtain rfl : entry = other := by simpa [Findings.ofFunctions] using same
    obtain ⟨name, named, here⟩ := bind_eq_ok.mp here
    obtain ⟨_, _, rfl⟩ := bind_pure_eq_ok.mp here
    exact ⟨_, by simp [functionName?, kind, binds], named, rfl⟩
  | ofClass | assigned | augmented | imported | nothing =>
    simp [Findings.ofFunctions, Findings.ofClass, Findings.none, Findings.ofImports,
      Findings.ofExports] at same

/-- The functions that a site contributes begin on its line. -/
theorem line_of_mem_functions {found : Findings} {entry : FunctionEntry}
    (read : findings doc site = .ok found) (listed : entry ∈ found.functions) :
    entry.line = site.startLine := by
  cases isFunction : isFunctionSite site with
  | false =>
    rw [functions_of_not_isFunctionSite isFunction read] at listed
    cases listed
  | true =>
    obtain ⟨only, rfl⟩ := findings_of_isFunctionSite isFunction read
    obtain rfl := List.mem_singleton.mp listed
    obtain ⟨_, _, _, line⟩ := name_line_of_findings read
    exact line

/-- A site that is not that of a function has no name of a function, or lacks the name. -/
theorem functionName?_of_not_isFunctionSite (noFunction : isFunctionSite site = false) :
    functionName? site = none ∨ functionName? site = some none := by
  simp only [isFunctionSite, isNamedFunction, Bool.or_eq_false_iff] at noFunction
  unfold functionName?
  by_cases kind : site.kind = "function_definition"
  · right
    simpa [kind] using noFunction.1
  · left
    simpa [kind] using noFunction.2

/-- The span of a function at a site, its decorators included. -/
def functionTarget (name : String) (site : Site) : TargetSpan :=
  ⟨"function", name, (functionSpan site).1, (functionSpan site).2, none⟩

/-- The function that is found is that of the first origin with the name. The empty name is left
out: it is the name of a function that has none. -/
theorem findFunction_eq (named : ClassesNamed tree) (read : outline tree doc = .ok result) :
    ∃ origins, Origins (findings doc) tree result.functions origins ∧
      ∀ name, name ≠ "" → findFunction tree name =
        .ok ((origins.find? fun origin => origin.2.name == name).map
          fun origin => functionTarget name origin.1) := by
  obtain ⟨candidates, sites, each, known⟩ := exists_origins read
  refine ⟨_, known, fun name nonempty => ?_⟩
  have searched : findFunction tree name = .ok (candidates.findSome? fun origin =>
      if origin.2.name == name && !Window.within origin.2.line (classSpans tree) then
        some (functionTarget name origin.1) else none) := by
    unfold findFunction
    rw [filter_isClass named]
    -- a function without a name has the empty one, so it is passed over like other sites
    rw [findSomeM?_filter isFunctionSite, ← sites]
    · refine findSomeM?_map_eq_ok fun origin inside => ?_
      obtain ⟨nameSite, found, content, line⟩ := name_line_of_findings (each origin inside)
      rw [found]
      exact bind_eq_ok.mpr ⟨_, content, by rw [line]; rfl⟩
    · intro site _ noFunction
      rcases functionName?_of_not_isFunctionSite noFunction with absent | lacking
      · rw [absent]
        rfl
      · rw [lacking]
        refine bind_eq_ok.mpr ⟨"", rfl, ?_⟩
        simp [nonempty.symm, pure_eq_ok]
  rw [searched, Origins.findSome?_outside candidates
    (fun entry => !Window.within entry.line (classSpans tree)) (fun entry => entry.name == name)]

/-- What is found is a function that begins outside all classes, those without a name included. -/
theorem exists_of_findFunction {name : String} {span : TargetSpan}
    (found : findFunction tree name = .ok (some span)) :
    ∃ site ∈ Site.walk tree, (functionName? site).isSome = true ∧
      Window.within site.startLine (((Site.walk tree).filter isClass).map classSpan) = false ∧
      span = functionTarget name site := by
  obtain ⟨site, walked, here⟩ := exists_of_findSomeM?_eq_some found
  split at here
  · cases pure_eq_ok.mp here
  · next named isFunction =>
    obtain ⟨own, _, made⟩ := bind_pure_eq_ok.mp here
    split at made
    · next passed =>
      simp only [Bool.and_eq_true, Bool.not_eq_true'] at passed
      exact ⟨site, walked, by simp [isFunction], passed.2, (Option.some.inj made).symm⟩
    · cases made

/-! ## Classes and methods -/

/-- A search through the classes goes through those with a name when there are no others, or when it
passes over them. -/
theorem findSomeM?_isClass {read : Site → Reading (Option TargetSpan)}
    (skips : ClassesNamed tree ∨ ∀ site, site.child? "name" = none → read site = .ok none) :
    ((Site.walk tree).filter isClass).findSomeM? read =
      ((Site.walk tree).filter isNamedClass).findSomeM? read := by
  rcases skips with named | skips
  · rw [filter_isClass named]
  · rw [findSomeM?_filter fun site => (site.child? "name").isSome, List.filter_filter]
    · congr 2
      funext site
      exact Bool.and_comm _ _
    · intro site _ unnamed
      exact skips site (by simpa using unnamed)

/-- The classes of an outline beside their sites. -/
theorem exists_classSites (read : outline tree doc = .ok result) :
    ∃ pairs : List (Site × ClassEntry), pairs.map (·.1) = (Site.walk tree).filter isNamedClass ∧
      pairs.map (·.2) = result.classes ∧ ∀ pair ∈ pairs, classEntry doc pair.1 = .ok pair.2 := by
  obtain ⟨found, survey⟩ := exists_survey read
  exact exists_pairs survey.classes

/-- The entry of a class has the name of its site, and its methods are those there. -/
theorem parts_of_classEntry {entry : ClassEntry} (read : classEntry doc site = .ok entry) :
    textOr (site.child? "name") = .ok entry.name ∧
      (methods site).mapM (methodEntry entry.name) = .ok entry.methods := by
  obtain ⟨name, named, read⟩ := bind_eq_ok.mp read
  obtain ⟨entries, listed, read⟩ := bind_eq_ok.mp read
  obtain ⟨_, _, read⟩ := bind_eq_ok.mp read
  obtain ⟨_, _, rfl⟩ := bind_pure_eq_ok.mp read
  exact ⟨named, listed⟩

/-- The class that is found is the first one listed with the name, if the empty name is left out where
a class may lack one. -/
theorem findClass_eq (read : outline tree doc = .ok result) :
    ∃ pairs : List (Site × ClassEntry), pairs.map (·.2) = result.classes ∧
      ∀ name, ClassesNamed tree ∨ name ≠ "" → findClass tree name =
        .ok (pairs.findSome? fun pair =>
          if pair.2.name == name then
            some ⟨"class", name, (outer pair.1).startLine, (outer pair.1).endLine, none⟩
          else none) := by
  obtain ⟨pairs, sites, entries, each⟩ := exists_classSites read
  refine ⟨pairs, entries, fun name asked => ?_⟩
  unfold findClass
  rw [findSomeM?_isClass, ← sites]
  · refine findSomeM?_map_eq_ok fun pair inside => ?_
    exact bind_eq_ok.mpr ⟨_, (parts_of_classEntry (each pair inside)).1, rfl⟩
  · refine asked.imp_right fun nonempty site unnamed => ?_
    rw [unnamed]
    exact bind_eq_ok.mpr ⟨"", rfl, by simp [nonempty.symm, pure_eq_ok]⟩

/-- Among methods that are listed, exactly those with the name are found. -/
theorem findMethodIn_eq {sites : List Site} {owner : String} {entries : List MethodEntry}
    (listed : sites.mapM (methodEntry owner) = .ok entries) (name : String) :
    ∃ answer, findMethodIn sites name owner = .ok answer ∧
      (answer.isSome ↔ ∃ method ∈ entries, method.name = name) ∧
      ∀ span, answer = some span →
        span.targetType = "method" ∧ span.name = name ∧ span.className = some owner := by
  obtain ⟨pairs, rfl, rfl, each⟩ := exists_pairs listed
  refine ⟨pairs.findSome? fun pair => if pair.2.name == name then
    some ⟨"method", name, (outer pair.1).startLine, (outer pair.1).endLine, some owner⟩ else none,
    ?_, ?_, ?_⟩
  · refine findSomeM?_map_eq_ok fun pair inside => ?_
    obtain ⟨content, here, made⟩ := bind_eq_ok.mp (each pair inside)
    obtain ⟨_, _, made⟩ := bind_eq_ok.mp made
    obtain ⟨_, _, made⟩ := bind_pure_eq_ok.mp made
    have same : pair.2.name = content := by rw [← made]
    exact bind_eq_ok.mpr ⟨content, here, by rw [same]; rfl⟩
  · rw [List.findSome?_isSome_iff]
    constructor
    · rintro ⟨pair, inside, answer⟩
      exact ⟨pair.2, List.mem_map_of_mem inside, by simpa using answer⟩
    · rintro ⟨_, inside, same⟩
      obtain ⟨pair, here, rfl⟩ := List.mem_map.mp inside
      exact ⟨pair, here, by simp [same]⟩
  · intro span found
    obtain ⟨pair, _, answer⟩ := List.exists_of_findSome?_eq_some found
    split at answer
    · obtain rfl := Option.some.inj answer
      exact ⟨rfl, rfl, rfl⟩
    · contradiction

/-- The span of the first method with a name at the site of a class. -/
def methodAt (owner : String) (site : Site) (name : String) : Option TargetSpan :=
  (findMethodIn (methods site) name owner).toOption.getD none

/-- Methods are looked up in the directory of the classes that are listed, if the classes are named or
an owner with a name is. -/
theorem findMethod_eq (read : outline tree doc = .ok result) :
    ∃ directory, Directory result.classes directory ∧
      ∀ name className, (ClassesNamed tree ∨ ∃ owner, className = some owner ∧ owner ≠ "") →
        findMethod tree name className = .ok (Directory.search directory name className) := by
  obtain ⟨pairs, sites, entries, each⟩ := exists_classSites read
  have answered (pair : Site × ClassEntry) (here : pair ∈ pairs) (name : String) :
      findMethodIn (methods pair.1) name pair.2.name =
          .ok (methodAt pair.2.name pair.1 name) ∧
        ((methodAt pair.2.name pair.1 name).isSome ↔
          ∃ method ∈ pair.2.methods, method.name = name) ∧
        ∀ span, methodAt pair.2.name pair.1 name = some span → span.targetType = "method" ∧
          span.name = name ∧ span.className = some pair.2.name := by
    obtain ⟨answer, found, facts⟩ :=
      findMethodIn_eq (parts_of_classEntry (each pair here)).2 name
    have same : methodAt pair.2.name pair.1 name = answer := by
      rw [methodAt, found]
      rfl
    rw [same]
    exact ⟨found, facts⟩
  refine ⟨pairs.map fun pair => (pair.2, methodAt pair.2.name pair.1), ⟨?_, ?_, ?_⟩, ?_⟩
  · rw [List.map_map, ← entries]
    rfl
  · rintro _ inside name
    obtain ⟨pair, here, rfl⟩ := List.mem_map.mp inside
    exact (answered pair here name).2.1
  · rintro _ inside name
    obtain ⟨pair, here, rfl⟩ := List.mem_map.mp inside
    exact (answered pair here name).2.2
  · intro name className asked
    unfold findMethod
    rw [findSomeM?_isClass, ← sites, Directory.search, List.findSome?_map]
    · refine findSomeM?_map_eq_ok fun pair here => ?_
      refine bind_eq_ok.mpr ⟨_, (parts_of_classEntry (each pair here)).1, ?_⟩
      simp only [Function.comp_apply]
      split
      · exact (answered pair here name).1
      · rfl
    · refine asked.imp_right ?_
      rintro ⟨owner, rfl, nonempty⟩ site unnamed
      rw [unnamed]
      exact bind_eq_ok.mpr ⟨"", rfl, by simp [nonempty.symm, pure_eq_ok]⟩

/-- Whatever is found is found by one search: for a class, for a method or for a function. -/
theorem resolve_cases {qualifier : Qualifier} {span : TargetSpan}
    (found : resolve tree qualifier = .ok (some span)) :
    findClass tree qualifier.name = .ok (some span) ∨
      (∃ className, findMethod tree qualifier.name className = .ok (some span)) ∨
      findFunction tree qualifier.name = .ok (some span) := by
  unfold resolve at found
  split at found
  · exact .inr (.inl ⟨_, found⟩)
  split at found
  · exact .inl found
  split at found
  · exact .inr (.inl ⟨_, found⟩)
  split at found
  · obtain ⟨function, searched, rest⟩ := bind_eq_ok.mp found
    cases function with
    | none => exact .inr (.inl ⟨_, rest⟩)
    | some function =>
      obtain rfl := Option.some.inj (pure_eq_ok.mp rest)
      exact .inr (.inr searched)
  · cases pure_eq_ok.mp found

/-- A function that is listed is found as one, and otherwise looked for among the methods. -/
theorem resolve_function_eq (named : ClassesNamed tree) (read : outline tree doc = .ok result) :
    ∃ origins directory, Origins (findings doc) tree result.functions origins ∧
      Directory result.classes directory ∧ ∀ raw name, name ≠ "" →
        resolve tree ⟨raw, "function", name, none⟩ =
          .ok (((origins.find? fun origin => origin.2.name == name).map fun origin =>
            functionTarget name origin.1).or (Directory.search directory name none)) := by
  obtain ⟨origins, known, functions⟩ := findFunction_eq named read
  obtain ⟨directory, classes, methods⟩ := findMethod_eq read
  refine ⟨origins, directory, known, classes, fun raw name nonempty => ?_⟩
  rw [resolve]
  simp only [Option.bind_none]
  refine bind_eq_ok.mpr ⟨_, functions name nonempty, ?_⟩
  cases origins.find? fun origin => origin.2.name == name with
  | none => exact methods name none (.inl named)
  | some origin => rfl

/-- The search finds everything that the outline lists, when all classes have names. -/
theorem reaches_outline (named : ClassesNamed tree) (read : outline tree doc = .ok result) :
    Reaches (resolve tree) result where
  functions entry listed nonempty raw := by
    obtain ⟨origins, directory, known, places, resolved⟩ := resolve_function_eq named read
    obtain ⟨agrees, _⟩ :=
      known.function_found_iff places entry.name (functionTarget entry.name) (fun _ => rfl) rfl
    obtain ⟨span, found, kind⟩ := agrees.mpr ⟨entry, listed, rfl⟩
    exact ⟨span, by rw [resolved raw entry.name nonempty, found], kind⟩
  classes entry listed raw := by
    obtain ⟨pairs, entries, searched⟩ := findClass_eq read
    have agrees := classFound_of_pairs pairs entry.name fun site => (outer site).span
    rw [entries] at agrees
    obtain ⟨span, found⟩ := Option.isSome_iff_exists.mp (agrees.listed.mpr ⟨entry, listed, rfl⟩)
    exact ⟨span, (searched entry.name (.inl named)).trans (congrArg Except.ok found),
      agrees.kind span found⟩
  methods entry listed method inside owned raw := by
    obtain ⟨directory, known, searched⟩ := findMethod_eq read
    obtain ⟨span, found, kind, _, owner⟩ := known.exists_of_listed listed inside
    refine ⟨span, ?_, kind, owner⟩
    have present : (some entry.name).bind nonempty? = some entry.name := by
      simp [nonempty?, owned]
    simp only [resolve, present, searched _ _ (.inl named), found]

/-- The text of a class with a method and of a function after it. -/
def methodThenFunctionText : String :=
  "class C:\n    def m(self):\n        pass\ndef f():\n    pass\n"

/-- The tree of a class with a method and of a function after it. -/
def methodThenFunction : Tree :=
  .covering "module" none 0 ⟨0, 0⟩ ⟨5, 0⟩ methodThenFunctionText
    [.covering "class_definition" none 0 ⟨0, 0⟩ ⟨2, 12⟩
      "class C:\n    def m(self):\n        pass"
      [.token "class" 0 ⟨0, 0⟩ ⟨0, 5⟩, .covering "identifier" (some "name") 6 ⟨0, 6⟩ ⟨0, 7⟩ "C" [],
        .token ":" 7 ⟨0, 7⟩ ⟨0, 8⟩,
        .covering "block" (some "body") 13 ⟨1, 4⟩ ⟨2, 12⟩ "def m(self):\n        pass"
          [.covering "function_definition" none 13 ⟨1, 4⟩ ⟨2, 12⟩ "def m(self):\n        pass"
            [.token "def" 13 ⟨1, 4⟩ ⟨1, 7⟩,
              .covering "identifier" (some "name") 17 ⟨1, 8⟩ ⟨1, 9⟩ "m" [],
              .covering "parameters" (some "parameters") 18 ⟨1, 9⟩ ⟨1, 15⟩ "(self)"
                [.token "(" 18 ⟨1, 9⟩ ⟨1, 10⟩,
                  .covering "identifier" none 19 ⟨1, 10⟩ ⟨1, 14⟩ "self" [],
                  .token ")" 23 ⟨1, 14⟩ ⟨1, 15⟩],
              .token ":" 24 ⟨1, 15⟩ ⟨1, 16⟩,
              .covering "block" (some "body") 34 ⟨2, 8⟩ ⟨2, 12⟩ "pass"
                [.covering "pass_statement" none 34 ⟨2, 8⟩ ⟨2, 12⟩ "pass"
                  [.token "pass" 34 ⟨2, 8⟩ ⟨2, 12⟩]]]]],
      .covering "function_definition" none 39 ⟨3, 0⟩ ⟨4, 8⟩ "def f():\n    pass"
        [.token "def" 39 ⟨3, 0⟩ ⟨3, 3⟩,
          .covering "identifier" (some "name") 43 ⟨3, 4⟩ ⟨3, 5⟩ "f" [],
          .covering "parameters" (some "parameters") 44 ⟨3, 5⟩ ⟨3, 7⟩ "()"
            [.token "(" 44 ⟨3, 5⟩ ⟨3, 6⟩, .token ")" 45 ⟨3, 6⟩ ⟨3, 7⟩],
          .token ":" 46 ⟨3, 7⟩ ⟨3, 8⟩,
          .covering "block" (some "body") 52 ⟨4, 4⟩ ⟨4, 8⟩ "pass"
            [.covering "pass_statement" none 52 ⟨4, 4⟩ ⟨4, 8⟩ "pass"
              [.token "pass" 52 ⟨4, 4⟩ ⟨4, 8⟩]]]]

/-- The class of the sample has a name. -/
theorem classesNamed_methodThenFunction : ClassesNamed methodThenFunction := by
  have named : ((Site.walk methodThenFunction).filter isClass).all
      (fun site => (site.child? "name").isSome) = true := by
    rw [Site.walk_eq_preorder]
    decide +kernel
  intro site inside isClassSite
  exact List.all_eq_true.mp named site (List.mem_filter.mpr ⟨inside, isClassSite⟩)

end SourceLens.Python
