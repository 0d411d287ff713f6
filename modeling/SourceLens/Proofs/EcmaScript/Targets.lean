import SourceLens.Proofs.EcmaScript.Contribution

/-!
# JavaScript targets in the outline

The span of an entity is looked for among the sites of a tree, the entry of an entity among the
lists of an outline. Each search is here expressed by the outline: the function that is found is the
first one listed with its name (`findFunction_eq`), and classes and members are found in the classes
that are listed (`findClass_eq`, `findMember_eq`). In particular every target is read when there is
an outline.
-/
namespace SourceLens.EcmaScript

open Reading

variable {tree : Tree} {doc : Document} {site : Site} {result : Outline}

/-! ## Functions -/

/-- The name and the line of a function are those of the site that contributes it. -/
theorem name_line_of_findings {entry : FunctionEntry}
    (read : findings doc site = .ok (.ofFunctions [entry])) :
    textOr (site.child? "name") = .ok entry.name ∧ entry.line = site.startLine := by
  generalize same : Findings.ofFunctions [entry] = found at read
  cases contribution_of_findings read with
  | declared other _ here =>
    obtain rfl : entry = other := by simpa [Findings.ofFunctions] using same
    obtain ⟨name, named, here⟩ := bind_eq_ok.mp here
    obtain ⟨_, _, here⟩ := bind_eq_ok.mp here
    obtain ⟨_, _, rfl⟩ := bind_pure_eq_ok.mp here
    exact ⟨named, rfl⟩
  | bound function other _ _ here =>
    obtain rfl : entry = other := by simpa [Findings.ofFunctions] using same
    obtain ⟨name, named, here⟩ := bind_eq_ok.mp here
    obtain ⟨_, _, here⟩ := bind_eq_ok.mp here
    obtain ⟨_, _, here⟩ := bind_eq_ok.mp here
    obtain ⟨_, _, rfl⟩ := bind_pure_eq_ok.mp here
    exact ⟨named, rfl⟩
  | ofClass | binding | imported | called | exported | assigned | nothing =>
    simp [Findings.ofFunctions, Findings.ofClass, Findings.none, Findings.ofImports,
      Findings.ofExports] at same

/-- The span of a function at a site. -/
def functionTarget (name : String) (site : Site) : TargetSpan :=
  ⟨"function", name, site.startLine, site.endLine, none⟩

/-- The functions that a site contributes begin on its line. -/
theorem line_of_mem_functions {found : Findings} {entry : FunctionEntry}
    (read : findings doc site = .ok found) (listed : entry ∈ found.functions) :
    entry.line = site.startLine := by
  cases isFunction : isFunctionSite site with
  | false =>
    rw [functions_of_not_isFunctionSite isFunction read] at listed
    cases listed
  | true =>
    obtain ⟨only, rfl⟩ := findings_of_isFunctionSite isFunction read
    obtain rfl := List.mem_singleton.mp listed
    exact (name_line_of_findings read).2

/-- The function that is found is that of the first origin with the name. -/
theorem findFunction_eq (read : outline tree doc = .ok result) :
    ∃ origins, Origins (findings doc) tree result.functions origins ∧
      ∀ name, findFunction tree name =
        .ok ((origins.find? fun origin => origin.2.name == name).map
          fun origin => functionTarget name origin.1) := by
  obtain ⟨candidates, sites, each, known⟩ := exists_origins read
  refine ⟨_, known, fun name => ?_⟩
  have searched : findFunction tree name = .ok (candidates.findSome? fun origin =>
      if origin.2.name == name && !Window.within origin.2.line (classSpans tree) then
        some (functionTarget name origin.1) else none) := by
    unfold findFunction
    rw [← sites]
    refine findSomeM?_map_eq_ok fun origin inside => ?_
    obtain ⟨named, line⟩ := name_line_of_findings (each origin inside)
    exact bind_eq_ok.mpr ⟨_, named, by rw [line]; rfl⟩
  rw [searched, Origins.findSome?_outside candidates
    (fun entry => !Window.within entry.line (classSpans tree)) (fun entry => entry.name == name)]

/-- What is found is a function that begins outside all classes. -/
theorem exists_of_findFunction {name : String} {span : TargetSpan}
    (found : findFunction tree name = .ok (some span)) :
    ∃ site ∈ Site.walk tree, isFunctionSite site = true ∧
      Window.within site.startLine (classSpans tree) = false ∧ span = functionTarget name site := by
  obtain ⟨site, visited, ⟨own, passed⟩, rfl⟩ := exists_of_search_by_name found
  obtain ⟨walked, isFunction⟩ := List.mem_filter.mp visited
  simp only [Bool.and_eq_true, Bool.not_eq_true'] at passed
  exact ⟨site, walked, isFunction, passed.2, rfl⟩

/-! ## Classes and members -/

/-- The classes of an outline beside their sites. -/
theorem exists_classSites (read : outline tree doc = .ok result) :
    ∃ pairs : List (Site × ClassEntry), pairs.map (·.1) = (Site.walk tree).filter isClass ∧
      pairs.map (·.2) = result.classes ∧ ∀ pair ∈ pairs, classEntry doc pair.1 = .ok pair.2 := by
  obtain ⟨found, survey⟩ := exists_survey read
  exact exists_pairs survey.classes

/-- The entry of a class has the name of its site, and its methods are the members there. -/
theorem parts_of_classEntry {entry : ClassEntry} (read : classEntry doc site = .ok entry) :
    textOr (site.child? "name") = .ok entry.name ∧
      ∃ found, members site = .ok found ∧
        found.map (fun member => (member.name, member.site.startLine)) =
          entry.methods.map fun method => (method.name, method.line) := by
  obtain ⟨name, named, read⟩ := bind_eq_ok.mp read
  obtain ⟨found, listed, read⟩ := bind_eq_ok.mp read
  obtain ⟨methods, shown, read⟩ := bind_eq_ok.mp read
  obtain ⟨_, _, read⟩ := bind_eq_ok.mp read
  obtain ⟨_, _, rfl⟩ := bind_pure_eq_ok.mp read
  refine ⟨named, found, listed, map_eq_of_mapM (fun member method made => ?_) shown⟩
  obtain ⟨_, _, rfl⟩ := bind_pure_eq_ok.mp made
  rfl

/-- The class that is found is the first one listed with the name. -/
theorem findClass_eq (read : outline tree doc = .ok result) :
    ∃ pairs : List (Site × ClassEntry), pairs.map (·.2) = result.classes ∧
      ∀ name, findClass tree name = .ok (pairs.findSome? fun pair =>
        if pair.2.name == name then
          some ⟨"class", name, pair.1.startLine, pair.1.endLine, none⟩ else none) := by
  obtain ⟨pairs, sites, entries, each⟩ := exists_classSites read
  refine ⟨pairs, entries, fun name => ?_⟩
  unfold findClass
  rw [← sites]
  refine findSomeM?_map_eq_ok fun pair inside => ?_
  exact bind_eq_ok.mpr ⟨_, (parts_of_classEntry (each pair inside)).1, rfl⟩

/-- The members at a site, none when they cannot be read. -/
def membersAt (site : Site) : List Member := (members site).toOption.getD []

/-- The span of the first member with a name at the site of a class. -/
def memberAt (owner : String) (site : Site) (name : String) : Option TargetSpan :=
  ((membersAt site).find? (·.name == name)).map fun member =>
    ⟨"method", name, memberStart member.site, member.site.endLine, some owner⟩

/-- Members are looked up in the directory of the classes that are listed. -/
theorem findMember_eq (read : outline tree doc = .ok result) :
    ∃ directory, Directory result.classes directory ∧
      ∀ name className,
        findMember tree name className = .ok (Directory.search directory name className) := by
  obtain ⟨pairs, sites, entries, each⟩ := exists_classSites read
  refine ⟨pairs.map fun pair => (pair.2, memberAt pair.2.name pair.1), ⟨?_, ?_, ?_⟩, ?_⟩
  · rw [List.map_map, ← entries]
    rfl
  · rintro _ inside name
    obtain ⟨pair, here, rfl⟩ := List.mem_map.mp inside
    obtain ⟨_, found, listed, same⟩ := parts_of_classEntry (each pair here)
    have names : found.map (·.name) = pair.2.methods.map (·.name) := by
      have firsts := congrArg (List.map Prod.fst) same
      rw [List.map_map, List.map_map] at firsts
      exact firsts
    have present : name ∈ found.map (·.name) ↔ name ∈ pair.2.methods.map (·.name) := by rw [names]
    simpa [memberAt, membersAt, listed, Except.toOption] using present
  · rintro _ inside name span answer
    obtain ⟨pair, here, rfl⟩ := List.mem_map.mp inside
    obtain ⟨member, _, rfl⟩ := Option.map_eq_some_iff.mp answer
    exact ⟨rfl, rfl, rfl⟩
  · intro name className
    unfold findMember
    rw [← sites, Directory.search, List.findSome?_map]
    refine findSomeM?_map_eq_ok fun pair here => ?_
    obtain ⟨named, found, listed, _⟩ := parts_of_classEntry (each pair here)
    refine bind_eq_ok.mpr ⟨_, named, ?_⟩
    simp only [Function.comp_apply]
    split
    · refine bind_eq_ok.mpr ⟨found, listed, ?_⟩
      simp [memberAt, membersAt, listed, Except.toOption]
      rfl
    · rfl

/-- Whatever is found is found by one search: for a class, for a member or for a function. -/
theorem resolve_cases {qualifier : Qualifier} {span : TargetSpan}
    (found : resolve tree qualifier = .ok (some span)) :
    findClass tree qualifier.name = .ok (some span) ∨
      (∃ className, findMember tree qualifier.name className = .ok (some span)) ∨
      findFunction tree qualifier.name = .ok (some span) := by
  unfold resolve at found
  split at found
  · exact .inr (.inl ⟨_, found⟩)
  split at found
  · exact .inl found
  split at found
  · exact .inr (.inl ⟨_, found⟩)
  split at found
  · obtain ⟨function, searched, rest⟩ := bind_eq_ok.mp found
    cases function with
    | none => exact .inr (.inl ⟨_, rest⟩)
    | some function =>
      obtain rfl := Option.some.inj (pure_eq_ok.mp rest)
      exact .inr (.inr searched)
  · cases pure_eq_ok.mp found

/-- When there is an outline, every target is read. A function that is listed is found as one, and
otherwise looked for among the members. -/
theorem resolve_function_eq (read : outline tree doc = .ok result) :
    ∃ origins directory, Origins (findings doc) tree result.functions origins ∧
      Directory result.classes directory ∧ ∀ raw name,
        resolve tree ⟨raw, "function", name, none⟩ =
          .ok (((origins.find? fun origin => origin.2.name == name).map fun origin =>
            functionTarget name origin.1).or (Directory.search directory name none)) := by
  obtain ⟨origins, known, functions⟩ := findFunction_eq read
  obtain ⟨directory, classes, members⟩ := findMember_eq read
  refine ⟨origins, directory, known, classes, fun raw name => ?_⟩
  rw [resolve]
  simp only [Option.bind_none]
  refine bind_eq_ok.mpr ⟨_, functions name, ?_⟩
  cases origins.find? fun origin => origin.2.name == name with
  | none => exact members name none
  | some origin => rfl

/-- A function that is listed is found at the line of the first one with its name. -/
theorem exists_function_of_listed (read : outline tree doc = .ok result) {entry : FunctionEntry}
    (listed : entry ∈ result.functions) (raw : String) :
    ∃ span first, resolve tree ⟨raw, "function", entry.name, none⟩ = .ok (some span) ∧
      span.targetType = "function" ∧
      result.functions.find? (fun other => other.name == entry.name) = some first ∧
      span.start = first.line := by
  obtain ⟨origins, directory, known, places, resolved⟩ := resolve_function_eq read
  obtain ⟨agrees, first⟩ :=
    known.function_found_iff places entry.name (functionTarget entry.name) (fun _ => rfl) rfl
  obtain ⟨span, found, kind⟩ := agrees.mpr ⟨entry, listed, rfl⟩
  obtain ⟨site, other, origin, rfl⟩ := first span found kind
  have contributed := known.contributed _ (List.mem_of_find?_eq_some origin)
  refine ⟨_, other, by rw [resolved, found], rfl, ?_, (name_line_of_findings contributed).2.symm⟩
  rw [known.find?_entries fun other => other.name == entry.name, origin]
  rfl

/-- The search finds everything that the outline lists. -/
theorem reaches_outline (read : outline tree doc = .ok result) :
    Reaches (resolve tree) result where
  functions entry listed _ raw := by
    obtain ⟨span, _, resolved, kind, _⟩ := exists_function_of_listed read listed raw
    exact ⟨span, resolved, kind⟩
  classes entry listed raw := by
    obtain ⟨pairs, entries, searched⟩ := findClass_eq read
    have agrees := classFound_of_pairs pairs entry.name Site.span
    rw [entries] at agrees
    obtain ⟨span, found⟩ := Option.isSome_iff_exists.mp (agrees.listed.mpr ⟨entry, listed, rfl⟩)
    exact ⟨span, (searched entry.name).trans (congrArg Except.ok found), agrees.kind span found⟩
  methods entry listed method inside owned raw := by
    obtain ⟨directory, known, searched⟩ := findMember_eq read
    obtain ⟨span, found, kind, _, owner⟩ := known.exists_of_listed listed inside
    refine ⟨span, ?_, kind, owner⟩
    have named : (some entry.name).bind nonempty? = some entry.name := by
      simp [nonempty?, owned]
    simp only [resolve, named, searched, found]

/-- The text of a class with a method and of a function with the same name. -/
def methodThenFunctionText : String := "class C \x7b f() \x7b\x7d \x7d\nfunction f() \x7b\x7d\n"

/-- The tree of a class with a method and of a function with the same name. -/
def methodThenFunction : Tree :=
  .covering "program" none 0 ⟨0, 0⟩ ⟨2, 0⟩ methodThenFunctionText
    [.covering "class_declaration" none 0 ⟨0, 0⟩ ⟨0, 18⟩ "class C \x7b f() \x7b\x7d \x7d"
      [.token "class" 0 ⟨0, 0⟩ ⟨0, 5⟩, .covering "identifier" (some "name") 6 ⟨0, 6⟩ ⟨0, 7⟩ "C" [],
        .covering "class_body" (some "body") 8 ⟨0, 8⟩ ⟨0, 18⟩ "\x7b f() \x7b\x7d \x7d"
          [.token "\x7b" 8 ⟨0, 8⟩ ⟨0, 9⟩,
            .covering "method_definition" (some "member") 10 ⟨0, 10⟩ ⟨0, 16⟩ "f() \x7b\x7d"
              [.covering "property_identifier" (some "name") 10 ⟨0, 10⟩ ⟨0, 11⟩ "f" [],
                .covering "formal_parameters" (some "parameters") 11 ⟨0, 11⟩ ⟨0, 13⟩ "()"
                  [.token "(" 11 ⟨0, 11⟩ ⟨0, 12⟩, .token ")" 12 ⟨0, 12⟩ ⟨0, 13⟩],
                .covering "statement_block" (some "body") 14 ⟨0, 14⟩ ⟨0, 16⟩ "\x7b\x7d"
                  [.token "\x7b" 14 ⟨0, 14⟩ ⟨0, 15⟩, .token "\x7d" 15 ⟨0, 15⟩ ⟨0, 16⟩]],
            .token "\x7d" 17 ⟨0, 17⟩ ⟨0, 18⟩]],
      .covering "function_declaration" none 19 ⟨1, 0⟩ ⟨1, 15⟩ "function f() \x7b\x7d"
        [.token "function" 19 ⟨1, 0⟩ ⟨1, 8⟩,
          .covering "identifier" (some "name") 28 ⟨1, 9⟩ ⟨1, 10⟩ "f" [],
          .covering "formal_parameters" (some "parameters") 29 ⟨1, 10⟩ ⟨1, 12⟩ "()"
            [.token "(" 29 ⟨1, 10⟩ ⟨1, 11⟩, .token ")" 30 ⟨1, 11⟩ ⟨1, 12⟩],
          .covering "statement_block" (some "body") 32 ⟨1, 13⟩ ⟨1, 15⟩ "\x7b\x7d"
            [.token "\x7b" 32 ⟨1, 13⟩ ⟨1, 14⟩, .token "\x7d" 33 ⟨1, 14⟩ ⟨1, 15⟩]]]

/-- The outline of a class with a method and of a function with the same name. -/
def methodThenFunctionOutline : Outline where
  functions := [⟨"f", 2, 0, false, "function f()", "function_declaration", none⟩]
  classes := [⟨"C", 1, 0, [⟨"f", 1, false, false, "f()", "C"⟩], none, none⟩]
  imports := []
  exports := []

/-- The outline is read off the tree. -/
theorem outline_methodThenFunction :
    outline methodThenFunction ⟨"c.js", methodThenFunctionText, _, rfl⟩ =
      .ok methodThenFunctionOutline := by
  simp only [outline, Site.walk_eq_preorder]
  decide +kernel

end SourceLens.EcmaScript
