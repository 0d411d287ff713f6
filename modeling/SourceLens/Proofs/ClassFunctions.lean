import SourceLens.Language
import SourceLens.Proofs.MemberTargets
import SourceLens.Proofs.Tree.Nesting

/-!
# Functions in classes

A function in a class is left to the class: it is not listed as a function and not found as one, at
whatever depth of methods, closures and classes it stands. Neither reading looks at the sites above
a function. They compare its first line with the lines of all classes, so the result depends on
nested rows: then the line of a function lies in the lines of every class above it
(`Site.within_of_inClass`). Where the rows are nested, every function that is listed or found
stands in no class (`class_functions_stay_inside`).
-/
namespace SourceLens

open Reading

namespace Site

variable {tree : Tree} {site above other holder holder' : Site} {isClass : Site → Bool}
  {classSpan : Site → Int × Int} {line : Int}

/-- A site stands in a class: a site above it is a class. -/
def InClass (isClass : Site → Bool) (site : Site) : Prop :=
  ∃ above ∈ site.ancestors, isClass above = true

/-- Whether a site stands in a class can be checked. -/
instance (isClass : Site → Bool) (site : Site) : Decidable (site.InClass isClass) :=
  inferInstanceAs (Decidable (∃ above ∈ site.ancestors, isClass above = true))

/-- The lines of the classes of a tree. -/
def classLines (isClass : Site → Bool) (classSpan : Site → Int × Int) (tree : Tree) :
    List (Int × Int) :=
  ((walk tree).filter isClass).map classSpan

/-- The lines of every class hold its rows. -/
def CoversClasses (isClass : Site → Bool) (classSpan : Site → Int × Int) (tree : Tree) : Prop :=
  ∀ site ∈ walk tree, isClass site = true →
    (classSpan site).1 ≤ site.startLine ∧ site.endLine ≤ (classSpan site).2

/-- A line within the rows of a class is within the lines of the classes. -/
theorem within_of_class (covers : CoversClasses isClass classSpan tree)
    (visited : above ∈ walk tree) (isClassSite : isClass above = true)
    (low : above.startLine ≤ line) (high : line ≤ above.endLine) :
    Window.within line (classLines isClass classSpan tree) = true := by
  obtain ⟨start, stop⟩ := covers above visited isClassSite
  have listed := List.mem_map_of_mem (f := classSpan)
    (List.mem_filter.mpr ⟨visited, isClassSite⟩)
  refine List.any_eq_true.mpr ⟨classSpan above, listed, ?_⟩
  simp only [Bool.and_eq_true, decide_eq_true_eq]
  omega

/-- A site in a class begins within the lines of the classes. -/
theorem within_of_inClass (nested : tree.RowsNested)
    (covers : CoversClasses isClass classSpan tree) (visited : site ∈ walk tree)
    (inside : site.InClass isClass) :
    Window.within site.startLine (classLines isClass classSpan tree) = true := by
  obtain ⟨above, up, isClassSite⟩ := inside
  obtain ⟨low, high, _⟩ := lines_of_encloses (encloses_of_mem_ancestors nested visited up)
  exact within_of_class covers (mem_walk_of_mem_ancestors visited up) isClassSite low high

/-- A site that holds another is the other site or the one right above it, and then no class. -/
def Holds (isClass : Site → Bool) (holder site : Site) : Prop :=
  holder = site ∨ site.parent? = some holder ∧ isClass holder = false

/-- What holds a site in a class stands within the rows of the class. -/
theorem Holds.encloses (holds : Holds isClass holder site) (nested : tree.RowsNested)
    (visited : site ∈ walk tree) (up : above ∈ site.ancestors) (isClassSite : isClass above = true) :
    above.tree.Encloses holder.tree := by
  rcases holds with rfl | ⟨parent, noClass⟩
  · exact encloses_of_mem_ancestors nested visited up
  · rw [ancestors_of_parent? parent] at up
    rcases List.mem_cons.mp up with rfl | higher
    · rw [isClassSite] at noClass
      contradiction
    · exact encloses_of_mem_ancestors nested (mem_walk_of_parent? visited parent) higher

/-- A site begins with what holds it, or later and no later than that ends. -/
theorem Holds.startLine_cases (holds : Holds isClass holder site) (nested : tree.RowsNested)
    (visited : site ∈ walk tree) :
    site.startLine = holder.startLine ∨
      holder.startLine ≤ site.startLine ∧ site.startLine ≤ holder.endLine := by
  rcases holds with rfl | ⟨parent, _⟩
  · exact .inl rfl
  · obtain ⟨low, high, _⟩ := lines_of_encloses (encloses_of_parent? nested visited parent)
    exact .inr ⟨low, high⟩

/-- A site that begins outside the lines of the classes is not held by the lines that hold a site in
a class: those are lines of the class. -/
theorem span_ne_of_inClass (nested : tree.RowsNested)
    (covers : CoversClasses isClass classSpan tree) (visited : site ∈ walk tree)
    (inside : site.InClass isClass) (holds : Holds isClass holder site)
    (visited' : other ∈ walk tree) (holds' : Holds isClass holder' other)
    (outside : Window.within other.startLine (classLines isClass classSpan tree) = false) :
    holder'.span ≠ holder.span := by
  intro same
  obtain ⟨starts, stops⟩ := Prod.mk.inj same
  obtain ⟨above, up, isClassSite⟩ := inside
  -- the lines that are the same lie in the class, and the other site begins within them
  have held := lines_of_encloses (holds.encloses nested visited up isClassSite)
  have begins := holds'.startLine_cases nested visited'
  have hidden := within_of_class covers (mem_walk_of_mem_ancestors visited up) isClassSite
    (by omega : above.startLine ≤ other.startLine) (by omega)
  rw [hidden] at outside
  contradiction

end Site

/-- The functions of an outline begin outside the lines of the classes. -/
theorem Findings.Survey.outside {findings : Site → Reading Findings} {isClass : Site → Bool}
    {classSpan : Site → Int × Int} {classEntry : Site → Reading ClassEntry} {tree : Tree}
    {found : List Findings} {outline : Outline} {entry : FunctionEntry}
    (survey : Survey findings isClass classSpan classEntry (Site.walk tree) found outline)
    (kept : entry ∈ outline.functions) :
    Window.within entry.line (Site.classLines isClass classSpan tree) = false := by
  rw [survey.functions] at kept
  have outside := (List.mem_filter.mp kept).2
  rw [Bool.not_eq_true'] at outside
  exact outside

/-- The functions in classes are left to the classes, in a list of functions and in a search for
them. -/
structure LeavesToClasses (grammar : Grammar) (findings : Document → Site → Reading Findings)
    (isClass isFunction : Site → Bool) (lines : Site → Int × Int) (tree : Tree) : Prop where
  /-- What a site in a class contributes is not listed. -/
  hidden : ∀ doc outline, grammar.outline tree doc = .ok outline → ∀ site ∈ Site.walk tree,
    site.InClass isClass → ∀ found, findings doc site = .ok found →
    ∀ entry ∈ found.functions, entry ∉ outline.functions
  /-- Every function that is listed comes from a site that stands in no class. -/
  listed : ∀ doc outline, grammar.outline tree doc = .ok outline →
    ∃ origins, Origins (findings doc) tree outline.functions origins ∧
      ∀ origin ∈ origins, ¬origin.1.InClass isClass
  /-- A function that is found is one at a site that stands in no class. -/
  found : ∀ qualifier span, grammar.resolve tree qualifier = .ok (some span) →
    span.targetType = "function" → ∃ site ∈ Site.walk tree, isFunction site = true ∧
      ¬site.InClass isClass ∧ (span.start, span.stop) = lines site
  /-- Its lines are not those of a site in a class. -/
  missed : ∀ qualifier span, grammar.resolve tree qualifier = .ok (some span) →
    span.targetType = "function" → ∀ site ∈ Site.walk tree, site.InClass isClass →
      (span.start, span.stop) ≠ lines site

/-- Functions in classes are left to the classes when both readings pass over the functions that
begin within the lines of the classes, and the lines of a function are those of a site that holds
it. -/
theorem leavesToClasses_of_lines {grammar : Grammar}
    {findings : Document → Site → Reading Findings} {isClass isFunction : Site → Bool}
    {classSpan : Site → Int × Int} {holder : Site → Site} {tree : Tree}
    (nested : tree.RowsNested) (covers : Site.CoversClasses isClass classSpan tree)
    (holds : ∀ site, Site.Holds isClass (holder site) site)
    (begins : ∀ doc site found entry, findings doc site = .ok found → entry ∈ found.functions →
      entry.line = site.startLine)
    (outlined : ∀ doc outline, grammar.outline tree doc = .ok outline →
      (∃ origins, Origins (findings doc) tree outline.functions origins) ∧
      ∀ entry ∈ outline.functions,
        Window.within entry.line (Site.classLines isClass classSpan tree) = false)
    (searched : ∀ qualifier span, grammar.resolve tree qualifier = .ok (some span) →
      span.targetType = "function" → ∃ site ∈ Site.walk tree, isFunction site = true ∧
        Window.within site.startLine (Site.classLines isClass classSpan tree) = false ∧
        (span.start, span.stop) = (holder site).span) :
    LeavesToClasses grammar findings isClass isFunction (fun site => (holder site).span) tree := by
  have free : ∀ site ∈ Site.walk tree,
      Window.within site.startLine (Site.classLines isClass classSpan tree) = false →
      ¬site.InClass isClass := by
    intro site visited outside inside
    rw [Site.within_of_inClass nested covers visited inside] at outside
    contradiction
  refine ⟨?_, ?_, ?_, ?_⟩
  · intro doc outline read site visited inside found here entry member kept
    have outside := (outlined doc outline read).2 entry kept
    rw [begins doc site found entry here member] at outside
    exact free site visited outside inside
  · intro doc outline read
    obtain ⟨⟨origins, known⟩, outside⟩ := outlined doc outline read
    refine ⟨origins, known, fun origin member => ?_⟩
    have visited := known.order.subset (List.mem_map_of_mem member)
    have contributed := known.contributed origin member
    have kept := outside origin.2 (known.entries ▸ List.mem_map_of_mem member)
    rw [begins doc origin.1 _ origin.2 contributed (List.mem_singleton.mpr rfl)] at kept
    exact free origin.1 visited kept
  · intro qualifier span answer kind
    obtain ⟨site, visited, isFunctionSite, outside, lines⟩ := searched qualifier span answer kind
    exact ⟨site, visited, isFunctionSite, free site visited outside, lines⟩
  · intro qualifier span answer kind site visited inside
    obtain ⟨other, visited', _, outside, lines⟩ := searched qualifier span answer kind
    rw [lines]
    exact Site.span_ne_of_inClass nested covers visited inside (holds site) visited' (holds other)
      outside

/-! ## JavaScript -/

namespace EcmaScript

variable {tree : Tree} {qualifier : Qualifier} {span : TargetSpan} {name : String}
  {className : Option String}

/-- What is found for a class is a class. -/
theorem targetType_of_findClass (found : findClass tree name = .ok (some span)) :
    span.targetType = "class" := by
  obtain ⟨_, _, _, rfl⟩ := exists_of_search_by_name found
  rfl

/-- What is found for a member is a method. -/
theorem targetType_of_findMember (found : findMember tree name className = .ok (some span)) :
    span.targetType = "method" := by
  obtain ⟨site, _, here⟩ := exists_of_findSomeM?_eq_some found
  obtain ⟨owner, _, here⟩ := bind_eq_ok.mp here
  split at here
  · obtain ⟨listed, _, made⟩ := bind_pure_eq_ok.mp here
    obtain ⟨member, _, rfl⟩ := Option.map_eq_some_iff.mp made
    rfl
  · cases pure_eq_ok.mp here

/-- Whatever is found as a function is found by the search for functions. -/
theorem findFunction_of_resolve (found : resolve tree qualifier = .ok (some span))
    (kind : span.targetType = "function") : findFunction tree qualifier.name = .ok (some span) := by
  rcases resolve_cases found with here | ⟨_, here⟩ | here
  · simp [targetType_of_findClass here] at kind
  · simp [targetType_of_findMember here] at kind
  · exact here

/-- The functions in JavaScript classes are left to the classes. -/
theorem leavesToClasses (nested : tree.RowsNested) :
    LeavesToClasses grammar findings isClass isFunctionSite Site.span tree := by
  have covers : Site.CoversClasses isClass Site.span tree :=
    fun _ _ _ => ⟨Int.le_refl _, Int.le_refl _⟩
  refine leavesToClasses_of_lines nested covers
    (fun site => (.inl rfl : Site.Holds isClass site site))
    (fun _ _ _ _ => line_of_mem_functions) ?_ ?_
  · intro doc outline read
    obtain ⟨candidates, _, _, known⟩ := exists_origins read
    obtain ⟨found, survey⟩ := exists_survey read
    exact ⟨⟨_, known⟩, fun _ => survey.outside⟩
  · intro qualifier span found kind
    obtain ⟨site, visited, isFunction, outside, rfl⟩ :=
      exists_of_findFunction (findFunction_of_resolve found kind)
    exact ⟨site, visited, isFunction, outside, rfl⟩

end EcmaScript

/-! ## Python -/

namespace Python

variable {tree : Tree} {qualifier : Qualifier} {span : TargetSpan} {name : String}
  {className : Option String} {site : Site}

/-- What is found for a class is a class. -/
theorem targetType_of_findClass (found : findClass tree name = .ok (some span)) :
    span.targetType = "class" := by
  obtain ⟨_, _, _, rfl⟩ := exists_of_search_by_name found
  rfl

/-- What is found for a method is a method. -/
theorem targetType_of_findMethod (found : findMethod tree name className = .ok (some span)) :
    span.targetType = "method" := by
  obtain ⟨site, _, here⟩ := exists_of_findSomeM?_eq_some found
  obtain ⟨owner, _, here⟩ := bind_eq_ok.mp here
  split at here
  · obtain ⟨_, _, _, rfl⟩ := exists_of_search_by_name here
    rfl
  · cases pure_eq_ok.mp here

/-- Whatever is found as a function is found by the search for functions. -/
theorem findFunction_of_resolve (found : resolve tree qualifier = .ok (some span))
    (kind : span.targetType = "function") : findFunction tree qualifier.name = .ok (some span) := by
  rcases resolve_cases found with here | ⟨_, here⟩ | here
  · simp [targetType_of_findClass here] at kind
  · simp [targetType_of_findMethod here] at kind
  · exact here

/-- The node whose lines are those of a function: a declared function is taken with its
decorators. -/
def holder (site : Site) : Site := if site.kind == "function_definition" then outer site else site

/-- The lines of a function are those of the node that holds it. -/
theorem functionSpan_eq (site : Site) : functionSpan site = (holder site).span := by
  simp only [functionSpan, holder]
  split <;> rfl

/-- A function is held by itself or by a decorated definition, which is no class. -/
theorem holds_holder (site : Site) : Site.Holds isNamedClass (holder site) site := by
  unfold holder
  split
  · rcases outer_cases site with same | ⟨parent, kind⟩
    · exact .inl same
    · exact .inr ⟨parent, isNamedClass_of_kind (by simp [kind])⟩
  · exact .inl rfl

/-- The lines of a class, with its decorators, hold its rows. -/
theorem coversClasses (nested : tree.RowsNested) :
    Site.CoversClasses isNamedClass classSpan tree := by
  intro site visited _
  refine ⟨?_, Int.le_refl _⟩
  rcases outer_cases site with same | ⟨parent, _⟩
  · exact Int.le_of_eq (by rw [classSpan, same])
  · exact (Site.lines_of_encloses (Site.encloses_of_parent? nested visited parent)).1

/-- A line outside the lines of all classes is outside those of the classes with a name. -/
theorem outside_named {line : Int}
    (outside : Window.within line (Site.classLines isClass classSpan tree) = false) :
    Window.within line (Site.classLines isNamedClass classSpan tree) = false := by
  rw [Window.within, List.any_eq_false] at outside ⊢
  intro lines member
  obtain ⟨site, kept, rfl⟩ := List.mem_map.mp member
  obtain ⟨visited, named⟩ := List.mem_filter.mp kept
  have isClassSite : isClass site = true := by simp [isClass, kind_of_isNamedClass named]
  exact outside _ (List.mem_map_of_mem (List.mem_filter.mpr ⟨visited, isClassSite⟩))

/-- The functions in Python classes with a name are left to the classes. -/
theorem leavesToClasses (nested : tree.RowsNested) :
    LeavesToClasses grammar findings isNamedClass (fun site => (functionName? site).isSome)
      functionSpan tree := by
  rw [funext functionSpan_eq]
  refine leavesToClasses_of_lines nested (coversClasses nested) holds_holder
    (fun _ _ _ _ => line_of_mem_functions) ?_ ?_
  · intro doc outline read
    obtain ⟨candidates, _, _, known⟩ := exists_origins read
    obtain ⟨found, survey⟩ := exists_survey read
    exact ⟨⟨_, known⟩, fun _ => survey.outside⟩
  · intro qualifier span found kind
    obtain ⟨site, visited, isFunction, outside, rfl⟩ :=
      exists_of_findFunction (findFunction_of_resolve found kind)
    exact ⟨site, visited, isFunction, outside_named outside, functionSpan_eq site⟩

end Python

/-! ## Both languages -/

/-- On a tree with nested rows no function in a class is listed as a function or found as one, at
whatever depth it stands: every function that is listed or found comes from a site that has no class
above it. In Python these are the classes with a name. -/
theorem class_functions_stay_inside (tree : Tree) (nested : tree.RowsNested) :
    LeavesToClasses EcmaScript.grammar EcmaScript.findings EcmaScript.isClass
        EcmaScript.isFunctionSite Site.span tree ∧
      LeavesToClasses Python.grammar Python.findings Python.isNamedClass
        (fun site => (Python.functionName? site).isSome) Python.functionSpan tree :=
  ⟨EcmaScript.leavesToClasses nested, Python.leavesToClasses nested⟩

/-- A declaration of a function without parameters and statements, at a place. -/
def emptyFunction (first row column : Nat) : Tree :=
  .covering "function_declaration" none first ⟨row, column⟩ ⟨row, column + 15⟩
    "function f() \x7b\x7d"
    [.token "function" first ⟨row, column⟩ ⟨row, column + 8⟩,
      .covering "identifier" (some "name") (first + 9) ⟨row, column + 9⟩ ⟨row, column + 10⟩ "f" [],
      .covering "formal_parameters" (some "parameters") (first + 10) ⟨row, column + 10⟩
        ⟨row, column + 12⟩ "()"
        [.token "(" (first + 10) ⟨row, column + 10⟩ ⟨row, column + 11⟩,
          .token ")" (first + 11) ⟨row, column + 11⟩ ⟨row, column + 12⟩],
      .covering "statement_block" (some "body") (first + 13) ⟨row, column + 13⟩ ⟨row, column + 15⟩
        "\x7b\x7d"
        [.token "\x7b" (first + 13) ⟨row, column + 13⟩ ⟨row, column + 14⟩,
          .token "\x7d" (first + 14) ⟨row, column + 14⟩ ⟨row, column + 15⟩]]

/-- The tree of a class whose method declares a function, and of a function with the same name
after it. -/
def closureInMethod : Tree :=
  .covering "program" none 0 ⟨0, 0⟩ ⟨6, 0⟩
    "class C \x7b\n  m() \x7b\n    function f() \x7b\x7d\n  \x7d\n\x7d\nfunction f() \x7b\x7d\n"
    [.covering "class_declaration" none 0 ⟨0, 0⟩ ⟨4, 1⟩
      "class C \x7b\n  m() \x7b\n    function f() \x7b\x7d\n  \x7d\n\x7d"
      [.token "class" 0 ⟨0, 0⟩ ⟨0, 5⟩, .covering "identifier" (some "name") 6 ⟨0, 6⟩ ⟨0, 7⟩ "C" [],
        .covering "class_body" (some "body") 8 ⟨0, 8⟩ ⟨4, 1⟩
          "\x7b\n  m() \x7b\n    function f() \x7b\x7d\n  \x7d\n\x7d"
          [.token "\x7b" 8 ⟨0, 8⟩ ⟨0, 9⟩,
            .covering "method_definition" (some "member") 12 ⟨1, 2⟩ ⟨3, 3⟩
              "m() \x7b\n    function f() \x7b\x7d\n  \x7d"
              [.covering "property_identifier" (some "name") 12 ⟨1, 2⟩ ⟨1, 3⟩ "m" [],
                .covering "formal_parameters" (some "parameters") 13 ⟨1, 3⟩ ⟨1, 5⟩ "()"
                  [.token "(" 13 ⟨1, 3⟩ ⟨1, 4⟩, .token ")" 14 ⟨1, 4⟩ ⟨1, 5⟩],
                .covering "statement_block" (some "body") 16 ⟨1, 6⟩ ⟨3, 3⟩
                  "\x7b\n    function f() \x7b\x7d\n  \x7d"
                  [.token "\x7b" 16 ⟨1, 6⟩ ⟨1, 7⟩, emptyFunction 22 2 4,
                    .token "\x7d" 40 ⟨3, 2⟩ ⟨3, 3⟩]],
            .token "\x7d" 42 ⟨4, 0⟩ ⟨4, 1⟩]],
      emptyFunction 44 5 0]

/-- The function after the class is found and not the one in its method; in Python the method of a
class is left to the class. -/
theorem class_functions_stay_inside_closureInMethod :
    closureInMethod.RowsNested ∧
      (∃ site ∈ Site.walk closureInMethod, EcmaScript.isFunctionSite site = true ∧
        site.InClass EcmaScript.isClass) ∧
      EcmaScript.resolve closureInMethod ⟨"function:f", "function", "f", none⟩ =
        .ok (some ⟨"function", "f", 6, 6, none⟩) ∧
      (∀ site ∈ Site.walk closureInMethod, site.InClass EcmaScript.isClass →
        (6, 6) ≠ site.span) ∧
      Python.methodThenFunction.RowsNested ∧
      (∃ site ∈ Site.walk Python.methodThenFunction, (Python.functionName? site).isSome = true ∧
        site.InClass Python.isNamedClass) ∧
      LeavesToClasses Python.grammar Python.findings Python.isNamedClass
        (fun site => (Python.functionName? site).isSome) Python.functionSpan
        Python.methodThenFunction := by
  have nested : closureInMethod.RowsNested := by decide +kernel
  have nested' : Python.methodThenFunction.RowsNested := by decide +kernel
  have found : EcmaScript.resolve closureInMethod ⟨"function:f", "function", "f", none⟩ =
      .ok (some ⟨"function", "f", 6, 6, none⟩) := by
    simp only [EcmaScript.resolve, EcmaScript.findFunction, Site.walk_eq_preorder]
    decide +kernel
  refine ⟨nested, ?_, found, ?_, nested', ?_, (class_functions_stay_inside _ nested').2⟩
  · rw [Site.walk_eq_preorder]
    decide +kernel
  · exact (class_functions_stay_inside _ nested).1.missed ⟨"function:f", "function", "f", none⟩
      ⟨"function", "f", 6, 6, none⟩ found rfl
  · rw [Site.walk_eq_preorder]
    decide +kernel

end SourceLens
