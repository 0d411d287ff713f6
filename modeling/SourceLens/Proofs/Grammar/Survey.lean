import SourceLens.Proofs.Reading

/-!
# Surveys

The outline of a tree is put together from what every site contributes. A survey is an outline taken
apart again: which sites are its classes, and which contributions its other lists come from
(`Findings.Survey`). The functions of an outline have origins, the sites that contribute them
(`Origins`), so the first function with a name can be looked for among sites as well as among
entries (`Origins.findSome?_outside`). The classes of an outline make up a directory in which
members are looked up by name (`Directory`). A search for targets reaches an outline when it finds
everything that the outline lists (`Reaches`).
-/
namespace SourceLens

open Reading

namespace Findings

/-- An outline part by part: what the sites contribute, the entries of the sites that are classes,
and the other lists of the outline as selections of the contributions. -/
structure Survey (findings : Site → Reading Findings) (isClass : Site → Bool)
    (classSpan : Site → Int × Int) (classEntry : Site → Reading ClassEntry) (sites : List Site)
    (found : List Findings) (outline : Outline) : Prop where
  /-- Every site contributes. -/
  contributed : sites.mapM findings = .ok found
  /-- The classes are the entries of the class sites. -/
  classes : (sites.filter isClass).mapM classEntry = .ok outline.classes
  /-- The functions are the contributed ones outside the spans of the class sites. -/
  functions : outline.functions = (found.flatMap (·.functions)).filter fun entry =>
    !Window.within entry.line ((sites.filter isClass).map classSpan)
  /-- The imports are the contributed ones. -/
  imports : outline.imports = found.flatMap (·.imports)
  /-- The exports are the contributed ones. -/
  exports : outline.exports = found.flatMap (·.exports)

variable {findings : Site → Reading Findings} {isClass : Site → Bool}
  {classSpan : Site → Int × Int} {classEntry : Site → Reading ClassEntry} {sites : List Site}
  {outline : Outline}

/-- An outline is surveyed when every site that is a class, and no other, contributes itself as
one. -/
theorem exists_survey
    (classes : ∀ site found, findings site = .ok found →
      found.classes = if isClass site then [site] else [])
    (read : (sites.mapM findings >>= Findings.outline classSpan classEntry) = .ok outline) :
    ∃ found, Survey findings isClass classSpan classEntry sites found outline := by
  obtain ⟨found, contributed, read⟩ := bind_eq_ok.mp read
  obtain ⟨entries, listed, made⟩ := bind_eq_ok.mp read
  obtain rfl := pure_eq_ok.mp made
  have selected := flatMap_eq_filter classes contributed
  rw [selected] at listed
  exact ⟨found, contributed, listed, by simp only [selected], rfl, rfl⟩

/-- There is an outline when all contributions and all class entries are read. -/
theorem succeeds_outline_of
    (classes : ∀ site found, findings site = .ok found →
      found.classes = if isClass site then [site] else [])
    (each : ∀ site ∈ sites, Succeeds (findings site))
    (entries : ∀ site ∈ sites, Succeeds (classEntry site)) :
    Succeeds (sites.mapM findings >>= Findings.outline classSpan classEntry) := by
  refine succeeds_bind (succeeds_mapM each) fun found contributed => ?_
  refine succeeds_bind ?_ fun _ _ => succeeds_pure _
  rw [flatMap_eq_filter classes contributed]
  exact succeeds_mapM fun site kept => entries site (List.mem_filter.mp kept).1

end Findings

/-- The functions of an outline beside the sites that contribute them, in document order. -/
structure Origins (findings : Site → Reading Findings) (tree : Tree)
    (functions : List FunctionEntry) (origins : List (Site × FunctionEntry)) : Prop where
  /-- The functions are those of the pairs. -/
  entries : origins.map (·.2) = functions
  /-- The sites come in document order, none twice. -/
  order : (origins.map (·.1)).Sublist (Site.walk tree)
  /-- Every function is all that its site contributes. -/
  contributed : ∀ origin ∈ origins, findings origin.1 = .ok (.ofFunctions [origin.2])

namespace Origins

variable {findings : Site → Reading Findings} {tree : Tree} {functions : List FunctionEntry}
  {origins : List (Site × FunctionEntry)}

/-- A test of the entries keeps origins. -/
theorem filter (known : Origins findings tree functions origins) (keep : FunctionEntry → Bool) :
    Origins findings tree (functions.filter keep) (origins.filter fun origin => keep origin.2) where
  entries := by
    rw [← known.entries, List.filter_map]
    rfl
  order := (List.filter_sublist.map _).trans known.order
  contributed origin kept := known.contributed origin (List.mem_filter.mp kept).1

/-- The first function that passes a test is that of the first origin that does. -/
theorem find?_entries (known : Origins findings tree functions origins)
    (test : FunctionEntry → Bool) :
    functions.find? test = (origins.find? fun origin => test origin.2).map (·.2) := by
  rw [← known.entries, List.find?_map]
  rfl

/-- A function is listed with a property exactly when an origin has it. -/
theorem isSome_find?_iff (known : Origins findings tree functions origins)
    (test : FunctionEntry → Bool) :
    (origins.find? fun origin => test origin.2).isSome ↔
      ∃ entry ∈ functions, test entry = true := by
  rw [← Option.isSome_map, ← known.find?_entries test, List.find?_isSome]

/-- Looking for the first origin outside some spans that passes a test finds the first one of those
outside the spans. -/
theorem findSome?_outside {γ : Type} (origins : List (Site × FunctionEntry))
    (outside test : FunctionEntry → Bool) (answer : Site → γ) :
    (origins.findSome? fun origin =>
        if test origin.2 && outside origin.2 then some (answer origin.1) else none) =
      ((origins.filter fun origin => outside origin.2).find? fun origin => test origin.2).map
        fun origin => answer origin.1 := by
  rw [List.find?_filter]
  induction origins with
  | nil => rfl
  | cons head tail ih =>
    rw [List.findSome?_cons, List.find?_cons]
    cases outside head.2 <;> cases test head.2
    case true.true => rfl
    all_goals exact ih

end Origins

/-- The functions of an outline have origins when the sites of functions, and no others, contribute
functions, one each: they are the sites of functions outside the spans of classes. -/
theorem Findings.Survey.exists_origins {findings : Site → Reading Findings}
    {isClass isFunction : Site → Bool} {classSpan : Site → Int × Int}
    {classEntry : Site → Reading ClassEntry} {tree : Tree} {found : List Findings}
    {outline : Outline}
    (survey : Survey findings isClass classSpan classEntry (Site.walk tree) found outline)
    (one : ∀ site found, isFunction site = true → findings site = .ok found →
      ∃ entry, found = .ofFunctions [entry])
    (none : ∀ site found, isFunction site = false → findings site = .ok found →
      found.functions = []) :
    ∃ candidates : List (Site × FunctionEntry),
      candidates.map (·.1) = (Site.walk tree).filter isFunction ∧
      (∀ origin ∈ candidates, findings origin.1 = .ok (.ofFunctions [origin.2])) ∧
      Origins findings tree outline.functions (candidates.filter fun origin =>
        !Window.within origin.2.line (((Site.walk tree).filter isClass).map classSpan)) := by
  obtain ⟨candidates, sites, entries, each⟩ := exists_pairs_filter
    (fun site entry => findings site = .ok (.ofFunctions [entry]))
    (fun site found isFunctionSite read => by
      obtain ⟨entry, rfl⟩ := one site found isFunctionSite read
      exact ⟨entry, rfl, read⟩)
    none survey.contributed
  refine ⟨candidates, sites, each, ?_⟩
  rw [survey.functions]
  exact Origins.filter ⟨entries, sites ▸ List.filter_sublist, each⟩ _

/-- The classes of an outline, each with a search for its members by name. -/
structure Directory (classes : List ClassEntry)
    (directory : List (ClassEntry × (String → Option TargetSpan))) : Prop where
  /-- The classes are those of the outline. -/
  entries : directory.map (·.1) = classes
  /-- Exactly the methods that a class lists are found. -/
  listed : ∀ place ∈ directory, ∀ name,
    (place.2 name).isSome ↔ ∃ method ∈ place.1.methods, method.name = name
  /-- What is found is a method of the class. -/
  found : ∀ place ∈ directory, ∀ name span, place.2 name = some span →
    span.targetType = "method" ∧ span.name = name ∧ span.className = some place.1.name

namespace Directory

/-- The first member with a name, in any class or in those with the given name. -/
def search (directory : List (ClassEntry × (String → Option TargetSpan))) (name : String)
    (className : Option String) : Option TargetSpan :=
  directory.findSome? fun place =>
    if className.all (place.1.name == ·) then place.2 name else none

variable {classes : List ClassEntry}
  {directory : List (ClassEntry × (String → Option TargetSpan))}

/-- What is found is a method. -/
theorem targetType_of_search (known : Directory classes directory) {name : String}
    {className : Option String} {span : TargetSpan}
    (result : search directory name className = some span) : span.targetType = "method" := by
  obtain ⟨place, here, answer⟩ := List.exists_of_findSome?_eq_some result
  split at answer
  · exact (known.found place here name span answer).1
  · contradiction

/-- A name is found exactly when one of the classes that are asked for lists a method with it. -/
theorem isSome_search_iff (known : Directory classes directory) (name : String)
    (className : Option String) :
    (search directory name className).isSome ↔ ∃ entry ∈ classes,
      className.all (entry.name == ·) = true ∧ ∃ method ∈ entry.methods, method.name = name := by
  rw [search, List.findSome?_isSome_iff, ← known.entries]
  constructor
  · rintro ⟨place, here, answer⟩
    split at answer
    · next asked =>
      exact ⟨place.1, List.mem_map_of_mem here, asked, (known.listed place here name).mp answer⟩
    · cases answer
  · rintro ⟨_, inside, asked, listed⟩
    obtain ⟨place, here, rfl⟩ := List.mem_map.mp inside
    refine ⟨place, here, ?_⟩
    rw [if_pos asked]
    exact (known.listed place here name).mpr listed

/-- What is found in any class belongs to the first class that lists a method with the name. -/
theorem first_of_search (known : Directory classes directory) {name : String} {span : TargetSpan}
    (result : search directory name none = some span) :
    ∃ first, classes.find? (fun entry => entry.methods.any (·.name == name)) = some first ∧
      span.className = some first.name := by
  obtain ⟨before, place, after, rfl, answer, passed⟩ := List.findSome?_eq_some_iff.mp result
  have here : place ∈ before ++ place :: after := by simp
  simp only [Option.all_none, if_true] at answer passed
  have listed := (known.listed place here name).mp (by simp [answer])
  refine ⟨place.1, ?_, (known.found place here name span answer).2.2⟩
  rw [← known.entries, List.find?_eq_some_iff_append]
  refine ⟨by simpa using listed, before.map (·.1), after.map (·.1), by simp, ?_⟩
  intro entry earlier
  obtain ⟨other, there, rfl⟩ := List.mem_map.mp earlier
  have absent := known.listed other (by simp [there]) name
  simpa [passed other there] using absent

/-- A method that a class lists is found in the classes with the name of the class. -/
theorem exists_of_listed (known : Directory classes directory) {owner : ClassEntry}
    {method : MethodEntry} (inside : owner ∈ classes) (has : method ∈ owner.methods) :
    ∃ span, search directory method.name (some owner.name) = some span ∧
      span.targetType = "method" ∧ span.name = method.name ∧
      span.className = some owner.name := by
  rw [← known.entries] at inside
  obtain ⟨place, here, rfl⟩ := List.mem_map.mp inside
  have present := (known.listed place here method.name).mpr ⟨method, has, rfl⟩
  have reached : (search directory method.name (some place.1.name)).isSome := by
    rw [search, List.findSome?_isSome_iff]
    exact ⟨place, here, by simpa using present⟩
  obtain ⟨span, result⟩ := Option.isSome_iff_exists.mp reached
  obtain ⟨other, there, answer⟩ := List.exists_of_findSome?_eq_some result
  split at answer
  · next same =>
    have owner : other.1.name = place.1.name := by simpa using same
    obtain ⟨kind, name, className⟩ := known.found other there _ span answer
    exact ⟨span, result, kind, name, owner ▸ className⟩
  · contradiction

end Directory

/-- Functions found outside classes come before methods, so a function is found exactly when there
is one outside classes. -/
theorem or_eq_function_iff {functions members : Option TargetSpan} {span : TargetSpan}
    (outside : ∀ found ∈ functions, found.targetType = "function")
    (inside : ∀ found ∈ members, found.targetType = "method") :
    (functions.or members = some span ∧ span.targetType = "function") ↔ functions = some span := by
  cases functions with
  | none =>
    simp only [Option.none_or, reduceCtorEq, iff_false, not_and]
    intro found isFunction
    have isMethod := inside span found
    rw [isFunction] at isMethod
    contradiction
  | some found =>
    simp only [Option.some_or, and_iff_left_iff_imp]
    rintro same
    exact Option.some.inj same ▸ outside found rfl

/-- Whether a function is found for a name, as the outline lists it. -/
theorem Origins.function_found_iff {findings : Site → Reading Findings} {tree : Tree}
    {functions : List FunctionEntry} {origins : List (Site × FunctionEntry)}
    {classes : List ClassEntry} {directory : List (ClassEntry × (String → Option TargetSpan))}
    (known : Origins findings tree functions origins) (places : Directory classes directory)
    (name : String) {found : Option TargetSpan} (target : Site → TargetSpan)
    (isFunction : ∀ site, (target site).targetType = "function")
    (searched : found = ((origins.find? fun origin => origin.2.name == name).map fun origin =>
      target origin.1).or (Directory.search directory name none)) :
    ((∃ span, found = some span ∧ span.targetType = "function") ↔
        ∃ entry ∈ functions, entry.name = name) ∧
      ∀ span, found = some span → span.targetType = "function" → ∃ site entry,
        origins.find? (fun origin => origin.2.name == name) = some (site, entry) ∧
          span = target site := by
  have outside : ∀ span ∈ (origins.find? fun origin => origin.2.name == name).map
      (fun origin => target origin.1), span.targetType = "function" := by
    intro span here
    obtain ⟨origin, _, rfl⟩ := Option.map_eq_some_iff.mp here
    exact isFunction origin.1
  have inside : ∀ span ∈ Directory.search directory name none, span.targetType = "method" :=
    fun span here => places.targetType_of_search here
  subst searched
  constructor
  · have listed := known.isSome_find?_iff fun entry => entry.name == name
    simp only [beq_iff_eq] at listed
    simp only [or_eq_function_iff outside inside, ← Option.isSome_iff_exists, Option.isSome_map,
      listed]
  · intro span here kind
    have first := (or_eq_function_iff outside inside).mp ⟨here, kind⟩
    obtain ⟨⟨site, entry⟩, origin, rfl⟩ := Option.map_eq_some_iff.mp first
    exact ⟨site, entry, origin, rfl⟩

/-- A class is found by its name exactly when one with the name is listed, and then as a class. -/
structure ClassFound (found : Option TargetSpan) (classes : List ClassEntry) (name : String) :
    Prop where
  /-- Exactly the names of classes are found. -/
  listed : found.isSome ↔ ∃ entry ∈ classes, entry.name = name
  /-- What is found is a class. -/
  kind : ∀ span ∈ found, span.targetType = "class"

/-- The first class with a name among the sites of classes is a class that is found. -/
theorem classFound_of_pairs (pairs : List (Site × ClassEntry)) (name : String)
    (lines : Site → Int × Int) :
    ClassFound
      (pairs.findSome? fun pair =>
        if pair.2.name == name then
          some ⟨"class", name, (lines pair.1).1, (lines pair.1).2, none⟩ else none)
      (pairs.map (·.2)) name where
  listed := by
    rw [List.findSome?_isSome_iff]
    constructor
    · rintro ⟨pair, inside, answer⟩
      exact ⟨pair.2, List.mem_map_of_mem inside, by simpa using answer⟩
    · rintro ⟨_, inside, same⟩
      obtain ⟨pair, here, rfl⟩ := List.mem_map.mp inside
      exact ⟨pair, here, by simp [same]⟩
  kind span found := by
    obtain ⟨pair, _, answer⟩ := List.exists_of_findSome?_eq_some found
    split at answer
    · obtain rfl := Option.some.inj answer
      rfl
    · contradiction

/-- What a search by name finds was made at one of the sites, one whose name passes. -/
theorem exists_of_search_by_name {sites : List Site} {nameOf : Site → Reading String}
    {passes : Site → String → Bool} {make : Site → TargetSpan} {span : TargetSpan}
    (found : (sites.findSomeM? fun site => do
      let own ← nameOf site
      pure (if passes site own then some (make site) else none)) = .ok (some span)) :
    ∃ site ∈ sites, (∃ own, passes site own = true) ∧ span = make site := by
  obtain ⟨site, visited, here⟩ := exists_of_findSomeM?_eq_some found
  obtain ⟨own, _, made⟩ := bind_pure_eq_ok.mp here
  split at made
  · next passed => exact ⟨site, visited, ⟨own, passed⟩, (Option.some.inj made).symm⟩
  · cases made

/-- A search finds everything that an outline lists, each as what it is. -/
structure Reaches (resolve : Qualifier → Reading (Option TargetSpan)) (outline : Outline) :
    Prop where
  /-- A function with a name is found as a function. -/
  functions : ∀ entry ∈ outline.functions, entry.name ≠ "" → ∀ raw, ∃ span,
    resolve ⟨raw, "function", entry.name, none⟩ = .ok (some span) ∧ span.targetType = "function"
  /-- A class is found as a class. -/
  classes : ∀ entry ∈ outline.classes, ∀ raw, ∃ span,
    resolve ⟨raw, "class", entry.name, none⟩ = .ok (some span) ∧ span.targetType = "class"
  /-- A method of a class with a name is found as a method of such a class. -/
  methods : ∀ entry ∈ outline.classes, ∀ method ∈ entry.methods, entry.name ≠ "" → ∀ raw, ∃ span,
    resolve ⟨raw, "class", method.name, some entry.name⟩ = .ok (some span) ∧
      span.targetType = "method" ∧ span.className = some entry.name

end SourceLens
