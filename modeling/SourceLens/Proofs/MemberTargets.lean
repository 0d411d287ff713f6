import SourceLens.Proofs.EcmaScript.Targets
import SourceLens.Proofs.Python.Targets

/-!
# Members as targets

A method can be asked for in three ways: among the methods of all classes, among those of the
classes with a given name, and as a function, when there is none outside classes. The three ways
lead to the same method (`MemberFormsAgree`), on every tree and even where some texts cannot be
read. Where there is an outline they find what it lists: a method of any class belongs to the first
class that lists one with its name (`MembersListed`, `member_forms_coherent`).
-/
namespace SourceLens

open Reading

/-- The ways to ask for a member agree: what is found among all classes is found in the class that
it names, and what is found for a function and is no function is what is found for a method. -/
structure MemberFormsAgree (resolve : Qualifier → Reading (Option TargetSpan)) (name : String) :
    Prop where
  /-- A method that is found in any class is found in the classes with the name of its own. -/
  owned : ∀ raw raw' span owner, resolve ⟨raw, "method", name, none⟩ = .ok (some span) →
    span.className = some owner → owner ≠ "" →
    resolve ⟨raw', "class", name, some owner⟩ = .ok (some span)
  /-- What is found for a function where no function is found is what is found for a method. -/
  function : ∀ raw raw' found, resolve ⟨raw, "function", name, none⟩ = .ok found →
    (∀ span ∈ found, span.targetType ≠ "function") →
    resolve ⟨raw', "method", name, none⟩ = .ok found

/-- Members are found as an outline lists them: in any class exactly when a class lists a method with
the name, and then in the first such class; in the classes with a given name exactly when one of
them lists it. -/
structure MembersListed (resolve : Qualifier → Reading (Option TargetSpan))
    (classes : List ClassEntry) (name : String) : Prop where
  /-- A method of any class. -/
  method : ∀ raw, ∃ found, resolve ⟨raw, "method", name, none⟩ = .ok found ∧
    (found.isSome ↔ ∃ entry ∈ classes, ∃ method ∈ entry.methods, method.name = name) ∧
    ∀ span ∈ found, ∃ first,
      classes.find? (fun entry => entry.methods.any (·.name == name)) = some first ∧
        span.className = some first.name
  /-- A method of the classes with a name. -/
  owned : ∀ raw owner, owner ≠ "" → ∃ found,
    resolve ⟨raw, "class", name, some owner⟩ = .ok found ∧
    (found.isSome ↔
      ∃ entry ∈ classes, entry.name = owner ∧ ∃ method ∈ entry.methods, method.name = name)

/-- A search through things with owners that finds something of an owner finds the same when it goes
only through the things of that owner. -/
theorem findSomeM?_of_owner {α : Type} {ownerOf : α → Reading String} {items : List α}
    {owner : String} {span : TargetSpan} (search : α → String → Reading (Option TargetSpan))
    (named : ∀ item own found, search item own = .ok (some found) → found.className = some own)
    (found : (items.findSomeM? fun item => do
      let own ← ownerOf item
      if (none : Option String).all (own == ·) then search item own else pure none) =
        .ok (some span))
    (belongs : span.className = some owner) :
    (items.findSomeM? fun item => do
      let own ← ownerOf item
      if (some owner).all (own == ·) then search item own else pure none) = .ok (some span) := by
  refine findSomeM?_eq_some_of_narrower found ?_ ?_
  · intro item _ passed
    obtain ⟨own, read, searched⟩ := bind_eq_ok.mp passed
    refine bind_eq_ok.mpr ⟨own, read, ?_⟩
    split
    · exact searched
    · rfl
  · intro item _ ended
    obtain ⟨own, read, searched⟩ := bind_eq_ok.mp ended
    refine bind_eq_ok.mpr ⟨own, read, ?_⟩
    have same : own = owner := Option.some.inj ((named item own span searched).symm.trans belongs)
    rw [if_pos (by simp [same])]
    exact searched

/-- The ways to ask for a member agree when each of them is the same search: for a function after one
that finds only functions. -/
theorem memberFormsAgree_of_searches {resolve : Qualifier → Reading (Option TargetSpan)}
    {name : String} {findFunction : Reading (Option TargetSpan)}
    {find : Option String → Reading (Option TargetSpan)}
    (method : ∀ raw, resolve ⟨raw, "method", name, none⟩ = find none)
    (owned : ∀ raw owner, owner ≠ "" →
      resolve ⟨raw, "class", name, some owner⟩ = find (some owner))
    (function : ∀ raw, resolve ⟨raw, "function", name, none⟩ = do
      let found ← findFunction
      match found with
      | some span => pure (some span)
      | none => find none)
    (functions : ∀ span, findFunction = .ok (some span) → span.targetType = "function")
    (narrow : ∀ span owner, find none = .ok (some span) → span.className = some owner →
      find (some owner) = .ok (some span)) :
    MemberFormsAgree resolve name where
  owned raw raw' span owner found belongs present := by
    rw [method] at found
    rw [owned raw' owner present]
    exact narrow span owner found belongs
  function raw raw' found answered noFunction := by
    rw [function] at answered
    rw [method]
    obtain ⟨first, searched, rest⟩ := bind_eq_ok.mp answered
    cases first with
    | none => exact rest
    | some span =>
      obtain rfl := pure_eq_ok.mp rest
      exact absurd (functions span searched) (noFunction span rfl)

/-- Members are found as they are listed when every search for them is a search in the directory of
the classes. -/
theorem membersListed_of_directory {resolve : Qualifier → Reading (Option TargetSpan)}
    {name : String} {classes : List ClassEntry}
    {directory : List (ClassEntry × (String → Option TargetSpan))}
    (known : Directory classes directory)
    (method : ∀ raw, resolve ⟨raw, "method", name, none⟩ =
      .ok (Directory.search directory name none))
    (owned : ∀ raw owner, owner ≠ "" → resolve ⟨raw, "class", name, some owner⟩ =
      .ok (Directory.search directory name (some owner))) :
    MembersListed resolve classes name where
  method raw := by
    refine ⟨_, method raw, ?_, fun span found => known.first_of_search found⟩
    simpa using known.isSome_search_iff name none
  owned raw owner present := by
    refine ⟨_, owned raw owner present, ?_⟩
    simpa using known.isSome_search_iff name (some owner)

/-- An owner with a name is kept. -/
theorem bind_nonempty?_some {owner : String} (present : owner ≠ "") :
    (some owner).bind nonempty? = some owner := by
  simp [nonempty?, present]

/-! ## JavaScript -/

namespace EcmaScript

variable {tree : Tree} {doc : Document} {result : Outline} {name owner : String}
  {span : TargetSpan}

/-- Methods are looked for among the members of all classes. -/
theorem resolve_method (raw : String) :
    resolve tree ⟨raw, "method", name, none⟩ = findMember tree name none := by
  simp [resolve]

/-- Methods of a class are looked for among the members of the classes with its name. -/
theorem resolve_owned (raw : String) (present : owner ≠ "") :
    resolve tree ⟨raw, "class", name, some owner⟩ = findMember tree name (some owner) := by
  simp only [resolve, bind_nonempty?_some present]

/-- What is found outside classes is a function. -/
theorem targetType_of_findFunction (found : findFunction tree name = .ok (some span)) :
    span.targetType = "function" := by
  obtain ⟨_, _, _, _, rfl⟩ := exists_of_findFunction found
  rfl

/-- The first member with a name among those of a class with an owner's name. -/
def memberIn (name : String) (site : Site) (owner : String) : Reading (Option TargetSpan) := do
  let found ← members site
  pure <| (found.find? (·.name == name)).map fun member =>
    ⟨"method", name, memberStart member.site, member.site.endLine, some owner⟩

/-- A member that is found in any class is found in the classes with the name of its own. -/
theorem findMember_of_owner (found : findMember tree name none = .ok (some span))
    (belongs : span.className = some owner) :
    findMember tree name (some owner) = .ok (some span) := by
  refine findSomeM?_of_owner (memberIn name) (fun site own found searched => ?_) found belongs
  obtain ⟨listed, _, made⟩ := bind_pure_eq_ok.mp searched
  obtain ⟨member, _, rfl⟩ := Option.map_eq_some_iff.mp made
  rfl

/-- The ways to ask for a member of a JavaScript class agree. -/
theorem memberFormsAgree (tree : Tree) (name : String) : MemberFormsAgree (resolve tree) name :=
  memberFormsAgree_of_searches resolve_method (fun raw _ present => resolve_owned raw present)
    (fun _ => rfl) (fun _ => targetType_of_findFunction) fun _ _ => findMember_of_owner

/-- Members of JavaScript classes are found as they are listed. -/
theorem membersListed (read : outline tree doc = .ok result) (name : String) :
    MembersListed (resolve tree) result.classes name := by
  obtain ⟨directory, known, searched⟩ := findMember_eq read
  refine membersListed_of_directory known (fun raw => ?_) fun raw owner present => ?_
  · rw [resolve_method, searched]
  · rw [resolve_owned raw present, searched]

end EcmaScript

/-! ## Python -/

namespace Python

variable {tree : Tree} {doc : Document} {result : Outline} {name owner : String}
  {span : TargetSpan}

/-- Methods are looked for in all classes. -/
theorem resolve_method (raw : String) :
    resolve tree ⟨raw, "method", name, none⟩ = findMethod tree name none := by
  simp [resolve]

/-- Methods of a class are looked for in the classes with its name. -/
theorem resolve_owned (raw : String) (present : owner ≠ "") :
    resolve tree ⟨raw, "class", name, some owner⟩ = findMethod tree name (some owner) := by
  simp only [resolve, bind_nonempty?_some present]

/-- What is found outside classes is a function. -/
theorem targetType_of_findFunction (found : findFunction tree name = .ok (some span)) :
    span.targetType = "function" := by
  obtain ⟨_, _, _, _, rfl⟩ := exists_of_findFunction found
  rfl

/-- A method that is found among those of a class belongs to the class. -/
theorem className_of_findMethodIn {sites : List Site}
    (found : findMethodIn sites name owner = .ok (some span)) : span.className = some owner := by
  obtain ⟨site, _, _, rfl⟩ := exists_of_search_by_name found
  rfl

/-- A method that is found in any class is found in the classes with the name of its own. -/
theorem findMethod_of_owner (found : findMethod tree name none = .ok (some span))
    (belongs : span.className = some owner) :
    findMethod tree name (some owner) = .ok (some span) :=
  findSomeM?_of_owner (fun site owner => findMethodIn (methods site) name owner)
    (fun _ _ _ searched => className_of_findMethodIn searched) found belongs

/-- The ways to ask for a method of a Python class agree. -/
theorem memberFormsAgree (tree : Tree) (name : String) : MemberFormsAgree (resolve tree) name :=
  memberFormsAgree_of_searches resolve_method (fun raw _ present => resolve_owned raw present)
    (fun _ => rfl) (fun _ => targetType_of_findFunction) fun _ _ => findMethod_of_owner

/-- Methods of Python classes are found as they are listed, when all classes have names. -/
theorem membersListed (named : ClassesNamed tree) (read : outline tree doc = .ok result)
    (name : String) : MembersListed (resolve tree) result.classes name := by
  obtain ⟨directory, known, searched⟩ := findMethod_eq read
  refine membersListed_of_directory known (fun raw => ?_) fun raw owner present => ?_
  · rw [resolve_method, searched _ _ (.inl named)]
  · rw [resolve_owned raw present, searched _ _ (.inl named)]

end Python

/-! ## Both languages -/

/-- The ways to ask for a member agree with one another on every tree, and with the outline wherever
there is one: a method is found exactly when a class lists it, in the first class that does, and
under the name of a class exactly when a class with that name lists it. In Python all classes must
have names. -/
theorem member_forms_coherent :
    (∀ (tree : Tree) (name : String), MemberFormsAgree (EcmaScript.resolve tree) name ∧
      ∀ doc outline, EcmaScript.outline tree doc = .ok outline →
        MembersListed (EcmaScript.resolve tree) outline.classes name) ∧
    (∀ (tree : Tree) (name : String), Python.ClassesNamed tree →
      MemberFormsAgree (Python.resolve tree) name ∧
      ∀ doc outline, Python.outline tree doc = .ok outline →
        MembersListed (Python.resolve tree) outline.classes name) := by
  constructor
  · intro tree name
    exact ⟨EcmaScript.memberFormsAgree tree name,
      fun doc outline read => EcmaScript.membersListed read name⟩
  · intro tree name named
    exact ⟨Python.memberFormsAgree tree name,
      fun doc outline read => Python.membersListed named read name⟩

/-- The agreement at a tree of either language. -/
theorem member_forms_coherent_samples :
    EcmaScript.outline EcmaScript.methodThenFunction
        ⟨"c.js", EcmaScript.methodThenFunctionText, _, rfl⟩ =
          .ok EcmaScript.methodThenFunctionOutline ∧
      MemberFormsAgree (EcmaScript.resolve EcmaScript.methodThenFunction) "f" ∧
      MembersListed (EcmaScript.resolve EcmaScript.methodThenFunction)
        EcmaScript.methodThenFunctionOutline.classes "f" ∧
      Python.ClassesNamed Python.methodThenFunction ∧
      MemberFormsAgree (Python.resolve Python.methodThenFunction) "m" ∧
      ∃ outline,
        Python.outline Python.methodThenFunction
          ⟨"p.py", Python.methodThenFunctionText, _, rfl⟩ = .ok outline ∧
        MembersListed (Python.resolve Python.methodThenFunction) outline.classes "m" := by
  have script := member_forms_coherent.1 EcmaScript.methodThenFunction "f"
  have module := member_forms_coherent.2 Python.methodThenFunction "m"
    Python.classesNamed_methodThenFunction
  have decodable : Python.methodThenFunction.Decodable := by simp [Python.methodThenFunction]
  obtain ⟨outline, read⟩ := Python.succeeds_outline decodable
    ⟨"p.py", Python.methodThenFunctionText, _, rfl⟩
  exact ⟨EcmaScript.outline_methodThenFunction, script.1,
    script.2 _ _ EcmaScript.outline_methodThenFunction, Python.classesNamed_methodThenFunction,
    module.1, outline, read, module.2 _ _ read⟩

end SourceLens
