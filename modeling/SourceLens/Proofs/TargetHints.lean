import SourceLens.Proofs.MemberTargets
import SourceLens.Proofs.Read.Errors

/-!
# Hints for members that are not found

When a class has no member with a name, the hint tells a missing member from a missing class. The
member is looked for in the tree, and the hint is made from the outline, so the two must agree on
which classes there are. They do for every owner with a name: in Python the search also goes through
classes without a name, but these have no owner's name and are passed over
(`Language.class_found_iff`, `Language.member_found_iff`). So the hint tells the truth about what a
search for the class finds (`missing_member_hint_is_true`).
-/
namespace SourceLens

open Reading

/-! ## What is found and what is listed -/

section Owners

variable {language : Language} {tree : Tree} {doc : Document} {outline : Outline} {owner : String}

/-- Where there is an outline, a class with a name is found as it is listed, in every language. -/
theorem Language.class_found_iff (read : language.grammar.outline tree doc = .ok outline)
    (owned : owner ≠ "") :
    ∃ found, ClassFound found outline.classes owner ∧
      ∀ raw, language.grammar.resolve tree ⟨raw, "class", owner, none⟩ = .ok found := by
  cases language with
  | python =>
    obtain ⟨pairs, entries, searched⟩ := Python.findClass_eq read
    rw [← entries]
    exact ⟨_, classFound_of_pairs pairs owner fun site => (Python.outer site).span,
      fun raw => searched owner (.inr owned)⟩
  | javascript | typescript | tsx =>
    obtain ⟨pairs, entries, searched⟩ := EcmaScript.findClass_eq read
    rw [← entries]
    exact ⟨_, classFound_of_pairs pairs owner Site.span, fun raw => searched owner⟩

/-- Where there is an outline, a member of the classes with a name is found exactly when one of them
lists it, in every language. -/
theorem Language.member_found_iff (read : language.grammar.outline tree doc = .ok outline)
    (owned : owner ≠ "") (raw member : String) :
    ∃ found, language.grammar.resolve tree ⟨raw, "class", member, some owner⟩ = .ok found ∧
      (found.isSome ↔ ∃ entry ∈ outline.classes, entry.name = owner ∧
        ∃ method ∈ entry.methods, method.name = member) := by
  cases language with
  | python =>
    obtain ⟨directory, known, searched⟩ := Python.findMethod_eq read
    have found := searched member (some owner) (.inr ⟨owner, rfl, owned⟩)
    refine ⟨_, (Python.resolve_owned raw owned).trans found, ?_⟩
    simpa using known.isSome_search_iff member (some owner)
  | javascript | typescript | tsx =>
    exact (EcmaScript.membersListed read member).owned raw owner owned

end Owners

/-! ## Hints -/

namespace Target

/-- The advice after a missing method names the method first. -/
theorem head?_methodHint (name owner : String) :
    (methodHint name owner).toList.head? = some 'M' := by
  simp [methodHint, toString]

/-- The advice after a missing class names the class first. -/
theorem head?_classHint (owner : String) : (classHint owner).toList.head? = some 'C' := by
  simp [classHint, toString]

/-- The two kinds of advice are told apart by their first word. -/
theorem methodHint_ne_classHint (name owner other : String) :
    methodHint name owner ≠ classHint other := by
  intro same
  have heads := head?_methodHint name owner
  rw [same, head?_classHint] at heads
  simp at heads

/-- The advice after a missing member of a class depends on whether the class is listed. -/
def ownedHint (member owner : String) (classes : List ClassEntry) : String :=
  if classes.any (·.name == owner) then methodHint member owner else classHint owner

/-- There is advice after a missing member of a class. -/
theorem ownedHint_ne_empty (member owner : String) (classes : List ClassEntry) :
    ownedHint member owner classes ≠ "" := by
  intro empty
  have first : (ownedHint member owner classes).toList.head?.isSome = true := by
    unfold ownedHint
    split
    · rw [head?_methodHint]
      rfl
    · rw [head?_classHint]
      rfl
  rw [empty] at first
  contradiction

/-- A member that is not found is not extracted, and the advice is made from the outline. -/
theorem extract_of_missing_member {grammar : Grammar} {tree : Tree} {doc : Document}
    {raw member owner : String} {outline : Outline} (owned : owner ≠ "") (named : member ≠ "")
    (read : grammar.outline tree doc = .ok outline)
    (missing : grammar.resolve tree ⟨raw, "class", member, some owner⟩ = .ok none) (context : Int)
    (includeContext : Bool) :
    extract grammar tree doc ⟨raw, "class", member, some owner⟩ context includeContext =
      .ok (.error (ownedHint member owner outline.classes)) := by
  have asked : (entityKinds.contains "class" && !member.isEmpty) = true := by
    simp [named, entityKinds]
  have advised : notFoundHint grammar tree doc ⟨raw, "class", member, some owner⟩ =
      .ok (ownedHint member owner outline.classes) := by
    simp only [notFoundHint, bind_nonempty?_some owned]
    exact bind_eq_ok.mpr ⟨outline, read, rfl⟩
  rw [extract, if_pos asked]
  exact bind_eq_ok.mpr ⟨none, missing, bind_eq_ok.mpr ⟨_, advised, rfl⟩⟩

end Target

/-- An entity is refused with a hint: it is not extracted, whatever the context, and a request for
it is reported as a target that was not found, with the hint. -/
structure Refused (language : Language) (tree : Tree) (doc : Document) (qualifier : Qualifier)
    (hint : String) : Prop where
  /-- There is a hint in place of the entity. -/
  extracted : ∀ context includeContext,
    Target.extract language.grammar tree doc qualifier context includeContext = .ok (.error hint)
  /-- The record of a request names the kind of the error and gives the hint. -/
  reported : ∀ (workspace : Workspace) (request : ReadRequest),
    Language.detect doc.path = language → workspace.parse doc language = .ok tree →
    ∃ error, request.readEntity workspace doc qualifier = .error error ∧
      Answers (error.record request.path request.mode) fun record =>
        Reports record .targetNotFound ∧ record.get? "hint" = some (.text hint)

/-- An entity with a hint in its place is refused. -/
theorem refused_of_extract {language : Language} {tree : Tree} {doc : Document}
    {qualifier : Qualifier} {hint : String} (present : hint ≠ "")
    (extracted : ∀ context includeContext,
      Target.extract language.grammar tree doc qualifier context includeContext =
        .ok (.error hint)) : Refused language tree doc qualifier hint where
  extracted := extracted
  reported workspace request detected parsed := by
    refine ⟨.targetNotFound qualifier hint, ?_, _, rfl, ?_, ?_⟩
    · unfold ReadRequest.readEntity
      simp only [detected, parsed, extracted]
    · exact (ReadError.fields_failure _ _ _ _).1
    · simp [ReadError.failure, ReadError.hint, ReadError.showsOutline, Failure.fields, Option.filter,
        present]

/-- A hint tells the truth about a missing member: it names the method as missing exactly when the
class is found, and the class exactly when it is not. -/
structure HintHolds (hint member owner : String) (found : Option TargetSpan) : Prop where
  /-- The method is missing from a class that is found. -/
  methodMissing : hint = Target.methodHint member owner ↔
    ∃ span, found = some span ∧ span.targetType = "class"
  /-- The class itself is missing. -/
  classMissing : hint = Target.classHint owner ↔ found = none

/-- The hint that is made from the classes that are listed holds for the class that is found. -/
theorem hintHolds_of_classFound {found : Option TargetSpan} {classes : List ClassEntry}
    {owner : String} (agrees : ClassFound found classes owner) (member : String) :
    HintHolds (Target.ownedHint member owner classes) member owner found := by
  have different := Target.methodHint_ne_classHint member owner owner
  unfold Target.ownedHint
  cases found with
  | none =>
    have absent : classes.any (·.name == owner) = false := by simpa using agrees.listed
    rw [absent]
    exact ⟨by simp [different.symm], by simp⟩
  | some span =>
    have present : classes.any (·.name == owner) = true := by simpa using agrees.listed
    rw [present]
    exact ⟨by simpa using agrees.kind span rfl, by simp [different]⟩

/-- On every decodable tree a member of a class that is not found is refused with a hint that tells
the truth: the hint says that the method is missing from the class exactly when the search for the
class finds one, and that the class is missing exactly when it finds none. No class that is listed
with the owner's name lists the method. -/
theorem missing_member_hint_is_true (language : Language) (tree : Tree) (doc : Document)
    (raw owner member : String) (decodable : tree.Decodable) (owned : owner ≠ "")
    (named : member ≠ "")
    (missing : language.grammar.resolve tree ⟨raw, "class", member, some owner⟩ = .ok none) :
    ∃ hint outline found, Refused language tree doc ⟨raw, "class", member, some owner⟩ hint ∧
      language.grammar.outline tree doc = .ok outline ∧
      (∀ raw', language.grammar.resolve tree ⟨raw', "class", owner, none⟩ = .ok found) ∧
      HintHolds hint member owner found ∧
      ∀ entry ∈ outline.classes, entry.name = owner →
        ∀ method ∈ entry.methods, method.name ≠ member := by
  obtain ⟨outline, read⟩ : Succeeds (language.grammar.outline tree doc) :=
    Language.succeeds_outline decodable
  obtain ⟨found, agrees, resolved⟩ := Language.class_found_iff read owned
  obtain ⟨answer, looked, listed⟩ := Language.member_found_iff read owned raw member
  obtain rfl : none = answer := Except.ok.inj (missing.symm.trans looked)
  refine ⟨_, outline, found, ?_, read, resolved, hintHolds_of_classFound agrees member, ?_⟩
  · exact refused_of_extract (Target.ownedHint_ne_empty member owner outline.classes)
      (Target.extract_of_missing_member owned named read missing)
  · intro entry inside same method has isMember
    simpa using listed.mpr ⟨entry, inside, same, method, has, isMember⟩

/-- In a Python file the class is found and lacks the method; in a script there is no such class. -/
theorem missing_member_hint_is_true_samples :
    Python.methodThenFunction.Decodable ∧
      Python.resolve Python.methodThenFunction ⟨"class:C.f", "class", "f", some "C"⟩ = .ok none ∧
      Refused .python Python.methodThenFunction ⟨"p.py", Python.methodThenFunctionText, _, rfl⟩
        ⟨"class:C.f", "class", "f", some "C"⟩ (Target.methodHint "f" "C") ∧
      EcmaScript.methodThenFunction.Decodable ∧
      EcmaScript.resolve EcmaScript.methodThenFunction ⟨"class:D.f", "class", "f", some "D"⟩ =
        .ok none ∧
      Refused .tsx EcmaScript.methodThenFunction
        ⟨"c.tsx", EcmaScript.methodThenFunctionText, _, rfl⟩
        ⟨"class:D.f", "class", "f", some "D"⟩ (Target.classHint "D") := by
  have decodable : Python.methodThenFunction.Decodable := by simp [Python.methodThenFunction]
  have decodable' : EcmaScript.methodThenFunction.Decodable := by
    simp [EcmaScript.methodThenFunction]
  have missing : Python.resolve Python.methodThenFunction
      ⟨"class:C.f", "class", "f", some "C"⟩ = .ok none := by
    simp only [Python.resolve, Python.findMethod, Site.walk_eq_preorder]
    decide +kernel
  have missing' : EcmaScript.resolve EcmaScript.methodThenFunction
      ⟨"class:D.f", "class", "f", some "D"⟩ = .ok none := by
    simp only [EcmaScript.resolve, EcmaScript.findMember, Site.walk_eq_preorder]
    decide +kernel
  have present : Python.resolve Python.methodThenFunction ⟨"class:C", "class", "C", none⟩ =
      .ok (some ⟨"class", "C", 1, 3, none⟩) := by
    simp only [Python.resolve, Python.findClass, Site.walk_eq_preorder]
    decide +kernel
  have absent : EcmaScript.resolve EcmaScript.methodThenFunction
      ⟨"class:D", "class", "D", none⟩ = .ok none := by
    simp only [EcmaScript.resolve, EcmaScript.findClass, Site.walk_eq_preorder]
    decide +kernel
  obtain ⟨hint, _, found, refused, _, resolved, holds, _⟩ :=
    missing_member_hint_is_true .python Python.methodThenFunction
      ⟨"p.py", Python.methodThenFunctionText, _, rfl⟩ "class:C.f" "C" "f" decodable (by decide)
      (by decide) missing
  obtain ⟨hint', _, found', refused', _, absence, holds', _⟩ :=
    missing_member_hint_is_true .tsx EcmaScript.methodThenFunction
      ⟨"c.tsx", EcmaScript.methodThenFunctionText, _, rfl⟩ "class:D.f" "D" "f" decodable'
      (by decide) (by decide) missing'
  obtain rfl := Except.ok.inj ((resolved "class:C").symm.trans present)
  obtain rfl := Except.ok.inj ((absence "class:D").symm.trans absent)
  obtain rfl := holds.methodMissing.mpr ⟨_, rfl, rfl⟩
  obtain rfl := holds'.classMissing.mpr rfl
  exact ⟨decodable, missing, refused, decodable', missing', refused'⟩

end SourceLens
