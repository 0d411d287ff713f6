import SourceLens.Main.Rules
import SourceLens.Proofs.EcmaScript.Targets
import SourceLens.Proofs.Outline.Merge
import SourceLens.Proofs.Python.Targets
import SourceLens.Proofs.Qualifier
import SourceLens.Proofs.Read.Extraction

/-!
# Listed entities as targets

Everything that an outline lists can be extracted: written behind its kind, the name of a function,
of a class or of a method with its class is a target that is found
(`listed_entity_extracted`). The functions of the outline are merged and the search knows nothing
of that, so the function that is found may differ from the one listed; in JavaScript it starts at
most two lines away from one that is listed.
-/
namespace SourceLens

open Text

variable {workspace : Workspace} {request asked : ReadRequest} {params : Fields} {path : String}
  {language : Language} {doc : Document} {tree : Tree} {found outline : Outline}

/-- The search of a language finds everything that its outline lists, in Python when all classes
have names. -/
theorem Language.reaches_outline (named : language = .python → Python.ClassesNamed tree)
    (read : language.grammar.outline tree doc = .ok found) :
    Reaches (language.grammar.resolve tree) found := by
  cases language with
  | javascript | typescript | tsx => exact EcmaScript.reaches_outline read
  | python => exact Python.reaches_outline (named rfl) read

/-- Outside Python a function that is listed is found at the line of the first one with its name. -/
theorem Language.exists_function_of_listed (other : language ≠ .python)
    (read : language.grammar.outline tree doc = .ok found) {entry : FunctionEntry}
    (listed : entry ∈ found.functions) (raw : String) :
    ∃ span first,
      language.grammar.resolve tree ⟨raw, "function", entry.name, none⟩ = .ok (some span) ∧
      span.targetType = "function" ∧
      found.functions.find? (fun other => other.name == entry.name) = some first ∧
      span.start = first.line := by
  cases language with
  | javascript | typescript | tsx => exact EcmaScript.exists_function_of_listed read listed raw
  | python => contradiction

/-- The merged outline lists no other functions than the one it is made from. -/
theorem Outlined.mem_functions
    (outlined : Outlined workspace path language doc tree found outline) {entry : FunctionEntry}
    (listed : entry ∈ outline.functions) : entry ∈ found.functions := by
  rw [outlined.merged] at listed
  exact FunctionEntry.mem_of_mem_merge listed

/-- The merged outline lists the same classes as the one it is made from. -/
theorem Outlined.classes_eq (outlined : Outlined workspace path language doc tree found outline) :
    outline.classes = found.classes := by
  rw [outlined.merged]

/-- A function that is listed is extracted as a function. -/
theorem Outlined.function_extracted
    (outlined : Outlined workspace path language doc tree found outline)
    (named : language = .python → Python.ClassesNamed tree) {entry : FunctionEntry}
    (listed : entry ∈ outline.functions) (present : entry.name ≠ "")
    (plain : '.' ∉ entry.name.toList) (back : SolidBack entry.name.toList)
    (accepted : workspace.Accepts params asked)
    (asks : asked.AsksFor path ("function:" ++ entry.name)) :
    ∃ span, Answers (workspace.readParams params) (Extracted · span) ∧
      span.targetType = "function" ∧
      (language ≠ .python → ∃ near ∈ outline.functions, near.name = entry.name ∧
        ((span.start - near.line).natAbs : Int) ≤ 2) := by
  have written : Qualifier.parse ("function:" ++ entry.name) =
      ⟨"function:" ++ entry.name, "function", entry.name, none⟩ :=
    Qualifier.parse_name "function" (by decide) (by decide) plain back
  have entity : "function" ∈ Target.entityKinds := by decide
  have whole := outlined.mem_functions listed
  have extracts {span : TargetSpan} (resolved : language.grammar.resolve tree
      ⟨"function:" ++ entry.name, "function", entry.name, none⟩ = .ok (some span)) :
      Answers (workspace.readParams params) (Extracted · span) :=
    extracted_of_resolve outlined accepted asks (by simp) written entity present resolved
  by_cases other : language = .python
  · obtain ⟨span, resolved, kind⟩ :=
      (Language.reaches_outline named outlined.read).functions entry whole present
        ("function:" ++ entry.name)
    exact ⟨span, extracts resolved, kind, fun differs => absurd other differs⟩
  · obtain ⟨span, first, resolved, kind, isFirst, start⟩ :=
      Language.exists_function_of_listed other outlined.read whole ("function:" ++ entry.name)
    refine ⟨span, extracts resolved, kind, fun _ => ?_⟩
    rw [outlined.merged, start]
    exact FunctionEntry.exists_mem_merge_near_first (by decide) isFirst

/-- A class that is listed is extracted as a class. -/
theorem Outlined.class_extracted
    (outlined : Outlined workspace path language doc tree found outline)
    (named : language = .python → Python.ClassesNamed tree) {entry : ClassEntry}
    (listed : entry ∈ outline.classes) (present : entry.name ≠ "")
    (plain : '.' ∉ entry.name.toList) (back : SolidBack entry.name.toList)
    (accepted : workspace.Accepts params asked)
    (asks : asked.AsksFor path ("class:" ++ entry.name)) :
    ∃ span, Answers (workspace.readParams params) (Extracted · span) ∧
      span.targetType = "class" := by
  have written : Qualifier.parse ("class:" ++ entry.name) =
      ⟨"class:" ++ entry.name, "class", entry.name, none⟩ :=
    Qualifier.parse_name "class" (by decide) (by decide) plain back
  rw [outlined.classes_eq] at listed
  obtain ⟨span, resolved, kind⟩ :=
    (Language.reaches_outline named outlined.read).classes entry listed ("class:" ++ entry.name)
  have entity : "class" ∈ Target.entityKinds := by decide
  exact ⟨span, extracted_of_resolve outlined accepted asks (by simp) written entity present
    resolved, kind⟩

/-- A method that is listed is extracted as a method of its class. -/
theorem Outlined.method_extracted
    (outlined : Outlined workspace path language doc tree found outline)
    (named : language = .python → Python.ClassesNamed tree) {entry : ClassEntry}
    (listed : entry ∈ outline.classes) {method : MethodEntry} (inside : method ∈ entry.methods)
    (owned : entry.name ≠ "") (plain : '.' ∉ entry.name.toList) (present : method.name ≠ "")
    (back : SolidBack method.name.toList) (accepted : workspace.Accepts params asked)
    (asks : asked.AsksFor path ("class:" ++ entry.name ++ "." ++ method.name)) :
    ∃ span, Answers (workspace.readParams params) (Extracted · span) ∧ span.targetType = "method" ∧
      span.className = some entry.name := by
  have joined : "class:" ++ entry.name ++ "." ++ method.name =
      "class" ++ ":" ++ (entry.name ++ "." ++ method.name) := by
    simp only [String.append_assoc]
    rfl
  have written := Qualifier.parse_member "class" (by decide) (by decide) owned plain back
  rw [← joined] at written
  rw [outlined.classes_eq] at listed
  obtain ⟨span, resolved, kind, owner⟩ :=
    (Language.reaches_outline named outlined.read).methods entry listed method inside owned
      ("class:" ++ entry.name ++ "." ++ method.name)
  have entity : "class" ∈ Target.entityKinds := by decide
  exact ⟨span, extracted_of_resolve outlined accepted asks (by simp) written entity present
    resolved, kind, owner⟩

/-- Every entity of an outline that was read is extracted by its qualifier: a function as a
function, in JavaScript at most two lines away from a function that is listed with its name, a class
as a class, and a method as a method of its class. Names that are written in a qualifier must not be
empty, must not end with a blank, and must not contain a full stop where one divides. In Python all
classes of the tree must have names. -/
theorem listed_entity_extracted (workspace : Workspace) (request : ReadRequest)
    (language : Language) (outline : Outline)
    (read : request.read workspace = .ok (.outline language outline))
    (named : ∀ doc tree, workspace.openFile request.path none = .ok (.python, doc, tree) →
      Python.ClassesNamed tree) :
    (∀ entry ∈ outline.functions, entry.name ≠ "" → '.' ∉ entry.name.toList →
      SolidBack entry.name.toList → ∀ params asked, workspace.Accepts params asked →
      asked.AsksFor request.path ("function:" ++ entry.name) →
      ∃ span, Answers (workspace.readParams params) (Extracted · span) ∧
        span.targetType = "function" ∧
        (language ≠ .python → ∃ near ∈ outline.functions, near.name = entry.name ∧
          ((span.start - near.line).natAbs : Int) ≤ 2)) ∧
    (∀ entry ∈ outline.classes, entry.name ≠ "" → '.' ∉ entry.name.toList →
      SolidBack entry.name.toList → ∀ params asked, workspace.Accepts params asked →
      asked.AsksFor request.path ("class:" ++ entry.name) →
      ∃ span, Answers (workspace.readParams params) (Extracted · span) ∧
        span.targetType = "class") ∧
    (∀ entry ∈ outline.classes, ∀ method ∈ entry.methods, entry.name ≠ "" →
      '.' ∉ entry.name.toList → method.name ≠ "" → SolidBack method.name.toList →
      ∀ params asked, workspace.Accepts params asked →
      asked.AsksFor request.path ("class:" ++ entry.name ++ "." ++ method.name) →
      ∃ span, Answers (workspace.readParams params) (Extracted · span) ∧
        span.targetType = "method" ∧
        span.className = some entry.name) := by
  obtain ⟨doc, tree, found, outlined⟩ := exists_outlined read
  have classes : language = .python → Python.ClassesNamed tree := by
    rintro rfl
    exact named doc tree outlined.openFile_eq
  refine ⟨?_, ?_, ?_⟩
  · intro entry listed present plain back params asked accepted asks
    exact outlined.function_extracted classes listed present plain back accepted asks
  · intro entry listed present plain back params asked accepted asks
    exact outlined.class_extracted classes listed present plain back accepted asks
  · intro entry listed method inside owned plain present back params asked accepted asks
    exact outlined.method_extracted classes listed inside owned plain present back accepted asks

/-- A workspace with one file. -/
def oneScript : Workspace where
  files := { entries := [.file "c.js" EcmaScript.methodThenFunctionText.toUTF8] }
  grammars := ⟨[], fun _ _ => EcmaScript.methodThenFunction⟩
  rules := .strict

/-- The outline of the file is read. -/
theorem read_oneScript :
    ({ path := "c.js", mode := "outline" } : ReadRequest).read oneScript =
      .ok (.outline .javascript EcmaScript.methodThenFunctionOutline) := by
  have bytes : oneScript.files.bytesAt "c.js" =
      .ok EcmaScript.methodThenFunctionText.toUTF8 := rfl
  have decoded : Text.Utf8.decode EcmaScript.methodThenFunctionText.toUTF8 =
      .ok EcmaScript.methodThenFunctionText := Text.Utf8.decode_eq_ok_iff.mpr rfl
  have loaded : oneScript.files.load "c.js" =
      .ok ⟨"c.js", EcmaScript.methodThenFunctionText, _, rfl⟩ := by
    rw [FileSystem.load, bytes]
    simp only [bind, Except.bind, decoded]
  have made : oneScript.outline ⟨"c.js", EcmaScript.methodThenFunctionText, _, rfl⟩ .javascript =
      .ok EcmaScript.methodThenFunctionOutline := by
    have parsed : oneScript.parse ⟨"c.js", EcmaScript.methodThenFunctionText, _, rfl⟩ .javascript =
        .ok EcmaScript.methodThenFunction := rfl
    simp only [Workspace.outline, parsed, Language.grammar, EcmaScript.grammar,
      EcmaScript.outline_methodThenFunction]
    rfl
  have detected : Language.detect "c.js" = .javascript := by decide +kernel
  have mode : ReadMode.ofName? "outline" = some .outline := by decide
  simp only [ReadRequest.read, loaded, ReadRequest.readDocument, mode]
  unfold ReadRequest.readOutline
  rw [detected]
  simp only [made]

/-- The class, its method and the function of a file are extracted. -/
theorem listed_entity_extracted_oneScript :
    ({ path := "c.js", mode := "outline" } : ReadRequest).read oneScript =
        .ok (.outline .javascript EcmaScript.methodThenFunctionOutline) ∧
      (∃ span,
        Answers (oneScript.readParams (ReadRequest.targetFields "c.js" "function:f"))
          (Extracted · span) ∧
        span.targetType = "function" ∧ ((span.start - 2).natAbs : Int) ≤ 2) ∧
      (∃ span,
        Answers (oneScript.readParams (ReadRequest.targetFields "c.js" "class:C"))
          (Extracted · span) ∧
        span.targetType = "class") ∧
      (∃ span,
        Answers (oneScript.readParams (ReadRequest.targetFields "c.js" "class:C.f"))
          (Extracted · span) ∧
        span.targetType = "method" ∧ span.className = some "C") := by
  have named : ∀ doc tree, oneScript.openFile "c.js" none = .ok (.python, doc, tree) →
      Python.ClassesNamed tree := by
    intro doc tree opened
    obtain ⟨_, _, _, outlined⟩ := exists_outlined read_oneScript
    simp [outlined.openFile_eq] at opened
  obtain ⟨functions, classes, methods⟩ :=
    listed_entity_extracted oneScript _ _ _ read_oneScript named
  have accepted := ReadRequest.accepts_targetFields oneScript (show "c.js" ≠ "" by decide)
  refine ⟨read_oneScript, ?_, ?_, ?_⟩
  · obtain ⟨span, extracted, kind, near⟩ := functions _ (List.mem_singleton.mpr rfl) (by decide)
      (by decide) (by decide) _ _ (accepted "function:f") ⟨rfl, rfl, rfl⟩
    obtain ⟨listed, inside, _, close⟩ := near (by decide)
    obtain rfl := List.mem_singleton.mp inside
    exact ⟨span, extracted, kind, close⟩
  · exact classes _ (List.mem_singleton.mpr rfl) (by decide) (by decide) (by decide) _ _
      (accepted "class:C") ⟨rfl, rfl, rfl⟩
  · exact methods _ (List.mem_singleton.mpr rfl) _ (List.mem_singleton.mpr rfl) (by decide)
      (by decide) (by decide) (by decide) _ _ (accepted "class:C.f") ⟨rfl, rfl, rfl⟩

end SourceLens
