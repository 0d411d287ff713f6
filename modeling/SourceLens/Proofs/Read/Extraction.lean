import SourceLens.Proofs.Reading
import SourceLens.Proofs.Request
import SourceLens.Read

/-!
# Extracting entities

What it takes to read an outline and to read a target. A file whose outline is read is loaded,
parsed and outlined (`Outlined`). A target is then read as soon as its qualifier names an entity
that the grammar finds (`exists_read_target`), and the record of the result shows the entity
(`extracted_of_resolve`).
-/
namespace SourceLens

open Reading

/-- The record of a result shows an extracted entity: it reports success, what the entity is, its
first line, and the class it belongs to, if that has a name. -/
structure Extracted (record : Fields) (span : TargetSpan) : Prop where
  /-- The record reports success. -/
  success : record.get? "success" = some (.bool true)
  /-- It says what the entity is. -/
  targetType : record.get? "target_type" = some (.text span.targetType)
  /-- It gives the first line. -/
  line : record.get? "line" = some (.int span.start)
  /-- It names the class. -/
  className : ∀ owner, span.className = some owner → owner ≠ "" →
    record.get? "class_name" = some (.text owner)

/-- A request asks for a target of a file. -/
def ReadRequest.AsksFor (request : ReadRequest) (path target : String) : Prop :=
  request.path = path ∧ request.mode = ReadMode.target.name ∧ request.target = some target

/-- A workspace accepts the fields of a request by its rules; its settings give what they leave
out. -/
def Workspace.Accepts (workspace : Workspace) (params : Fields) (request : ReadRequest) : Prop :=
  ReadRequest.check workspace.rules workspace.settings.read params = .ok request

/-- The fields of a request for a target of a file. -/
def ReadRequest.targetFields (path target : String) : Fields :=
  [("file_path", .text path), ("mode", .text ReadMode.target.name), ("target", .text target)]

/-- The request for a target of a file; the settings give the sizes that it leaves out. -/
def ReadRequest.targetRequest (settings : ReadSettings) (path target : String) : ReadRequest where
  path
  mode := ReadMode.target.name
  target := some target
  linesAbove := settings.linesAbove
  linesBelow := settings.linesBelow
  contextLines := settings.contextLines

/-- A request for a target is accepted, whatever the target, as soon as it names a file. -/
theorem ReadRequest.accepts_targetFields (workspace : Workspace) {path : String}
    (named : path ≠ "") (target : String) :
    workspace.Accepts (targetFields path target)
      (targetRequest workspace.settings.read path target) := by
  let rules := workspace.rules
  have given : (targetFields path target).checkRequired ["filePath", "file_path"]
      rules.nonemptyText = .ok path := by
    simp [targetFields, Fields.checkRequired, Fields.present?, rules.nonemptyText_apply _ named]
  refine check_eq_ok_iff.mpr ?_
  exact
    { path := given
      mode := Fields.checkOr_text rules (by simp [targetFields, targetRequest])
      target := by
        rw [Fields.checkOr_of_value (by simp [targetFields]; rfl) (by simp), Check.optional,
          rules.text_apply]
        rfl
      line := Fields.checkOr_of_absent (by simp [targetFields])
      linesAbove := Fields.checkOr_of_absent (by simp [targetFields])
      linesBelow := Fields.checkOr_of_absent (by simp [targetFields])
      context := Fields.checkOr_of_absent (by simp [targetFields])
      contextLines := Fields.checkOr_of_absent (by simp [targetFields])
      verbose := Fields.checkOr_of_absent (by simp [targetFields]) }

/-- A file has a tree in the language of its path, and an outline is made from what the grammar
reads off the tree: one function is kept for every entity. -/
structure Outlined (workspace : Workspace) (path : String) (language : Language) (doc : Document)
    (tree : Tree) (found outline : Outline) : Prop where
  /-- The file is loaded. -/
  loaded : workspace.files.load path = .ok doc
  /-- The language is that of the path. -/
  detected : Language.detect doc.path = language
  /-- The text is parsed. -/
  parsed : workspace.parse doc language = .ok tree
  /-- The grammar reads an outline off the tree. -/
  read : language.grammar.outline tree doc = .ok found
  /-- Functions are merged. -/
  merged : outline = { found with functions := FunctionEntry.merge lineTolerance found.functions }

variable {workspace : Workspace} {request asked : ReadRequest} {path : String}
  {language : Language} {doc : Document} {tree : Tree} {found outline : Outline}

/-- A document keeps the path it is loaded from. -/
theorem FileSystem.path_of_load {files : FileSystem} (loaded : files.load path = .ok doc) :
    doc.path = path := by
  unfold FileSystem.load at loaded
  cases content : files.bytesAt path with
  | error why => simp [content, bind, Except.bind] at loaded
  | ok bytes =>
    cases text : Text.Utf8.decode bytes with
    | error fault => simp [content, text, bind, Except.bind] at loaded
    | ok text =>
      simp only [content, text, bind, Except.bind, Except.ok.injEq] at loaded
      rw [← loaded]

/-- A file that is outlined can be opened in the language of its path. -/
theorem Outlined.openFile_eq (outlined : Outlined workspace path language doc tree found outline) :
    workspace.openFile path none = .ok (language, doc, tree) := by
  have detected : Language.detect path = language := by
    rw [← outlined.detected, FileSystem.path_of_load outlined.loaded]
  simp [Workspace.openFile, Workspace.languageOf, outlined.loaded, detected, outlined.parsed]

/-- The outline of a document is made from that of its tree. -/
theorem exists_of_workspace_outline (made : workspace.outline doc language = .ok outline) :
    ∃ tree found, workspace.parse doc language = .ok tree ∧
      language.grammar.outline tree doc = .ok found ∧
      outline = { found with functions := FunctionEntry.merge lineTolerance found.functions } := by
  unfold Workspace.outline at made
  cases parsed : workspace.parse doc language with
  | error failure => simp [parsed] at made
  | ok tree =>
    cases read : language.grammar.outline tree doc with
    | error fault => simp [parsed, read] at made
    | ok found =>
      simp only [parsed, read, Except.ok.injEq] at made
      exact ⟨tree, found, rfl, read, made.symm⟩

/-- The lines around a line are no outline. -/
theorem readLines_ne_outline :
    request.readLines doc ≠ .ok (.outline language outline) := by
  unfold ReadRequest.readLines
  cases request.line with
  | none => simp
  | some line =>
    dsimp only
    split <;> simp

/-- An entity is no outline. -/
theorem readEntity_ne_outline {qualifier : Qualifier} :
    request.readEntity workspace doc qualifier ≠ .ok (.outline language outline) := by
  unfold ReadRequest.readEntity
  generalize Language.detect doc.path = detected
  cases parsed : workspace.parse doc detected with
  | error failure => simp [parsed]
  | ok tree =>
    simp only [parsed]
    split <;> simp

/-- A target is no outline. -/
theorem readTarget_ne_outline :
    request.readTarget workspace doc ≠ .ok (.outline language outline) := by
  unfold ReadRequest.readTarget
  cases request.target.bind nonempty? with
  | none => simp
  | some target =>
    dsimp only
    cases Listing.ofName? (Qualifier.parse target).kind with
    | none => exact readEntity_ne_outline
    | some listing =>
      dsimp only
      unfold ReadRequest.readListing
      generalize Language.detect doc.path = detected
      cases workspace.outline doc detected <;> simp

/-- A request whose result is an outline reads a file that is outlined. -/
theorem exists_outlined (read : request.read workspace = .ok (.outline language outline)) :
    ∃ doc tree found, Outlined workspace request.path language doc tree found outline := by
  unfold ReadRequest.read at read
  cases loaded : workspace.files.load request.path with
  | error why => simp [loaded] at read
  | ok doc =>
    simp only [loaded, ReadRequest.readDocument] at read
    cases named : ReadMode.ofName? request.mode with
    | none => simp [named] at read
    | some mode =>
      rw [named] at read
      cases mode with
      | full => simp at read
      | lines => exact absurd read readLines_ne_outline
      | target => exact absurd read readTarget_ne_outline
      | outline =>
        unfold ReadRequest.readOutline at read
        generalize detected : Language.detect doc.path = spoken at read
        cases made : workspace.outline doc spoken with
        | error why => simp [made] at read
        | ok result =>
          obtain ⟨rfl, rfl⟩ : spoken = language ∧ result = outline := by
            simpa [made] using read
          obtain ⟨tree, found, parsed, outlined, merged⟩ := exists_of_workspace_outline made
          exact ⟨doc, tree, found, loaded, detected, parsed, outlined, merged⟩

/-- No entity has the name of a list of the outline as its kind. -/
theorem ofName?_of_mem_entityKinds {kind : String} (entity : kind ∈ Target.entityKinds) :
    Listing.ofName? kind = none := by
  simp only [Target.entityKinds, List.mem_cons, List.not_mem_nil, or_false] at entity
  rcases entity with rfl | rfl | rfl <;> decide

/-- A target is read when its qualifier names an entity that the grammar finds. -/
theorem exists_read_target (outlined : Outlined workspace path language doc tree found outline)
    {qualifier : Qualifier} (asks : asked.AsksFor path qualifier.raw)
    (nonempty : qualifier.raw ≠ "") (written : Qualifier.parse qualifier.raw = qualifier)
    (entity : qualifier.kind ∈ Target.entityKinds) (present : qualifier.name ≠ "")
    {span : TargetSpan}
    (resolved : language.grammar.resolve tree qualifier = .ok (some span)) :
    ∃ target, asked.read workspace = .ok (.target target) ∧ target.span = span := by
  obtain ⟨samePath, mode, asksText⟩ := asks
  have loaded : workspace.files.load asked.path = .ok doc := by rw [samePath, outlined.loaded]
  have inTargetMode : ReadMode.ofName? asked.mode = some .target := by
    rw [mode]
    decide
  have given : asked.target.bind nonempty? = some qualifier.raw := by
    simp [asksText, nonempty?, nonempty]
  have extracted : Target.extract language.grammar tree doc qualifier
      asked.contextLines asked.context = .ok (.ok ⟨span, Window.excerpt doc.lines span.start
        span.stop asked.contextLines asked.context⟩) := by
    have wellFormed : (Target.entityKinds.contains qualifier.kind &&
        !qualifier.name.isEmpty) = true := by
      simp [entity, present]
    rw [Target.extract, if_pos wellFormed]
    exact bind_eq_ok.mpr ⟨_, resolved, rfl⟩
  have entityRead : asked.readEntity workspace doc qualifier =
      .ok (.target ⟨span, Window.excerpt doc.lines span.start span.stop asked.contextLines
        asked.context⟩) := by
    unfold ReadRequest.readEntity
    rw [outlined.detected]
    simp only [outlined.parsed, extracted]
  have read : asked.read workspace = asked.readEntity workspace doc qualifier := by
    simp only [ReadRequest.read, loaded, ReadRequest.readDocument, inTargetMode,
      ReadRequest.readTarget, given, written, ofName?_of_mem_entityKinds entity]
  exact ⟨_, read.trans entityRead, rfl⟩

/-- The summary changes no other field. -/
theorem ReadResult.get?_fields (result : ReadResult) (path : String) (verbose : Bool)
    {name : String} (other : name ≠ "summary") :
    (result.fields path verbose).get? name = (result.body path).get? name := by
  rw [ReadResult.fields, Fields.get?_append]
  cases verbose with
  | true => simp
  | false => cases result.summary <;> simp [other.symm]

/-- The record of a target that was read shows the entity. -/
theorem extracted_of_read {target : Target}
    (read : request.read workspace = .ok (.target target)) :
    Answers (request.execute workspace) (Extracted · target.span) := by
  have executed : request.execute workspace =
      .ok ((ReadResult.target target).fields request.path request.verbose) := by
    simp only [ReadRequest.execute, read]
  refine ⟨_, executed, ?_, ?_, ?_, fun owner named nonempty => ?_⟩ <;>
    rw [ReadResult.get?_fields _ _ _ (by decide)]
  · simp [ReadResult.body, Target.fields]
  · simp [ReadResult.body, Target.fields]
  · simp [ReadResult.body, Target.fields]
  · simp [ReadResult.body, Target.fields, named, Option.filter, nonempty]

/-- A request that is accepted is executed. -/
theorem readParams_eq {params : Fields} (accepted : workspace.Accepts params request) :
    workspace.readParams params = request.execute workspace := by
  unfold Workspace.Accepts at accepted
  unfold Workspace.readParams
  simp only [accepted]

/-- A request for an entity that the grammar finds is answered by a record that shows it. -/
theorem extracted_of_resolve (outlined : Outlined workspace path language doc tree found outline)
    {params : Fields} (accepted : workspace.Accepts params asked) {qualifier : Qualifier}
    (asks : asked.AsksFor path qualifier.raw) (nonempty : qualifier.raw ≠ "")
    (written : Qualifier.parse qualifier.raw = qualifier)
    (entity : qualifier.kind ∈ Target.entityKinds) (present : qualifier.name ≠ "")
    {span : TargetSpan}
    (resolved : language.grammar.resolve tree qualifier = .ok (some span)) :
    Answers (workspace.readParams params) (Extracted · span) := by
  obtain ⟨target, read, rfl⟩ :=
    exists_read_target outlined asks nonempty written entity present resolved
  rw [readParams_eq accepted]
  exact extracted_of_read read

end SourceLens
