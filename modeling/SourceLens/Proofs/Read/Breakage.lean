import SourceLens.Main.Rules
import SourceLens.Proofs.Read.Extraction
import SourceLens.Proofs.Tree.Decodable

/-!
# Reading files that cannot be parsed

A document cannot be parsed when a package of its grammar is absent or when its tree is marked as
broken. What needs the tree is then never read as if the document were empty: an outline and every
target are answered by the record of a failure that has the kind of a failure to parse and the
advice for that kind (`unparsable_file_reported`). What does not need the tree is read all the
same, and does not depend on the grammars at all.
-/
namespace SourceLens

variable {workspace : Workspace} {request : ReadRequest} {doc : Document} {failure : ParseFailure}
  {target : String}

/-- The kinds of failures to parse. -/
def ErrorKind.parseKinds : List ErrorKind := [.unsupportedSyntax, .unclosedConstruct, .unknownParse]

/-- The failure that a message speaks of has the kind of a failure to parse, whatever it says. -/
theorem ParseFailure.kind_ofMessage_mem (message : String) :
    (ParseFailure.ofMessage message).kind ∈ ErrorKind.parseKinds := by
  simp only [ParseFailure.ofMessage, ParseFailure.classify]
  split
  · decide
  · split <;> decide

/-- The failure to load a package has the kind of a failure to parse. -/
theorem Grammars.kind_unloadable_mem (language : Language) (package : String) :
    (Grammars.unloadable language package).kind ∈ ErrorKind.parseKinds := by
  have unknown : (Grammars.unloadable language package).kind = .unknownParse := rfl
  rw [unknown]
  decide

/-- There is no tree of a document: a package that the grammar of its language needs is absent, or
its tree is marked as broken. -/
def Workspace.LacksTree (workspace : Workspace) (doc : Document) : Prop :=
  (∃ package ∈ (Language.detect doc.path).packages, package ∈ workspace.grammars.absent) ∨
    (workspace.grammars.tree (Language.detect doc.path) doc.text).info.broken = true

/-- A document without a tree is not parsed, and the failure has the kind of one. -/
theorem Workspace.LacksTree.exists_failure (lacks : workspace.LacksTree doc) :
    ∃ failure, workspace.parse doc (Language.detect doc.path) = .error failure ∧
      failure.kind ∈ ErrorKind.parseKinds := by
  generalize language : Language.detect doc.path = spoken at lacks ⊢
  unfold Workspace.parse Grammars.parse
  cases missing : workspace.grammars.lacking? spoken with
  | some package => exact ⟨_, rfl, Grammars.kind_unloadable_mem spoken package⟩
  | none =>
    have complete : ∀ package ∈ spoken.packages, package ∉ workspace.grammars.absent := by
      simpa [Grammars.lacking?] using missing
    have broken : (workspace.grammars.tree spoken doc.text).info.broken = true := by
      simp only [Workspace.LacksTree, language] at lacks
      rcases lacks with ⟨package, needed, absent⟩ | broken
      · exact absurd absent (complete package needed)
      · exact broken
    simp only [broken, if_true]
    exact ⟨_, rfl, ParseFailure.kind_ofMessage_mem _⟩

/-- The four lists of an outline that lists nothing, as a value. -/
def emptyStructure : Value :=
  .record [("functions", .list []), ("classes", .list []), ("imports", .list []),
    ("exports", .list [])]

/-- A record reports a failure of a kind with the advice for that kind. -/
structure ReportsFailure (record : Fields) (kind : ErrorKind) : Prop where
  /-- The record reports no success. -/
  success : record.get? "success" = some (.bool false)
  /-- It names the kind. -/
  errorType : record.get? "error_type" = some (.text kind.code)
  /-- It gives the advice for the kind. -/
  hint : record.get? "hint" = some (.text kind.parseHint)

/-- There is advice for every kind. -/
theorem ErrorKind.parseHint_ne_empty (kind : ErrorKind) : kind.parseHint ≠ "" := by
  cases kind <;> decide

/-- The record of a failure that gives the advice for its kind. -/
theorem Failure.reportsFailure {failure : Failure}
    (advised : failure.hint = some failure.kind.parseHint) :
    ReportsFailure failure.fields failure.kind where
  success := by cases shown : failure.showsOutline <;> simp [Failure.fields, shown]
  errorType := by cases shown : failure.showsOutline <;> simp [Failure.fields, shown]
  hint := by
    have present := failure.kind.parseHint_ne_empty
    cases shown : failure.showsOutline <;>
      simp [Failure.fields, shown, advised, Option.filter, present]

/-- The record of a failure shows the empty outline exactly when it is meant to. -/
theorem Failure.get?_partial_structure (failure : Failure) :
    failure.fields.get? "partial_structure" =
      if failure.showsOutline then some emptyStructure else none := by
  cases shown : failure.showsOutline <;> simp [Failure.fields, shown]
  rfl

/-- An error that can be put into words ends a request with its record. -/
theorem ReadRequest.execute_of_error {error : ReadError} {message : String}
    (read : request.read workspace = .error error) (told : error.message? = some message) :
    request.execute workspace =
      .ok (error.failure message request.path request.mode).fields := by
  simp only [ReadRequest.execute, read, ReadError.record, told]

section Unparsed

variable (loaded : workspace.files.load request.path = .ok doc)
  (unparsed : workspace.parse doc (Language.detect doc.path) = .error failure)

include unparsed in
/-- A document that is not parsed has no outline. -/
theorem Workspace.outline_of_unparsed :
    workspace.outline doc (Language.detect doc.path) = .error (.unparsed failure) := by
  generalize Language.detect doc.path = language at unparsed
  simp only [Workspace.outline, unparsed]

include loaded unparsed in
/-- The outline of a document that is not parsed is not read. -/
theorem ReadRequest.read_outline_of_unparsed (mode : request.mode = "outline") :
    request.read workspace = .error (.notOutlined failure) := by
  have inMode : ReadMode.ofName? request.mode = some .outline := by
    rw [mode]
    decide
  have outlined := Workspace.outline_of_unparsed unparsed
  simp only [ReadRequest.read, loaded, ReadRequest.readDocument, inMode]
  unfold ReadRequest.readOutline
  simp only [outlined, ReadError.ofOutline]

include loaded unparsed in
/-- No target of a document that is not parsed is read: neither a list of the outline nor an entity,
whatever the qualifier says. -/
theorem ReadRequest.read_target_of_unparsed (mode : request.mode = "target")
    (asks : request.target = some target) (nonempty : target ≠ "") :
    request.read workspace =
      .error (if (Listing.ofName? (Qualifier.parse target).kind).isSome then .notOutlined failure
        else .unparsed failure) := by
  have inMode : ReadMode.ofName? request.mode = some .target := by
    rw [mode]
    decide
  have given : request.target.bind nonempty? = some target := by
    simp [asks, nonempty?, nonempty]
  simp only [ReadRequest.read, loaded, ReadRequest.readDocument, inMode, ReadRequest.readTarget,
    given]
  cases Listing.ofName? (Qualifier.parse target).kind with
  | some listing =>
    have outlined := Workspace.outline_of_unparsed unparsed
    unfold ReadRequest.readListing
    simp only [outlined, ReadError.ofOutline, Option.isSome_some, if_true]
  | none =>
    unfold ReadRequest.readEntity
    simp [unparsed]

end Unparsed

/-- A list of the outline is named `imports` or `exports`. -/
theorem Listing.isSome_ofName? {name : String} (listed : name = "imports" ∨ name = "exports") :
    (Listing.ofName? name).isSome = true := by
  rcases listed with rfl | rfl <;> decide

/-- Whole documents and windows of lines are read without the grammars. -/
theorem ReadRequest.execute_eq_of_text_mode (workspace : Workspace) (first second : Grammars)
    (mode : request.mode = "full" ∨ request.mode = "lines") :
    request.execute { workspace with grammars := first } =
      request.execute { workspace with grammars := second } := by
  have inMode : ReadMode.ofName? request.mode = some .full ∨
      ReadMode.ofName? request.mode = some .lines := by
    rcases mode with full | lines
    · exact .inl (by rw [full]; decide)
    · exact .inr (by rw [lines]; decide)
  have same : request.read { workspace with grammars := first } =
      request.read { workspace with grammars := second } := by
    simp only [ReadRequest.read]
    cases workspace.files.load request.path with
    | error error => rfl
    | ok doc => rcases inMode with full | lines <;> simp only [ReadRequest.readDocument, *]
  simp only [ReadRequest.execute, same]

/-- A file that is loaded and cannot be parsed is reported as a failure to parse, with the advice
for its kind: for its outline and the lists of it beside an outline that lists nothing, and for
every other target. Whether a file can be parsed changes nothing about its text and its lines. -/
theorem unparsable_file_reported (workspace : Workspace) (request : ReadRequest) (doc : Document)
    (loaded : workspace.files.load request.path = .ok doc) :
    (workspace.LacksTree doc → request.mode = "outline" →
      ∃ kind ∈ ErrorKind.parseKinds, Answers (request.execute workspace) fun record =>
        ReportsFailure record kind ∧ record.get? "partial_structure" = some emptyStructure) ∧
    (workspace.LacksTree doc → request.mode = "target" →
      ∀ target, request.target = some target → target ≠ "" →
      ∃ kind ∈ ErrorKind.parseKinds, Answers (request.execute workspace) fun record =>
        ReportsFailure record kind ∧
        ((Qualifier.parse target).kind = "imports" ∨ (Qualifier.parse target).kind = "exports" →
          record.get? "partial_structure" = some emptyStructure)) ∧
    (request.mode = "full" ∨ request.mode = "lines" → ∀ first second : Grammars,
      request.execute { workspace with grammars := first } =
        request.execute { workspace with grammars := second }) := by
  refine ⟨fun lacks mode => ?_, fun lacks mode target asks nonempty => ?_, fun mode first second =>
    ReadRequest.execute_eq_of_text_mode workspace first second mode⟩
  · obtain ⟨failure, unparsed, kind⟩ := lacks.exists_failure
    have read := ReadRequest.read_outline_of_unparsed loaded unparsed mode
    refine ⟨failure.kind, kind, _, ReadRequest.execute_of_error read rfl,
      Failure.reportsFailure rfl, ?_⟩
    rw [Failure.get?_partial_structure]
    rfl
  · obtain ⟨failure, unparsed, kind⟩ := lacks.exists_failure
    have read := ReadRequest.read_target_of_unparsed loaded unparsed mode asks nonempty
    cases listing : (Listing.ofName? (Qualifier.parse target).kind).isSome with
    | true =>
      rw [listing, if_pos rfl] at read
      refine ⟨failure.kind, kind, _, ReadRequest.execute_of_error read rfl,
        Failure.reportsFailure rfl, fun _ => ?_⟩
      rw [Failure.get?_partial_structure]
      rfl
    | false =>
      rw [listing, if_neg Bool.false_ne_true] at read
      refine ⟨failure.kind, kind, _, ReadRequest.execute_of_error read rfl,
        Failure.reportsFailure rfl, fun listed => ?_⟩
      rw [Listing.isSome_ofName? listed] at listing
      cases listing

/-- The tree of a call that is not closed. -/
def unclosedCall : Tree :=
  .node
    { kind := "program", field := none, named := true, missing := false, broken := true
      startByte := 0, endByte := 2, start := ⟨0, 0⟩, stop := ⟨0, 2⟩ }
    "f(".toUTF8
    [.node
      { kind := "ERROR", field := none, named := true, missing := false, broken := true
        startByte := 0, endByte := 2, start := ⟨0, 0⟩, stop := ⟨0, 2⟩ }
      "f(".toUTF8
      [.covering "identifier" none 0 ⟨0, 0⟩ ⟨0, 1⟩ "f" [], .token "(" 1 ⟨0, 1⟩ ⟨0, 2⟩]]

/-- A workspace whose only file is not closed. -/
def unclosedScript : Workspace where
  files := { entries := [.file "u.js" "f(".toUTF8] }
  grammars := ⟨[], fun _ _ => unclosedCall⟩
  rules := .strict

/-- The outline and the exports of the file are reported as a failure to parse, and so is an entity
without a name; its lines do not depend on the grammars. -/
theorem unparsable_file_reported_unclosedScript :
    unclosedScript.files.load "u.js" = .ok ⟨"u.js", "f(", _, rfl⟩ ∧
      unclosedScript.LacksTree ⟨"u.js", "f(", _, rfl⟩ ∧
      (∃ kind ∈ ErrorKind.parseKinds,
        Answers (({ path := "u.js", mode := "outline" } : ReadRequest).execute unclosedScript)
          (ReportsFailure · kind)) ∧
      (∃ kind ∈ ErrorKind.parseKinds,
        Answers (({ path := "u.js", mode := "target", target := some "class:" } :
          ReadRequest).execute unclosedScript) (ReportsFailure · kind)) ∧
      Answers (({ path := "u.js", mode := "target", target := some "exports" } :
        ReadRequest).execute unclosedScript)
          (fun record => record.get? "partial_structure" = some emptyStructure) ∧
      (∀ first second : Grammars,
        ({ path := "u.js", mode := "lines", line := some 1 } : ReadRequest).execute
            { unclosedScript with grammars := first } =
          ({ path := "u.js", mode := "lines", line := some 1 } : ReadRequest).execute
            { unclosedScript with grammars := second }) := by
  have decoded : Text.Utf8.decode "f(".toUTF8 = .ok "f(" := Text.Utf8.decode_eq_ok_iff.mpr rfl
  have loaded : unclosedScript.files.load "u.js" = .ok ⟨"u.js", "f(", _, rfl⟩ := by
    have bytes : unclosedScript.files.bytesAt "u.js" = .ok "f(".toUTF8 := rfl
    rw [FileSystem.load, bytes]
    simp only [bind, Except.bind, decoded]
  have lacks : unclosedScript.LacksTree ⟨"u.js", "f(", _, rfl⟩ := .inr rfl
  have outline := unparsable_file_reported unclosedScript { path := "u.js", mode := "outline" }
    ⟨"u.js", "f(", _, rfl⟩ loaded
  have entity := unparsable_file_reported unclosedScript
    { path := "u.js", mode := "target", target := some "class:" } ⟨"u.js", "f(", _, rfl⟩ loaded
  have listing := unparsable_file_reported unclosedScript
    { path := "u.js", mode := "target", target := some "exports" } ⟨"u.js", "f(", _, rfl⟩ loaded
  have lines := unparsable_file_reported unclosedScript
    { path := "u.js", mode := "lines", line := some 1 } ⟨"u.js", "f(", _, rfl⟩ loaded
  refine ⟨loaded, lacks, ?_, ?_, ?_, lines.2.2 (.inr rfl)⟩
  · obtain ⟨kind, known, record, answered, reported, _⟩ := outline.1 lacks rfl
    exact ⟨kind, known, record, answered, reported⟩
  · obtain ⟨kind, known, record, answered, reported, _⟩ :=
      entity.2.1 lacks rfl "class:" rfl (by decide)
    exact ⟨kind, known, record, answered, reported⟩
  · obtain ⟨_, _, record, answered, _, shown⟩ := listing.2.1 lacks rfl "exports" rfl (by decide)
    exact ⟨record, answered, shown (.inr (by decide))⟩

end SourceLens
