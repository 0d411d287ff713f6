import SourceLens.Proofs.EcmaScript.Contribution
import SourceLens.Proofs.FileSystem
import SourceLens.Proofs.Python.Contribution
import SourceLens.Proofs.Read.Breakage
import SourceLens.Proofs.Text.Utf8

/-!
# Errors of readings

Every kind of error has its cause in the file and the mode of a request (`ErrorKind.Cause`): what
the file system says about the path comes first, then the mode, then what the mode needs. Each
function of a reading only fails with errors that have their cause, so the whole reading does
(`ReadError.cause_of_read`); the causes that lie in the path, the mode and the line always lead to
their error (`ReadError.read_of_cause`). The record of a failure names its kind, its path and its
mode (`read_errors_follow_modes`). A path that the system refuses to look up, be it for the rights
of the process or for a name that is too long, is not the same as one with nothing there. The one
failure without a record is that of a line whose number has too many digits to print.
-/
namespace SourceLens

open Reading

/-! ## Decodable trees -/

section Decodable

variable {tree : Tree} {language : Language} {doc : Document} {qualifier : Qualifier}

/-- A decodable tree has an outline in every language. -/
theorem Language.succeeds_outline (decodable : tree.Decodable) :
    Succeeds (language.grammar.outline tree doc) := by
  cases language with
  | python => exact Python.succeeds_outline decodable doc
  | javascript | typescript | tsx => exact EcmaScript.succeeds_outline decodable doc

/-- What a qualifier asks for is looked up in a decodable tree in every language. -/
theorem Language.succeeds_resolve (decodable : tree.Decodable) :
    Succeeds (language.grammar.resolve tree qualifier) := by
  cases language with
  | python => exact Python.succeeds_resolve decodable qualifier
  | javascript | typescript | tsx => exact EcmaScript.succeeds_resolve decodable qualifier

/-- An entity of a decodable tree is extracted, or there is a hint. -/
theorem Language.succeeds_extract {contextLines : Int} {includeContext : Bool}
    (decodable : tree.Decodable) :
    Succeeds (Target.extract language.grammar tree doc qualifier contextLines includeContext) := by
  unfold Target.extract
  split
  · refine succeeds_bind (succeeds_resolve decodable) fun found _ => ?_
    cases found with
    | some span => exact succeeds_pure _
    | none =>
      refine succeeds_bind ?_ fun _ _ => succeeds_pure _
      unfold Target.notFoundHint
      split
      · exact succeeds_pure _
      split
      · exact succeeds_bind (succeeds_outline decodable) fun _ _ => succeeds_pure _
      · exact succeeds_pure _
  · exact succeeds_pure _

end Decodable

/-! ## Loading -/

variable {files : FileSystem} {path : String}

/-- There is something at a path that has no text: the system does not read it, or its bytes are not
well formed. -/
def FileSystem.HoldsNoText (files : FileSystem) (path : String) : Prop :=
  ∃ position, files.locate (Path.parse path) = .ok position ∧
    ((∃ error, files.contentAt position = .error error) ∨
      ∃ bytes, files.contentAt position = .ok bytes ∧ ¬Text.Utf8.WellFormed bytes.data.toList)

/-- A path is loaded as a document. -/
def FileSystem.Loads (files : FileSystem) (path : String) : Prop := ∃ doc, files.load path = .ok doc

/-- What has bytes is loaded as the text of its bytes. -/
theorem FileSystem.load_of_bytes {bytes : ByteArray} (content : files.bytesAt path = .ok bytes) :
    files.load path = match Text.Utf8.decode bytes with
      | .error fault => .error (.unreadable (.encoding fault))
      | .ok text => .ok { path, text } := by
  simp only [load, content]
  rfl

/-- What has no bytes is not loaded. -/
theorem FileSystem.load_of_no_bytes {error : LoadError}
    (none : files.bytesAt path = .error error) : files.load path = .error error := by
  simp only [load, none]
  rfl

/-- Nothing is loaded from where there is nothing. -/
theorem FileSystem.load_of_missing (missing : files.find (Path.parse path) = .error .missing) :
    files.load path = .error (.notFound path) := by
  have nowhere := find_eq_error.mp missing
  exact load_of_no_bytes (by simp only [bytesAt, nowhere])

/-- Nothing is loaded from a path that the system refuses to look up. -/
theorem FileSystem.load_of_refused {error : SystemError}
    (refused : files.find (Path.parse path) = .error (.refused error)) :
    files.load path = .error (.unreadable (.refused error (Path.parse path).render)) := by
  have nowhere := find_eq_error.mp refused
  exact load_of_no_bytes (by simp only [bytesAt, nowhere])

/-- A directory in which the process may look up no name. -/
def closedDirectory : FileSystem where
  entries := [.directory "x" []]
  refuses access place := if access = .enter ∧ place = ["x"] then some .denied else none

example : closedDirectory.load "x/a.js" = .error (.unreadable (.refused .denied "x/a.js")) := rfl

/-- What is not loaded is not there, or cannot be looked up, or has no text. -/
theorem FileSystem.cause_of_load {error : LoadError} (unloaded : files.load path = .error error) :
    match error with
    | .notFound _ => files.find (Path.parse path) = .error .missing
    | .unreadable _ => (∃ refusal, files.find (Path.parse path) = .error (.refused refusal)) ∨
        files.HoldsNoText path := by
  cases located : files.locate (Path.parse path) with
  | error unreached =>
    have nowhere := find_eq_error.mpr located
    cases unreached with
    | missing =>
      rw [load_of_missing nowhere] at unloaded
      obtain rfl := Except.error.inj unloaded
      exact nowhere
    | refused refusal =>
      rw [load_of_refused nowhere] at unloaded
      obtain rfl := Except.error.inj unloaded
      exact .inl ⟨refusal, nowhere⟩
  | ok position =>
    cases content : files.contentAt position with
    | error refusal =>
      have none : files.bytesAt path =
          .error (.unreadable (.refused refusal (Path.parse path).render)) := by
        simp only [bytesAt, located, content, Except.mapError]
      rw [load_of_no_bytes none] at unloaded
      obtain rfl := Except.error.inj unloaded
      exact .inr ⟨position, located, .inl ⟨refusal, content⟩⟩
    | ok bytes =>
      have read : files.bytesAt path = .ok bytes := by
        simp only [bytesAt, located, content, Except.mapError]
      rw [load_of_bytes read] at unloaded
      cases decoded : Text.Utf8.decode bytes with
      | ok text => simp [decoded] at unloaded
      | error fault =>
        simp only [decoded] at unloaded
        obtain rfl := Except.error.inj unloaded
        refine .inr ⟨position, located, .inr ⟨bytes, content, fun wellFormed => ?_⟩⟩
        obtain ⟨text, read⟩ := Text.Utf8.exists_decode_iff.mpr wellFormed
        cases decoded.symm.trans read

/-! ## Causes -/

variable {workspace : Workspace} {request : ReadRequest} {doc : Document} {error : ReadError}
  {kind : ErrorKind}

/-- The failure of a document that is not parsed has the kind of one. -/
theorem Workspace.kind_of_parse {language : Language} {failure : ParseFailure}
    (unparsed : workspace.parse doc language = .error failure) :
    failure.kind ∈ ErrorKind.parseKinds := by
  unfold Workspace.parse Grammars.parse at unparsed
  split at unparsed
  · next package _ =>
    obtain rfl := Except.error.inj unparsed
    exact Grammars.kind_unloadable_mem language package
  · dsimp only at unparsed
    split at unparsed
    · obtain rfl := Except.error.inj unparsed
      exact ParseFailure.kind_ofMessage_mem _
    · cases unparsed

/-- The mode with a name is the one that has the name. -/
theorem ReadMode.ofName?_eq_some {name : String} {mode : ReadMode} :
    ofName? name = some mode ↔ name = mode.name := by
  constructor
  · intro found
    have named := List.find?_some found
    exact (by simpa using named : mode.name = name).symm
  · rintro rfl
    cases mode <;> decide

/-- There is no mode with a name that no mode has. -/
theorem ReadMode.ofName?_eq_none {name : String} :
    ofName? name = none ↔ name ∉ ["full", "outline", "lines", "target"] := by
  simp [ofName?, all, ReadMode.name, @eq_comm _ name]

/-- A tree of the file has a node whose bytes are not well formed. -/
def Workspace.HoldsUndecodableNode (workspace : Workspace) (path : String) : Prop :=
  ∃ doc tree, workspace.files.load path = .ok doc ∧
    workspace.parse doc (Language.detect doc.path) = .ok tree ∧
    ∃ node ∈ tree.preorder, ¬Text.Utf8.WellFormed node.bytes.data.toList

/-- What the file and the mode of a request have to do with each kind of error. A path that the
system refuses to look up counts as one that cannot be read. -/
def ErrorKind.Cause (workspace : Workspace) (request : ReadRequest) : ErrorKind → Prop
  | fileNotFound => workspace.files.find (Path.parse request.path) = .error .missing
  | readError =>
      (∃ error, workspace.files.find (Path.parse request.path) = .error (.refused error)) ∨
      workspace.files.HoldsNoText request.path ∨
      ((request.mode = "outline" ∨ request.mode = "target") ∧
        workspace.HoldsUndecodableNode request.path)
  | invalidMode => workspace.files.Loads request.path ∧
      request.mode ∉ ["full", "outline", "lines", "target"]
  | missingLine => workspace.files.Loads request.path ∧ request.mode = "lines" ∧
      request.line = none
  | lineOutOfRange => ∃ doc line, workspace.files.load request.path = .ok doc ∧
      request.mode = "lines" ∧ request.line = some line ∧ ¬(1 ≤ line ∧ line ≤ doc.lineCount)
  | missingTarget | targetNotFound => request.mode = "target"
  | unsupportedSyntax | unclosedConstruct | unknownParse =>
      request.mode = "outline" ∨ request.mode = "target"
  | validation | pathNotFound | invalidPattern => False

/-- The kinds of failures to parse have their cause in the modes that parse. -/
theorem ErrorKind.cause_of_mem_parseKinds (parsing : kind ∈ parseKinds)
    (mode : request.mode = "outline" ∨ request.mode = "target") : kind.Cause workspace request := by
  simp only [parseKinds, List.mem_cons, List.not_mem_nil, or_false] at parsing
  rcases parsing with rfl | rfl | rfl <;> exact mode

section Loaded

variable (loaded : workspace.files.load request.path = .ok doc)

include loaded in
/-- A reading of a tree that fails has its cause in a node of the tree. -/
theorem ErrorKind.cause_of_not_decodable {tree : Tree}
    (mode : request.mode = "outline" ∨ request.mode = "target")
    (parsed : workspace.parse doc (Language.detect doc.path) = .ok tree)
    (undecodable : ¬tree.Decodable) : ErrorKind.readError.Cause workspace request := by
  simp only [Tree.Decodable, not_forall, Tree.text, Text.Utf8.exists_decode_iff] at undecodable
  obtain ⟨node, inside, illFormed⟩ := undecodable
  exact .inr (.inr ⟨mode, doc, tree, loaded, parsed, node, inside, illFormed⟩)

include loaded in
/-- An outline that is not made has its cause in the tree. -/
theorem ReadError.cause_of_outline {failure : OutlineError}
    (mode : request.mode = "outline" ∨ request.mode = "target")
    (missing : workspace.outline doc (Language.detect doc.path) = .error failure) :
    (ReadError.ofOutline failure).kind.Cause workspace request := by
  unfold Workspace.outline at missing
  split at missing
  · next failure unparsed =>
    obtain rfl := Except.error.inj missing
    exact ErrorKind.cause_of_mem_parseKinds (Workspace.kind_of_parse unparsed) mode
  · next tree parsed =>
    split at missing
    · next fault unread =>
      obtain rfl := Except.error.inj missing
      refine ErrorKind.cause_of_not_decodable loaded mode parsed fun decodable => ?_
      obtain ⟨outline, made⟩ := Language.succeeds_outline decodable
      exact absurd (unread.symm.trans made) (by simp)
    · cases missing

include loaded in
/-- A target that is not read has its cause in the mode or in the tree. -/
theorem ReadError.cause_of_readTarget (mode : request.mode = "target")
    (failed : request.readTarget workspace doc = .error error) :
    error.kind.Cause workspace request := by
  unfold ReadRequest.readTarget at failed
  split at failed
  · obtain rfl := Except.error.inj failed
    exact mode
  dsimp only at failed
  split at failed
  · unfold ReadRequest.readListing at failed
    split at failed
    · next missing =>
      obtain rfl := Except.error.inj failed
      exact cause_of_outline loaded (.inr mode) missing
    · cases failed
  · unfold ReadRequest.readEntity at failed
    dsimp only at failed
    split at failed
    · next unparsed =>
      obtain rfl := Except.error.inj failed
      exact ErrorKind.cause_of_mem_parseKinds (Workspace.kind_of_parse unparsed) (.inr mode)
    next parsed =>
    split at failed
    · next unread =>
      obtain rfl := Except.error.inj failed
      refine ErrorKind.cause_of_not_decodable loaded (.inr mode) parsed fun decodable => ?_
      obtain ⟨target, extracted⟩ := Language.succeeds_extract decodable
      exact absurd (unread.symm.trans extracted) (by simp)
    · obtain rfl := Except.error.inj failed
      exact mode
    · cases failed

include loaded in
/-- Lines that are not read have their cause in the line of the request. -/
theorem ReadError.cause_of_readLines (mode : request.mode = "lines")
    (failed : request.readLines doc = .error error) : error.kind.Cause workspace request := by
  unfold ReadRequest.readLines at failed
  split at failed
  · next absent =>
    obtain rfl := Except.error.inj failed
    exact ⟨⟨doc, loaded⟩, mode, absent⟩
  · next line given =>
    split at failed
    · next outside =>
      obtain rfl := Except.error.inj failed
      exact ⟨doc, line, loaded, mode, given, by omega⟩
    · cases failed

end Loaded

/-- Every error of a reading has the cause of its kind. -/
theorem ReadError.cause_of_read (failed : request.read workspace = .error error) :
    error.kind.Cause workspace request := by
  unfold ReadRequest.read at failed
  split at failed
  · next unloaded notLoaded =>
    obtain rfl := Except.error.inj failed
    have cause := FileSystem.cause_of_load notLoaded
    cases unloaded with
    | notFound => exact cause
    | unreadable => exact cause.imp id .inl
  next doc loaded =>
  unfold ReadRequest.readDocument at failed
  split at failed
  · next unknown =>
    obtain rfl := Except.error.inj failed
    exact ⟨⟨doc, loaded⟩, ReadMode.ofName?_eq_none.mp unknown⟩
  · cases failed
  · next known =>
    unfold ReadRequest.readOutline at failed
    dsimp only at failed
    split at failed
    · next missing =>
      obtain rfl := Except.error.inj failed
      exact cause_of_outline loaded (.inl (ReadMode.ofName?_eq_some.mp known)) missing
    · cases failed
  · next known => exact cause_of_readLines loaded (ReadMode.ofName?_eq_some.mp known) failed
  · next known => exact cause_of_readTarget loaded (ReadMode.ofName?_eq_some.mp known) failed

/-- The kinds of errors that are there whenever their cause is. -/
def ErrorKind.decided : List ErrorKind :=
  [.fileNotFound, .invalidMode, .missingLine, .lineOutOfRange]

/-- The cause of a missing file, of an unknown mode and of a line that is not given or not in the
file ends the reading with an error of the kind. -/
theorem ReadError.read_of_cause (decided : kind ∈ ErrorKind.decided)
    (cause : kind.Cause workspace request) :
    ∃ error, request.read workspace = .error error ∧ error.kind = kind := by
  simp only [ErrorKind.decided, List.mem_cons, List.not_mem_nil, or_false] at decided
  rcases decided with rfl | rfl | rfl | rfl
  · refine ⟨.unloaded (.notFound request.path), ?_, rfl⟩
    simp only [ReadRequest.read, FileSystem.load_of_missing cause]
  · obtain ⟨⟨doc, loaded⟩, mode⟩ := cause
    refine ⟨.unknownMode request.mode, ?_, rfl⟩
    simp only [ReadRequest.read, loaded, ReadRequest.readDocument,
      ReadMode.ofName?_eq_none.mpr mode]
  · obtain ⟨⟨doc, loaded⟩, mode, absent⟩ := cause
    have known : ReadMode.ofName? request.mode = some .lines := ReadMode.ofName?_eq_some.mpr mode
    refine ⟨.lineNotGiven, ?_, rfl⟩
    simp only [ReadRequest.read, loaded, ReadRequest.readDocument, known, ReadRequest.readLines,
      absent]
  · obtain ⟨doc, line, loaded, mode, given, outside⟩ := cause
    have known : ReadMode.ofName? request.mode = some .lines := ReadMode.ofName?_eq_some.mpr mode
    refine ⟨.lineOutside line doc.lineCount, ?_, rfl⟩
    have cut : line < 1 ∨ (doc.lineCount : Int) < line := by omega
    simp only [ReadRequest.read, loaded, ReadRequest.readDocument, known, ReadRequest.readLines,
      given, cut, if_true]

/-! ## Records of failures -/

/-- A record reports a failure of a kind. -/
structure Reports (record : Fields) (kind : ErrorKind) : Prop where
  /-- The record reports no success. -/
  failed : record.get? "success" = some (.bool false)
  /-- It names the kind. -/
  named : record.get? "error_type" = some (.text kind.code)

/-- A kind is known by its code. -/
theorem ErrorKind.code_injective : Function.Injective ErrorKind.code := by
  have known (kind : ErrorKind) : ofCode? kind.code = some kind := by cases kind <;> decide
  intro kind other same
  exact Option.some.inj ((known kind).symm.trans (same ▸ known other))

/-- The record of what was read reports success. -/
theorem ReadResult.get?_success (result : ReadResult) (path : String) (verbose : Bool) :
    (result.fields path verbose).get? "success" = some (.bool true) := by
  rw [ReadResult.get?_fields _ _ _ (by decide)]
  cases result with
  | listing listing outline => cases listing <;> simp [body, Listing.name]
  | target found => simp [body, Target.fields]
  | _ => simp [body]

/-- The record of an error reports a failure of its kind for the path and the mode. -/
theorem ReadError.fields_failure (error : ReadError) (message path mode : String) :
    Reports (error.failure message path mode).fields error.kind ∧
      (error.failure message path mode).fields.get? "file_path" = some (.text path) ∧
      (error.failure message path mode).fields.get? "mode" = some (.text mode) := by
  refine ⟨⟨?_, ?_⟩, ?_, ?_⟩ <;> cases shown : error.showsOutline <;>
    simp [Failure.fields, failure, shown, Value.textOrNull]

/-- Only a line whose number has too many digits leaves an error without words. -/
theorem ReadError.message?_eq_none (silent : error.message? = none) :
    ∃ line total, error = .lineOutside line total ∧ Text.printInt? line = none := by
  cases error with
  | lineOutside line total =>
    exact ⟨line, total, rfl, by simpa only [message?, Option.map_eq_none_iff] using silent⟩
  | _ => cases silent

/-- The record of a request reports a failure exactly when the reading ends with an error of the
kind. -/
theorem ReadRequest.reports_execute_iff {record : Fields}
    (answered : request.execute workspace = .ok record) :
    Reports record kind ↔
      ∃ error, request.read workspace = .error error ∧ error.kind = kind := by
  cases read : request.read workspace with
  | ok result =>
    simp only [execute, read, Except.ok.injEq] at answered
    simp only [reduceCtorEq, false_and, exists_false, iff_false, ← answered]
    rintro ⟨failed, _⟩
    rw [ReadResult.get?_success] at failed
    exact absurd failed (by simp)
  | error error =>
    cases told : error.message? with
    | none => simp [execute, read, ReadError.record, told] at answered
    | some message =>
      rw [execute_of_error read told] at answered
      obtain ⟨reported, _⟩ := error.fields_failure message request.path request.mode
      rw [Except.ok.inj answered] at reported
      constructor
      · intro other
        have same := reported.named.symm.trans other.named
        exact ⟨error, rfl, ErrorKind.code_injective (by simpa using same)⟩
      · rintro ⟨_, same, rfl⟩
        rwa [← Except.error.inj same]

/-- A record that reports no success names the path and the mode of the request, and a kind. -/
theorem ReadRequest.names_of_failed {record : Fields}
    (answered : request.execute workspace = .ok record)
    (failed : record.get? "success" = some (.bool false)) :
    record.get? "file_path" = some (.text request.path) ∧
      record.get? "mode" = some (.text request.mode) ∧ ∃ kind, Reports record kind := by
  cases read : request.read workspace with
  | ok result =>
    simp only [execute, read, Except.ok.injEq] at answered
    rw [← answered, ReadResult.get?_success] at failed
    exact absurd failed (by simp)
  | error error =>
    cases told : error.message? with
    | none => simp [execute, read, ReadError.record, told] at answered
    | some message =>
      rw [execute_of_error read told] at answered
      obtain ⟨reported, path, mode⟩ := error.fields_failure message request.path request.mode
      rw [Except.ok.inj answered] at reported path mode
      exact ⟨path, mode, error.kind, reported⟩

/-- A request has no record only for a line outside the file whose number has too many digits. -/
theorem ReadRequest.execute_eq_error {why : Breakdown}
    (broken : request.execute workspace = .error why) :
    why = .digits ∧ ErrorKind.lineOutOfRange.Cause workspace request ∧
      ∃ line, request.line = some line ∧ Text.printInt? line = none := by
  cases read : request.read workspace with
  | ok result => simp [execute, read] at broken
  | error error =>
    cases told : error.message? with
    | some message => simp [execute_of_error read told] at broken
    | none =>
      simp only [execute, read, ReadError.record, told, Except.error.injEq] at broken
      obtain ⟨number, total, rfl, long⟩ := ReadError.message?_eq_none told
      have cause := ReadError.cause_of_read read
      obtain ⟨doc, line, loaded, mode, given, _⟩ := ReadError.cause_of_read read
      -- the line of the error is that of the request
      have lines : ReadMode.ofName? request.mode = some .lines := ReadMode.ofName?_eq_some.mpr mode
      simp only [ReadRequest.read, loaded, readDocument, lines, readLines, given] at read
      split at read
      · obtain ⟨rfl, -⟩ := ReadError.lineOutside.inj (Except.error.inj read)
        exact ⟨broken.symm, cause, line, given, long⟩
      · cases read

/-- The record of a failure names the path and the mode of its request, and its kind has its cause
in the file and the mode; a missing file, an unknown mode and a line that is not given or not in the
file are reported whenever they are the cause. There is no record only when the line is not in the
file and its number has too many digits to print. -/
theorem read_errors_follow_modes (workspace : Workspace) (params : Fields) (request : ReadRequest)
    (accepted : workspace.Accepts params request) :
    (∀ record, workspace.readParams params = .ok record →
      (record.get? "success" = some (.bool false) →
        record.get? "file_path" = some (.text request.path) ∧
        record.get? "mode" = some (.text request.mode) ∧ ∃ kind, Reports record kind) ∧
      (∀ kind, Reports record kind → kind.Cause workspace request) ∧
      (∀ kind ∈ ErrorKind.decided, kind.Cause workspace request → Reports record kind)) ∧
    (∀ why, workspace.readParams params = .error why →
      why = .digits ∧ ErrorKind.lineOutOfRange.Cause workspace request ∧
        ∃ line, request.line = some line ∧ Text.printInt? line = none) := by
  rw [readParams_eq accepted]
  refine ⟨fun record answered => ⟨fun failed => ?_, fun kind reported => ?_, ?_⟩,
    fun why broken => ReadRequest.execute_eq_error broken⟩
  · exact ReadRequest.names_of_failed answered failed
  · obtain ⟨error, failed, rfl⟩ := (ReadRequest.reports_execute_iff answered).mp reported
    exact error.cause_of_read failed
  · intro kind decided cause
    exact (ReadRequest.reports_execute_iff answered).mpr (ReadError.read_of_cause decided cause)

/-- A line behind the last one of the file is reported; a file that is not there is reported in
place of a mode that is not there. -/
theorem read_errors_follow_modes_unclosedScript :
    unclosedScript.Accepts
        [("file_path", .text "u.js"), ("mode", .text "lines"), ("line", .int 2)]
        { path := "u.js", mode := "lines", line := some 2 } ∧
      Answers (unclosedScript.readParams
          [("file_path", .text "u.js"), ("mode", .text "lines"), ("line", .int 2)])
        (Reports · .lineOutOfRange) ∧
      unclosedScript.Accepts [("file_path", .text "v.js"), ("mode", .text "pages")]
        { path := "v.js", mode := "pages" } ∧
      Answers (unclosedScript.readParams [("file_path", .text "v.js"), ("mode", .text "pages")])
        (fun record => Reports record .fileNotFound ∧ ¬Reports record .invalidMode) := by
  have lines := read_errors_follow_modes unclosedScript
    [("file_path", .text "u.js"), ("mode", .text "lines"), ("line", .int 2)]
    { path := "u.js", mode := "lines", line := some 2 } rfl
  have pages := read_errors_follow_modes unclosedScript
    [("file_path", .text "v.js"), ("mode", .text "pages")] { path := "v.js", mode := "pages" } rfl
  have content : unclosedScript.files.bytesAt "u.js" = .ok "f(".toUTF8 := rfl
  have decoded : Text.Utf8.decode "f(".toUTF8 = .ok "f(" := Text.Utf8.decode_eq_ok_iff.mpr rfl
  have loaded : unclosedScript.files.load "u.js" = .ok ⟨"u.js", "f(", _, rfl⟩ := by
    rw [FileSystem.load_of_bytes content, decoded]
  have missing : unclosedScript.files.find (Path.parse "v.js") = .error .missing := rfl
  refine ⟨rfl, ?_, rfl, ?_⟩
  · cases answered : unclosedScript.readParams
        [("file_path", .text "u.js"), ("mode", .text "lines"), ("line", .int 2)] with
    | error why =>
      obtain ⟨-, -, line, given, long⟩ := lines.2 why answered
      obtain rfl := Option.some.inj given
      exact absurd long (by decide)
    | ok record =>
      refine ⟨record, rfl, (lines.1 record answered).2.2 _ (by decide) ?_⟩
      exact ⟨⟨"u.js", "f(", _, rfl⟩, 2, loaded, rfl, rfl, by decide⟩
  · cases answered : unclosedScript.readParams
        [("file_path", .text "v.js"), ("mode", .text "pages")] with
    | error why =>
      obtain ⟨-, -, line, given, -⟩ := pages.2 why answered
      cases given
    | ok record =>
      obtain ⟨-, caused, decided⟩ := pages.1 record answered
      refine ⟨record, rfl, decided _ (by decide) missing, fun reported => ?_⟩
      obtain ⟨⟨doc, loaded⟩, _⟩ := caused _ reported
      rw [FileSystem.load_of_missing missing] at loaded
      cases loaded

/-! ## Names that are too long -/

/-- A request that only names a file is accepted. -/
theorem ReadRequest.check_path (rules : Rules) (settings : ReadSettings) (named : path ≠ "") :
    ReadRequest.check rules settings [("file_path", .text path)] = .ok
      { path, linesAbove := settings.linesAbove, linesBelow := settings.linesBelow
        contextLines := settings.contextLines } := by
  have given : Fields.checkRequired [("file_path", .text path)] ["filePath", "file_path"]
      rules.nonemptyText = .ok path := by
    simp [Fields.checkRequired, Fields.present?, rules.nonemptyText_apply _ named]
  rw [ReadRequest.check, given]
  rfl

/-- A path that the system refuses to look up is reported as one that cannot be read. -/
theorem reports_readError_of_refused {params : Fields} {refusal : SystemError}
    (accepted : workspace.Accepts params request)
    (refused : workspace.files.find (Path.parse request.path) = .error (.refused refusal)) :
    Answers (workspace.readParams params) (Reports · .readError) := by
  rw [readParams_eq accepted]
  let error : ReadError :=
    .unloaded (.unreadable (.refused refusal (Path.parse request.path).render))
  have read : request.read workspace = .error error := by
    simp only [ReadRequest.read, FileSystem.load_of_refused refused, error]
  have answered := ReadRequest.execute_of_error read (rfl : error.message? = some _)
  exact ⟨_, answered, (ReadRequest.reports_execute_iff answered).mpr ⟨error, read, rfl⟩⟩

/-- A name of so many letters. -/
def letters (count : Nat) : String := String.ofList (List.replicate count 'a')

/-- The name has these characters. -/
theorem toList_letters (count : Nat) : (letters count).toList = List.replicate count 'a' :=
  String.toList_ofList

/-- The name is none that has fewer characters. -/
theorem letters_ne {count : Nat} {other : String} (fewer : other.toList.length < count) :
    letters count ≠ other := by
  rintro rfl
  rw [toList_letters, List.length_replicate] at fewer
  exact Nat.lt_irrefl count fewer

/-- Every letter has one byte. -/
theorem utf8ByteSize_letters (count : Nat) : (letters count).utf8ByteSize = count := by
  have letter : String.utf8EncodeChar 'a' = [97] := by decide
  have bytes : (letters count).toUTF8.data.toList.length = count := by
    rw [Text.Utf8.toList_data_toUTF8, toList_letters, Text.Utf8.encode]
    induction count with
    | zero => rfl
    | succ count ih =>
      rw [List.replicate_succ, List.flatMap_cons, List.length_append, ih, letter,
        List.length_singleton, Nat.add_comm]
  exact bytes

/-- No file system looks up a name that is too long in a working directory that lets names be looked
up. -/
theorem find_letters {files : FileSystem} {own : String} {entries : List Entry} {count : Nat}
    (directory : files.working.entry = .directory own entries)
    (free : files.refuses .enter files.working.place = none)
    (long : FileSystem.nameLimit < count) (short : count ≤ FileSystem.pathLimit) :
    files.find (Path.parse (letters count)) = .error (.refused .tooLong) := by
  have notEmpty : letters count ≠ "" := letters_ne (Nat.lt_trans (by decide) long)
  have notDot : letters count ≠ "." := letters_ne (Nat.lt_trans (by decide) long)
  have notAbove : letters count ≠ ".." := letters_ne (Nat.lt_trans (by decide) long)
  have plain : Path.PlainName (letters count) := ⟨notEmpty, notDot, by simp [toList_letters]⟩
  have normal : Path.Normal ⟨"", [letters count]⟩ :=
    ⟨⟨0, by decide, rfl⟩, by simpa using plain⟩
  have shown : Path.render ⟨"", [letters count]⟩ = letters count := by
    rw [Path.render_relative (by simp), String.intercalate_singleton]
  have parsed : Path.parse (letters count) = ⟨"", [letters count]⟩ := by
    have back := Path.parse_render normal (by simp)
    rwa [shown] at back
  have noNull : Path.hasNull ⟨"", [letters count]⟩ = false := by
    simp [Path.hasNull, toList_letters]
  have size := utf8ByteSize_letters count
  have notLong : ¬FileSystem.pathLimit < count := Nat.not_lt.mpr short
  have start : files.base files.working ⟨"", [letters count]⟩ = files.working := rfl
  have way : FileSystem.steps ⟨"", [letters count]⟩ = [letters count] := rfl
  have refused : files.advance files.working [letters count] = .error (.refused .tooLong) := by
    rw [FileSystem.advance, directory]
    simp only [free, notDot, notAbove, size, long, if_false, if_true]
  refine FileSystem.find_eq_error.mpr ?_
  simp only [parsed, FileSystem.locate, noNull, shown, size, notLong, start, way,
    FileSystem.linkLimit, Bool.false_eq_true, if_false]
  rw [FileSystem.follow, refused]

/-- A workspace without files. -/
def emptyWorkspace : Workspace := { unclosedScript with files := { entries := [] } }

/-- A whole file with a name that is too long is reported as one that cannot be read, though there
is nothing at the path. -/
theorem overlong_name_read_error :
    emptyWorkspace.Accepts [("file_path", .text (letters 256))] { path := letters 256 } ∧
      Answers (emptyWorkspace.readParams [("file_path", .text (letters 256))])
        (Reports · .readError) ∧
      (∀ entry, emptyWorkspace.files.find (Path.parse (letters 256)) ≠ .ok entry) ∧
      ¬emptyWorkspace.files.HoldsNoText (letters 256) ∧
      ({ path := letters 256 } : ReadRequest).mode = "full" := by
  have accepted : emptyWorkspace.Accepts [("file_path", .text (letters 256))]
      { path := letters 256 } :=
    ReadRequest.check_path _ _ (letters_ne (by decide) : letters 256 ≠ "")
  have long : emptyWorkspace.files.find (Path.parse (letters 256)) = .error (.refused .tooLong) :=
    find_letters rfl rfl (by decide) (by decide)
  have nowhere := FileSystem.find_eq_error.mp long
  exact ⟨accepted, reports_readError_of_refused accepted long, by simp [long],
    by simp [FileSystem.HoldsNoText, nowhere], rfl⟩

end SourceLens
