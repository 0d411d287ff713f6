import SourceLens.Proofs.Fields
import SourceLens.Proofs.Read.Extraction
import SourceLens.Proofs.Search.Discovery
import SourceLens.Search

/-!
# Reports of searches

A search is an entry, a pattern and a report of the files that are searched. It has a record exactly
when the entry is found, the pattern compiles and no file ends it (`SearchRequest.search_eq`,
`SearchRequest.execute_eq`); any other record is that of a failure (`SearchRequest.execute_cases`).
In a sound file system the report is sound: every match lies in the file that is reported, and no
file is reported twice (`SearchRequest.sound_report`). A file of which nothing can be searched is
skipped (`SearchRequest.searchFile_of_unsearchable`).
-/
namespace SourceLens

/-! ## Reports -/

namespace SearchReport

/-- Every match lies in the file that is reported, and no file is reported twice. -/
structure Sound (report : SearchReport) : Prop where
  /-- The matches of a file name its path. -/
  own : ∀ file ∈ report.files, ∀ found ∈ file.found, found.file = file.path
  /-- The paths of the files are distinct. -/
  distinct : (report.files.map FileReport.path).Nodup

/-- No file ends a search when none of the outcomes says so. -/
theorem ending?_eq_none {files : List FileReport} :
    ending? ⟨files⟩ = none ↔ ∀ file ∈ files, ∀ why, file.outcome ≠ .ended why := by
  rw [ending?, List.findSome?_eq_none_iff]
  refine forall₂_congr fun file _ => ?_
  unfold FileReport.ending?
  split
  · next why ended => simp [ended]
  · next goes => simpa using fun why ended => goes why ended

/-- The first file that ends a search tells why. -/
theorem ending?_of_first {before after : List FileReport} {file : FileReport} {why : SearchFailure}
    (first : ∀ other ∈ before, ∀ why, other.outcome ≠ .ended why)
    (ends : file.outcome = .ended why) : ending? ⟨before ++ file :: after⟩ = some why := by
  have none : before.findSome? FileReport.ending? = none := ending?_eq_none.mpr first
  have here : file.ending? = some why := by simp [FileReport.ending?, ends]
  simp [ending?, List.findSome?_append, none, here]

end SearchReport

/-! ## Searched files -/

/-- A file of which nothing can be searched although it exists: it cannot be read as text, or it is
a source that has no tree or a tree with a text that cannot be read. -/
def Workspace.Unsearchable (workspace : Workspace) (file : Path) : Prop :=
  (∃ why, workspace.files.load file.render = .error (.unreadable why)) ∨
    ∃ doc, workspace.files.load file.render = .ok doc ∧ Language.isSource file = true ∧
      ((∃ failure, workspace.parse doc (Language.detect doc.path) = .error failure) ∨
        ∃ tree fault, workspace.parse doc (Language.detect doc.path) = .ok tree ∧
          (Language.detect doc.path).grammar.symbols tree doc = .error fault)

namespace SearchRequest

variable {request : SearchRequest} {workspace : Workspace} {pattern : Pattern} {file : Path}
  {entry : Entry} {record : Fields}

/-- What follows a reading that succeeded, whatever its errors are called. -/
theorem mapError_ok_bind {ε δ α β : Type} (change : ε → δ) (value : α) (next : α → Except δ β) :
    ((Except.ok value).mapError change >>= next) = next value := rfl

/-- Nothing follows a reading that failed. -/
theorem mapError_error_bind {ε δ α β : Type} (change : ε → δ) (error : ε)
    (next : α → Except δ β) :
    ((Except.error error).mapError change >>= next) = .error (change error) := rfl

/-- A file of which nothing can be searched is skipped. -/
theorem searchFile_of_unsearchable (request : SearchRequest) (pattern : Pattern)
    (unsearchable : workspace.Unsearchable file) :
    ∃ reason, request.searchFile workspace pattern file = .skipped reason := by
  rcases unsearchable with ⟨why, unloaded⟩ | ⟨doc, loaded, source, failed⟩
  · exact ⟨.unreadable why, by simp only [searchFile, unloaded]⟩
  · rcases failed with ⟨failure, unparsed⟩ | ⟨tree, fault, parsed, unread⟩
    · refine ⟨.unparsed failure, ?_⟩
      simp only [searchFile, searchDocument, loaded, source, unparsed, mapError_error_bind,
        if_true, FileOutcome.orSkipped]
    · refine ⟨.undecodable fault, ?_⟩
      simp only [searchFile, searchDocument, loaded, source, parsed, unread, mapError_ok_bind,
        mapError_error_bind, if_true, FileOutcome.orSkipped]

/-- What holds of all that is found at an item holds of all that is found in the list. -/
theorem forall_mem_of_mapM {ε α β : Type} {holds : β → Prop} {search : α → Except ε (List β)}
    {items : List α} {results : List (List β)}
    (each : ∀ item found, search item = .ok found → ∀ place ∈ found, holds place)
    (done : items.mapM search = .ok results) : ∀ place ∈ results.flatten, holds place := by
  induction items generalizing results with
  | nil =>
    obtain rfl : [] = results := Except.ok.inj done
    simp
  | cons first rest ih =>
    rw [List.mapM_cons] at done
    cases here : search first with
    | error why => simp [here, bind, Except.bind] at done
    | ok found =>
      cases later : rest.mapM search with
      | error why => simp [here, later, bind, Except.bind] at done
      | ok others =>
        simp only [here, later, bind, Except.bind] at done
        obtain rfl : found :: others = results := Except.ok.inj done
        rw [List.flatten_cons, List.forall_mem_append]
        exact ⟨each first found here, ih later⟩

/-- The matches in a text name its path. -/
theorem file_of_mem_ofText {doc : Document} {before after : Int} {found : List SearchMatch}
    (searched : SearchMatch.ofText pattern doc before after = .ok found) :
    ∀ place ∈ found, place.file = doc.path := by
  unfold SearchMatch.ofText at searched
  simp only [bind, Except.bind] at searched
  split at searched
  · cases searched
  next results done =>
  obtain rfl : results.flatten = found := Except.ok.inj searched
  refine forall_mem_of_mapM ?_ done
  rintro ⟨line, index⟩ places here
  dsimp only at here
  split at here
  · cases here
  next occurrences _ =>
  obtain rfl := Except.ok.inj here
  intro place inside
  obtain ⟨occurrence, _, rfl⟩ := List.mem_map.mp inside
  rfl

/-- The matches among the symbols of a document name its path. -/
theorem file_of_mem_searchSymbols {settings : SearchSettings} {doc : Document}
    {symbols : List Symbol} {found : List SearchMatch}
    (searched : request.searchSymbols settings pattern doc symbols = .ok found) :
    ∀ place ∈ found, place.file = doc.path := by
  unfold searchSymbols at searched
  split at searched
  · cases searched
  · obtain rfl := Except.ok.inj searched
    intro place inside
    obtain ⟨symbol, _, rfl⟩ := List.mem_map.mp inside
    rfl

/-- What is found is what a search of a file that succeeds gives. -/
theorem ofFound_eq_searched {result : Except Pattern.Breakdown (List SearchMatch)}
    {found : List SearchMatch} (searched : FileOutcome.ofFound result = .searched found) :
    result = .ok found := by
  cases result with
  | error why => cases searched
  | ok places => rw [FileOutcome.searched.inj searched]

/-- The matches in a file name its path. -/
theorem file_of_mem_searchFile {found : List SearchMatch}
    (searched : request.searchFile workspace pattern file = .searched found) :
    ∀ place ∈ found, place.file = file.render := by
  have searchable : ¬workspace.Unsearchable file := by
    intro unsearchable
    obtain ⟨reason, skipped⟩ := searchFile_of_unsearchable request pattern unsearchable
    cases skipped.symm.trans searched
  cases loaded : workspace.files.load file.render with
  | error error =>
    cases error with
    | notFound path =>
      simp only [searchFile, loaded] at searched
      cases searched
    | unreadable why => exact absurd (.inl ⟨why, loaded⟩) searchable
  | ok doc =>
    rw [← FileSystem.path_of_load loaded]
    simp only [searchFile, loaded] at searched
    cases source : Language.isSource file with
    | false =>
      simp only [searchDocument, source] at searched
      exact file_of_mem_ofText (ofFound_eq_searched searched)
    | true =>
      cases parsed : workspace.parse doc (Language.detect doc.path) with
      | error failure =>
        exact absurd (.inr ⟨doc, loaded, source, .inl ⟨failure, parsed⟩⟩) searchable
      | ok tree =>
        cases read : (Language.detect doc.path).grammar.symbols tree doc with
        | error fault =>
          exact absurd (.inr ⟨doc, loaded, source, .inr ⟨tree, fault, parsed, read⟩⟩) searchable
        | ok symbols =>
          simp only [searchDocument, source, parsed, read, mapError_ok_bind, if_true] at searched
          exact file_of_mem_searchSymbols (ofFound_eq_searched searched)

/-- The report of a search in a sound file system is sound. -/
theorem sound_report (sound : workspace.files.Sound) :
    (request.report workspace pattern entry).Sound := by
  constructor
  · intro file reported place inside
    obtain ⟨path, _, rfl⟩ := List.mem_map.mp reported
    simp only [FileReport.found] at inside
    split at inside
    · next found searched => exact file_of_mem_searchFile searched place inside
    · cases inside
  · simp only [report, List.map_map, Function.comp_def]
    cases entry with
    | file name bytes => simp [searchedFiles]
    | directory | link | special =>
      exact FileSystem.nodup_render_findFiles sound (Path.normal_parse request.path)

/-! ## Records -/

/-- The record of a report with a file is that of the output mode. -/
theorem recordOf_of_files {report : SearchReport} (some : report.files ≠ []) :
    request.recordOf report = report.fields request.output request.limit := by
  have nonempty : report.files.isEmpty = false := by simpa using some
  simp only [recordOf, nonempty, Bool.false_eq_true, if_false]

/-- A record gives the number of files that are reported. -/
theorem get?_files_searched (report : SearchReport) :
    (request.recordOf report).get? "files_searched" = some (.nat report.files.length) := by
  unfold recordOf
  split
  · next none =>
    rw [List.isEmpty_iff.mp none]
    simp [nothingSearched, Value.nat]
  · cases request.output <;> simp [SearchReport.fields, SearchReport.totals]

/-- A search whose path and pattern are good has a report, unless a file ends it. -/
theorem search_eq (request : SearchRequest)
    (found : workspace.files.find (Path.parse request.path) = .ok entry)
    (compiles : Pattern.compile request.pattern request.ignoreCase = .ok pattern) :
    request.search workspace =
      match (request.report workspace pattern entry).ending? with
      | some why => .error why
      | none => .ok (request.report workspace pattern entry) := by
  simp only [search, SearchRequest.entry, found, compiled, compiles]
  rfl

/-- A search whose path and pattern are good has a record when no file ends it. -/
theorem execute_eq (request : SearchRequest)
    (found : workspace.files.find (Path.parse request.path) = .ok entry)
    (compiles : Pattern.compile request.pattern request.ignoreCase = .ok pattern)
    (goes : (request.report workspace pattern entry).ending? = none) :
    request.execute workspace =
      .ok (request.recordOf (request.report workspace pattern entry)) := by
  have searched := request.search_eq found compiles
  rw [goes] at searched
  simp only [execute, searched]

/-- A search that has a report found the entry at its path and compiled its pattern, and no file
ended it. -/
theorem exists_of_search {report : SearchReport}
    (searched : request.search workspace = .ok report) :
    ∃ entry pattern, workspace.files.find (Path.parse request.path) = .ok entry ∧
      Pattern.compile request.pattern request.ignoreCase = .ok pattern ∧
      (request.report workspace pattern entry).ending? = none ∧
      report = request.report workspace pattern entry := by
  cases found : workspace.files.find (Path.parse request.path) with
  | error why =>
    simp only [search, SearchRequest.entry, found, bind, Except.bind] at searched
    cases why <;> cases searched
  | ok entry =>
    cases compiles : Pattern.compile request.pattern request.ignoreCase with
    | error error =>
      simp only [search, SearchRequest.entry, found, compiled, compiles, bind, Except.bind]
        at searched
      cases error <;> cases searched
    | ok pattern =>
      rw [search_eq request found compiles] at searched
      cases goes : (request.report workspace pattern entry).ending? with
      | some why =>
        rw [goes] at searched
        cases searched
      | none =>
        rw [goes] at searched
        exact ⟨entry, pattern, rfl, rfl, goes, (Except.ok.inj searched).symm⟩

/-- A record is that of a failure, or of a search whose path and pattern are good and which no file
ends. -/
theorem execute_cases (executed : request.execute workspace = .ok record) :
    (∃ failure : Failure, record = failure.fields) ∨
      ∃ entry pattern, workspace.files.find (Path.parse request.path) = .ok entry ∧
        Pattern.compile request.pattern request.ignoreCase = .ok pattern ∧
        (request.report workspace pattern entry).ending? = none ∧
        record = request.recordOf (request.report workspace pattern entry) := by
  cases searched : request.search workspace with
  | error failure =>
    cases failure with
    | reported error =>
      simp only [execute, searched] at executed
      exact .inl ⟨_, (Except.ok.inj executed).symm⟩
    | broken why => simp [execute, searched] at executed
  | ok report =>
    obtain ⟨entry, pattern, found, compiles, goes, rfl⟩ := exists_of_search searched
    have shown := execute_eq request found compiles goes
    exact .inr ⟨entry, pattern, found, compiles, goes, Except.ok.inj (executed.symm.trans shown)⟩

/-- A record of success is that of a search whose path and pattern are good and which no file
ends. -/
theorem exists_of_success (executed : request.execute workspace = .ok record)
    (success : record.get? "success" = some (.bool true)) :
    ∃ entry pattern, workspace.files.find (Path.parse request.path) = .ok entry ∧
      Pattern.compile request.pattern request.ignoreCase = .ok pattern ∧
      (request.report workspace pattern entry).ending? = none ∧
      record = request.recordOf (request.report workspace pattern entry) := by
  rcases execute_cases executed with ⟨failure, rfl⟩ | succeeded
  · cases shown : failure.showsOutline <;> simp [Failure.fields, shown] at success
  · exact succeeded

end SearchRequest

end SourceLens
