import Mathlib.Algebra.Ring.Nat
import SourceLens.Main.Rules
import SourceLens.Proofs.Search.Reports
import SourceLens.Proofs.Tree.Decodable

/-!
# Searching a directory file by file

A search of a directory finds what the searches of its files find one after the other, with their
sums and their skipped files (`SearchRequest.Concatenates`). This needs a search of its own for
every file that is listed. A name whose path the system refuses to look up has none: the search of
the directory skips it, and its own search breaks off. A link that leads nowhere has none either,
and it ends the search of the directory. What is neither a regular file nor a directory is read by
the search of the directory only. So the two ways agree exactly when every file is a regular one
that does not end a search, or is a special one without a match (`directory_search_concatenates`).
-/
namespace SourceLens

/-- What the record of a search says. -/
structure SearchTally where
  /-- The matches as they are shown. -/
  found : List Value
  /-- The number of matches. -/
  total : Nat
  /-- The files that were skipped. -/
  skipped : List String
  /-- The number of files that were searched. -/
  searched : Nat

/-- A record of success says so. Where it does not speak of skipped files there are none. -/
structure SearchTally.Shown (tally : SearchTally) (record : Fields) : Prop where
  /-- The search succeeded. -/
  success : record.get? "success" = some (.bool true)
  /-- The record lists the matches. -/
  found : record.get? "matches" = some (.list tally.found)
  /-- It gives their number. -/
  total : record.get? "total_matches" = some (.nat tally.total)
  /-- It lists the skipped files. -/
  skipped : (record.get? "skipped").getD (.texts []) = .texts tally.skipped
  /-- It gives the number of files. -/
  searched : record.get? "files_searched" = some (.nat tally.searched)

/-- A record says one thing. -/
theorem SearchTally.Shown.eq {one other : SearchTally} {record : Fields} (shown : one.Shown record)
    (alike : other.Shown record) : one = other := by
  have found := Value.list.inj (Option.some.inj (shown.found.symm.trans alike.found))
  have total := Value.nat_inj.mp (Option.some.inj (shown.total.symm.trans alike.total))
  have skipped := Value.texts_inj.mp (shown.skipped.symm.trans alike.skipped)
  have searched := Value.nat_inj.mp (Option.some.inj (shown.searched.symm.trans alike.searched))
  cases one
  cases other
  simp_all

namespace SearchRequest

/-- The same request for a file. -/
def forFile (request : SearchRequest) (file : Path) : SearchRequest :=
  { request with path := file.render }

/-- The files that a search of a directory looks into. -/
def directoryFiles (request : SearchRequest) (workspace : Workspace) : List Path :=
  workspace.files.findFiles workspace.settings.search (Path.parse request.path) request.glob
    request.includeNonCode

/-- The same request succeeds for every file of a directory and for the directory, and the record
for the directory puts those for the files together in order. A file of which nothing can be
searched is skipped and has no match. -/
def Concatenates (request : SearchRequest) (workspace : Workspace) : Prop :=
  ∃ part : Path → SearchTally,
    (∀ file ∈ request.directoryFiles workspace,
      (∃ record, (request.forFile file).execute workspace = .ok record ∧
        (part file).Shown record) ∧
      (workspace.Unsearchable file →
        (part file).found = [] ∧ (part file).skipped = [file.render])) ∧
    ∃ record, request.execute workspace = .ok record ∧
      SearchTally.Shown
        { found := (request.directoryFiles workspace).flatMap fun file => (part file).found
          total := ((request.directoryFiles workspace).map fun file => (part file).total).sum
          skipped := (request.directoryFiles workspace).flatMap fun file => (part file).skipped
          searched := (request.directoryFiles workspace).length }
        record

/-- The search of a directory and that of one of its files agree on the file: it is a regular file
and ends no search, or it is neither regular nor a directory and nothing is found in it. -/
def AgreesOn (request : SearchRequest) (workspace : Workspace) (pattern : Pattern)
    (file : Path) : Prop :=
  (∃ own bytes, workspace.files.find file = .ok (.file own bytes) ∧
    ∀ why, request.searchFile workspace pattern file ≠ .ended why) ∨
  ∃ own bytes, workspace.files.find file = .ok (.special own bytes) ∧
    request.searchFile workspace pattern file = .searched []

end SearchRequest

/-! ## Tallies of reports -/

namespace SearchReport

/-- What a report says when all matches are shown. -/
def tally (report : SearchReport) : SearchTally where
  found := report.found.map fun found => .record found.fields
  total := report.found.length
  skipped := report.skipped
  searched := report.files.length

/-- The files that a report of several files skips are those that their own reports skip. -/
theorem skipped_map {α : Type} (items : List α) (report : α → FileReport) :
    skipped ⟨items.map report⟩ = items.flatMap fun item => skipped ⟨[report item]⟩ := by
  induction items with
  | nil => rfl
  | cons first rest ih =>
    rw [List.flatMap_cons, ← ih]
    simp only [skipped]
    rw [← List.map_append, ← List.filter_append, List.singleton_append, List.map_cons]

/-- The report of several files says what their own reports say together. -/
theorem tally_map {α : Type} (items : List α) (report : α → FileReport) :
    tally ⟨items.map report⟩ =
      { found := items.flatMap fun item => (tally ⟨[report item]⟩).found
        total := (items.map fun item => (tally ⟨[report item]⟩).total).sum
        skipped := items.flatMap fun item => (tally ⟨[report item]⟩).skipped
        searched := items.length } := by
  simp [tally, found, skipped_map, List.map_flatMap, List.flatMap_map, List.length_flatMap]

/-- The report of a file that was skipped has no match. -/
theorem tally_skipped (path : String) (reason : SkipReason) :
    (tally ⟨[⟨path, .skipped reason⟩]⟩).found = [] ∧
      (tally ⟨[⟨path, .skipped reason⟩]⟩).skipped = [path] := ⟨rfl, rfl⟩

/-- A report without a limit shows what it says. -/
theorem shown_fields (report : SearchReport) :
    report.tally.Shown (report.fields .content none) := by
  constructor <;> simp [fields, totals, shown, tally]

/-- The record of a search without files says that nothing was found. -/
theorem shown_nothingSearched : (tally ⟨[]⟩).Shown SearchRequest.nothingSearched := by
  constructor <;> simp [SearchRequest.nothingSearched, tally, found, skipped, Value.nat]

end SearchReport

namespace SearchRequest

variable {request : SearchRequest} {workspace : Workspace} {pattern : Pattern} {file : Path}
  {report : SearchReport} {own : String} {entries : List Entry}

/-- A record of success in content mode without a limit says what its report says. -/
theorem shown_recordOf (request : SearchRequest) (content : request.output = .content)
    (unlimited : request.limit = none) : report.tally.Shown (request.recordOf report) := by
  unfold recordOf
  split
  · next none =>
    obtain ⟨files⟩ := report
    obtain rfl := List.isEmpty_iff.mp none
    exact SearchReport.shown_nothingSearched
  · rw [content, unlimited]
    exact report.shown_fields

/-- What the record of a search says is what its report says. -/
theorem tally_of_executed (request : SearchRequest) {tally : SearchTally} {record : Fields}
    (content : request.output = .content) (unlimited : request.limit = none)
    (compiles : Pattern.compile request.pattern request.ignoreCase = .ok pattern)
    (executed : request.execute workspace = .ok record) (shown : tally.Shown record) :
    ∃ entry, workspace.files.find (Path.parse request.path) = .ok entry ∧
      (request.report workspace pattern entry).ending? = none ∧
      tally = (request.report workspace pattern entry).tally := by
  obtain ⟨entry, other, found, compiled, goes, rfl⟩ := exists_of_success executed shown.success
  obtain rfl := Except.ok.inj (compiles.symm.trans compiled)
  exact ⟨entry, found, goes, shown.eq (shown_recordOf request content unlimited)⟩

/-- A file that is skipped is one that is searched. -/
theorem exists_of_mem_skipped {entry : Entry} {path : String}
    (skipped : path ∈ (request.report workspace pattern entry).skipped) :
    ∃ file ∈ request.searchedFiles workspace (Path.parse request.path) entry,
      file.render = path := by
  obtain ⟨reported, kept, rfl⟩ := List.mem_map.mp skipped
  obtain ⟨file, searched, rfl⟩ := List.mem_map.mp (List.mem_of_mem_filter kept)
  exact ⟨file, searched, rfl⟩

/-- A match lies in a file that is searched. -/
theorem exists_of_mem_found {entry : Entry} {place : SearchMatch}
    (found : place ∈ (request.report workspace pattern entry).found) :
    ∃ file ∈ request.searchedFiles workspace (Path.parse request.path) entry,
      file.render = place.file := by
  obtain ⟨reported, listed, inside⟩ := List.mem_flatMap.mp found
  obtain ⟨file, searched, rfl⟩ := List.mem_map.mp listed
  simp only [FileReport.found] at inside
  split at inside
  · next places outcome =>
    exact ⟨file, searched, (file_of_mem_searchFile outcome place inside).symm⟩
  · cases inside

/-- A match names its file. -/
theorem get?_file (place : SearchMatch) : place.fields.get? "file" = some (.text place.file) := by
  cases modified : place.modifiers <;> simp [SearchMatch.fields, modified]

/-! ## Files of a directory -/

/-- The report of a directory has the files that are listed. -/
theorem report_directory (request : SearchRequest) (workspace : Workspace) (pattern : Pattern)
    (own : String) (entries : List Entry) :
    request.report workspace pattern (.directory own entries) =
      ⟨(request.directoryFiles workspace).map fun file =>
        ⟨file.render, request.searchFile workspace pattern file⟩⟩ := rfl

/-- The search of a directory goes on when no file of it ends the search. -/
theorem ending?_directory_eq_none (request : SearchRequest) (workspace : Workspace)
    (pattern : Pattern) (own : String) (entries : List Entry) :
    (request.report workspace pattern (.directory own entries)).ending? = none ↔
      ∀ file ∈ request.directoryFiles workspace, ∀ why,
        request.searchFile workspace pattern file ≠ .ended why := by
  rw [report_directory, SearchReport.ending?_eq_none, List.forall_mem_map]

/-- A file of a directory is read back from its path. -/
theorem parse_render_of_listed (sound : workspace.files.Sound)
    (listed : file ∈ request.directoryFiles workspace) : Path.parse file.render = file :=
  FileSystem.parse_render_of_mem_findFiles sound (Path.normal_parse _) listed

/-- The path of a request for a file of a directory is the file. -/
theorem parse_forFile (sound : workspace.files.Sound)
    (listed : file ∈ request.directoryFiles workspace) :
    Path.parse (request.forFile file).path = file :=
  parse_render_of_listed sound listed

/-- A file of a directory that is searched for one of them is that one, and a regular file: below
another one there is none. -/
theorem eq_of_searched_forFile {other searched : Path} {entry : Entry}
    (sound : workspace.files.Sound)
    (directory : workspace.files.find (Path.parse request.path) = .ok (.directory own entries))
    (listed : file ∈ request.directoryFiles workspace)
    (beside : other ∈ request.directoryFiles workspace)
    (found : workspace.files.find other = .ok entry)
    (inside : searched ∈ (request.forFile other).searchedFiles workspace other entry)
    (same : searched.render = file.render) :
    file = other ∧ ∃ name bytes, entry = .file name bytes := by
  have read := parse_render_of_listed sound listed
  have readOther := parse_render_of_listed sound beside
  have below : searched ∈ workspace.files.findFiles workspace.settings.search other
      request.glob request.includeNonCode → False := by
    intro deeper
    have normal : other.Normal := readOther ▸ Path.normal_parse other.render
    have readDeeper := FileSystem.parse_render_of_mem_findFiles sound normal deeper
    rw [same, read] at readDeeper
    -- the file is below the other one, so its names go on behind those of the other one
    obtain ⟨_, _, more, there, further, place, _⟩ := FileSystem.mem_findFiles.mp deeper
    obtain ⟨_, _, names, at', outer, rfl, _⟩ := FileSystem.mem_findFiles.mp beside
    obtain ⟨_, _, names', at'', inner, rfl, _⟩ := FileSystem.mem_findFiles.mp listed
    obtain ⟨rfl, rfl⟩ := Entry.directory.inj (Except.ok.inj (directory.symm.trans at'))
    obtain ⟨rfl, rfl⟩ := Entry.directory.inj (Except.ok.inj (directory.symm.trans at''))
    have path := (Path.mk.inj (readDeeper.trans place)).2
    rw [List.append_assoc] at path
    obtain rfl := List.append_cancel_left path
    have none := Discovery.eq_nil_of_append_mem_filesBelow (sound.of_find directory) outer inner
    exact (Discovery.fileName_of_mem_filesBelow (sound.of_find there) further).1 none
  cases entry with
  | file name bytes =>
    obtain rfl := List.mem_singleton.mp inside
    rw [same, read] at readOther
    exact ⟨readOther, name, bytes, rfl⟩
  | directory | link | special => exact (below inside).elim

/-- What is neither a regular file nor a special one has no bytes, so it is skipped. -/
theorem searchFile_of_no_bytes (request : SearchRequest) (pattern : Pattern) {entry : Entry}
    (read : Path.parse file.render = file) (found : workspace.files.find file = .ok entry)
    (noFile : ∀ name bytes, entry ≠ .file name bytes)
    (noSpecial : ∀ name bytes, entry ≠ .special name bytes) :
    ∃ reason, request.searchFile workspace pattern file = .skipped reason := by
  obtain ⟨position, located, rfl⟩ := FileSystem.find_eq_ok.mp found
  obtain ⟨error, refused⟩ : ∃ error, workspace.files.contentAt position = .error error := by
    unfold FileSystem.contentAt
    cases workspace.files.refuses .read position.place with
    | some error => exact ⟨error, rfl⟩
    | none =>
      cases entry : position.entry with
      | file name bytes => exact absurd entry (noFile name bytes)
      | special name bytes => exact absurd entry (noSpecial name bytes)
      | directory | link => exact ⟨_, rfl⟩
  refine searchFile_of_unsearchable request pattern (.inl ⟨.refused error file.render, ?_⟩)
  simp only [FileSystem.load, FileSystem.bytesAt, read, located, refused, Except.mapError]
  rfl

/-- A file that does not exist ends a search. -/
theorem searchFile_of_missing (request : SearchRequest) (pattern : Pattern)
    (read : Path.parse file.render = file)
    (missing : workspace.files.find file = .error .missing) :
    request.searchFile workspace pattern file =
      .ended (.reported (.fileNotFound file.render)) := by
  have located := FileSystem.find_eq_error.mp missing
  have load : workspace.files.load file.render = .error (.notFound file.render) := by
    simp only [FileSystem.load, FileSystem.bytesAt, read, located]
    rfl
  simp only [searchFile, load]

/-! ## Agreement -/

/-- What the records of the files say: each is that of the report of what is at its path. -/
def SaysOf (request : SearchRequest) (workspace : Workspace) (pattern : Pattern)
    (part : Path → SearchTally) : Prop :=
  ∀ file ∈ request.directoryFiles workspace, ∃ entry, workspace.files.find file = .ok entry ∧
    part file = ((request.forFile file).report workspace pattern entry).tally

section

variable {part : Path → SearchTally} (sound : workspace.files.Sound)
  (directory : workspace.files.find (Path.parse request.path) = .ok (.directory own entries))
  (told : request.SaysOf workspace pattern part)
  (listed : file ∈ request.directoryFiles workspace)

include sound directory told listed

/-- A file is skipped by a search of a file of the directory only if it is that file, and a regular
one. -/
theorem isFile_of_skipped {other : Path} (beside : other ∈ request.directoryFiles workspace)
    (skipped : file.render ∈ (part other).skipped) :
    ∃ name bytes, workspace.files.find file = .ok (.file name bytes) := by
  obtain ⟨entry, found, tally⟩ := told other beside
  rw [tally] at skipped
  obtain ⟨searched, inside, named⟩ := exists_of_mem_skipped skipped
  rw [parse_forFile sound beside] at inside
  obtain ⟨rfl, name, bytes, rfl⟩ :=
    eq_of_searched_forFile sound directory listed beside found inside named
  exact ⟨name, bytes, found⟩

/-- A match in a file is found by a search of a file of the directory only if it is that file, and a
regular one. -/
theorem isFile_of_found {other : Path} (beside : other ∈ request.directoryFiles workspace)
    {place : SearchMatch} (own : place.file = file.render)
    (found : .record place.fields ∈ (part other).found) :
    ∃ name bytes, workspace.files.find file = .ok (.file name bytes) := by
  obtain ⟨entry, there, tally⟩ := told other beside
  rw [tally] at found
  obtain ⟨alike, member, equal⟩ := List.mem_map.mp found
  obtain ⟨searched, inside, named⟩ := exists_of_mem_found member
  rw [parse_forFile sound beside] at inside
  have sameFile : alike.file = place.file := by
    have fields := congrArg (Fields.get? · "file") (Value.record.inj equal)
    simp only [get?_file] at fields
    exact Value.text.inj (Option.some.inj fields)
  obtain ⟨rfl, name, bytes, rfl⟩ := eq_of_searched_forFile sound directory listed beside there
    inside (named.trans (sameFile.trans own))
  exact ⟨name, bytes, there⟩

/-- Where the records of the files put together are that of the directory, the two searches agree on
a file that does not end the search of the directory. -/
theorem agreesOn_of_tally
    (continues : ∀ why, request.searchFile workspace pattern file ≠ .ended why)
    (found : (request.report workspace pattern (.directory own entries)).tally.found =
      (request.directoryFiles workspace).flatMap fun file => (part file).found)
    (skipped : (request.report workspace pattern (.directory own entries)).tally.skipped =
      (request.directoryFiles workspace).flatMap fun file => (part file).skipped) :
    request.AgreesOn workspace pattern file := by
  by_cases regular : ∃ name bytes, workspace.files.find file = .ok (.file name bytes)
  · obtain ⟨name, bytes, here⟩ := regular
    exact .inl ⟨name, bytes, here, continues⟩
  have reported : (⟨file.render, request.searchFile workspace pattern file⟩ : FileReport) ∈
      (request.report workspace pattern (.directory own entries)).files := by
    rw [report_directory]
    exact List.mem_map_of_mem listed
  have notSkipped : ∀ reason, request.searchFile workspace pattern file ≠ .skipped reason := by
    intro reason outcome
    have whole : file.render ∈
        (request.report workspace pattern (.directory own entries)).tally.skipped :=
      List.mem_map.mpr ⟨_, List.mem_filter.mpr ⟨reported, by
        simp only [FileReport.isSkipped, outcome]⟩, rfl⟩
    rw [skipped] at whole
    obtain ⟨other, beside, inPart⟩ := List.mem_flatMap.mp whole
    exact regular (isFile_of_skipped sound directory told listed beside inPart)
  have nothing : ∀ places, request.searchFile workspace pattern file = .searched places →
      places = [] := by
    intro places outcome
    refine List.eq_nil_iff_forall_not_mem.mpr fun place member => ?_
    have whole : Value.record place.fields ∈
        (request.report workspace pattern (.directory own entries)).tally.found :=
      List.mem_map.mpr ⟨place, List.mem_flatMap.mpr ⟨_, reported, by
        simpa only [FileReport.found, outcome] using member⟩, rfl⟩
    rw [found] at whole
    obtain ⟨other, beside, inPart⟩ := List.mem_flatMap.mp whole
    exact regular (isFile_of_found sound directory told listed beside
      (file_of_mem_searchFile outcome place member) inPart)
  obtain ⟨entry, here, _⟩ := told file listed
  cases outcome : request.searchFile workspace pattern file with
  | ended why => exact absurd outcome (continues why)
  | skipped reason => exact absurd outcome (notSkipped reason)
  | searched places =>
    obtain rfl := nothing places outcome
    by_cases special : ∃ name bytes, entry = .special name bytes
    · obtain ⟨name, bytes, rfl⟩ := special
      exact .inr ⟨name, bytes, here, outcome⟩
    · obtain ⟨reason, without⟩ := searchFile_of_no_bytes request pattern
        (parse_render_of_listed sound listed) here
        (fun name bytes same => regular ⟨name, bytes, same ▸ here⟩)
        (fun name bytes same => special ⟨name, bytes, same⟩)
      exact absurd without (notSkipped reason)

end

/-- Where the search of a directory puts those of its files together, the two agree on every
file. -/
theorem agreesOn_of_concatenates (sound : workspace.files.Sound)
    (directory : workspace.files.find (Path.parse request.path) = .ok (.directory own entries))
    (compiles : Pattern.compile request.pattern request.ignoreCase = .ok pattern)
    (content : request.output = .content) (unlimited : request.limit = none)
    (together : request.Concatenates workspace) :
    ∀ file ∈ request.directoryFiles workspace, request.AgreesOn workspace pattern file := by
  obtain ⟨part, parts, record, executed, shown⟩ := together
  have told : request.SaysOf workspace pattern part := by
    intro other beside
    obtain ⟨⟨answer, answered, shows⟩, _⟩ := parts other beside
    obtain ⟨entry, found, _, same⟩ :=
      tally_of_executed (request.forFile other) content unlimited compiles answered shows
    rw [parse_forFile sound beside] at found
    exact ⟨entry, found, same⟩
  obtain ⟨_, found, goes, same⟩ :=
    tally_of_executed request content unlimited compiles executed shown
  obtain rfl := Except.ok.inj (directory.symm.trans found)
  rw [ending?_directory_eq_none] at goes
  intro file listed
  exact agreesOn_of_tally sound directory told listed (goes file listed)
    (congrArg SearchTally.found same).symm (congrArg SearchTally.skipped same).symm

/-- The report of a regular file is its own. -/
theorem report_forFile_of_file {name : String} {bytes : ByteArray}
    (read : Path.parse file.render = file) :
    (request.forFile file).report workspace pattern (.file name bytes) =
      ⟨[⟨file.render, request.searchFile workspace pattern file⟩]⟩ := by
  have place : Path.parse (request.forFile file).path = file := read
  rw [report, place]
  rfl

/-- The report of a special file is empty, because there is no directory. -/
theorem report_forFile_of_special {name : String} {bytes : ByteArray}
    (read : Path.parse file.render = file)
    (found : workspace.files.find file = .ok (.special name bytes)) :
    (request.forFile file).report workspace pattern (.special name bytes) = ⟨[]⟩ := by
  have place : Path.parse (request.forFile file).path = file := read
  simp only [report, place, searchedFiles, FileSystem.findFiles, found, List.map_nil]

/-- Where the two searches agree on a file, there is a report of its own that goes on and says what
the report of the directory says of the file. -/
theorem exists_report_of_agreesOn (read : Path.parse file.render = file)
    (agrees : request.AgreesOn workspace pattern file) :
    ∃ entry, workspace.files.find file = .ok entry ∧
      ((request.forFile file).report workspace pattern entry).ending? = none ∧
      ((request.forFile file).report workspace pattern entry).tally =
        { SearchReport.tally ⟨[⟨file.render, request.searchFile workspace pattern file⟩]⟩ with
          searched := ((request.forFile file).report workspace pattern entry).files.length } := by
  rcases agrees with ⟨name, bytes, found, goes⟩ | ⟨name, bytes, found, nothing⟩
  · refine ⟨_, found, ?_, ?_⟩
    · rw [report_forFile_of_file read, SearchReport.ending?_eq_none]
      simpa using goes
    · rw [report_forFile_of_file read]
      rfl
  · refine ⟨_, found, ?_, ?_⟩
    · rw [report_forFile_of_special read found]
      rfl
    · rw [report_forFile_of_special read found, nothing]
      rfl

/-- The search of a directory puts those of its files together when the two agree on every file. -/
theorem concatenates_of_agreesOn (sound : workspace.files.Sound)
    (directory : workspace.files.find (Path.parse request.path) = .ok (.directory own entries))
    (compiles : Pattern.compile request.pattern request.ignoreCase = .ok pattern)
    (content : request.output = .content) (unlimited : request.limit = none)
    (agrees : ∀ file ∈ request.directoryFiles workspace,
      request.AgreesOn workspace pattern file) :
    request.Concatenates workspace := by
  let single : Path → SearchTally := fun file =>
    SearchReport.tally ⟨[⟨file.render, request.searchFile workspace pattern file⟩]⟩
  let size : Path → Nat := fun file => (workspace.files.find file).toOption.elim 0 fun entry =>
    ((request.forFile file).report workspace pattern entry).files.length
  refine ⟨fun file => { single file with searched := size file }, fun file listed => ⟨?_, ?_⟩, ?_⟩
  · obtain ⟨entry, found, goes, tally⟩ :=
      exists_report_of_agreesOn (parse_render_of_listed sound listed) (agrees file listed)
    have here := (parse_forFile sound listed).symm ▸ found
    refine ⟨_, execute_eq (request.forFile file) here compiles goes, ?_⟩
    have shown : ((request.forFile file).report workspace pattern entry).tally.Shown _ :=
      shown_recordOf (request.forFile file) content unlimited
    rw [tally] at shown
    simpa only [size, found, Except.toOption, Option.elim_some] using shown
  · intro unsearchable
    obtain ⟨reason, skipped⟩ := searchFile_of_unsearchable request pattern unsearchable
    simp only [single, skipped]
    exact SearchReport.tally_skipped file.render reason
  · have goes : (request.report workspace pattern (.directory own entries)).ending? = none := by
      rw [ending?_directory_eq_none]
      intro file listed why ended
      rcases agrees file listed with ⟨_, _, _, continues⟩ | ⟨_, _, _, nothing⟩
      · exact continues why ended
      · cases nothing.symm.trans ended
    refine ⟨_, execute_eq request directory compiles goes, ?_⟩
    have shown : (request.report workspace pattern (.directory own entries)).tally.Shown _ :=
      shown_recordOf request content unlimited
    rw [report_directory, SearchReport.tally_map] at shown
    rw [report_directory]
    exact shown

/-- A file that does not exist ends the search of a directory when no file before it does. -/
theorem execute_of_missing {before after : List Path} (sound : workspace.files.Sound)
    (directory : workspace.files.find (Path.parse request.path) = .ok (.directory own entries))
    (compiles : Pattern.compile request.pattern request.ignoreCase = .ok pattern)
    (order : request.directoryFiles workspace = before ++ file :: after)
    (first : ∀ other ∈ before, ∀ why, request.searchFile workspace pattern other ≠ .ended why)
    (missing : workspace.files.find file = .error .missing) :
    request.execute workspace = .ok (Failure.fields
      { kind := .fileNotFound
        message := s!"File not found: {file.render}"
        path := some request.path
        mode := modeName }) := by
  have listed : file ∈ request.directoryFiles workspace := by simp [order]
  have read := parse_render_of_listed sound listed
  have ends := searchFile_of_missing request pattern read missing
  have searched := request.search_eq directory compiles
  have why : (request.report workspace pattern (.directory own entries)).ending? =
      some (.reported (.fileNotFound file.render)) := by
    rw [report_directory, order, List.map_append, List.map_cons]
    exact SearchReport.ending?_of_first (by simpa using first) ends
  rw [why] at searched
  simp only [execute, searched]
  rfl

/-- What is searched in a file depends on what can be loaded from it, the grammars and the
settings. -/
theorem searchFile_congr {other : Workspace} (grammars : other.grammars = workspace.grammars)
    (settings : other.settings = workspace.settings)
    (load : other.files.load file.render = workspace.files.load file.render) :
    request.searchFile other pattern file = request.searchFile workspace pattern file := by
  simp only [searchFile, searchDocument, load, Workspace.parse, grammars, settings]

/-- A path where there is no directory is searched itself when a regular file is there. -/
theorem searchedFiles_of_leaf {entry : Entry} (found : workspace.files.find file = .ok entry)
    (leaf : entry.isDirectory = false) :
    request.searchedFiles workspace file entry =
      match entry with
      | .file _ _ => [file]
      | _ => [] := by
  cases entry with
  | file name bytes => rfl
  | directory name entries => cases leaf
  | link | special => simp only [searchedFiles, FileSystem.findFiles, found]

/-- The report of a file that is no directory depends on the file, the grammars and the settings. -/
theorem report_forFile_congr {other : Workspace} {entry : Entry}
    (read : Path.parse file.render = file) (leaf : entry.isDirectory = false)
    (grammars : other.grammars = workspace.grammars)
    (settings : other.settings = workspace.settings)
    (found : workspace.files.find file = .ok entry) (foundToo : other.files.find file = .ok entry)
    (load : other.files.load file.render = workspace.files.load file.render) :
    (request.forFile file).report other pattern entry =
      (request.forFile file).report workspace pattern entry := by
  have place : Path.parse (request.forFile file).path = file := read
  simp only [report, place, searchedFiles_of_leaf found leaf, searchedFiles_of_leaf foundToo leaf]
  cases entry with
  | file name bytes =>
    simp only [List.map_cons, List.map_nil, searchFile_congr grammars settings load]
  | directory | link | special => simp only [List.map_nil]

/-- The search of a file that is no directory depends on the file, the grammars and the settings. -/
theorem execute_forFile_congr {other : Workspace} (read : Path.parse file.render = file)
    (leaf : workspace.files.isDirectory file = false)
    (grammars : other.grammars = workspace.grammars)
    (settings : other.settings = workspace.settings)
    (same : other.files.find file = workspace.files.find file)
    (load : other.files.load file.render = workspace.files.load file.render) :
    (request.forFile file).execute other = (request.forFile file).execute workspace := by
  have place : Path.parse (request.forFile file).path = file := read
  have search : (request.forFile file).search other = (request.forFile file).search workspace := by
    cases found : workspace.files.find file with
    | error why =>
      cases why <;>
        simp only [SearchRequest.search, SearchRequest.entry, place, same, found, bind, Except.bind]
    | ok entry =>
      have foundToo : other.files.find file = .ok entry := same.trans found
      have noDirectory : entry.isDirectory = false := by
        simpa only [FileSystem.isDirectory, found] using leaf
      have report (pattern : Pattern) : (request.forFile file).report other pattern entry =
          (request.forFile file).report workspace pattern entry :=
        report_forFile_congr read noDirectory grammars settings found foundToo load
      simp only [SearchRequest.search, SearchRequest.entry, place, found, foundToo, report, bind,
        Except.bind]
  simp only [execute, search]

end SearchRequest

/-- A search of a directory puts the searches of its files together exactly when it agrees with
each of them on the file. A file that does not exist ends the search, unless another file before it
does. What is found in a file depends on that file, the grammars and the settings only. -/
theorem directory_search_concatenates (request : SearchRequest) (workspace : Workspace)
    (pattern : Pattern) (own : String) (entries : List Entry) (sound : workspace.files.Sound)
    (directory : workspace.files.find (Path.parse request.path) = .ok (.directory own entries))
    (compiles : Pattern.compile request.pattern request.ignoreCase = .ok pattern)
    (content : request.output = .content) (unlimited : request.limit = none) :
    (request.Concatenates workspace ↔ ∀ file ∈ request.directoryFiles workspace,
      request.AgreesOn workspace pattern file) ∧
    (∀ before file after, request.directoryFiles workspace = before ++ file :: after →
      (∀ other ∈ before, ∀ why, request.searchFile workspace pattern other ≠ .ended why) →
      workspace.files.find file = .error .missing →
      request.execute workspace = .ok (Failure.fields
        { kind := .fileNotFound
          message := s!"File not found: {file.render}"
          path := some request.path
          mode := "search" })) ∧
    ∀ file ∈ request.directoryFiles workspace, workspace.files.isDirectory file = false →
      ∀ other : Workspace, other.grammars = workspace.grammars →
      other.settings = workspace.settings →
      other.files.find file = workspace.files.find file →
      other.files.load file.render = workspace.files.load file.render →
      (request.forFile file).execute other = (request.forFile file).execute workspace := by
  refine ⟨⟨?_, ?_⟩, ?_, ?_⟩
  · exact SearchRequest.agreesOn_of_concatenates sound directory compiles content unlimited
  · exact SearchRequest.concatenates_of_agreesOn sound directory compiles content unlimited
  · intro before file after order first missing
    exact SearchRequest.execute_of_missing sound directory compiles order first missing
  · intro file listed leaf other grammars settings same load
    have read := SearchRequest.parse_render_of_listed sound listed
    exact SearchRequest.execute_forFile_congr read leaf grammars settings same load

/-- The pattern of a letter. -/
def letterPattern : Pattern := ⟨.seq (.one ⟨[.point 102], false, .exact, false⟩) .empty⟩

/-- The text of the letter is compiled to it. -/
theorem compile_letterPattern : Pattern.compile "f" false = .ok letterPattern := rfl

/-- A workspace with a text and a script in a directory, but without the package that scripts
need. -/
def textAndScript : Workspace where
  files := { entries := [.directory "x" [.file "n.md" "f f".toUTF8, .file "a.js" "f()".toUTF8]] }
  grammars := ⟨["tree_sitter"], fun _ _ => .covering "program" none 0 ⟨0, 0⟩ ⟨0, 3⟩ "f()" []⟩
  rules := .strict

/-- The files of the workspace are sound. -/
theorem sound_textAndScript : textAndScript.files.Sound := by
  have inside : Entry.Sound ([("n.md", "f f".toUTF8), ("a.js", "f()".toUTF8)].map fun file =>
      .file file.1 file.2) := .of_files (by decide) (by decide)
  exact FileSystem.sound_of_entries (.of_directory (by decide) inside)

/-- A request to search the directory, texts included. -/
def textAndScriptRequest : SearchRequest := { pattern := "f", path := "x", includeNonCode := true }

/-- The matches in the text of the directory. -/
def textMatches : List SearchMatch :=
  [⟨"x/n.md", 1, 0, "text_match", "f", ⟨"f f", [], []⟩, none, none, []⟩,
    ⟨"x/n.md", 1, 2, "text_match", "f", ⟨"f f", [], []⟩, none, none, []⟩]

/-- The letter is found twice in the text. -/
theorem searchFile_text :
    textAndScriptRequest.searchFile textAndScript letterPattern ⟨"", ["x", "n.md"]⟩ =
      .searched textMatches := by
  decide +kernel

/-- The script is skipped. -/
theorem searchFile_script :
    textAndScriptRequest.searchFile textAndScript letterPattern ⟨"", ["x", "a.js"]⟩ =
      .skipped (.unparsed (Grammars.unloadable .javascript "tree_sitter")) := by
  decide +kernel

/-- The directory is at its path. -/
theorem find_textAndScript : textAndScript.files.find (Path.parse textAndScriptRequest.path) =
    .ok (.directory "x" [.file "n.md" "f f".toUTF8, .file "a.js" "f()".toUTF8]) := rfl

/-- The script and the text are found in the directory, in the order of their names. -/
theorem directoryFiles_textAndScript :
    textAndScriptRequest.directoryFiles textAndScript =
      [⟨"", ["x", "a.js"]⟩, ⟨"", ["x", "n.md"]⟩] := by
  have below : Discovery.filesBelow {} [.file "n.md" "f f".toUTF8, .file "a.js" "f()".toUTF8] =
      [["a.js"], ["n.md"]] := by
    simp [Discovery.filesBelow, Discovery.arrange, Discovery.fileNames, Discovery.branches,
      Discovery.branch?, Entry.isDirectory, Entry.name, List.mergeSort]
  have settings : textAndScript.settings.search = {} := rfl
  simp only [SearchRequest.directoryFiles, FileSystem.findFiles, find_textAndScript, settings,
    below]
  decide +kernel

/-- A workspace with a text and a link that leads nowhere in a directory. -/
def textAndLink : Workspace :=
  { textAndScript with
    files := { entries := [.directory "x" [.file "n.md" "f f".toUTF8,
      .link "a.js" ⟨"", ["gone.js"]⟩]] } }

/-- The files of the workspace are sound. -/
theorem sound_textAndLink : textAndLink.files.Sound := by
  refine FileSystem.sound_of_entries (.of_directory (by decide) ⟨by decide, by decide, ?_⟩)
  simpa [Entry.entries] using Entry.Sound.nil

/-- The link and the text are found in the directory. -/
theorem directoryFiles_textAndLink :
    textAndScriptRequest.directoryFiles textAndLink =
      [⟨"", ["x", "a.js"]⟩, ⟨"", ["x", "n.md"]⟩] := by
  have directory : textAndLink.files.find (Path.parse textAndScriptRequest.path) =
      .ok (.directory "x" [.file "n.md" "f f".toUTF8, .link "a.js" ⟨"", ["gone.js"]⟩]) := rfl
  have below : Discovery.filesBelow {} [.file "n.md" "f f".toUTF8,
      .link "a.js" ⟨"", ["gone.js"]⟩] = [["a.js"], ["n.md"]] := by
    simp [Discovery.filesBelow, Discovery.arrange, Discovery.fileNames, Discovery.branches,
      Discovery.branch?, Entry.isDirectory, Entry.name, List.mergeSort]
  have settings : textAndLink.settings.search = {} := rfl
  simp only [SearchRequest.directoryFiles, FileSystem.findFiles, directory, settings, below]
  decide +kernel

/-- The search of the directory puts those of the text and of the script together. With a link that
leads nowhere in place of the script it ends at the link. -/
theorem directory_search_concatenates_textAndScript :
    textAndScript.files.Sound ∧ textAndScriptRequest.Concatenates textAndScript ∧
      textAndLink.files.Sound ∧ textAndScriptRequest.execute textAndLink = .ok (Failure.fields
        { kind := .fileNotFound, message := "File not found: x/a.js", path := some "x"
          mode := "search" }) := by
  have together := directory_search_concatenates textAndScriptRequest textAndScript letterPattern
    _ _ sound_textAndScript find_textAndScript compile_letterPattern rfl rfl
  have ended := directory_search_concatenates textAndScriptRequest textAndLink letterPattern _ _
    sound_textAndLink rfl compile_letterPattern rfl rfl
  refine ⟨sound_textAndScript, together.1.mpr ?_, sound_textAndLink, ?_⟩
  · rw [directoryFiles_textAndScript]
    simp only [List.forall_mem_cons, List.not_mem_nil, false_implies, implies_true, and_true]
    refine ⟨.inl ⟨_, _, rfl, fun why ended => ?_⟩, .inl ⟨_, _, rfl, fun why ended => ?_⟩⟩
    · cases searchFile_script.symm.trans ended
    · cases searchFile_text.symm.trans ended
  · have path : Path.render ⟨"", ["x", "a.js"]⟩ = "x/a.js" := by decide +kernel
    have link := ended.2.1 [] ⟨"", ["x", "a.js"]⟩ _ directoryFiles_textAndLink (by simp) rfl
    rw [path] at link
    exact link

/-- A workspace with a script in a directory. -/
def scriptInDirectory : Workspace where
  files := { entries := [.directory "x" [.file "a.js" "f()".toUTF8]] }
  grammars := ⟨[], fun _ _ => .covering "program" none 0 ⟨0, 0⟩ ⟨0, 3⟩ "f()" []⟩
  rules := .strict

/-- The files of the workspace are sound. -/
theorem sound_scriptInDirectory : scriptInDirectory.files.Sound := by
  have inside : Entry.Sound ([("a.js", "f()".toUTF8)].map fun file => .file file.1 file.2) :=
    .of_files (by decide) (by decide)
  exact FileSystem.sound_of_entries (.of_directory (by decide) inside)

/-- A request to search the directory by a winding way. -/
def windingRequest (count : Nat) : SearchRequest :=
  { pattern := "f", path := Path.render ⟨"", winding "x" count⟩ }

/-- The path of the request is the winding way. -/
theorem parse_windingRequest (count : Nat) :
    Path.parse (windingRequest count).path = ⟨"", winding "x" count⟩ :=
  parse_render_winding ⟨by decide, by decide, by decide⟩ count

/-- The bytes of the path, and of that of the script behind it. -/
theorem utf8ByteSize_winding (count : Nat) :
    (Path.render ⟨"", winding "x" count⟩).utf8ByteSize = 5 * count + 1 ∧
      (Path.render ⟨"", winding "x" count ++ ["a.js"]⟩).utf8ByteSize = 5 * count + 6 := by
  have name : "x".utf8ByteSize = 1 := by decide
  have script : "a.js".utf8ByteSize = 4 := by decide
  have root := utf8ByteSize_render_winding "x" count []
  have file := utf8ByteSize_render_winding "x" count ["a.js"]
  simp only [List.append_nil, List.map_nil, List.map_cons, List.sum_nil, List.sum_cons, name,
    script] at root file
  omega

/-- The path leads to the directory when the system looks it up. -/
theorem find_windingRequest {count : Nat} (short : 5 * count + 1 ≤ FileSystem.pathLimit) :
    scriptInDirectory.files.find (Path.parse (windingRequest count).path) =
      .ok (.directory "x" [.file "a.js" "f()".toUTF8]) := by
  rw [parse_windingRequest]
  refine FileSystem.find_winding sound_scriptInDirectory (fun _ => rfl) rfl
    (List.mem_singleton.mpr rfl) ?_
  rw [(utf8ByteSize_winding count).1]
  exact short

/-- The path of the script is too long for the system to look up. -/
theorem find_script_of_long {count : Nat} (long : FileSystem.pathLimit < 5 * count + 6) :
    scriptInDirectory.files.find ⟨"", winding "x" count ++ ["a.js"]⟩ =
      .error (.refused .tooLong) := by
  refine FileSystem.find_of_long ?_ ((utf8ByteSize_winding count).2 ▸ long)
  refine List.any_eq_false.mpr fun step member => ?_
  rcases List.mem_append.mp member with turn | script
  · rcases mem_winding turn with rfl | rfl <;> decide
  · rw [List.mem_singleton.mp script]
    decide

/-- The script is among the files that the search of the directory looks into. -/
theorem script_mem_windingRequest {count : Nat} (short : 5 * count + 1 ≤ FileSystem.pathLimit)
    (long : FileSystem.pathLimit < 5 * count + 6) :
    ⟨"", winding "x" count ++ ["a.js"]⟩ ∈
      (windingRequest count).directoryFiles scriptInDirectory := by
  have directory := find_windingRequest short
  rw [parse_windingRequest] at directory
  have notDot : Path.render ⟨"", winding "x" count⟩ ≠ "." := by
    intro dot
    have plain : Path.PlainName "x" := ⟨by decide, by decide, by decide⟩
    have names := parse_render_winding plain count
    rw [dot] at names
    have none : winding "x" count = [] := (congrArg Path.names names).symm
    simp [winding] at none
  have listedAs (names : List String) : Discovery.listedAs ⟨"", winding "x" count⟩ names =
      ⟨"", winding "x" count ++ names⟩ := if_neg notDot
  refine FileSystem.mem_findFiles.mpr ⟨_, _, ["a.js"], find_windingRequest short,
    Discovery.mem_filesBelow.mpr (.inl ⟨_, List.mem_singleton.mpr rfl, rfl, rfl⟩), ?_⟩
  rw [parse_windingRequest]
  refine ⟨rfl, ?_, ?_, rfl⟩
  · -- the directory is listed, and nothing is looked up at the path of the script
    obtain ⟨position, located, there⟩ := FileSystem.find_eq_ok.mp directory
    have open' : scriptInDirectory.files.refuses .read position.place = none := rfl
    simp [Discovery.isListed, listedAs, FileSystem.lists, located, there, Entry.isDirectory, open',
      FileSystem.isDirectory, find_script_of_long long]
  · have name : Path.name ⟨"", winding "x" count ++ ["a.js"]⟩ = "a.js" := by simp [Path.name]
    have source : Language.isSource ⟨"", winding "x" count ++ ["a.js"]⟩ = true := by
      simp only [Language.isSource, Language.ofPath?, Path.suffix, name]
      decide
    simp only [Discovery.searchable, source, Bool.true_or]

/-- The search of a directory by a path that is almost too long looks into a file whose own path is
too long. The search of that file breaks off, so the two do not agree. -/
theorem winding_search_not_concatenated :
    scriptInDirectory.files.Sound ∧
      scriptInDirectory.files.find (Path.parse (windingRequest 818).path) =
        .ok (.directory "x" [.file "a.js" "f()".toUTF8]) ∧
      Pattern.compile (windingRequest 818).pattern (windingRequest 818).ignoreCase =
        .ok letterPattern ∧
      ⟨"", winding "x" 818 ++ ["a.js"]⟩ ∈
        (windingRequest 818).directoryFiles scriptInDirectory ∧
      ¬(windingRequest 818).Concatenates scriptInDirectory := by
  have short : 5 * 818 + 1 ≤ FileSystem.pathLimit := by decide
  have long : FileSystem.pathLimit < 5 * 818 + 6 := by decide
  have listed := script_mem_windingRequest short long
  refine ⟨sound_scriptInDirectory, find_windingRequest short, compile_letterPattern, listed,
    fun together => ?_⟩
  have agrees := SearchRequest.agreesOn_of_concatenates sound_scriptInDirectory
    (find_windingRequest short) compile_letterPattern rfl rfl together _ listed
  rcases agrees with ⟨_, _, found, _⟩ | ⟨_, _, found, _⟩ <;>
    cases (find_script_of_long long).symm.trans found

end SourceLens
