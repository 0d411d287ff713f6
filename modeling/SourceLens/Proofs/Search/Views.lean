import SourceLens.Proofs.Search.Concatenation

/-!
# Views of a search

A search can be shown in several ways: its matches, all of them or the first ones, or the files that
have one. All views are made from one report, which depends neither on the output mode nor on the
limit (`SearchRequest.report_view`). In a sound report the files with a match are the files of the
matches in order of their first occurrence, and none of them was skipped (`search_views_agree`). A
view has the fields of its output mode exactly when there is a file to search (`search_shape_iff`);
without one, all modes have the same record.
-/
namespace SourceLens

/-! ## Reports -/

namespace SearchReport

variable {report : SearchReport}

/-- Equal items are one item when there is any. -/
theorem eraseDups_replicate (count : Nat) (item : String) :
    (List.replicate count item).eraseDups = if count = 0 then [] else [item] := by
  cases count with
  | zero => rfl
  | succ count =>
    rw [List.replicate_succ, List.eraseDups_cons]
    have none : (List.replicate count item).filter (fun other => !other == item) = [] := by
      simp
    simp [none]

/-- The files with a match are the files of the matches in order of their first occurrence. -/
theorem Sound.matchedFiles_eq (sound : report.Sound) :
    report.matchedFiles = (report.found.map SearchMatch.file).eraseDups := by
  obtain ⟨files⟩ := report
  obtain ⟨own, distinct⟩ := sound
  induction files with
  | nil => rfl
  | cons first rest ih =>
    obtain ⟨fresh, distinct⟩ := List.nodup_cons.mp distinct
    have later := ih (fun file inside => own file (List.mem_cons_of_mem _ inside)) distinct
    have here : first.found.map SearchMatch.file =
        List.replicate first.found.length first.path := by
      rw [List.map_congr_left (own first (by simp)), List.map_const']
    -- no later match lies in the first file
    have apart : ((found ⟨rest⟩).map SearchMatch.file).removeAll
        (List.replicate first.found.length first.path) = (found ⟨rest⟩).map SearchMatch.file := by
      refine List.filter_eq_self.mpr fun path inside => ?_
      obtain ⟨match', listed, rfl⟩ := List.mem_map.mp inside
      obtain ⟨file, reported, found⟩ := List.mem_flatMap.mp listed
      rw [own file (List.mem_cons_of_mem _ reported) match' found]
      have differs : file.path ≠ first.path := fun same =>
        fresh (same ▸ List.mem_map_of_mem reported)
      simp [differs]
    have split : found ⟨first :: rest⟩ = first.found ++ found ⟨rest⟩ := rfl
    rw [split, List.map_append, List.eraseDups_append, here, apart, ← later, eraseDups_replicate]
    simp only [matchedFiles, List.filter_cons]
    cases first.found <;> simp

/-- No file was skipped and has a match. -/
theorem Sound.not_mem_matchedFiles (sound : report.Sound) {path : String}
    (skipped : path ∈ report.skipped) : path ∉ report.matchedFiles := by
  intro matched
  obtain ⟨left, leftKept, rfl⟩ := List.mem_map.mp skipped
  obtain ⟨right, rightKept, same⟩ := List.mem_map.mp matched
  obtain ⟨leftListed, isSkipped⟩ := List.mem_filter.mp leftKept
  obtain ⟨rightListed, found⟩ := List.mem_filter.mp rightKept
  obtain rfl := List.inj_on_of_nodup_map sound.distinct rightListed leftListed same
  simp only [FileReport.found, FileReport.isSkipped] at found isSkipped
  split at isSkipped
  · next reason outcome => simp [outcome] at found
  · cases isSkipped

end SearchReport

namespace SearchRequest

variable {request : SearchRequest} {workspace : Workspace} {pattern : Pattern} {entry : Entry}

/-- The same request with another output mode and another limit. -/
def view (request : SearchRequest) (output : OutputMode) (limit : Option Nat) : SearchRequest :=
  { request with output, limit }

/-- The report depends neither on the output mode nor on the limit. -/
theorem report_view (request : SearchRequest) (output : OutputMode) (limit : Option Nat) :
    (request.view output limit).report workspace pattern entry =
      request.report workspace pattern entry := rfl

end SearchRequest

/-! ## Agreement of views -/

/-- What the views of one search have in common. -/
structure SearchOverview where
  /-- The records of all matches in order. -/
  found : List Fields
  /-- The files of the matches, one for each match. -/
  files : List String
  /-- The files that were skipped. -/
  skipped : List String
  /-- The number of files that were searched. -/
  searched : Nat
  /-- The files are those that the matches name. -/
  named : found.map (·.get? "file") = files.map fun path => some (.text path)
  /-- No file was skipped and has a match. -/
  apart : ∀ path ∈ skipped, path ∉ files

/-- The first items up to a limit. -/
def firstOf {α : Type} (limit : Option Nat) (items : List α) : List α :=
  match limit with
  | none => items
  | some count => items.take (min count items.length)

/-- A record shows an overview in an output mode and up to a limit. -/
structure SearchOverview.Shown (overview : SearchOverview) (output : OutputMode)
    (limit : Option Nat) (record : Fields) : Prop where
  /-- The search succeeded. -/
  success : record.get? "success" = some (.bool true)
  /-- The record gives the number of all matches. -/
  total : record.get? "total_matches" = some (.nat overview.found.length)
  /-- It gives the number of files. -/
  searched : record.get? "files_searched" = some (.nat overview.searched)
  /-- It lists the skipped files. -/
  skipped : record.get? "skipped" = some (.texts overview.skipped)
  /-- As content it lists the first matches up to the limit. -/
  found : output = .content →
    record.get? "matches" = some (.list ((firstOf limit overview.found).map .record))
  /-- As content it says whether the limit is less than the number of matches. -/
  truncated : output = .content →
    record.get? "truncated" = some (.bool (limit.any (· < overview.found.length)))
  /-- As files it lists the files of the matches in order of their first occurrence, whatever the
  limit is. -/
  files : output = .filePaths → record.get? "files" = some (.texts overview.files.eraseDups)

namespace SearchReport

variable {report : SearchReport}

/-- What a sound report says. -/
def overview (report : SearchReport) (sound : report.Sound) : SearchOverview where
  found := report.found.map SearchMatch.fields
  files := report.found.map SearchMatch.file
  skipped := report.skipped
  searched := report.files.length
  named := by
    rw [List.map_map, List.map_map]
    refine List.map_congr_left fun place _ => ?_
    cases modified : place.modifiers <;> simp [SearchMatch.fields, modified]
  apart := by
    intro path skipped inside
    refine sound.not_mem_matchedFiles skipped ?_
    rwa [sound.matchedFiles_eq, List.mem_eraseDups]

/-- The matches that are shown are the first ones up to the limit. -/
theorem shown_eq_firstOf (report : SearchReport) (limit : Option Nat) :
    report.shown limit = firstOf limit report.found := by
  cases limit with
  | none => rfl
  | some count => rw [shown, firstOf, ← List.take_eq_take_min]

/-- Matches are left out when the limit is less than their number. -/
theorem length_shown_lt_iff (report : SearchReport) (limit : Option Nat) :
    (report.shown limit).length < report.found.length ↔
      limit.any (· < report.found.length) = true := by
  cases limit with
  | none => simp [shown]
  | some count =>
    rw [shown, List.length_take, Option.any_some, decide_eq_true_iff]
    omega

/-- The record of a sound report shows its overview in every output mode and up to every limit. -/
theorem shown_overview (sound : report.Sound) (output : OutputMode) (limit : Option Nat) :
    (report.overview sound).Shown output limit (report.fields output limit) := by
  have first : (firstOf limit report.found).map SearchMatch.fields =
      firstOf limit (report.found.map SearchMatch.fields) := by
    cases limit with
    | none => rfl
    | some count => simp [firstOf]
  have cut := report.length_shown_lt_iff limit
  cases output with
  | content =>
    refine ⟨?_, ?_, ?_, ?_, fun _ => ?_, fun _ => ?_, by simp⟩
    · simp [fields, totals]
    · simp [fields, totals, overview]
    · simp [fields, totals, overview]
    · simp [fields, totals, overview]
    · simp [fields, totals, overview, shown_eq_firstOf, ← first]
    · simp [fields, totals, overview, cut]
  | filePaths =>
    refine ⟨?_, ?_, ?_, ?_, by simp, by simp, fun _ => ?_⟩
    · simp [fields, totals]
    · simp [fields, totals, overview]
    · simp [fields, totals, overview]
    · simp [fields, totals, overview]
    · simp [fields, totals, overview, sound.matchedFiles_eq]

end SearchReport

/-- All views of a search that looks into a file agree: they have the same totals, a limit only cuts
the list of matches, and the files are those of all matches. -/
theorem search_views_agree (workspace : Workspace) (request : SearchRequest) (record : Fields)
    (count : Nat) (sound : workspace.files.Sound)
    (executed : request.execute workspace = .ok record)
    (searched : record.get? "files_searched" = some (.nat count)) (some : 1 ≤ count) :
    ∃ overview : SearchOverview, overview.searched = count ∧ ∀ output limit,
      ∃ view, (request.view output limit).execute workspace = .ok view ∧
        overview.Shown output limit view := by
  rcases SearchRequest.execute_cases executed with ⟨failure, rfl⟩ |
    ⟨entry, pattern, found, compiles, goes, rfl⟩
  · cases shown : failure.showsOutline <;> simp [Failure.fields, shown] at searched
  have size : (request.report workspace pattern entry).files.length = count := by
    rw [SearchRequest.get?_files_searched] at searched
    exact Int.ofNat.inj (Value.int.inj (Option.some.inj searched))
  have nonempty : (request.report workspace pattern entry).files ≠ [] :=
    List.ne_nil_of_length_pos (by omega)
  refine ⟨(request.report workspace pattern entry).overview (SearchRequest.sound_report sound),
    size, fun output limit => ?_⟩
  have goesOn : ((request.view output limit).report workspace pattern entry).ending? = none := by
    rw [request.report_view, goes]
  have view := (request.view output limit).execute_eq found compiles goesOn
  rw [request.report_view, SearchRequest.recordOf_of_files nonempty] at view
  exact ⟨_, view, SearchReport.shown_overview _ output limit⟩

/-- The report skips the script and has two matches in the text. -/
theorem report_textAndScript {own : String} {entries : List Entry} :
    textAndScriptRequest.report textAndScript letterPattern (.directory own entries) =
      ⟨[⟨"x/a.js", .skipped (.unparsed (Grammars.unloadable .javascript "tree_sitter"))⟩,
        ⟨"x/n.md", .searched textMatches⟩]⟩ := by
  have script : Path.render ⟨"", ["x", "a.js"]⟩ = "x/a.js" := by decide +kernel
  have text : Path.render ⟨"", ["x", "n.md"]⟩ = "x/n.md" := by decide +kernel
  simp only [SearchRequest.report_directory, directoryFiles_textAndScript, List.map_cons,
    List.map_nil, searchFile_script, searchFile_text, script, text]

/-- The search of the directory has a record in every view. -/
theorem execute_textAndScript (output : OutputMode) (limit : Option Nat) :
    (textAndScriptRequest.view output limit).execute textAndScript =
      .ok ((textAndScriptRequest.view output limit).recordOf
        (textAndScriptRequest.report textAndScript letterPattern (.directory "x"
          [.file "n.md" "f f".toUTF8, .file "a.js" "f()".toUTF8]))) := by
  have goes : ((textAndScriptRequest.view output limit).report textAndScript letterPattern
      (.directory "x" [.file "n.md" "f f".toUTF8, .file "a.js" "f()".toUTF8])).ending? = none := by
    rw [SearchRequest.report_view, report_textAndScript]
    rfl
  have executed := (textAndScriptRequest.view output limit).execute_eq find_textAndScript
    compile_letterPattern goes
  rwa [SearchRequest.report_view] at executed

/-- The views of the search of the directory agree about its two files: there are two matches in the
text, and the script is skipped. -/
theorem search_views_agree_textAndScript :
    textAndScript.files.Sound ∧ ∃ overview : SearchOverview, overview.searched = 2 ∧
      overview.found = textMatches.map SearchMatch.fields ∧
      overview.files = ["x/n.md", "x/n.md"] ∧ overview.skipped = ["x/a.js"] ∧
      ∀ output limit, ∃ view,
        (textAndScriptRequest.view output limit).execute textAndScript = .ok view ∧
          overview.Shown output limit view := by
  have content := execute_textAndScript .content none
  rw [report_textAndScript] at content
  obtain ⟨overview, two, views⟩ := search_views_agree textAndScript textAndScriptRequest _ 2
    sound_textAndScript content rfl (by decide)
  -- what the overview says is read off the record that lists all matches
  obtain ⟨view, executed, shown⟩ := views .content none
  obtain rfl := Except.ok.inj (content.symm.trans executed)
  have found : overview.found = textMatches.map SearchMatch.fields := by
    have listed := Value.list.inj (Option.some.inj ((shown.found rfl).symm.trans rfl))
    exact (List.map_inj_right fun _ _ => Value.record.inj).mp
      (listed.trans (List.map_map ..).symm)
  have skipped : overview.skipped = ["x/a.js"] :=
    Value.texts_inj.mp (Option.some.inj (shown.skipped.symm.trans rfl))
  have files : overview.files = ["x/n.md", "x/n.md"] := by
    have named := overview.named
    rw [found] at named
    exact (List.map_inj_right fun _ _ same => Value.text.inj (Option.some.inj same)).mp named.symm
  exact ⟨sound_textAndScript, overview, two, found, files, skipped, views⟩

/-! ## Shapes of records -/

/-- A record has the fields that belong to an output mode and none of the other mode. -/
structure HasShape (output : OutputMode) (record : Fields) : Prop where
  /-- Every record has the totals. -/
  totals : ∀ name ∈ ["total_matches", "files_searched", "skipped"],
    (record.get? name).isSome = true
  /-- The files with a match are listed without the matches. -/
  filePaths : output = .filePaths →
    (record.get? "files").isSome = true ∧ record.get? "matches" = none
  /-- The matches are listed without the files. -/
  content : output = .content →
    (record.get? "matches").isSome = true ∧ (record.get? "truncated").isSome = true ∧
      record.get? "files" = none

/-- The record of a report has the shape of the output mode. -/
theorem SearchReport.hasShape_fields (report : SearchReport) (output : OutputMode)
    (limit : Option Nat) : HasShape output (report.fields output limit) := by
  cases output with
  | content =>
    refine ⟨?_, by simp, fun _ => ?_⟩
    · simp [fields, SearchReport.totals]
    · simp [fields, SearchReport.totals]
  | filePaths =>
    refine ⟨?_, fun _ => ?_, by simp⟩
    · simp [fields, SearchReport.totals]
    · simp [fields, SearchReport.totals]

/-- The record of a search without files has the shape of no output mode: it does not speak of
skipped files. -/
theorem SearchRequest.not_hasShape_nothingSearched (output : OutputMode) :
    ¬HasShape output nothingSearched := by
  intro shape
  have skipped := shape.totals "skipped" (by simp)
  simp [nothingSearched] at skipped

/-- The record of a search that succeeds has the shape of its output mode exactly when there is a
file to search. -/
theorem search_shape_iff (workspace : Workspace) (request : SearchRequest) (record : Fields)
    (executed : request.execute workspace = .ok record)
    (success : record.get? "success" = some (.bool true)) :
    ∃ entry, workspace.files.find (Path.parse request.path) = .ok entry ∧
      (HasShape request.output record ↔
        request.searchedFiles workspace (Path.parse request.path) entry ≠ []) := by
  obtain ⟨entry, pattern, found, compiles, _, rfl⟩ :=
    SearchRequest.exists_of_success executed success
  refine ⟨entry, found, ?_⟩
  by_cases none : request.searchedFiles workspace (Path.parse request.path) entry = []
  · have empty : request.recordOf (request.report workspace pattern entry) =
        SearchRequest.nothingSearched := by
      simp [SearchRequest.recordOf, SearchRequest.report, none]
    rw [empty]
    exact iff_of_false (SearchRequest.not_hasShape_nothingSearched _) fun some => some none
  · have nonempty : (request.report workspace pattern entry).files ≠ [] := by
      simpa [SearchRequest.report] using none
    rw [SearchRequest.recordOf_of_files nonempty]
    exact iff_of_true (SearchReport.hasShape_fields _ _ _) none

/-- The files of the directory that have a match are listed in the shape of the mode. -/
theorem search_shape_iff_textAndScript :
    ∃ record, (textAndScriptRequest.view .filePaths none).execute textAndScript = .ok record ∧
      record.get? "success" = some (.bool true) ∧ HasShape .filePaths record := by
  have executed := execute_textAndScript .filePaths none
  rw [report_textAndScript] at executed
  refine ⟨_, executed, rfl, ?_⟩
  obtain ⟨entry, found, iff⟩ := search_shape_iff textAndScript _ _ executed rfl
  obtain rfl := Except.ok.inj found
  refine iff.mpr ?_
  intro none
  cases directoryFiles_textAndScript.symm.trans none

/-- A workspace with an empty directory. -/
def emptyDirectory : Workspace where
  files := { entries := [.directory "d" []] }
  grammars := textAndScript.grammars
  rules := .strict

/-- A request for the files with a match in the directory. -/
def emptyDirectoryRequest : SearchRequest := { pattern := "f", path := "d", output := .filePaths }

/-- The search of an empty directory for files succeeds, and its record has matches in place of
files. -/
theorem empty_directory_without_shape :
    emptyDirectoryRequest.execute emptyDirectory = .ok SearchRequest.nothingSearched ∧
      SearchRequest.nothingSearched.get? "success" = some (.bool true) ∧
      SearchRequest.nothingSearched.get? "matches" = some (.list []) ∧
      SearchRequest.nothingSearched.get? "files" = none ∧
      ¬HasShape .filePaths SearchRequest.nothingSearched := by
  refine ⟨?_, rfl, rfl, rfl, SearchRequest.not_hasShape_nothingSearched _⟩
  have directory : emptyDirectory.files.find (Path.parse emptyDirectoryRequest.path) =
      .ok (.directory "d" []) := rfl
  have below (settings : SearchSettings) : Discovery.filesBelow settings [] = [] := by
    simp [Discovery.filesBelow, Discovery.arrange, Discovery.fileNames, Discovery.branches]
  have report : emptyDirectoryRequest.report emptyDirectory letterPattern (.directory "d" []) =
      ⟨[]⟩ := by
    simp only [SearchRequest.report, SearchRequest.searchedFiles, FileSystem.findFiles, directory,
      below]
    rfl
  have executed := emptyDirectoryRequest.execute_eq directory compile_letterPattern
  rw [report] at executed
  exact executed rfl

end SourceLens
