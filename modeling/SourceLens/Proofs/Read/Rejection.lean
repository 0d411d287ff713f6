import SourceLens.Proofs.Read.Errors
import SourceLens.Proofs.Request

/-!
# Rejected requests to read

A request that does not fit still names a path, and the record of its rejection should report it.
The check takes the path from the joined name of the field, and from the divided name when there is
no value under the joined one (`ReadRequest.path_of_checkRequired`). The record takes it from the
divided name whenever the request has such a field, even a null one. So the two agree exactly when
the request has no field with the divided name or names the same path there
(`ReadRequest.namedPath_eq_iff`).
-/
namespace SourceLens

/-- The fields whose names are none of some names. -/
def Fields.without (fields : Fields) (names : List String) : Fields :=
  fields.filter fun field => field.1 ∉ names

/-- A field is left when its name is none of the names. -/
theorem Fields.get?_without (fields : Fields) {names : List String} {name : String}
    (stays : name ∉ names) : (fields.without names).get? name = fields.get? name := by
  rw [without, get?_filter (fun other => decide (other ∉ names)), if_pos (by simpa using stays)]

/-- An optional text is shown as a text when it is there. -/
theorem Value.textOrNull_eq_text {content : Option String} {text : String} :
    textOrNull content = .text text ↔ content = some text := by
  cases content <;> simp [textOrNull]

namespace ReadRequest

variable {rules : Rules} {params : Fields} {path mode : String}

/-- The path of a request stands under the joined name, or under the divided name when the joined
one has no value. -/
theorem path_of_checkRequired
    (fits : params.checkRequired ["filePath", "file_path"] rules.nonemptyText = .ok path) :
    params.get? "filePath" = some (.text path) ∨
      params.Lacks "filePath" ∧ params.get? "file_path" = some (.text path) := by
  rw [Fields.checkRequired] at fits
  rcases params.present?_cases "filePath" ["file_path"] with
    ⟨lacks, next⟩ | ⟨value, found, _, first⟩
  · rw [next] at fits
    rcases params.present?_cases "file_path" [] with ⟨_, none⟩ | ⟨value, found, _, first⟩
    · rw [none] at fits
      cases fits
    · rw [first] at fits
      exact .inr ⟨lacks, by rw [found, rules.nonemptyText_strict.exact.eq_shown fits]⟩
  · rw [first] at fits
    exact .inl (by rw [found, rules.nonemptyText_strict.exact.eq_shown fits])

/-- The record of a rejection names the path of the request exactly when no other value stands under
the divided name. -/
theorem namedPath_eq_iff
    (fits : params.checkRequired ["filePath", "file_path"] rules.nonemptyText = .ok path) :
    namedPath params = some path ↔
      ∀ value, params.get? "file_path" = some value → value = .text path := by
  have shown : ∀ value : Value, value.text? = some path ↔ value = .text path := by
    intro value
    cases value <;> simp [Value.text?]
  rcases path_of_checkRequired fits with joined | ⟨_, divided⟩
  · cases found : params.get? "file_path" with
    | none => simp [namedPath, found, joined, Value.text?]
    | some value => simp [namedPath, found, shown]
  · simp [namedPath, divided, shown]

/-- The record of a rejection names the mode of the request. -/
theorem namedMode_eq (fits : params.checkOr ["mode"] "full" rules.text = .ok mode) :
    namedMode params = mode := by
  rw [Fields.checkOr] at fits
  rcases params.present?_cases "mode" [] with ⟨lacks, next⟩ | ⟨value, found, _, first⟩
  · rw [next] at fits
    rw [← Checked.ok.inj fits]
    rcases lacks with absent | null
    · simp [namedMode, absent]
    · simp [namedMode, null, Value.text?]
  · rw [first] at fits
    obtain rfl := rules.text_strict.exact.eq_shown fits
    simp [namedMode, found, Value.text?]

end ReadRequest

/-- The record of a rejection reports that the request does not fit, with a path and a mode. -/
theorem Failure.fields_ofComplaints (complaints : List Complaint) (path : Option String)
    (mode : String) :
    Reports (ofComplaints complaints path mode).fields .validation ∧
      (ofComplaints complaints path mode).fields.get? "file_path" = some (.textOrNull path) ∧
      (ofComplaints complaints path mode).fields.get? "mode" = some (.text mode) := by
  refine ⟨⟨?_, ?_⟩, ?_, ?_⟩ <;> simp [fields, ofComplaints]

/-- A request that does not fit is answered by a record with the path and the mode that it names. -/
theorem readParams_of_rejected {workspace : Workspace} {params : Fields}
    {complaints : List Complaint}
    (rejected : ReadRequest.check workspace.rules workspace.settings.read params =
      .bad complaints) :
    workspace.readParams params =
      .ok (Failure.ofComplaints complaints (ReadRequest.namedPath params)
        (ReadRequest.namedMode params)).fields := by
  unfold Workspace.readParams
  rw [rejected]

/-- The record of a request that is rejected for other fields than the path, and would be accepted
without them, reports the path of the request exactly when no other value stands under the divided
name of the path; it reports the mode unless the mode is one of these fields. -/
theorem rejected_read_names_path_iff (workspace : Workspace) (params : Fields)
    (offending : List String) (complaints : List Complaint) (request : ReadRequest)
    (rejected : ReadRequest.check workspace.rules workspace.settings.read params =
      .bad complaints)
    (others : "filePath" ∉ offending ∧ "file_path" ∉ offending)
    (accepted : workspace.Accepts (params.without offending) request) :
    Answers (workspace.readParams params) fun record =>
      Reports record .validation ∧
      (record.get? "file_path" = some (.text request.path) ↔
        ∀ value, params.get? "file_path" = some value → value = .text request.path) ∧
      ("mode" ∉ offending → record.get? "mode" = some (.text request.mode)) := by
  have fits := ReadRequest.check_eq_ok_iff.mp accepted
  obtain ⟨reported, path, mode⟩ := Failure.fields_ofComplaints complaints
    (ReadRequest.namedPath params) (ReadRequest.namedMode params)
  refine ⟨_, readParams_of_rejected rejected, reported, ?_, fun stays => ?_⟩
  · have same : ∀ name ∈ ["filePath", "file_path"],
        (params.without offending).get? name = params.get? name := by
      simpa using ⟨params.get?_without others.1, params.get?_without others.2⟩
    rw [path, ← ReadRequest.namedPath_eq_iff (Fields.checkRequired_congr same ▸ fits.path),
      Option.some.injEq, Value.textOrNull_eq_text]
  · have same : ∀ name ∈ ["mode"], (params.without offending).get? name = params.get? name := by
      simpa using params.get?_without stays
    rw [mode, ReadRequest.namedMode_eq (Fields.checkOr_congr same ▸ fits.mode)]

/-- A request with two fields that do not fit. -/
def badWindow : Fields :=
  [("filePath", .text "a.js"), ("mode", .text "lines"), ("line", .text "5"),
    ("linesAbove", .int (-1))]

/-- The record of the request reports its path and its mode. -/
theorem rejected_read_names_path_iff_badWindow :
    ReadRequest.check .strict {} badWindow =
        .bad [⟨["line"], .notInteger⟩, ⟨["linesAbove"], .negative⟩] ∧
      unclosedScript.Accepts (badWindow.without ["line", "linesAbove"])
        { path := "a.js", mode := "lines" } ∧
      Answers (unclosedScript.readParams badWindow) fun record =>
        record.get? "file_path" = some (.text "a.js") ∧
          record.get? "mode" = some (.text "lines") := by
  have rejected : ReadRequest.check unclosedScript.rules unclosedScript.settings.read badWindow =
      .bad [⟨["line"], .notInteger⟩, ⟨["linesAbove"], .negative⟩] := rfl
  have accepted : unclosedScript.Accepts (badWindow.without ["line", "linesAbove"])
      { path := "a.js", mode := "lines" } := rfl
  obtain ⟨record, answered, _, path, mode⟩ := rejected_read_names_path_iff unclosedScript badWindow
    ["line", "linesAbove"] _ _ rejected (by decide) accepted
  refine ⟨rejected, accepted, record, answered, path.mpr fun value found => ?_, mode (by decide)⟩
  cases found

/-- A request whose divided path is null and whose line does not fit. -/
def nullPath : Fields := [("file_path", .null), ("filePath", .text "a.js"), ("line", .text "5")]

/-- The record of the request reports no path, though the request would read a file without its
line. -/
theorem null_path_hides_path :
    ReadRequest.check .strict {} nullPath = .bad [⟨["line"], .notInteger⟩] ∧
      unclosedScript.Accepts (nullPath.without ["line"]) { path := "a.js" } ∧
      Answers (unclosedScript.readParams nullPath) (·.get? "file_path" = some .null) :=
  ⟨rfl, rfl, _, rfl, rfl⟩

end SourceLens
