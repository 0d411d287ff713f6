import SourceLens.Proofs.Check
import SourceLens.Proofs.Fields
import SourceLens.Read.Request
import SourceLens.Search.Request

/-!
# Requests that fit

A request is checked field by field. It is accepted when every field fits, and then each part of the
request is the checked value of its field (`ReadRequest.check_eq_ok_iff`,
`SearchRequest.check_of_fits`). What a field gives depends only on the values under its names, and
null counts as no value (`Fields.checkOr_congr`).
-/
namespace SourceLens

/-! ## Checked values -/

namespace Checked

variable {α β : Type} {result : β}

/-- A changed value comes from a value that was checked. -/
theorem map_eq_ok {change : α → β} {checked : Checked α} :
    change <$> checked = .ok result ↔ ∃ value, checked = .ok value ∧ change value = result := by
  cases checked with
  | ok value =>
    change Checked.ok (change value) = .ok result ↔ _
    simp
  | bad complaints =>
    change Checked.bad complaints = .ok result ↔ _
    simp

/-- A checked function and a checked value give a value when both checks succeed. -/
theorem seq_eq_ok {change : Checked (α → β)} {checked : Checked α} :
    change <*> checked = .ok result ↔
      ∃ apply value, change = .ok apply ∧ checked = .ok value ∧ apply value = result := by
  cases change with
  | ok apply =>
    cases checked with
    | ok value =>
      change Checked.ok (apply value) = .ok result ↔ _
      simp
    | bad complaints =>
      change Checked.bad complaints = .ok result ↔ _
      simp
  | bad first =>
    cases checked with
    | ok value =>
      change Checked.bad first = .ok result ↔ _
      simp
    | bad second =>
      change Checked.bad (first ++ second) = .ok result ↔ _
      simp

end Checked

/-! ## Fields -/

namespace Fields

variable {first second fields : Fields} {names : List String}

/-- A record has no value under a name; null counts as none. -/
def Lacks (fields : Fields) (name : String) : Prop :=
  fields.get? name = none ∨ fields.get? name = some .null

/-- A name without a value has nothing but null. -/
theorem Lacks.eq_null {name : String} {value : Value} (lacks : fields.Lacks name)
    (found : fields.get? name = some value) : value = .null := by
  rcases lacks with absent | null
  · cases absent.symm.trans found
  · exact Option.some.inj (found.symm.trans null)

/-- A name without a value is passed over, and one with a value decides. -/
theorem present?_cases (fields : Fields) (name : String) (names : List String) :
    (fields.Lacks name ∧ fields.present? (name :: names) = fields.present? names) ∨
      ∃ value, fields.get? name = some value ∧ value ≠ .null ∧
        fields.present? (name :: names) = some (name, value) := by
  cases found : fields.get? name with
  | none => exact .inl ⟨.inl found, by simp only [present?, found]⟩
  | some value =>
    cases value with
    | null => exact .inl ⟨.inr found, by simp only [present?, found]⟩
    | _ => exact .inr ⟨_, rfl, by simp, by simp only [present?, found]⟩

/-- The value under some names depends on the fields with these names only. -/
theorem present?_congr (same : ∀ name ∈ names, first.get? name = second.get? name) :
    first.present? names = second.present? names := by
  induction names with
  | nil => rfl
  | cons name names ih =>
    have rest := ih fun other inside => same other (by simp [inside])
    simp only [present?, same name (by simp), rest]

/-- A field with a default depends on the fields with its names only. -/
theorem checkOr_congr {α : Type} {default : α} {check : Check α}
    (same : ∀ name ∈ names, first.get? name = second.get? name) :
    first.checkOr names default check = second.checkOr names default check := by
  rw [checkOr, checkOr, present?_congr same]

/-- A name without a value is passed over. -/
theorem checkOr_of_lacks {α : Type} {default : α} {check : Check α} {name : String}
    (lacks : fields.Lacks name) :
    fields.checkOr (name :: names) default check = fields.checkOr names default check := by
  rcases fields.present?_cases name names with ⟨_, next⟩ | ⟨value, found, given, _⟩
  · rw [checkOr, next, checkOr]
  · exact absurd (lacks.eq_null found) given

/-- A field that is nowhere has its default. -/
theorem checkOr_of_absent {α : Type} {default : α} {check : Check α}
    (absent : ∀ name ∈ names, fields.get? name = none) :
    fields.checkOr names default check = .ok default := by
  induction names with
  | nil => rfl
  | cons name names ih =>
    rw [checkOr_of_lacks (.inl (absent name (by simp)))]
    exact ih fun other inside => absent other (by simp [inside])

/-- The first name with a value decides. -/
theorem checkOr_of_value {α : Type} {default : α} {check : Check α} {name : String} {value : Value}
    (found : fields.get? name = some value) (given : value ≠ .null) :
    fields.checkOr (name :: names) default check = check [name] value := by
  rcases fields.present?_cases name names with ⟨lacks, _⟩ | ⟨other, there, _, first⟩
  · exact absurd (lacks.eq_null found) given
  · rw [checkOr, first, Option.some.inj (found.symm.trans there)]

/-- A text is what a text field gives. -/
theorem checkOr_text (rules : Rules) {default content : String} {name : String}
    (found : fields.get? name = some (.text content)) :
    fields.checkOr (name :: names) default rules.text = .ok content := by
  rw [checkOr_of_value found (by simp), rules.text_apply]

/-- A field that must be there depends on the fields with its names only. -/
theorem checkRequired_congr {α : Type} {check : Check α}
    (same : ∀ name ∈ names, first.get? name = second.get? name) :
    first.checkRequired names check = second.checkRequired names check := by
  rw [checkRequired, checkRequired, present?_congr same]

end Fields

namespace ReadRequest

/-- Every field of a request to read fits and gives its part of the request. -/
structure Fits (rules : Rules) (settings : ReadSettings) (params : Fields)
    (request : ReadRequest) : Prop where
  /-- The path. -/
  path : params.checkRequired ["filePath", "file_path"] rules.nonemptyText = .ok request.path
  /-- The mode. -/
  mode : params.checkOr ["mode"] "full" rules.text = .ok request.mode
  /-- The entity. -/
  target : params.checkOr ["target"] none (.optional rules.text) = .ok request.target
  /-- The line. -/
  line : params.checkOr ["line"] none (.optional rules.integer) = .ok request.line
  /-- The lines above it. -/
  linesAbove : params.checkOr ["linesAbove", "lines_above"] settings.linesAbove rules.count =
    .ok request.linesAbove
  /-- The lines below it. -/
  linesBelow : params.checkOr ["linesBelow", "lines_below"] settings.linesBelow rules.count =
    .ok request.linesBelow
  /-- Whether the lines around an entity are shown. -/
  context : params.checkOr ["context"] true rules.boolean = .ok request.context
  /-- The lines around an entity. -/
  contextLines :
    params.checkOr ["contextLines", "context_lines"] settings.contextLines rules.count =
      .ok request.contextLines
  /-- Whether the summary is left out. -/
  verbose : params.checkOr ["verbose"] true rules.boolean = .ok request.verbose

/-- A request to read is accepted exactly when all its fields fit. -/
theorem check_eq_ok_iff {rules : Rules} {settings : ReadSettings} {params : Fields}
    {request : ReadRequest} :
    check rules settings params = .ok request ↔ Fits rules settings params request := by
  constructor
  · intro accepted
    simp only [check, Checked.seq_eq_ok, Checked.map_eq_ok] at accepted
    obtain ⟨_, _, ⟨_, _, ⟨_, _, ⟨_, _, ⟨_, _, ⟨_, _, ⟨_, _, ⟨_, _, ⟨_, path, rfl⟩, mode, rfl⟩,
      target, rfl⟩, line, rfl⟩, above, rfl⟩, below, rfl⟩, context, rfl⟩, lines, rfl⟩, verbose,
      rfl⟩ := accepted
    exact ⟨path, mode, target, line, above, below, context, lines, verbose⟩
  · intro fits
    simp only [check, fits.path, fits.mode, fits.target, fits.line, fits.linesAbove,
      fits.linesBelow, fits.context, fits.contextLines, fits.verbose]
    rfl

end ReadRequest

namespace SearchRequest

/-- Every field of a request to search fits and gives its part of the request. -/
structure Fits (rules : Rules) (params : Fields) (request : SearchRequest) : Prop where
  /-- The regular expression. -/
  pattern : params.checkRequired ["pattern"] rules.text = .ok request.pattern
  /-- The file or directory. -/
  path : params.checkOr ["path"] "." rules.text = .ok request.path
  /-- The glob. -/
  glob : params.checkOr ["glob_pattern"] none (.optional rules.text) = .ok request.glob
  /-- Whether the case of letters is ignored. -/
  ignoreCase : params.checkOr ["case_insensitive"] false rules.boolean = .ok request.ignoreCase
  /-- The context on both sides. -/
  context : params.checkOr ["context"] none (.optional rules.count) = .ok request.context
  /-- The context before a match. -/
  contextBefore : params.checkOr ["context_before"] none (.optional rules.count) =
    .ok request.contextBefore
  /-- The context after a match. -/
  contextAfter : params.checkOr ["context_after"] none (.optional rules.count) =
    .ok request.contextAfter
  /-- What to answer with. -/
  output : params.checkOr ["output_mode"] .content (checkOutput rules) = .ok request.output
  /-- The symbols to keep. -/
  type : params.checkOr ["type"] none (checkType rules) = .ok request.type
  /-- The modifiers. -/
  modifiers : params.checkOr ["modifiers"] [] rules.texts = .ok request.modifiers
  /-- The greatest number of matches. -/
  limit : params.checkOr ["head_limit"] none (.optional rules.count) = .ok request.limit
  /-- Whether other texts are searched. -/
  includeNonCode : params.checkOr ["include_non_code"] false rules.boolean =
    .ok request.includeNonCode

/-- A request to search is accepted when all its fields fit. -/
theorem check_of_fits {rules : Rules} {params : Fields} {request : SearchRequest}
    (fits : Fits rules params request) : check rules params = .ok request := by
  simp only [check, fits.pattern, fits.path, fits.glob, fits.ignoreCase, fits.context,
    fits.contextBefore, fits.contextAfter, fits.output, fits.type, fits.modifiers, fits.limit,
    fits.includeNonCode]
  rfl

end SearchRequest

end SourceLens
