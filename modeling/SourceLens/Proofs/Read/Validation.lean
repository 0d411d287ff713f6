import Mathlib.Tactic.Choose
import SourceLens.Main.Rules
import SourceLens.Proofs.Request

/-!
# Canonical values of a request

A request may name a field in two styles, and null counts as no value, so many records mean the same
request. What a record means is its canonical values: for every field the value under the joined
name, or the value under the divided name when there is none under the joined one. The check of a
request follows these values alone (`ReadRequest.judgedBy_canonical`): it accepts when every value
has the shape of its field, and otherwise it complains once about every field whose value does not,
in the order of the fields. Only the name by which a complaint speaks of a field depends on how the
record was written.
-/
namespace SourceLens

/-! ## Values under a name -/

namespace Fields

variable {fields : Fields} {name : String} {names : List String}

/-- The value under a name; null counts as none. -/
def given? (fields : Fields) (name : String) : Option Value :=
  match fields.get? name with
  | some .null => none
  | found => found

/-- A name without a value gives none. -/
theorem given?_of_lacks (lacks : fields.Lacks name) : fields.given? name = none := by
  rcases lacks with absent | null
  · simp only [given?, absent]
  · simp only [given?, null]

/-- A name with a value other than null gives the value. -/
theorem given?_of_value {value : Value} (found : fields.get? name = some value)
    (given : value ≠ .null) : fields.given? name = some value := by
  cases value with
  | null => exact absurd rfl given
  | _ => simp only [given?, found]

/-- What stands under some names stands under one of them, and it is the first value given. -/
theorem present?_eq_some {key : String} {value : Value}
    (found : fields.present? names = some (key, value)) :
    key ∈ names ∧ names.findSome? fields.given? = some value := by
  induction names with
  | nil => cases found
  | cons name names ih =>
    rw [List.findSome?_cons]
    rcases fields.present?_cases name names with ⟨lacks, next⟩ | ⟨other, here, given, first⟩
    · rw [given?_of_lacks lacks]
      have later := ih (next.symm.trans found)
      exact ⟨List.mem_cons_of_mem name later.1, later.2⟩
    · rw [given?_of_value here given]
      cases first.symm.trans found
      exact ⟨List.mem_cons_self, rfl⟩

/-- Nothing stands under some names when none of them has a value. -/
theorem present?_eq_none (found : fields.present? names = none) :
    names.findSome? fields.given? = none := by
  induction names with
  | nil => rfl
  | cons name names ih =>
    rw [List.findSome?_cons]
    rcases fields.present?_cases name names with ⟨lacks, next⟩ | ⟨_, _, _, first⟩
    · rw [given?_of_lacks lacks]
      exact ih (next.symm.trans found)
    · cases first.symm.trans found

end Fields

/-! ## The fields of a request -/

/-- A field of a request to read. -/
inductive ReadField where
  /-- The path of the file. -/
  | path
  /-- How to read it. -/
  | mode
  /-- The entity to extract. -/
  | target
  /-- The line to show. -/
  | line
  /-- How many lines to show above it. -/
  | linesAbove
  /-- How many lines to show below it. -/
  | linesBelow
  /-- Whether to show the lines around an entity. -/
  | context
  /-- How many lines to show around an entity. -/
  | contextLines
  /-- Whether to leave out the summary. -/
  | verbose
  deriving DecidableEq, Repr

namespace ReadField

/-- All fields, in the order in which a request declares them. -/
def all : List ReadField :=
  [path, mode, target, line, linesAbove, linesBelow, context, contextLines, verbose]

/-- The name of a field, its words divided by low lines. -/
def name : ReadField → String
  | path => "file_path"
  | mode => "mode"
  | target => "target"
  | line => "line"
  | linesAbove => "lines_above"
  | linesBelow => "lines_below"
  | context => "context"
  | contextLines => "context_lines"
  | verbose => "verbose"

/-- The other name of a field, its words joined, when it has one. -/
def alias? : ReadField → Option String
  | path => some "filePath"
  | linesAbove => some "linesAbove"
  | linesBelow => some "linesBelow"
  | contextLines => some "contextLines"
  | _ => none

/-- The names of a field, the one that wins first. -/
def names (field : ReadField) : List String := field.alias?.toList ++ [field.name]

/-- Whether a value has the shape of a field. -/
def fits : ReadField → Value → Bool
  | path => Value.isNonemptyText
  | mode | target => Value.isText
  | line => Value.isInteger
  | linesAbove | linesBelow | contextLines => Value.isCount
  | context | verbose => Value.isFlag

/-- The value of a field that a request leaves out; some are settings. The path cannot be left
out. -/
def default? (settings : ReadSettings) : ReadField → Option Value
  | path => none
  | mode => some (.text "full")
  | target | line => some .null
  | linesAbove => some (.nat settings.linesAbove)
  | linesBelow => some (.nat settings.linesBelow)
  | contextLines => some (.nat settings.contextLines)
  | context | verbose => some (.bool true)

/-- Whether a field may have a value, or none. -/
def accepts (field : ReadField) : Option Value → Bool
  | none => field ≠ path
  | some value => field.fits value

/-- Every field but the path may be left out. -/
theorem accepts_none {settings : ReadSettings} {field : ReadField} {value : Value}
    (usual : field.default? settings = some value) : field.accepts none = true := by
  cases field with
  | path => cases usual
  | _ => rfl

/-- The field with a name. -/
def ofName? (name : String) : Option ReadField := all.find? fun field => field.names.contains name

/-- No two fields share a name. -/
theorem ofName?_of_mem {field : ReadField} {name : String} (named : name ∈ field.names) :
    ofName? name = some field := by
  cases field with
  | path | linesAbove | linesBelow | contextLines =>
    rcases List.mem_cons.mp named with rfl | named
    · decide
    · obtain rfl := List.mem_singleton.mp named
      decide
  | _ =>
    obtain rfl := List.mem_singleton.mp named
    decide

end ReadField

/-- The canonical value of a field: the value under its joined name, or else the value under its
divided name. -/
def Fields.canonical (params : Fields) (field : ReadField) : Option Value :=
  (field.alias?.bind params.given?).or (params.given? field.name)

/-- The canonical value is the first one under the names of the field. -/
theorem Fields.canonical_eq_findSome? (params : Fields) (field : ReadField) :
    params.canonical field = field.names.findSome? params.given? := by
  cases joined : field.alias? with
  | none =>
    cases own : params.given? field.name <;> simp [canonical, ReadField.names, joined, own]
  | some name =>
    cases own : params.given? field.name <;>
      cases other : params.given? name <;> simp [canonical, ReadField.names, joined, own, other]

/-- The field that a complaint is about. -/
def Complaint.readField? (complaint : Complaint) : Option ReadField :=
  complaint.place.head?.bind ReadField.ofName?

/-! ## One field -/

namespace ReadField

variable {α : Type} {settings : ReadSettings} {params : Fields} {field : ReadField}
  {checked : Checked α} {shown : α → Value} {check : Check α}

/-- The check of a field follows its canonical value. -/
structure Judged (settings : ReadSettings) (params : Fields) (field : ReadField)
    (checked : Checked α) (shown : α → Value) : Prop where
  /-- It succeeds when the field may have the value. -/
  accepted : field.accepts (params.canonical field) = true → ∃ result, checked = .ok result
  /-- What it gives shows the value, or the default when there is none. -/
  shows : ∀ result, checked = .ok result →
    (params.canonical field).or (field.default? settings) = some (shown result)
  /-- It complains once when the field may not have the value. -/
  refused : field.accepts (params.canonical field) = false →
    ∃ complaint, checked = .bad [complaint] ∧ complaint.readField? = some field

/-- A complaint about the place of a name of a field is about the field. -/
theorem readField?_of_mem {key : String} {grievance : Grievance} (named : key ∈ field.names) :
    Complaint.readField? ⟨[key], grievance⟩ = some field := ofName?_of_mem named

/-- The strict check of a value that is there is that of its field. -/
theorem judged_of_value {key : String} {value : Value} (strict : check.Strict shown field.fits)
    (named : key ∈ field.names) (found : params.canonical field = some value) :
    Judged settings params field (check [key] value) shown := by
  cases fit : field.fits value with
  | true =>
    obtain ⟨result, same, accepted⟩ := strict.accepts value fit
    constructor
    · intro _
      exact ⟨result, accepted [key]⟩
    · intro other done
      rw [found, Option.some_or, ← Checked.ok.inj ((accepted [key]).symm.trans done), same]
    · intro refused
      rw [found] at refused
      cases fit.symm.trans refused
  | false =>
    obtain ⟨grievance, refused⟩ := strict.refuses value fit
    constructor
    · intro accepted
      rw [found] at accepted
      cases fit.symm.trans accepted
    · intro other done
      cases (refused [key]).symm.trans done
    · intro _
      exact ⟨⟨[key], grievance⟩, refused [key], readField?_of_mem named⟩

/-- A field with a default is judged by its canonical value. -/
theorem judged_checkOr {default : α} (strict : check.Strict shown field.fits)
    (usual : field.default? settings = some (shown default)) :
    Judged settings params field (params.checkOr field.names default check) shown := by
  cases found : params.present? field.names with
  | none =>
    have nothing : params.canonical field = none := by
      rw [Fields.canonical_eq_findSome?, Fields.present?_eq_none found]
    have taken : params.checkOr field.names default check = .ok default := by
      rw [Fields.checkOr, found]
    constructor
    · intro _
      exact ⟨default, taken⟩
    · intro result done
      rw [nothing, Option.none_or, usual, Checked.ok.inj (taken.symm.trans done)]
    · intro refused
      rw [nothing, accepts_none usual] at refused
      cases refused
  | some entry =>
    obtain ⟨key, value⟩ := entry
    obtain ⟨named, first⟩ := Fields.present?_eq_some found
    have checked : params.checkOr field.names default check = check [key] value := by
      rw [Fields.checkOr, found]
    rw [checked]
    exact judged_of_value strict named (by rw [Fields.canonical_eq_findSome?, first])

/-- The path, which must be there, is judged by its canonical value. -/
theorem judged_checkRequired (strict : check.Strict shown path.fits) :
    Judged settings params path (params.checkRequired path.names check) shown := by
  cases found : params.present? path.names with
  | none =>
    have nothing : params.canonical path = none := by
      rw [Fields.canonical_eq_findSome?, Fields.present?_eq_none found]
    have missing : params.checkRequired path.names check = Check.refuse ["filePath"] .required := by
      rw [Fields.checkRequired, found]
      rfl
    constructor
    · intro accepted
      rw [nothing] at accepted
      cases accepted
    · intro result done
      cases missing.symm.trans done
    · intro _
      exact ⟨⟨["filePath"], .required⟩, missing, readField?_of_mem (by decide)⟩
  | some entry =>
    obtain ⟨key, value⟩ := entry
    obtain ⟨named, first⟩ := Fields.present?_eq_some found
    have checked : params.checkRequired path.names check = check [key] value := by
      rw [Fields.checkRequired, found]
    rw [checked]
    exact judged_of_value strict named (by rw [Fields.canonical_eq_findSome?, first])

/-- A field that passes its check may have its value. -/
theorem Judged.accepts_of_ok {result : α} (judged : Judged settings params field checked shown)
    (done : checked = .ok result) : field.accepts (params.canonical field) = true := by
  cases verdict : field.accepts (params.canonical field) with
  | true => rfl
  | false =>
    obtain ⟨_, refused, _⟩ := judged.refused verdict
    cases refused.symm.trans done

/-- The complaints about a field are about the field, and there are none exactly when the field may
have its value. -/
theorem Judged.complaints (judged : Judged settings params field checked shown) :
    checked.complaints.map Complaint.readField? =
      if field.accepts (params.canonical field) then [] else [some field] := by
  cases verdict : field.accepts (params.canonical field) with
  | true =>
    obtain ⟨result, accepted⟩ := judged.accepted verdict
    rw [accepted]
    rfl
  | false =>
    obtain ⟨complaint, refused, about⟩ := judged.refused verdict
    simp [refused, Checked.complaints, about]

end ReadField

/-! ## The whole request -/

namespace ReadField

/-- What a field gives to a request. -/
abbrev Part : ReadField → Type
  | path | mode => String
  | target => Option String
  | line => Option Int
  | linesAbove | linesBelow | contextLines => Nat
  | context | verbose => Bool

/-- What a field gives, as a value. -/
def shown : (field : ReadField) → field.Part → Value
  | path | mode => .text
  | target => .textOrNull
  | line => .intOrNull
  | linesAbove | linesBelow | contextLines => .nat
  | context | verbose => .bool

/-- What fields give is told apart by their values. -/
theorem shown_inj {field : ReadField} {one other : field.Part}
    (same : field.shown one = field.shown other) : one = other := by
  cases field with
  | path | mode => exact Value.text.inj same
  | target => exact Value.textOrNull_inj.mp same
  | line => exact Value.intOrNull_inj.mp same
  | linesAbove | linesBelow | contextLines => exact Value.nat_inj.mp same
  | context | verbose => exact Value.bool.inj same

/-- The check of a field of a request. -/
def check (rules : Rules) (settings : ReadSettings) (params : Fields) :
    (field : ReadField) → Checked field.Part
  | path => params.checkRequired path.names rules.nonemptyText
  | mode => params.checkOr mode.names "full" rules.text
  | target => params.checkOr target.names none (.optional rules.text)
  | line => params.checkOr line.names none (.optional rules.integer)
  | linesAbove => params.checkOr linesAbove.names settings.linesAbove rules.count
  | linesBelow => params.checkOr linesBelow.names settings.linesBelow rules.count
  | context => params.checkOr context.names true rules.boolean
  | contextLines => params.checkOr contextLines.names settings.contextLines rules.count
  | verbose => params.checkOr verbose.names true rules.boolean

/-- Every field is judged by its canonical value. -/
theorem judged_check (rules : Rules) (settings : ReadSettings) (params : Fields)
    (field : ReadField) :
    Judged settings params field (check rules settings params field) field.shown := by
  cases field with
  | path => exact judged_checkRequired rules.nonemptyText_strict
  | mode => exact judged_checkOr rules.text_strict rfl
  | target => exact judged_checkOr (Check.optional_strict rules.text_strict fun _ => rfl) rfl
  | line => exact judged_checkOr (Check.optional_strict rules.integer_strict fun _ => rfl) rfl
  | linesAbove | linesBelow | contextLines => exact judged_checkOr rules.count_strict rfl
  | context | verbose => exact judged_checkOr rules.boolean_strict rfl

end ReadField

namespace ReadRequest

variable {rules : Rules} {settings : ReadSettings} {params : Fields} {request : ReadRequest}

/-- The part of a request that a field gives. -/
def part (request : ReadRequest) : (field : ReadField) → field.Part
  | .path => request.path
  | .mode => request.mode
  | .target => request.target
  | .line => request.line
  | .linesAbove => request.linesAbove
  | .linesBelow => request.linesBelow
  | .context => request.context
  | .contextLines => request.contextLines
  | .verbose => request.verbose

/-- The request with some parts. -/
def ofParts (parts : (field : ReadField) → field.Part) : ReadRequest where
  path := parts .path
  mode := parts .mode
  target := parts .target
  line := parts .line
  linesAbove := parts .linesAbove
  linesBelow := parts .linesBelow
  context := parts .context
  contextLines := parts .contextLines
  verbose := parts .verbose

/-- A request is put together from its parts. -/
theorem ofParts_part (request : ReadRequest) : ofParts request.part = request := rfl

/-- A request with some parts is accepted when each field gives its part. -/
theorem check_ofParts {parts : (field : ReadField) → field.Part}
    (given : ∀ field, ReadField.check rules settings params field = .ok (parts field)) :
    check rules settings params = .ok (ofParts parts) :=
  check_eq_ok_iff.mpr
    { path := given .path, mode := given .mode, target := given .target, line := given .line
      linesAbove := given .linesAbove, linesBelow := given .linesBelow, context := given .context
      contextLines := given .contextLines, verbose := given .verbose }

/-- Each field of a request that is accepted gives its part. -/
theorem check_part (accepted : check rules settings params = .ok request) (field : ReadField) :
    ReadField.check rules settings params field = .ok (request.part field) := by
  have fits := check_eq_ok_iff.mp accepted
  cases field with
  | path => exact fits.path
  | mode => exact fits.mode
  | target => exact fits.target
  | line => exact fits.line
  | linesAbove => exact fits.linesAbove
  | linesBelow => exact fits.linesBelow
  | context => exact fits.context
  | contextLines => exact fits.contextLines
  | verbose => exact fits.verbose

/-- The complaints about a request are those about its fields, in the order of declaration. -/
theorem complaints_check (rules : Rules) (settings : ReadSettings) (params : Fields) :
    (check rules settings params).complaints =
      ReadField.all.flatMap fun field =>
        (ReadField.check rules settings params field).complaints := by
  simp only [check, Checked.complaints_seq, Checked.complaints_map, List.append_assoc,
    ReadField.all, List.flatMap_cons, List.flatMap_nil, List.append_nil]
  rfl

/-- The verdict on a request follows from values of its fields. -/
structure JudgedBy (settings : ReadSettings) (values : ReadField → Option Value)
    (verdict : Checked ReadRequest) : Prop where
  /-- The request is accepted exactly when every field may have its value. -/
  accepted : (∃ request, verdict = .ok request) ↔
    ∀ field : ReadField, field.accepts (values field) = true
  /-- Every part of an accepted request shows the value of its field, or the default of the field
  when it has none. -/
  parts : ∀ request, verdict = .ok request → ∀ field : ReadField,
    (values field).or (field.default? settings) = some (field.shown (request.part field))
  /-- The complaints about a rejected request are about the fields that may not have their values,
  once about each, in the order of declaration. -/
  offending : ∀ complaints, verdict = .bad complaints →
    complaints.map Complaint.readField? =
      (ReadField.all.filter fun field => !field.accepts (values field)).map some

/-- The fields that may not have their values, one after the other. -/
theorem map_some_filter (values : ReadField → Option Value) (fields : List ReadField) :
    (fields.filter fun field => !field.accepts (values field)).map some =
      fields.flatMap fun field => if field.accepts (values field) then [] else [some field] := by
  induction fields with
  | nil => rfl
  | cons field rest ih =>
    rw [List.flatMap_cons, ← ih]
    cases verdict : field.accepts (values field) <;> simp [verdict]

/-- The verdict on a request follows from its canonical values. -/
theorem judgedBy_canonical (rules : Rules) (settings : ReadSettings) (params : Fields) :
    JudgedBy settings params.canonical (check rules settings params) := by
  have judged := ReadField.judged_check rules settings params
  constructor
  · constructor
    · rintro ⟨request, done⟩ field
      exact (judged field).accepts_of_ok (check_part done field)
    · intro accepts
      choose parts given using fun field => (judged field).accepted (accepts field)
      exact ⟨ofParts parts, check_ofParts given⟩
  · intro request done field
    exact (judged field).shows _ (check_part done field)
  · intro complaints rejected
    have all : complaints = (check rules settings params).complaints := by
      rw [rejected]
      rfl
    rw [all, complaints_check, List.map_flatMap, map_some_filter]
    exact congrArg ReadField.all.flatMap (funext fun field => (judged field).complaints)

/-- Two verdicts agree: both accept the same request, or both complain about the same fields. -/
inductive Agree : Checked ReadRequest → Checked ReadRequest → Prop
  /-- The same request is accepted. -/
  | accepted (request : ReadRequest) : Agree (.ok request) (.ok request)
  /-- There are complaints about the same fields in the same order. -/
  | rejected (complaints others : List Complaint)
      (same : complaints.map Complaint.readField? = others.map Complaint.readField?) :
      Agree (.bad complaints) (.bad others)

/-- Two verdicts that follow from the same values agree. -/
theorem JudgedBy.agree {values : ReadField → Option Value} {one other : Checked ReadRequest}
    (left : JudgedBy settings values one) (right : JudgedBy settings values other) :
    Agree one other := by
  cases one with
  | ok request =>
    obtain ⟨request', same⟩ := right.accepted.mpr (left.accepted.mp ⟨request, rfl⟩)
    have parts : request.part = request'.part := by
      funext field
      have first := left.parts request rfl field
      have second := right.parts request' same field
      exact ReadField.shown_inj (Option.some.inj (first.symm.trans second))
    rw [same, ← ofParts_part request, parts]
    exact .accepted request'
  | bad complaints =>
    cases other with
    | ok request =>
      obtain ⟨_, same⟩ := left.accepted.mpr (right.accepted.mp ⟨request, rfl⟩)
      cases same
    | bad others =>
      exact .rejected complaints others
        ((left.offending complaints rfl).trans (right.offending others rfl).symm)

end ReadRequest

/-- Two records with the same canonical values are the same request, or are rejected for the same
fields in the order of declaration; and the verdict follows from the values as the shapes and
defaults of the fields say. -/
theorem read_request_follows_canonical_values (rules : Rules) (settings : ReadSettings)
    (first second : Fields) (same : ∀ field, first.canonical field = second.canonical field) :
    ReadRequest.Agree (ReadRequest.check rules settings first)
        (ReadRequest.check rules settings second) ∧
      ReadRequest.JudgedBy settings first.canonical
        (ReadRequest.check rules settings first) := by
  have left := ReadRequest.judgedBy_canonical rules settings first
  have right := ReadRequest.judgedBy_canonical rules settings second
  rw [← funext same] at right
  exact ⟨left.agree right, left⟩

/-- A record with divided names whose path is empty, whose line is a text and whose lines above are
negative. -/
def dividedNames : Fields :=
  [("file_path", .text ""), ("line", .text "5"), ("lines_above", .int (-1)), ("linesAbove", .null)]

/-- A record with joined names and the same canonical values. Its divided names hold values that
would fit. -/
def joinedNames : Fields :=
  [("lines_above", .int 3), ("linesAbove", .int (-1)), ("depth", .null), ("line", .text "5"),
    ("file_path", .text "a.js"), ("filePath", .text "")]

/-- The two records are rejected for the same three fields. -/
theorem read_request_follows_canonical_values_shadowed :
    (∀ field, dividedNames.canonical field = joinedNames.canonical field) ∧
      ReadRequest.check .strict {} dividedNames = .bad [⟨["file_path"], .emptyText⟩,
        ⟨["line"], .notInteger⟩, ⟨["lines_above"], .negative⟩] ∧
      ReadRequest.Agree (ReadRequest.check .strict {} dividedNames)
        (ReadRequest.check .strict {} joinedNames) ∧
      (ReadRequest.check .strict {} dividedNames).complaints.map Complaint.readField? =
        [some .path, some .line, some .linesAbove] := by
  have same : ∀ field, dividedNames.canonical field = joinedNames.canonical field := by
    intro field
    cases field <;> rfl
  have rejected : ReadRequest.check .strict {} dividedNames = .bad [⟨["file_path"], .emptyText⟩,
      ⟨["line"], .notInteger⟩, ⟨["lines_above"], .negative⟩] := rfl
  obtain ⟨agree, judged⟩ :=
    read_request_follows_canonical_values .strict {} dividedNames joinedNames same
  refine ⟨same, rejected, agree, ?_⟩
  rw [rejected]
  exact (judged.offending _ rejected).trans (by decide)

end SourceLens
