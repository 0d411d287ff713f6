import SourceLens.Main.Options
import SourceLens.Proofs.Json
import SourceLens.Proofs.Path
import SourceLens.Proofs.Read.Breakage
import SourceLens.Proofs.Request

/-!
# Command lines as requests

Every command stands for a request that could be made as a mapping (`Command.params`). The command
names the fields of its request one by one, so the two could part: in the default of an option that
is not given, in a value that the check of mappings would refuse, or in the meaning of a switch that
turns something off. They do not, whatever the parser of options is. The fields of a command that is
understood fit, and the mapping of its options is accepted as the same request, whether it writes
the defaults out, has null for them, or leaves them out (`Command.makes`). So a run shows the record
with which the mapping is answered, and breaks off where that answer does
(`command_line_is_request`). To show a record is to print it in the JSON format, from which it is
read back (`Json.read?_layout`).
-/
namespace SourceLens.CommandLine

/-! ## Commands and their mappings -/

/-- How a mapping says that an option was not given. -/
inductive Spelling where
  /-- The default is written out. -/
  | written
  /-- The value is null. -/
  | null
  /-- The option is left out. -/
  | omitted
  deriving DecidableEq, Repr

/-- What a mapping has for an option that was not given. -/
def Spelling.absent (default : Value) : Spelling → Option Value
  | written => some default
  | null => some .null
  | omitted => none

/-- An option in a mapping. -/
def entry (spelling : Spelling) (name : String) (default : Value) (given : Option Value) : Fields :=
  (given.or (spelling.absent default)).toList.map fun value => (name, value)

/-- A switch in a mapping, which sets a field to a truth value when it is given. -/
def switchEntry (spelling : Spelling) (name : String) (flag given : Bool) : Fields :=
  entry spelling name (.bool !flag) (if given then some (.bool flag) else none)

/-- The mapping that the options of a command make. -/
def Command.params (settings : ReadSettings) (spelling : Spelling) : Command → Fields
  | full file => fileFields file .full
  | outline file brief => fileFields file .outline ++ switchEntry spelling "verbose" false brief
  | lines file line above below =>
    fileFields file .lines ++ entry spelling "line" .null (line.map .int) ++
      entry spelling "lines_above" (.nat settings.linesAbove) (above.map .int) ++
      entry spelling "lines_below" (.nat settings.linesBelow) (below.map .int)
  | target file qualifier noContext contextLines =>
    fileFields file .target ++ [("target", .text qualifier)] ++
      switchEntry spelling "context" false noContext ++
      entry spelling "context_lines" (.nat settings.contextLines) (contextLines.map .int)
  | search options =>
    [("pattern", .text options.pattern)] ++
      entry spelling "path" (.text ".") (options.path.map pathValue) ++
      entry spelling "glob_pattern" .null (options.glob.map .text) ++
      switchEntry spelling "case_insensitive" true options.ignoreCase ++
      entry spelling "context" .null (options.context.map .int) ++
      entry spelling "output_mode" (.text "content")
        (if options.filesOnly then some (.text "file_paths") else none) ++
      entry spelling "type" (.text "all") (options.type.map .text) ++
      entry spelling "modifiers" (.texts [])
        (if options.modifiers = [] then none else some (.texts options.modifiers)) ++
      entry spelling "head_limit" .null (options.limit.map .int) ++
      switchEntry spelling "include_non_code" true options.includeNonCode

/-- An option is looked up under its name. -/
@[simp]
theorem get?_entry (spelling : Spelling) (own : String) (default : Value) (given : Option Value)
    (name : String) :
    Fields.get? (entry spelling own default given) name =
      if own = name then given.or (spelling.absent default) else none := by
  rw [entry]
  cases given.or (spelling.absent default) <;> simp

/-- The directory that is searched when no path is given has a path in normal form. -/
theorem pathValue_defaultRoot : pathValue defaultRoot = .text "." :=
  congrArg Value.text (by decide +kernel)

/-- The fields that a command names in its request are its mapping with the defaults written out. -/
theorem Command.params_written (settings : ReadSettings) (command : Command) :
    command.params settings .written = command.fields settings := by
  have number (name : String) (given : Option Int) :
      entry .written name .null (given.map .int) = [(name, .intOrNull given)] := by
    cases given <;> rfl
  have count (name : String) (default : Nat) (given : Option Int) :
      entry .written name (.nat default) (given.map .int) = [(name, countOr given default)] := by
    cases given <;> rfl
  have text (name : String) (given : Option String) :
      entry .written name .null (given.map .text) = [(name, .textOrNull given)] := by
    cases given <;> rfl
  have switch (name : String) (flag given : Bool) :
      switchEntry .written name flag given = [(name, .bool (given == flag))] := by
    cases flag <;> cases given <;> rfl
  cases command with
  | full file => rfl
  | outline file brief => cases brief <;> rfl
  | lines file line above below =>
    simp only [params, fields, number, count, List.append_assoc, List.cons_append, List.nil_append]
  | target file qualifier noContext contextLines =>
    simp only [params, fields, count, switch, List.append_assoc, List.cons_append, List.nil_append,
      beq_false]
  | search options =>
    have path : entry .written "path" (.text ".") (options.path.map pathValue) =
        [("path", pathValue (options.path.getD defaultRoot))] := by
      cases options.path with
      | none => rw [Option.getD_none, pathValue_defaultRoot]; rfl
      | some written => rfl
    have output : entry .written "output_mode" (.text "content")
        (if options.filesOnly then some (.text "file_paths") else none) =
        [("output_mode", .text (if options.filesOnly then OutputMode.filePaths.name
          else OutputMode.content.name))] := by
      cases options.filesOnly <;> rfl
    have type : entry .written "type" (.text "all") (options.type.map .text) =
        [("type", .text (options.type.getD defaultType))] := by
      cases options.type <;> rfl
    have modifiers : entry .written "modifiers" (.texts [])
        (if options.modifiers = [] then none else some (.texts options.modifiers)) =
        [("modifiers", .texts options.modifiers)] := by
      cases options.modifiers <;> rfl
    simp only [params, fields, SearchOptions.fields, path, text, switch, number, output, type,
      modifiers, List.cons_append, List.nil_append, beq_true]

/-! ## Options that fit -/

section

variable (rules : Rules) (spelling : Spelling) {fields : Fields} {name : String}

/-- An option fits when its value does, or its default when it is not given. -/
theorem checkOr_entry {α : Type} {check : Check α} {default value : α} {fallback : Value}
    {given : Option Value} (found : fields.get? name = given.or (spelling.absent fallback))
    (own : fallback ≠ .null → check [name] fallback = .ok default)
    (omitted : given = none → value = default)
    (fits : ∀ part, given = some part → part ≠ .null ∧ check [name] part = .ok value) :
    fields.checkOr [name] default check = .ok value := by
  cases given with
  | some part =>
    obtain ⟨some, accepted⟩ := fits part rfl
    rw [Fields.checkOr_of_value found some, accepted]
  | none =>
    rw [omitted rfl]
    have lacking (lacks : fields.Lacks name) :
        fields.checkOr [name] default check = .ok default := by
      rw [Fields.checkOr_of_lacks lacks]
      rfl
    cases spelling with
    | written =>
      by_cases null : fallback = .null
      · exact lacking (.inr (null ▸ found))
      · rw [Fields.checkOr_of_value found null, own null]
    | null => exact lacking (.inr found)
    | omitted => exact lacking (.inl found)

/-- A text without a default fits. -/
theorem checkOr_entry_text {given : Option String}
    (found : fields.get? name = (given.map .text).or (spelling.absent .null)) :
    fields.checkOr [name] none (.optional rules.text) = .ok given := by
  refine checkOr_entry spelling found (absurd rfl) (fun none => Option.map_eq_none_iff.mp none) ?_
  intro part some
  obtain ⟨content, rfl, rfl⟩ := Option.map_eq_some_iff.mp some
  rw [Check.optional, rules.text_apply]
  exact ⟨by simp, rfl⟩

/-- An integer without a default fits. -/
theorem checkOr_entry_integer {given : Option Int}
    (found : fields.get? name = (given.map .int).or (spelling.absent .null)) :
    fields.checkOr [name] none (.optional rules.integer) = .ok given := by
  refine checkOr_entry spelling found (absurd rfl) (fun none => Option.map_eq_none_iff.mp none) ?_
  intro part some
  obtain ⟨number, rfl, rfl⟩ := Option.map_eq_some_iff.mp some
  rw [Check.optional, rules.integer_apply]
  exact ⟨by simp, rfl⟩

/-- A number that is not negative is a count. -/
theorem count_int {number : Int} (nonneg : 0 ≤ number) (place : List String) :
    rules.count place (.int number) = .ok number.toNat := by
  have size : Value.int number = .nat number.toNat := by rw [Value.nat, Int.toNat_of_nonneg nonneg]
  rw [size, rules.count_apply]

/-- A count with a default fits. -/
theorem checkOr_entry_count {default : Nat} {given : Option Int}
    (nonneg : ∀ number ∈ given.toList, 0 ≤ number)
    (found : fields.get? name = (given.map .int).or (spelling.absent (.nat default))) :
    fields.checkOr [name] default rules.count = .ok ((given.map Int.toNat).getD default) := by
  refine checkOr_entry spelling found (fun _ => rules.count_apply _ _) ?_ ?_
  · intro none
    rw [Option.map_eq_none_iff.mp none]
    rfl
  · intro part some
    obtain ⟨number, rfl, rfl⟩ := Option.map_eq_some_iff.mp some
    exact ⟨by simp, count_int rules (nonneg number (by simp)) _⟩

/-- A count without a default fits. -/
theorem checkOr_entry_optionalCount {given : Option Int}
    (nonneg : ∀ number ∈ given.toList, 0 ≤ number)
    (found : fields.get? name = (given.map .int).or (spelling.absent .null)) :
    fields.checkOr [name] none (.optional rules.count) = .ok (given.map Int.toNat) := by
  refine checkOr_entry spelling found (absurd rfl) ?_ ?_
  · intro none
    rw [Option.map_eq_none_iff.mp none]
    rfl
  · intro part some
    obtain ⟨number, rfl, rfl⟩ := Option.map_eq_some_iff.mp some
    rw [Check.optional, count_int rules (nonneg number (by simp))]
    exact ⟨by simp, rfl⟩

/-- A switch fits. -/
theorem checkOr_switchEntry (flag : Bool) {given : Bool}
    (found : fields.get? name =
      (if given then some (.bool flag) else none).or (spelling.absent (.bool !flag))) :
    fields.checkOr [name] (!flag) rules.boolean = .ok (given == flag) := by
  refine checkOr_entry spelling found (fun _ => rules.boolean_apply _ _) ?_ ?_
  · cases given <;> cases flag <;> simp
  · intro part some
    cases given with
    | false => cases some
    | true =>
      rw [if_pos rfl, Option.some.injEq] at some
      rw [← some, rules.boolean_apply]
      exact ⟨by simp, by cases flag <;> rfl⟩

/-- A path in normal form fits, and so does the directory that stands for none. -/
theorem checkOr_entry_path {given : Option String}
    (found : fields.get? name = (given.map pathValue).or (spelling.absent (.text "."))) :
    fields.checkOr [name] "." rules.text = .ok (Path.parse (given.getD defaultRoot)).render := by
  refine checkOr_entry spelling found (fun _ => rules.text_apply _ _) ?_ ?_
  · intro none
    rw [Option.map_eq_none_iff.mp none]
    exact Value.text.inj pathValue_defaultRoot
  · intro part some
    obtain ⟨written, rfl, rfl⟩ := Option.map_eq_some_iff.mp some
    exact ⟨by simp [pathValue], rules.text_apply _ _⟩

/-- What a search answers with fits. -/
theorem checkOr_entry_output {filesOnly : Bool}
    (found : fields.get? name = (if filesOnly then some (.text "file_paths") else none).or
      (spelling.absent (.text "content"))) :
    fields.checkOr [name] .content (SearchRequest.checkOutput rules) =
      .ok (if filesOnly then .filePaths else .content) := by
  have known (mode : OutputMode) :
      SearchRequest.checkOutput rules [name] (.text mode.name) = .ok mode := by
    have inside : mode.name ∈ OutputMode.names := by cases mode <;> decide
    have read : OutputMode.ofName? mode.name = some mode := by cases mode <;> decide
    simp only [SearchRequest.checkOutput, Check.named, rules.oneOf_apply _ inside, read]
  refine checkOr_entry spelling found (fun _ => known .content) ?_ ?_
  · cases filesOnly <;> simp
  · intro part some
    cases filesOnly with
    | false => cases some
    | true =>
      rw [if_pos rfl, Option.some.injEq] at some
      rw [← some]
      exact ⟨by simp, known .filePaths⟩

/-- Modifiers fit. -/
theorem checkOr_entry_modifiers {given : List String}
    (found : fields.get? name =
      (if given = [] then none else some (.texts given)).or (spelling.absent (.texts []))) :
    fields.checkOr [name] [] rules.texts = .ok given := by
  refine checkOr_entry spelling found (fun _ => rules.texts_apply _ _) ?_ ?_
  · intro none
    by_contra some
    rw [if_neg some] at none
    cases none
  · intro part some
    split at some
    · cases some
    · rw [← Option.some.inj some, rules.texts_apply]
      exact ⟨by simp [Value.texts], rfl⟩

/-- The name of a symbol type that there is fits, whatever the case of its letters. -/
theorem exists_checkType {written : String}
    (known : SymbolType.names.contains (Text.lower written) = true) :
    ∃ type, ∀ place, SearchRequest.checkType rules place (.text written) = .ok type := by
  have inside : Text.lower written ∈ SymbolType.names := by simpa using known
  have found : ∀ name ∈ SymbolType.names, (SymbolType.ofName? name).isSome = true := by
    decide +kernel
  obtain ⟨type, read⟩ := Option.isSome_iff_exists.mp (found _ inside)
  refine ⟨type, fun place => ?_⟩
  simp only [SearchRequest.checkType, Check.prepared, Value.lowered, Check.named,
    rules.oneOf_apply _ inside, read]

/-- A symbol type that there is fits. -/
theorem exists_checkOr_entry_type {given : Option String}
    (known : SymbolType.names.contains (Text.lower (given.getD defaultType)) = true) :
    ∃ type, ∀ (fields : Fields) (spelling : Spelling),
      fields.get? "type" = (given.map .text).or (spelling.absent (.text "all")) →
        fields.checkOr ["type"] none (SearchRequest.checkType rules) = .ok type := by
  have all : SearchRequest.checkType rules ["type"] (.text "all") = .ok none := by
    have inside : Text.lower "all" ∈ SymbolType.names := by decide +kernel
    have read : SymbolType.ofName? (Text.lower "all") = some none := by decide +kernel
    simp only [SearchRequest.checkType, Check.prepared, Value.lowered, Check.named,
      rules.oneOf_apply _ inside, read]
  cases given with
  | none => exact ⟨none, fun fields spelling found =>
      checkOr_entry spelling found (fun _ => all) (fun _ => rfl) (by simp)⟩
  | some written =>
    obtain ⟨type, accepted⟩ := exists_checkType rules known
    refine ⟨type, fun fields spelling found =>
      checkOr_entry spelling found (fun _ => all) (by simp) fun part some => ?_⟩
    rw [← Option.some.inj some]
    exact ⟨by simp, accepted _⟩

/-- A path in normal form is not empty, so it fits. -/
theorem checkRequired_path {written : String}
    (found : fields.get? "file_path" = some (pathValue written))
    (absent : fields.get? "filePath" = none) :
    fields.checkRequired ["filePath", "file_path"] rules.nonemptyText =
      .ok (Path.parse written).render := by
  have fits := rules.nonemptyText_apply ["file_path"] (Path.render_parse_ne_empty written)
  simpa [Fields.checkRequired, Fields.present?, found, absent, pathValue] using fits

end

/-! ## Commands that are understood -/

/-- The request to read a file in a mode, with the sizes of the settings. -/
def plainRequest (settings : ReadSettings) (file : String) (mode : ReadMode) : ReadRequest where
  path := (Path.parse file).render
  mode := mode.name
  linesAbove := settings.linesAbove
  linesBelow := settings.linesBelow
  contextLines := settings.contextLines

section

variable (rules : Rules) (settings : ReadSettings) (spelling : Spelling)

/-- The command that reads a whole file fits. -/
theorem fits_full (file : String) :
    ReadRequest.Fits rules settings ((Command.full file).params settings spelling)
      (plainRequest settings file .full) := by
  unfold Command.params fileFields
  exact
    { path := checkRequired_path rules (by simp) (by simp)
      mode := Fields.checkOr_text rules (by simp [plainRequest])
      target := Fields.checkOr_of_absent (by simp)
      line := Fields.checkOr_of_absent (by simp)
      linesAbove := Fields.checkOr_of_absent (by simp)
      linesBelow := Fields.checkOr_of_absent (by simp)
      context := Fields.checkOr_of_absent (by simp)
      contextLines := Fields.checkOr_of_absent (by simp)
      verbose := Fields.checkOr_of_absent (by simp) }

/-- The command that reads an outline fits. -/
theorem fits_outline (file : String) (brief : Bool) :
    ReadRequest.Fits rules settings ((Command.outline file brief).params settings spelling)
      { plainRequest settings file .outline with verbose := brief == false } := by
  unfold Command.params fileFields switchEntry
  exact
    { path := checkRequired_path rules (by simp) (by simp)
      mode := Fields.checkOr_text rules (by simp [plainRequest])
      target := Fields.checkOr_of_absent (by simp)
      line := Fields.checkOr_of_absent (by simp)
      linesAbove := Fields.checkOr_of_absent (by simp)
      linesBelow := Fields.checkOr_of_absent (by simp)
      context := Fields.checkOr_of_absent (by simp)
      contextLines := Fields.checkOr_of_absent (by simp)
      verbose := checkOr_switchEntry rules spelling false (by simp) }

/-- The command that reads lines fits when its sizes are not negative. -/
theorem fits_lines (file : String) (line : Option Int) {above below : Option Int}
    (nonneg : ∀ number ∈ (Command.lines file line above below).counts, 0 ≤ number) :
    ReadRequest.Fits rules settings ((Command.lines file line above below).params settings spelling)
      { plainRequest settings file .lines with
        line
        linesAbove := (above.map Int.toNat).getD settings.linesAbove
        linesBelow := (below.map Int.toNat).getD settings.linesBelow } := by
  obtain ⟨before, after⟩ := List.forall_mem_append.mp nonneg
  unfold Command.params fileFields
  exact
    { path := checkRequired_path rules (by simp) (by simp)
      mode := Fields.checkOr_text rules (by simp [plainRequest])
      target := Fields.checkOr_of_absent (by simp)
      line := checkOr_entry_integer rules spelling (by simp)
      linesAbove := by
        rw [Fields.checkOr_of_lacks (.inl (by simp))]
        exact checkOr_entry_count rules spelling before (by simp)
      linesBelow := by
        rw [Fields.checkOr_of_lacks (.inl (by simp))]
        exact checkOr_entry_count rules spelling after (by simp)
      context := Fields.checkOr_of_absent (by simp)
      contextLines := Fields.checkOr_of_absent (by simp)
      verbose := Fields.checkOr_of_absent (by simp) }

/-- The command that reads an entity fits when its size is not negative. -/
theorem fits_target (file qualifier : String) (noContext : Bool) {contextLines : Option Int}
    (nonneg : ∀ number ∈ (Command.target file qualifier noContext contextLines).counts,
      0 ≤ number) :
    ReadRequest.Fits rules settings
      ((Command.target file qualifier noContext contextLines).params settings spelling)
      { plainRequest settings file .target with
        target := some qualifier
        context := noContext == false
        contextLines := (contextLines.map Int.toNat).getD settings.contextLines } := by
  unfold Command.params fileFields switchEntry
  exact
    { path := checkRequired_path rules (by simp) (by simp)
      mode := Fields.checkOr_text rules (by simp [plainRequest])
      target := by
        rw [Fields.checkOr_of_value (by simp; rfl) (by simp), Check.optional, rules.text_apply]
        rfl
      line := Fields.checkOr_of_absent (by simp)
      linesAbove := Fields.checkOr_of_absent (by simp)
      linesBelow := Fields.checkOr_of_absent (by simp)
      context := checkOr_switchEntry rules spelling false (by simp)
      contextLines := by
        rw [Fields.checkOr_of_lacks (.inl (by simp))]
        exact checkOr_entry_count rules spelling nonneg (by simp)
      verbose := Fields.checkOr_of_absent (by simp) }

/-- The command that searches fits when its sizes are not negative and there is its symbol type. -/
theorem fits_search {options : SearchOptions}
    (nonneg : ∀ number ∈ (Command.search options).counts, 0 ≤ number)
    (known : (Command.search options).isTypeKnown = true) :
    ∃ request, ∀ spelling,
      SearchRequest.Fits rules ((Command.search options).params settings spelling) request := by
  obtain ⟨around, most⟩ := List.forall_mem_append.mp nonneg
  obtain ⟨type, typed⟩ := exists_checkOr_entry_type rules known
  refine ⟨
    { pattern := options.pattern
      path := (Path.parse (options.path.getD defaultRoot)).render
      glob := options.glob
      ignoreCase := options.ignoreCase == true
      context := options.context.map Int.toNat
      output := if options.filesOnly then .filePaths else .content
      type
      modifiers := options.modifiers
      limit := options.limit.map Int.toNat
      includeNonCode := options.includeNonCode == true }, fun spelling => ?_⟩
  unfold Command.params switchEntry
  exact
    { pattern := by
        simp [Fields.checkRequired, Fields.present?, rules.text_apply]
      path := checkOr_entry_path rules spelling (by simp)
      glob := checkOr_entry_text rules spelling (by simp)
      ignoreCase := checkOr_switchEntry rules spelling true (by simp)
      context := checkOr_entry_optionalCount rules spelling around (by simp)
      contextBefore := Fields.checkOr_of_absent (by simp)
      contextAfter := Fields.checkOr_of_absent (by simp)
      output := checkOr_entry_output rules spelling (by simp)
      type := typed _ spelling (by simp)
      modifiers := checkOr_entry_modifiers rules spelling (by simp)
      limit := checkOr_entry_optionalCount rules spelling most (by simp)
      includeNonCode := checkOr_switchEntry rules spelling true (by simp) }

end

/-- The fields that a command names fit, and a mapping is accepted as the same request. -/
def Command.Makes (workspace : Workspace) (mapping : Fields) (command : Command) : Prop :=
  let settings := workspace.settings.read
  match command with
  | search _ => ∃ request,
    SearchRequest.check workspace.rules (command.fields settings) = .ok request ∧
      SearchRequest.check workspace.rules mapping = .ok request
  | _ => ∃ request,
    ReadRequest.check workspace.rules settings (command.fields settings) = .ok request ∧
      ReadRequest.check workspace.rules settings mapping = .ok request

/-- A command makes the request of its mapping when its counts are not negative and there is its
symbol type. -/
theorem Command.makes (workspace : Workspace) (spelling : Spelling) {command : Command}
    (nonneg : ∀ number ∈ command.counts, 0 ≤ number) (known : command.isTypeKnown = true) :
    command.Makes workspace (command.params workspace.settings.read spelling) := by
  have reads (request : ReadRequest) (fits : ∀ spelling, ReadRequest.Fits workspace.rules
      workspace.settings.read (command.params workspace.settings.read spelling) request) :
      ∃ request, ReadRequest.check workspace.rules workspace.settings.read
          (command.fields workspace.settings.read) = .ok request ∧
        ReadRequest.check workspace.rules workspace.settings.read
          (command.params workspace.settings.read spelling) = .ok request := by
    refine ⟨request, ?_, ReadRequest.check_eq_ok_iff.mpr (fits spelling)⟩
    rw [← Command.params_written]
    exact ReadRequest.check_eq_ok_iff.mpr (fits .written)
  cases command with
  | full file => exact reads _ fun spelling => fits_full _ _ spelling file
  | outline file brief => exact reads _ fun spelling => fits_outline _ _ spelling file brief
  | lines file line above below =>
    exact reads _ fun spelling => fits_lines _ _ spelling file line nonneg
  | target file qualifier noContext contextLines =>
    exact reads _ fun spelling => fits_target _ _ spelling file qualifier noContext nonneg
  | search options =>
    obtain ⟨request, fits⟩ := fits_search workspace.rules workspace.settings.read nonneg known
    refine ⟨request, ?_, SearchRequest.check_of_fits (fits spelling)⟩
    rw [← Command.params_written]
    exact SearchRequest.check_of_fits (fits .written)

/-- A command that is understood is what the parser of options hands over, and there is its symbol
type. -/
theorem parse_of_understand {parser : OptionParser} {args : List String} {level : String}
    {command : Command} (understood : understand parser args = .ok (.command level command)) :
    parser.parse args = .ok (.command level command) ∧ command.isTypeKnown = true := by
  unfold understand at understood
  split at understood
  · cases understood
  · cases understood
  · next parsed =>
    split at understood
    · cases understood
    split at understood
    · cases understood
    · next known =>
      cases understood
      exact ⟨parsed, by simpa using known⟩

/-! ## Records that are shown -/

/-- What the requests of a command answer to a mapping. -/
def Command.answer (workspace : Workspace) (mapping : Fields) : Command → Except Breakdown Fields
  | search _ => workspace.searchParams mapping
  | _ => workspace.readParams mapping

/-- A command does what is answered to a mapping that is accepted as its request. -/
theorem Command.Makes.execute_eq {workspace : Workspace} {mapping : Fields} {command : Command}
    (makes : command.Makes workspace mapping) :
    command.execute workspace = command.answer workspace mapping := by
  unfold execute answer
  cases command with
  | search options =>
    obtain ⟨request, own, accepted⟩ := makes
    unfold Workspace.searchParams
    simp only [own, accepted]
  | full file | outline file brief | lines file line above below
  | target file qualifier noContext contextLines =>
    obtain ⟨request, own, accepted⟩ := makes
    unfold Workspace.readParams
    simp only [own, accepted]

/-- A run shows a record: it prints the record in the JSON format, and its exit status says whether
the record reports success. -/
structure Outcome.Shows (outcome : Outcome) (record : Fields) : Prop where
  /-- The record is printed on its own lines. -/
  layout : outcome.output = (Value.record record).layout ++ "\n"
  /-- The record is read back from what is printed. -/
  output : Json.read? outcome.output = some (.record record)
  /-- The exit status is that of success or that of failure. -/
  status : outcome.exitCode = 0 ∨ outcome.exitCode = 1
  /-- The status of success stands for success. -/
  success : outcome.exitCode = 0 ↔ record.get? "success" = some (.bool true)

/-- A run is the answer: it shows the record, and breaks off where the answer does. -/
def IsAnswer (outcome : Except Breakdown Outcome) : Except Breakdown Fields → Prop
  | .ok record => ∃ shown, outcome = .ok shown ∧ shown.Shows record
  | .error why => outcome = .error why

/-- The outcome of a record shows the record. -/
theorem Outcome.shows_ofRecord (record : Fields) : (ofRecord record).Shows record := by
  have success : succeeded record = true ↔ record.get? "success" = some (.bool true) := by
    unfold succeeded
    split
    · next flag found => simp [found]
    · next other => simpa using fun found => other true found
  refine ⟨rfl, Json.read?_layout _ "\n" (by decide), ?_, ?_⟩
  · cases done : succeeded record <;> simp [ofRecord, done]
  · rw [← success]
    cases done : succeeded record <;> simp [ofRecord, done]

/-- Showing what is answered is the answer. -/
theorem isAnswer_map (answer : Except Breakdown Fields) :
    IsAnswer (answer.map Outcome.ofRecord) answer := by
  cases answer with
  | ok record => exact ⟨_, rfl, Outcome.shows_ofRecord record⟩
  | error why => exact rfl

end SourceLens.CommandLine

namespace SourceLens

open CommandLine

/-- When a command line is understood as a command, the fields that the command names fit, the
mapping of its options is accepted as the same request, however it says that an option was not
given, and the run is the answer to the mapping. -/
theorem command_line_is_request (parser : OptionParser) (workspace : Workspace)
    (args : List String) (level : String) (command : Command)
    (understood : understand parser args = .ok (.command level command)) (spelling : Spelling) :
    command.Makes workspace (command.params workspace.settings.read spelling) ∧
      IsAnswer (run parser workspace args)
        (command.answer workspace (command.params workspace.settings.read spelling)) := by
  obtain ⟨parsed, known⟩ := parse_of_understand understood
  have nonneg := parser.counts_nonneg args level command parsed
  have makes := Command.makes workspace spelling nonneg known
  refine ⟨makes, ?_⟩
  have shown : run parser workspace args = (command.execute workspace).map Outcome.ofRecord := by
    simp only [run, understood]
  rw [shown, makes.execute_eq]
  exact isAnswer_map _

/-- A command line for a line of a file, whose path is not in normal form. -/
def lineWords : List String := ["lines", "./u.js", "--line=1", "--above", "0"]

/-- The command of the command line. -/
def lineCommand : Command := .lines "./u.js" (some 1) (some 0) none

/-- A command line for the files with a function, whose type has a capital letter. -/
def functionWords : List String :=
  ["--log-level", "debug", "search", "-tFunction", "f", "--files-only"]

/-- The command of the command line. -/
def functionCommand : Command :=
  .search { pattern := "f", type := some "Function", filesOnly := true }

/-- Both command lines are understood, and their runs are the answers to their mappings. -/
theorem command_line_is_request_samples :
    understand Options.parser lineWords = .ok (.command "WARNING" lineCommand) ∧
      (∀ spelling,
        lineCommand.Makes unclosedScript (lineCommand.params {} spelling) ∧
          IsAnswer (run Options.parser unclosedScript lineWords)
            (lineCommand.answer unclosedScript (lineCommand.params {} spelling))) ∧
      understand Options.parser functionWords = .ok (.command "debug" functionCommand) ∧
      ∀ spelling,
        functionCommand.Makes unclosedScript (functionCommand.params {} spelling) ∧
          IsAnswer (run Options.parser unclosedScript functionWords)
            (functionCommand.answer unclosedScript (functionCommand.params {} spelling)) := by
  have line : understand Options.parser lineWords = .ok (.command "WARNING" lineCommand) := by
    decide +kernel
  have functions :
      understand Options.parser functionWords = .ok (.command "debug" functionCommand) := by
    decide +kernel
  exact ⟨line, command_line_is_request Options.parser unclosedScript lineWords _ _ line,
    functions, command_line_is_request Options.parser unclosedScript functionWords _ _ functions⟩

end SourceLens
