import Mathlib.Data.List.Nodup
import SourceLens.Main.Rules
import SourceLens.Proofs.Check
import SourceLens.Proofs.Fields
import SourceLens.Settings

/-!
# Sections of settings

A section is checked as a whole, and checked again without the fields that were complained about.
Complaints may be about places deep inside a value, several about one key, and a failure of the
second check would leave the program without settings. It never fails: every complaint begins at a
key whose value does not fit, and every such key has a complaint (`Settings.Blames`), so the second
check sees exactly the keys that fit. Hence a section is loaded key by key
(`section_loads_key_by_key`), and what it gives is loaded again as it is.
-/
namespace SourceLens

/-! ## Keys -/

/-- A key of a section. -/
structure SettingsKey where
  /-- Its name. -/
  name : String
  /-- Whether a value has the shape of its values. -/
  fits : Value → Bool
  /-- Its value when the section has none that fits. -/
  default : Value

/-- The value under a name of a section, which may be no table at all. -/
def Value.under? (overrides : Value) (name : String) : Option Value :=
  overrides.record?.bind (·.get? name)

/-- The value of a key in the settings that a section gives. -/
def SettingsKey.chosen (key : SettingsKey) (overrides : Value) : Value :=
  ((overrides.under? key.name).filter key.fits).getD key.default

/-- A table with a value for each of some keys. -/
def Settings.table (keys : List SettingsKey) (values : SettingsKey → Value) : Value :=
  .record (keys.map fun key => (key.name, values key))

/-- Tables with the same values are the same. -/
theorem Settings.table_congr {keys : List SettingsKey} {values others : SettingsKey → Value}
    (same : ∀ key ∈ keys, values key = others key) : table keys values = table keys others := by
  apply congrArg Value.record
  apply List.map_congr_left
  intro key inside
  rw [same key inside]

/-- A table has the fields of a record. -/
theorem Value.record?_eq_some {value : Value} {fields : Fields} :
    value.record? = some fields ↔ value = .record fields := by
  cases value <;> simp [record?]

/-- The value of a key in some fields does not fit. -/
def SettingsKey.Misfits (key : SettingsKey) (fields : Fields) : Prop :=
  ∃ value, fields.get? key.name = some value ∧ key.fits value = false

/-- A section is a table, and the values of its keys fit. -/
def Settings.FitsKeys (keys : List SettingsKey) (overrides : Value) : Prop :=
  ∃ fields, overrides = .record fields ∧ ∀ key ∈ keys, ¬key.Misfits fields

/-- The value of a key that does not misfit is chosen. -/
theorem SettingsKey.chosen_of_not_misfits {key : SettingsKey} {fields : Fields}
    (fit : ¬key.Misfits fields) :
    key.chosen (.record fields) = (fields.get? key.name).getD key.default := by
  have same : (Value.record fields).under? key.name = fields.get? key.name := rfl
  rw [chosen, same]
  cases found : fields.get? key.name with
  | none => rfl
  | some value =>
    have shaped : key.fits value = true := by
      by_contra misfit
      exact fit ⟨value, found, by simpa using misfit⟩
    rw [Option.filter_some_pos shaped]

/-- The default of a key that misfits is chosen. -/
theorem SettingsKey.chosen_of_misfits {key : SettingsKey} {fields : Fields}
    (misfit : key.Misfits fields) : key.chosen (.record fields) = key.default := by
  obtain ⟨value, found, unshaped⟩ := misfit
  have same : (Value.record fields).under? key.name = some value := found
  rw [chosen, same, Option.filter_some_neg (by simp [unshaped])]
  rfl

/-- The value that is chosen for a key fits, as its default does. -/
theorem SettingsKey.fits_chosen {key : SettingsKey} (sane : key.fits key.default = true)
    (overrides : Value) : key.fits (key.chosen overrides) = true := by
  rw [chosen]
  cases kept : (overrides.under? key.name).filter key.fits with
  | none => exact sane
  | some value => exact (Option.filter_eq_some_iff.mp kept).2

namespace Settings

/-! ## Complaints about keys -/

/-- Complaints are about the keys that do not fit, and about every one of them. -/
structure Blames (fields : Fields) (keys : List SettingsKey) (complaints : List Complaint) :
    Prop where
  /-- Every complaint begins at a key that does not fit. -/
  justified : ∀ complaint ∈ complaints, ∃ key ∈ keys, key.Misfits fields ∧
    complaint.place.head? = some key.name
  /-- At every key that does not fit a complaint begins. -/
  complete : ∀ key ∈ keys, key.Misfits fields →
    ∃ complaint ∈ complaints, complaint.place.head? = some key.name

/-- Complaints about some keys and complaints about others are about all of them. -/
theorem Blames.append {fields : Fields} {keys others : List SettingsKey}
    {first second : List Complaint} (left : Blames fields keys first)
    (right : Blames fields others second) : Blames fields (keys ++ others) (first ++ second) := by
  constructor
  · intro complaint inside
    rcases List.mem_append.mp inside with member | member
    · obtain ⟨key, own, about⟩ := left.justified complaint member
      exact ⟨key, List.mem_append_left others own, about⟩
    · obtain ⟨key, own, about⟩ := right.justified complaint member
      exact ⟨key, List.mem_append_right keys own, about⟩
  · intro key inside misfit
    rcases List.mem_append.mp inside with member | member
    · obtain ⟨complaint, own, about⟩ := left.complete key member misfit
      exact ⟨complaint, List.mem_append_left second own, about⟩
    · obtain ⟨complaint, own, about⟩ := right.complete key member misfit
      exact ⟨complaint, List.mem_append_right first own, about⟩

variable {α : Type} {fields : Fields} {key : SettingsKey} {check : Check α} {shown : α → Value}

/-- The complaints of the check of a key are about the key. -/
theorem blames_keyOr (exact : check.Exact shown key.fits) (default : α) :
    Blames fields [key] (keyOr fields key.name default check).complaints := by
  cases found : fields.get? key.name with
  | none =>
    have silent : keyOr fields key.name default check = .ok default := by rw [keyOr, found]
    rw [silent]
    refine ⟨by simp [Checked.complaints], fun other member ⟨value, there, _⟩ => ?_⟩
    rw [List.mem_singleton.mp member] at there
    cases found.symm.trans there
  | some value =>
    have checked : keyOr fields key.name default check = check [key.name] value := by
      rw [keyOr, found]
    rw [checked]
    cases fit : key.fits value with
    | true =>
      obtain ⟨result, _, accepted⟩ := exact.accepts value fit
      rw [accepted]
      refine ⟨by simp [Checked.complaints], fun other member ⟨value', there, misfit⟩ => ?_⟩
      obtain rfl := List.mem_singleton.mp member
      cases found.symm.trans there
      cases fit.symm.trans misfit
    | false =>
      obtain ⟨complaints, refused, nonempty, below⟩ := exact.refuses value fit [key.name]
      have starts : ∀ complaint ∈ complaints, complaint.place.head? = some key.name := by
        intro complaint member
        obtain ⟨rest, parts⟩ := below complaint member
        rw [← parts]
        rfl
      rw [refused]
      constructor
      · intro complaint member
        exact ⟨key, by simp, ⟨value, found, fit⟩, starts complaint member⟩
      · intro other member _
        obtain ⟨complaint, member'⟩ := List.exists_mem_of_ne_nil complaints nonempty
        rw [List.mem_singleton.mp member]
        exact ⟨complaint, member', starts complaint member'⟩

/-- The check of a key that does not misfit gives its value, or the default. -/
theorem keyOr_of_not_misfits (exact : check.Exact shown key.fits) (default : α)
    (usual : shown default = key.default) (fit : ¬key.Misfits fields) :
    ∃ result, keyOr fields key.name default check = .ok result ∧
      shown result = (fields.get? key.name).getD key.default := by
  cases found : fields.get? key.name with
  | none => exact ⟨default, by rw [keyOr, found], usual⟩
  | some value =>
    have shaped : key.fits value = true := by
      by_contra misfit
      exact fit ⟨value, found, by simpa using misfit⟩
    obtain ⟨result, same, accepted⟩ := exact.accepts value shaped
    exact ⟨result, by rw [keyOr, found]; exact accepted _, same⟩

/-! ## Sections -/

/-- The check of a section follows its keys. -/
structure Lawful (check : Fields → Checked α) (shown : α → Value) (keys : List SettingsKey) :
    Prop where
  /-- Fields that all fit are accepted. The settings have exactly the keys, with their values or
  their defaults. -/
  accepts : ∀ fields, (∀ key ∈ keys, ¬key.Misfits fields) →
    ∃ settings, check fields = .ok settings ∧
      shown settings = table keys fun key => (fields.get? key.name).getD key.default
  /-- The complaints are about the keys that do not fit. -/
  blames : ∀ fields, Blames fields keys (check fields).complaints
  /-- No two keys have the same name. -/
  distinct : (keys.map SettingsKey.name).Nodup
  /-- The default of every key fits. -/
  sane : ∀ key ∈ keys, key.fits key.default = true
  /-- Settings are told apart by their keys. -/
  shown_inj : ∀ one other, shown one = shown other → one = other

end Settings

namespace Settings.Lawful

variable {α : Type} {check : Fields → Checked α} {shown : α → Value} {keys : List SettingsKey}
  {fields : Fields} {complaints : List Complaint} {key : SettingsKey}

/-- The complaints of a check that fails. -/
theorem blames_of_bad (lawful : Lawful check shown keys)
    (refused : check fields = .bad complaints) : Blames fields keys complaints := by
  have blames := lawful.blames fields
  rw [refused] at blames
  exact blames

/-- A key at which a complaint begins is dropped, and a key that fits is kept. -/
theorem get?_spared (lawful : Lawful check shown keys) (refused : check fields = .bad complaints)
    (inside : key ∈ keys) :
    (key.Misfits fields → (spared fields complaints).get? key.name = none) ∧
      (¬key.Misfits fields → (spared fields complaints).get? key.name = fields.get? key.name) := by
  have blames := lawful.blames_of_bad refused
  rw [spared, Fields.get?_filter fun own =>
    complaints.all fun complaint => complaint.place.head? != some own]
  constructor
  · intro misfit
    obtain ⟨complaint, member, about⟩ := blames.complete key inside misfit
    apply if_neg
    intro all
    have other := List.all_eq_true.mp all complaint member
    simp [about] at other
  · intro fit
    apply if_pos
    apply List.all_eq_true.mpr
    intro complaint member
    obtain ⟨other, inside', misfit, about⟩ := blames.justified complaint member
    have differ : other.name ≠ key.name := by
      intro same
      rw [List.inj_on_of_nodup_map lawful.distinct inside' inside same] at misfit
      exact fit misfit
    simp [about, differ]

/-- The second check succeeds, and its settings have the chosen value for every key. -/
theorem check_spared (lawful : Lawful check shown keys) (refused : check fields = .bad complaints) :
    ∃ settings, check (spared fields complaints) = .ok settings ∧
      shown settings = table keys (·.chosen (.record fields)) := by
  have fit : ∀ key ∈ keys, ¬key.Misfits (spared fields complaints) := by
    rintro key inside ⟨value, found, unshaped⟩
    by_cases misfit : key.Misfits fields
    · cases ((lawful.get?_spared refused inside).1 misfit).symm.trans found
    · have kept := (lawful.get?_spared refused inside).2 misfit
      exact misfit ⟨value, kept.symm.trans found, unshaped⟩
  obtain ⟨settings, accepted, values⟩ := lawful.accepts _ fit
  refine ⟨settings, accepted, values.trans (table_congr fun key inside => ?_)⟩
  by_cases misfit : key.Misfits fields
  · rw [(lawful.get?_spared refused inside).1 misfit, SettingsKey.chosen_of_misfits misfit]
    rfl
  · rw [(lawful.get?_spared refused inside).2 misfit, SettingsKey.chosen_of_not_misfits misfit]

/-- Fields that all fit are loaded without a warning, with the chosen value for every key. -/
theorem loadSection_of_fits (lawful : Lawful check shown keys) (name : String)
    (fit : ∀ key ∈ keys, ¬key.Misfits fields) :
    ∃ settings, loadSection name check (.record fields) = (.ok settings, []) ∧
      shown settings = table keys (·.chosen (.record fields)) := by
  obtain ⟨settings, accepted, values⟩ := lawful.accepts fields fit
  refine ⟨settings, by rw [loadSection, accepted], values.trans (table_congr fun key inside => ?_)⟩
  rw [SettingsKey.chosen_of_not_misfits (fit key inside)]

/-- Fields that do not all fit are loaded with warnings, with the chosen value for every key. -/
theorem loadSection_of_misfits (lawful : Lawful check shown keys) (name : String)
    (inside : key ∈ keys) (misfit : key.Misfits fields) :
    ∃ settings warnings, loadSection name check (.record fields) = (.ok settings, warnings) ∧
      warnings ≠ [] ∧ shown settings = table keys (·.chosen (.record fields)) := by
  obtain ⟨complaint, member, _⟩ := (lawful.blames fields).complete key inside misfit
  cases verdict : check fields with
  | ok settings =>
    rw [verdict] at member
    cases member
  | bad complaints =>
    rw [verdict] at member
    obtain ⟨settings, accepted, values⟩ := lawful.check_spared verdict
    refine ⟨settings, complaints.map (.misfit name), ?_, ?_, values⟩
    · simp only [loadSection, verdict, accepted]
    · intro silent
      rw [List.map_eq_nil_iff.mp silent] at member
      cases member

/-- What is no table is loaded with a warning, and every key has its default. -/
theorem loadSection_of_noTable (lawful : Lawful check shown keys) (name : String)
    {overrides : Value} (noTable : overrides.record? = none) :
    ∃ settings, loadSection name check overrides = (.ok settings, [.notTable name]) ∧
      shown settings = table keys (·.chosen overrides) := by
  have nothing : ∀ key ∈ keys, ¬key.Misfits [] := by
    rintro key _ ⟨value, found, _⟩
    cases found
  obtain ⟨settings, accepted, values⟩ := lawful.accepts [] nothing
  have loaded : loadSection name check overrides = (check [], [.notTable name]) := by
    cases overrides with
    | record fields => cases noTable
    | _ => rfl
  refine ⟨settings, by rw [loaded, accepted], values.trans (table_congr fun key _ => ?_)⟩
  rw [SettingsKey.chosen, Value.under?, noTable]
  rfl

/-- A section is loaded whatever it is, with the chosen value for every key. There is no warning
exactly when the section is a table whose keys all fit. -/
theorem loadSection_eq (lawful : Lawful check shown keys) (name : String) (overrides : Value) :
    ∃ settings warnings, loadSection name check overrides = (.ok settings, warnings) ∧
      shown settings = table keys (·.chosen overrides) ∧
      (warnings = [] ↔ FitsKeys keys overrides) := by
  cases table : overrides.record? with
  | none =>
    obtain ⟨settings, loaded, values⟩ := lawful.loadSection_of_noTable name table
    refine ⟨settings, [.notTable name], loaded, values, by simp, ?_⟩
    rintro ⟨fields, rfl, _⟩
    cases table
  | some fields =>
    obtain rfl : overrides = .record fields := Value.record?_eq_some.mp table
    by_cases fit : ∀ key ∈ keys, ¬key.Misfits fields
    · obtain ⟨settings, loaded, values⟩ := lawful.loadSection_of_fits name fit
      exact ⟨settings, [], loaded, values, fun _ => ⟨fields, rfl, fit⟩, fun _ => rfl⟩
    · have some : ∃ key ∈ keys, key.Misfits fields := by simpa using fit
      obtain ⟨key, inside, misfit⟩ := some
      obtain ⟨settings, warnings, loaded, warned, values⟩ :=
        lawful.loadSection_of_misfits name inside misfit
      refine ⟨settings, warnings, loaded, values, fun silent => absurd silent warned, ?_⟩
      rintro ⟨_, same, all⟩
      obtain rfl := Value.record.inj same
      exact absurd all fit

/-- What a section gives is a table in which every key has its chosen value, so its keys fit. -/
theorem fitsKeys_chosen (lawful : Lawful check shown keys) (overrides : Value) :
    FitsKeys keys (table keys (·.chosen overrides)) ∧
      ∀ key ∈ keys, key.chosen (table keys (·.chosen overrides)) = key.chosen overrides := by
  have distinct : ((keys.map fun key => (key.name, key.chosen overrides)).map Prod.fst).Nodup := by
    rw [List.map_map]
    exact lawful.distinct
  have found : ∀ key ∈ keys, Fields.get? (keys.map fun key => (key.name, key.chosen overrides))
      key.name = some (key.chosen overrides) := fun key inside =>
    Fields.get?_of_mem distinct (List.mem_map_of_mem (f := fun key : SettingsKey =>
      (key.name, key.chosen overrides)) inside)
  have fit : ∀ key ∈ keys,
      ¬key.Misfits (keys.map fun key => (key.name, key.chosen overrides)) := by
    rintro key inside ⟨value, there, unshaped⟩
    obtain rfl := Option.some.inj ((found key inside).symm.trans there)
    cases (key.fits_chosen (lawful.sane key inside) overrides).symm.trans unshaped
  refine ⟨⟨_, rfl, fit⟩, fun key inside => ?_⟩
  rw [table, SettingsKey.chosen_of_not_misfits (fit key inside), found key inside]
  rfl

/-- What a section gives is loaded again as it is, without a warning. -/
theorem loadSection_again (lawful : Lawful check shown keys) (name : String) (overrides : Value)
    {settings : α} (values : shown settings = table keys (·.chosen overrides)) :
    loadSection name check (shown settings) = (.ok settings, []) := by
  rw [values]
  obtain ⟨⟨_, same, fit⟩, kept⟩ := lawful.fitsKeys_chosen overrides
  obtain rfl := Value.record.inj same
  obtain ⟨settings', loaded, values'⟩ := lawful.loadSection_of_fits name fit
  have equal : shown settings' = shown settings := by
    rw [values', values]
    exact table_congr kept
  rw [table, loaded, lawful.shown_inj _ _ equal]

/-- A section is loaded key by key, whatever it is, and what it gives is loaded again as it is. -/
theorem loads_key_by_key (lawful : Lawful check shown keys) (name : String) (overrides : Value) :
    let load := fun overrides => (loadSection name check overrides).map (shown <$> ·) id
    ∃ settings warnings, load overrides = (.ok settings, warnings) ∧
      settings = table keys (·.chosen overrides) ∧ (warnings = [] ↔ FitsKeys keys overrides) ∧
      load settings = (.ok settings, []) := by
  intro load
  obtain ⟨settings, warnings, loaded, values, silent⟩ := lawful.loadSection_eq name overrides
  have again := lawful.loadSection_again name overrides values
  refine ⟨shown settings, warnings, ?_, values, silent, ?_⟩
  · simp only [load, loaded]
    rfl
  · simp only [load, again]
    rfl

end Settings.Lawful

/-! ## The two sections -/

/-- A key whose values are integers that are not negative. -/
def SettingsKey.count (name : String) (default : Nat) : SettingsKey :=
  ⟨name, Value.isCount, .nat default⟩

/-- A key whose values are lists of texts. -/
def SettingsKey.texts (name : String) (default : List String) : SettingsKey :=
  ⟨name, Value.isListOf Value.isText, .texts default⟩

/-- The keys of the settings of reading. -/
def ReadSettings.keys : List SettingsKey :=
  [.count "context_lines" 5, .count "lines_above" 10, .count "lines_below" 10]

/-- The keys of the settings of searching. -/
def SearchSettings.keys : List SettingsKey := [.count "context" 3, .texts "skip_dirs" []]

namespace Settings

variable (rules : Rules) {fields : Fields}

/-- The complaints about a count are about its key. -/
theorem blames_count (fields : Fields) (name : String) (default : Nat) :
    Blames fields [.count name default] (keyOr fields name default rules.count).complaints :=
  blames_keyOr rules.count_strict.exact default

/-- A count that does not misfit is its value or its default. -/
theorem keyOr_count {name : String} {default : Nat}
    (fit : ¬(SettingsKey.count name default).Misfits fields) :
    ∃ number, keyOr fields name default rules.count = .ok number ∧
      .nat number = (fields.get? name).getD (.nat default) :=
  keyOr_of_not_misfits rules.count_strict.exact default rfl fit

/-- The complaints about texts are about their key. -/
theorem blames_texts (fields : Fields) (name : String) (default : List String) :
    Blames fields [.texts name default]
      (keyOr fields name default rules.texts).complaints :=
  blames_keyOr rules.texts_exact default

/-- Texts that do not misfit are their value or their default. -/
theorem keyOr_texts {name : String} {default : List String}
    (fit : ¬(SettingsKey.texts name default).Misfits fields) :
    ∃ contents, keyOr fields name default rules.texts = .ok contents ∧
      .texts contents = (fields.get? name).getD (.texts default) :=
  keyOr_of_not_misfits rules.texts_exact default rfl fit

end Settings

open Settings

/-- The settings of reading follow their keys. -/
theorem ReadSettings.lawful (rules : Rules) : Lawful (check rules) value keys where
  accepts fields fit := by
    obtain ⟨context, first, shown⟩ :=
      keyOr_count rules (fit (.count "context_lines" 5) (by simp [keys]))
    obtain ⟨above, second, shown'⟩ :=
      keyOr_count rules (fit (.count "lines_above" 10) (by simp [keys]))
    obtain ⟨below, third, shown''⟩ :=
      keyOr_count rules (fit (.count "lines_below" 10) (by simp [keys]))
    refine ⟨⟨context, above, below⟩, ?_, ?_⟩
    · rw [check, first, second, third]
      rfl
    · rw [value, shown, shown', shown'']
      rfl
  blames fields := by
    rw [check, Checked.complaints_seq, Checked.complaints_seq, Checked.complaints_map]
    exact ((blames_count rules fields "context_lines" 5).append
      (blames_count rules fields "lines_above" 10)).append
        (blames_count rules fields "lines_below" 10)
  distinct := by decide
  sane := by decide
  shown_inj one other same := by
    cases one
    cases other
    simpa [value, Value.nat_inj] using same

/-- The settings of searching follow their keys. -/
theorem SearchSettings.lawful (rules : Rules) : Lawful (check rules) value keys where
  accepts fields fit := by
    obtain ⟨context, first, shown⟩ := keyOr_count rules (fit (.count "context" 3) (by simp [keys]))
    obtain ⟨skipped, second, shown'⟩ :=
      keyOr_texts rules (fit (.texts "skip_dirs" []) (by simp [keys]))
    refine ⟨⟨context, skipped⟩, ?_, ?_⟩
    · rw [check, first, second]
      rfl
    · rw [value, shown, shown']
      rfl
  blames fields := by
    rw [check, Checked.complaints_seq, Checked.complaints_map]
    exact (blames_count rules fields "context" 3).append (blames_texts rules fields "skip_dirs" [])
  distinct := by decide
  sane := by decide
  shown_inj one other same := by
    cases one
    cases other
    simpa [value, Value.nat_inj, Value.texts_inj] using same

/-- A section of a settings file. -/
inductive SettingsSection where
  /-- The settings of reading. -/
  | read
  /-- The settings of searching. -/
  | search
  deriving DecidableEq, Repr

namespace SettingsSection

/-- The keys of a section. -/
def keys : SettingsSection → List SettingsKey
  | read => ReadSettings.keys
  | search => SearchSettings.keys

/-- What a section gives by some rules: the settings in results, or what is still wrong with it when
it is checked again, and the warnings. -/
def load (part : SettingsSection) (rules : Rules) (overrides : Value) :
    Checked Value × List Warning :=
  match part with
  | read => (ReadSettings.load rules overrides).map (ReadSettings.value <$> ·) id
  | search => (SearchSettings.load rules overrides).map (SearchSettings.value <$> ·) id

end SettingsSection

/-- A section is loaded key by key, whatever it is. The checks give settings, and these have exactly
the keys of the section: each has its own value in the section when that fits, and its default
otherwise. There is no warning exactly when the section is a table whose keys all fit; so the
settings are loaded again as they are, without a warning. -/
theorem section_loads_key_by_key (part : SettingsSection) (rules : Rules) (overrides : Value) :
    ∃ settings warnings, part.load rules overrides = (.ok settings, warnings) ∧
      settings = table part.keys (·.chosen overrides) ∧
      (warnings = [] ↔ FitsKeys part.keys overrides) ∧
      part.load rules settings = (.ok settings, []) := by
  cases part with
  | read => exact (ReadSettings.lawful rules).loads_key_by_key "read" overrides
  | search => exact (SearchSettings.lawful rules).loads_key_by_key "search" overrides

/-- A key with two items that do not fit has two warnings and its default; the other key keeps its
value. -/
example : SettingsSection.search.load .strict
      (.record [("context", .int 7), ("skip_dirs", .list [.int 1, .text "a", .null])]) =
    (.ok (.record [("context", .int 7), ("skip_dirs", .list [])]),
      [.misfit "search" ⟨["skip_dirs", "0"], .notText⟩,
        .misfit "search" ⟨["skip_dirs", "2"], .notText⟩]) := by
  rfl

end SourceLens
