import SourceLens.Main.Toml
import SourceLens.Proofs.Settings.Sections
import SourceLens.Proofs.Text.Utf8

/-!
# Loading settings

Settings are loaded from the bytes of a file. Whatever is loaded has both sections with all their
keys (`Settings.fitsSchema_value`), and the sections of a table are always loaded
(`Settings.exists_ofSections`). A file that is absent, that the system refuses to read or whose text
is malformed gives the defaults. When the reader of tables keeps its promise, the one fault that is
not made up for is that of bytes that are not text: they leave the program without settings
(`settings_load_iff`).
-/
namespace SourceLens

namespace Settings

variable {rules : Rules} {reader : TableReader} {text : String} {bytes : ByteArray}

/-! ## The shape of settings -/

/-- A whole number that is not negative. -/
def IsCount (value : Value) : Prop := ∃ number : Int, value = .int number ∧ 0 ≤ number

/-- A list of texts. -/
def IsTexts (value : Value) : Prop :=
  ∃ items : List Value, value = .list items ∧ ∀ item ∈ items, ∃ content, item = .text content

/-- Both sections with all their keys and nothing else, sizes that are not negative, and texts as
the names of directories. -/
def FitsSchema (config : Value) : Prop :=
  ∃ contextLines linesAbove linesBelow context skipped : Value,
    config = .record
      [("read", .record [("context_lines", contextLines), ("lines_above", linesAbove),
          ("lines_below", linesBelow)]),
        ("search", .record [("context", context), ("skip_dirs", skipped)])] ∧
      (∀ size ∈ [contextLines, linesAbove, linesBelow, context], IsCount size) ∧ IsTexts skipped

/-- Settings have the shape of settings. -/
theorem fitsSchema_value (settings : Settings) : FitsSchema settings.value := by
  have count : ∀ number : Nat, IsCount (.nat number) := fun number => ⟨number, rfl, by omega⟩
  have texts : IsTexts (.texts settings.search.skipDirectories) := by
    refine ⟨_, rfl, fun item inside => ?_⟩
    obtain ⟨content, _, rfl⟩ := List.mem_map.mp inside
    exact ⟨content, rfl⟩
  exact ⟨_, _, _, _, _, rfl, by simp [count], texts⟩

/-! ## Tables -/

/-- A section that follows its keys gives settings, whatever it is. -/
theorem exists_sectionOf {α : Type} {check : Fields → Checked α} {shown : α → Value}
    {keys : List SettingsKey} (lawful : Lawful check shown keys) (sections : Fields)
    (name : String) (default : α) :
    ∃ loaded, sectionOf sections name default (loadSection name check) = .ok loaded := by
  unfold sectionOf
  cases sections.get? name with
  | none => exact ⟨_, rfl⟩
  | some overrides =>
    obtain ⟨settings, warnings, loaded, _⟩ := lawful.loadSection_eq name overrides
    simp only [loaded]
    exact ⟨_, rfl⟩

/-- A table of sections gives settings, whatever it is. -/
theorem exists_ofSections (rules : Rules) (sections : Fields) :
    ∃ loaded, ofSections rules sections = .ok loaded := by
  obtain ⟨⟨read, readWarnings⟩, first⟩ :
      ∃ loaded, sectionOf sections "read" {} (ReadSettings.load rules) = .ok loaded :=
    exists_sectionOf (ReadSettings.lawful rules) sections "read" {}
  obtain ⟨⟨search, searchWarnings⟩, second⟩ :
      ∃ loaded, sectionOf sections "search" {} (SearchSettings.load rules) = .ok loaded :=
    exists_sectionOf (SearchSettings.lawful rules) sections "search" {}
  refine ⟨(⟨read, search⟩, readWarnings ++ searchWarnings), ?_⟩
  simp only [ofSections, first, second, bind, Except.bind]
  rfl

/-! ## Texts and bytes -/

/-- The bytes of a text give the settings of the text. -/
theorem load_toUTF8 (rules : Rules) (reader : TableReader) (text : String) :
    load rules reader (.written text.toUTF8) = ofText rules reader text := by
  have decoded : Text.Utf8.decode text.toUTF8 = .ok text := Text.Utf8.decode_eq_ok_iff.mpr rfl
  simp only [load, decoded]

/-- A text gives settings when its reader keeps its promise. -/
theorem exists_ofText (documented : reader.Documented) (text : String) :
    ∃ loaded, ofText rules reader text = .ok loaded := by
  unfold ofText
  rcases documented (unifyLineEnds text.toList) with ⟨sections, read⟩ | malformed
  · rw [read]
    exact exists_ofSections rules sections
  · rw [malformed]
    exact ⟨_, rfl⟩

/-- A malformed text gives the defaults and a warning. -/
theorem load_of_malformed (malformed : reader (unifyLineEnds text.toList) = .error .malformed) :
    load rules reader (.written text.toUTF8) = .ok ({}, [.unreadable]) := by
  rw [load_toUTF8, ofText, malformed]

/-- Bytes that are not text give no settings. -/
theorem load_of_illFormed (rules : Rules) (reader : TableReader)
    (illFormed : ¬Text.Utf8.WellFormed bytes.data.toList) :
    ∃ fault, load rules reader (.written bytes) = .error (.encoding fault) := by
  cases decoded : Text.Utf8.decode bytes with
  | ok text => exact absurd (Text.Utf8.exists_decode_iff.mp ⟨text, decoded⟩) illFormed
  | error fault => exact ⟨fault, by simp only [load, decoded]⟩

/-- The bytes of a file give settings exactly when they are text. -/
theorem exists_load_iff (documented : reader.Documented) :
    (∃ loaded, load rules reader (.written bytes) = .ok loaded) ↔
      Text.Utf8.WellFormed bytes.data.toList := by
  constructor
  · rintro ⟨loaded, done⟩
    by_contra illFormed
    obtain ⟨fault, failed⟩ := load_of_illFormed rules reader illFormed
    cases failed.symm.trans done
  · intro wellFormed
    obtain ⟨text, decoded⟩ := Text.Utf8.exists_decode_iff.mpr wellFormed
    obtain rfl := Text.Utf8.decode_eq_ok_iff.mp decoded
    rw [load_toUTF8]
    exact exists_ofText documented text

end Settings

/-- With a reader of tables that reads every text as a table or finds it malformed, settings are
loaded exactly unless there is a file whose bytes are not text. They have the shape of settings, and
they are the defaults when the file is absent, when the system refuses to read it and when its text
is malformed. -/
theorem settings_load_iff (rules : Rules) (reader : TableReader) (documented : reader.Documented)
    (file : SettingsFile) :
    ((∃ loaded, Settings.load rules reader file = .ok loaded) ↔
        ∀ bytes, file = .written bytes → Text.Utf8.WellFormed bytes.data.toList) ∧
      (∀ settings warnings, Settings.load rules reader file = .ok (settings, warnings) →
        Settings.FitsSchema settings.value) ∧
      (file = .absent → Settings.load rules reader file = .ok ({}, [])) ∧
      (∀ error, file = .refused error →
        Settings.load rules reader file = .ok ({}, [.unreadable])) ∧
      (∀ text : String, file = .written text.toUTF8 →
        reader (Settings.unifyLineEnds text.toList) = .error .malformed →
        Settings.load rules reader file = .ok ({}, [.unreadable])) := by
  refine ⟨?_, fun settings _ _ => settings.fitsSchema_value, ?_, ?_, ?_⟩
  · cases file with
    | absent | refused => simp [Settings.load]
    | written bytes => simpa using Settings.exists_load_iff documented
  · rintro rfl
    rfl
  · rintro error rfl
    rfl
  · rintro text rfl malformed
    exact Settings.load_of_malformed malformed

/-- The reader of settings documents, with whatever ends its reading taken for a malformed text. -/
def promisedReader : TableReader := fun text => (Toml.parse text).mapError fun _ => .malformed

/-- The reader keeps its promise. -/
theorem documented_promisedReader : promisedReader.Documented := by
  intro text
  unfold promisedReader
  cases Toml.parse text with
  | ok sections => exact .inl ⟨sections, rfl⟩
  | error fault => exact .inr rfl

/-- The text of a section that is not closed is malformed. -/
theorem promisedReader_unclosed :
    promisedReader (Settings.unifyLineEnds "[read".toList) = .error .malformed := by
  rcases documented_promisedReader (Settings.unifyLineEnds "[read".toList) with
    ⟨sections, read⟩ | malformed
  · have none : (promisedReader (Settings.unifyLineEnds "[read".toList)).toOption = none := by
      rw [← Option.isNone_iff_eq_none]
      decide +kernel
    rw [read] at none
    cases none
  · exact malformed

/-- A file with a section is loaded; a section that is not closed gives the defaults, and a byte
that begins no character gives no settings. -/
theorem settings_load_iff_samples : promisedReader.Documented ∧
    (Settings.load .strict promisedReader
        (.written "[read]\nlines_above = 2\n".toUTF8)).toOption =
      some ({ read := { linesAbove := 2 } }, []) ∧
    Settings.load .strict promisedReader (.written "[read".toUTF8) = .ok ({}, [.unreadable]) ∧
    ¬∃ loaded, Settings.load .strict promisedReader (.written ⟨#[0xff]⟩) = .ok loaded := by
  have malformed := settings_load_iff .strict promisedReader documented_promisedReader
    (.written "[read".toUTF8)
  have broken := settings_load_iff .strict promisedReader documented_promisedReader
    (.written ⟨#[0xff]⟩)
  refine ⟨documented_promisedReader, by decide +kernel,
    malformed.2.2.2.2 "[read" rfl promisedReader_unclosed, ?_⟩
  · rw [broken.1]
    intro wellFormed
    obtain ⟨text, decoded⟩ := Text.Utf8.exists_decode_iff.mpr (wellFormed _ rfl)
    cases decoded

/-- A byte that begins no character leaves the program without settings, not with the defaults. -/
theorem undecodable_settings_not_loaded : promisedReader.Documented ∧
    (∃ fault, Settings.load .strict promisedReader (.written ⟨#[0xff]⟩) =
      .error (.encoding fault)) ∧
    ∀ warnings, Settings.load .strict promisedReader (.written ⟨#[0xff]⟩) ≠
      .ok ({}, warnings) := by
  have failed : ∃ fault, Settings.load .strict promisedReader (.written ⟨#[0xff]⟩) =
      .error (.encoding fault) := ⟨_, rfl⟩
  refine ⟨documented_promisedReader, failed, fun warnings loaded => ?_⟩
  obtain ⟨fault, failed⟩ := failed
  cases failed.symm.trans loaded

end SourceLens
