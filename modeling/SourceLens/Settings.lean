import SourceLens.Check.Rules
import SourceLens.FileSystem

/-!
# Settings

The settings of reading and searching. A settings file has a section for each; a value that does
not fit its key is reported by a warning and dropped, and the rest of the section is checked again,
so that the key has its default. How the text of a file is read as a table of sections is not the
program's own business, so the reader of tables is a parameter (`TableReader`).
-/
namespace SourceLens

/-- A warning about a settings file. -/
inductive Warning where
  /-- The file cannot be read as settings. -/
  | unreadable
  /-- A section is not a table. -/
  | notTable (name : String)
  /-- A value does not fit. -/
  | misfit (name : String) (complaint : Complaint)
  deriving DecidableEq, Repr

/-- The warning in words, about the file at a path. -/
def Warning.message (path : String) : Warning → String
  | unreadable => s!"Ignoring unreadable config {path}"
  | notTable name => s!"Ignoring [{name}] in {path}: expected a table"
  | misfit name complaint =>
    s!"Ignoring {name}.{complaint.location} in {path}: {complaint.grievance.message}"

/-- Why a text is not read as a table. -/
inductive TableError where
  /-- The text breaks the rules of tables. -/
  | malformed
  /-- The reader fails otherwise, with an error of a kind and its words. -/
  | failed (kind words : String)
  deriving DecidableEq, Repr

/-- A reader of texts as tables of sections. -/
abbrev TableReader : Type := List Char → Except TableError Fields

/-- What a reader of tables promises: every text is read as a table or is malformed. -/
def TableReader.Documented (reader : TableReader) : Prop :=
  ∀ text, (∃ sections, reader text = .ok sections) ∨ reader text = .error .malformed

/-- Why a settings file gives no settings, not even the defaults. -/
inductive SettingsError where
  /-- The bytes are not text. -/
  | encoding (fault : Text.Utf8.Fault)
  /-- The reader of tables fails on the text. -/
  | unread (kind words : String)
  /-- A section does not fit when it is checked again. -/
  | misfit (complaints : List Complaint)
  deriving DecidableEq, Repr

/-- The settings of reading. -/
structure ReadSettings where
  /-- Lines of context around a target. -/
  contextLines : Nat := 5
  /-- Lines shown above a line. -/
  linesAbove : Nat := 10
  /-- Lines shown below a line. -/
  linesBelow : Nat := 10
  deriving DecidableEq, Repr

/-- The settings of searching. -/
structure SearchSettings where
  /-- Lines of context around a match. -/
  context : Nat := 3
  /-- Further directories that are never searched. -/
  skipDirectories : List String := []
  deriving DecidableEq, Repr

/-- All settings. -/
structure Settings where
  /-- The settings of reading. -/
  read : ReadSettings := {}
  /-- The settings of searching. -/
  search : SearchSettings := {}
  deriving DecidableEq, Repr

namespace Settings

/-- The value of a key of a section, or the default when the section does not have the key. -/
def keyOr {α : Type} (fields : Fields) (key : String) (default : α) (check : Check α) : Checked α :=
  match fields.get? key with
  | none => .ok default
  | some value => check [key] value

/-- The fields of a section at which no complaint begins. -/
def spared (fields : Fields) (complaints : List Complaint) : Fields :=
  fields.filter fun field => complaints.all fun complaint => complaint.place.head? != some field.1

/-- Load a section that is checked as a whole. When something does not fit, every complaint becomes
a warning, and the fields without complaints are checked once more; the second check is the last. -/
def loadSection {α : Type} (name : String) (check : Fields → Checked α) :
    Value → Checked α × List Warning
  | .record fields =>
    match check fields with
    | .ok settings => (.ok settings, [])
    | .bad complaints => (check (spared fields complaints), complaints.map (.misfit name))
  | _ => (check [], [.notTable name])

end Settings

/-- Check the fields of a section of settings of reading. -/
def ReadSettings.check (rules : Rules) (fields : Fields) : Checked ReadSettings :=
  let defaults : ReadSettings := {}
  ReadSettings.mk
    <$> Settings.keyOr fields "context_lines" defaults.contextLines rules.count
    <*> Settings.keyOr fields "lines_above" defaults.linesAbove rules.count
    <*> Settings.keyOr fields "lines_below" defaults.linesBelow rules.count

/-- The settings of reading in a section. -/
def ReadSettings.load (rules : Rules) (overrides : Value) : Checked ReadSettings × List Warning :=
  Settings.loadSection "read" (check rules) overrides

/-- Check the fields of a section of settings of searching. -/
def SearchSettings.check (rules : Rules) (fields : Fields) : Checked SearchSettings :=
  let defaults : SearchSettings := {}
  SearchSettings.mk
    <$> Settings.keyOr fields "context" defaults.context rules.count
    <*> Settings.keyOr fields "skip_dirs" defaults.skipDirectories rules.texts

/-- The settings of searching in a section. -/
def SearchSettings.load (rules : Rules) (overrides : Value) :
    Checked SearchSettings × List Warning :=
  Settings.loadSection "search" (check rules) overrides

/-- A settings file. -/
inductive SettingsFile where
  /-- There is none. -/
  | absent
  /-- The system refuses to read it. -/
  | refused (error : SystemError)
  /-- It has these bytes. -/
  | written (content : ByteArray)

namespace Settings

/-- A text with a line feed for every line end: a carriage return counts as one, alone or before a
line feed. -/
def unifyLineEnds : List Char → List Char
  | [] => []
  | ['\r'] => ['\n']
  | '\r' :: '\n' :: rest => '\n' :: unifyLineEnds rest
  | c :: rest => (if c = '\r' then '\n' else c) :: unifyLineEnds rest

/-- What one section gives: the settings that it is loaded as, or the defaults where it is absent. A
section that does not fit when it is checked again ends the loading. -/
def sectionOf {α : Type} (sections : Fields) (name : String) (default : α)
    (load : Value → Checked α × List Warning) : Except SettingsError (α × List Warning) :=
  match sections.get? name with
  | none => .ok (default, [])
  | some overrides =>
    match load overrides with
    | (.ok settings, warnings) => .ok (settings, warnings)
    | (.bad complaints, _) => .error (.misfit complaints)

/-- The settings in a table of sections. -/
def ofSections (rules : Rules) (sections : Fields) :
    Except SettingsError (Settings × List Warning) := do
  let (read, readWarnings) ← sectionOf sections "read" {} (ReadSettings.load rules)
  let (search, searchWarnings) ← sectionOf sections "search" {} (SearchSettings.load rules)
  return (⟨read, search⟩, readWarnings ++ searchWarnings)

/-- The settings in the text of a settings file. A text that breaks the rules of tables is ignored
with a warning. -/
def ofText (rules : Rules) (reader : TableReader) (text : String) :
    Except SettingsError (Settings × List Warning) :=
  match reader (unifyLineEnds text.toList) with
  | .ok sections => ofSections rules sections
  | .error .malformed => .ok ({}, [.unreadable])
  | .error (.failed kind words) => .error (.unread kind words)

/-- The settings in a settings file. Without a file there are the defaults, and a file that cannot
be read is ignored with a warning. -/
def load (rules : Rules) (reader : TableReader) :
    SettingsFile → Except SettingsError (Settings × List Warning)
  | .absent => .ok ({}, [])
  | .refused _ => .ok ({}, [.unreadable])
  | .written content =>
    match Text.Utf8.decode content with
    | .error fault => .error (.encoding fault)
    | .ok text => ofText rules reader text

end Settings

/-- The settings of reading in results. -/
def ReadSettings.value (settings : ReadSettings) : Value :=
  .record [("context_lines", .nat settings.contextLines), ("lines_above", .nat settings.linesAbove),
    ("lines_below", .nat settings.linesBelow)]

/-- The settings of searching in results. -/
def SearchSettings.value (settings : SearchSettings) : Value :=
  .record [("context", .nat settings.context), ("skip_dirs", .texts settings.skipDirectories)]

/-- All settings in results. -/
def Settings.value (settings : Settings) : Value :=
  .record [("read", settings.read.value), ("search", settings.search.value)]

end SourceLens
