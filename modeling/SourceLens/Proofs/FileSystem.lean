import SourceLens.FileSystem
import SourceLens.Proofs.Path

/-!
# Sound file systems

In a sound file system every entry has a name that the system can look up, and no two entries of a
directory have the same name. Following a path only leads to sound directories, also by two dots and
through links, because every directory on the way back to the root is sound as well
(`Sound.of_locate`). A path can wind: two dots lead back, so paths of any length lead to one
directory (`find_winding`).
-/
namespace SourceLens

/-- An entry can have the name. -/
structure FileName (name : String) : Prop extends Path.PlainName name where
  /-- It does not stand for the directory above. -/
  ne_above : name ≠ ".."
  /-- It has no null character. -/
  no_null : '\x00' ∉ name.toList
  /-- The system can look it up. -/
  short : name.utf8ByteSize ≤ FileSystem.nameLimit

/-- Whether an entry can have a name can be checked. -/
instance (name : String) : Decidable (FileName name) :=
  decidable_of_iff
    ((name ≠ "" ∧ name ≠ "." ∧ '/' ∉ name.toList) ∧ name ≠ ".." ∧ '\x00' ∉ name.toList ∧
      name.utf8ByteSize ≤ FileSystem.nameLimit)
    ⟨fun ⟨⟨notEmpty, notDot, noSlash⟩, notAbove, noNull, short⟩ =>
        ⟨⟨notEmpty, notDot, noSlash⟩, notAbove, noNull, short⟩,
      fun ⟨⟨notEmpty, notDot, noSlash⟩, notAbove, noNull, short⟩ =>
        ⟨⟨notEmpty, notDot, noSlash⟩, notAbove, noNull, short⟩⟩

namespace Entry

/-- The entries in an entry, none when it is no directory. -/
def entries : Entry → List Entry
  | directory _ entries => entries
  | _ => []

/-- Some entries can stand in one directory, and so can those in each of them. -/
inductive Sound : List Entry → Prop where
  /-- The names can be looked up and differ, and all is sound below. -/
  | intro {entries : List Entry} (named : ∀ entry ∈ entries, FileName entry.name)
    (distinct : entries.Pairwise fun left right => left.name ≠ right.name)
    (below : ∀ entry ∈ entries, Sound entry.entries) : Sound entries

namespace Sound

variable {entries : List Entry} {entry : Entry}

/-- An empty directory is sound. -/
theorem nil : Sound [] := ⟨by simp, .nil, by simp⟩

/-- Files with distinct names that can be looked up make a sound directory. -/
theorem of_files {files : List (String × ByteArray)} (named : ∀ file ∈ files, FileName file.1)
    (distinct : files.Pairwise fun left right => left.1 ≠ right.1) :
    Sound (files.map fun file => .file file.1 file.2) := by
  refine ⟨?_, List.pairwise_map.mpr distinct, ?_⟩
  · intro entry inside
    obtain ⟨file, listed, rfl⟩ := List.mem_map.mp inside
    exact named file listed
  · intro entry inside
    obtain ⟨file, _, rfl⟩ := List.mem_map.mp inside
    exact nil

/-- A directory alone is sound when it can have its name and is sound inside. -/
theorem of_directory {name : String} (named : FileName name) (inside : Sound entries) :
    Sound [.directory name entries] := by
  refine ⟨?_, List.pairwise_singleton _ _, ?_⟩
  · intro entry member
    obtain rfl := List.mem_singleton.mp member
    exact named
  · intro entry member
    obtain rfl := List.mem_singleton.mp member
    exact inside

/-- The entries of a sound directory have names that can be looked up. -/
theorem fileName (sound : Sound entries) (inside : entry ∈ entries) : FileName entry.name := by
  obtain ⟨named, _, _⟩ := sound
  exact named entry inside

/-- The directories in a sound one are sound. -/
theorem of_mem (sound : Sound entries) (inside : entry ∈ entries) : Sound entry.entries := by
  obtain ⟨_, _, below⟩ := sound
  exact below entry inside

/-- An entry of a sound directory is found by its name. -/
theorem find?_eq (sound : Sound entries) (inside : entry ∈ entries) :
    entries.find? (·.name == entry.name) = some entry := by
  obtain ⟨-, distinct, -⟩ := sound
  induction entries with
  | nil => simp at inside
  | cons first rest ih =>
    obtain ⟨differs, distinct⟩ := List.pairwise_cons.mp distinct
    rcases List.mem_cons.mp inside with rfl | later
    · simp
    · rw [List.find?_cons_of_neg (by simpa using differs entry later)]
      exact ih later distinct

/-- Entries of a sound directory with one name are one entry. -/
theorem eq_of_name_eq (sound : Entry.Sound entries) {other : Entry} (inside : entry ∈ entries)
    (beside : other ∈ entries) (same : entry.name = other.name) : entry = other := by
  have found := sound.find?_eq inside
  rw [same, sound.find?_eq beside] at found
  exact (Option.some.inj found).symm

end Sound

end Entry

/-- The entry and the directories around it are sound. -/
def Position.Sound (position : Position) : Prop :=
  ∀ entry ∈ position.entry :: position.above, Entry.Sound entry.entries

namespace Position

variable {position : Position} {entry : Entry}

/-- The entry at a sound position is sound. -/
theorem Sound.innermost (sound : position.Sound) : Entry.Sound position.entry.entries :=
  sound position.entry List.mem_cons_self

/-- The directory above is sound. -/
theorem Sound.parent (sound : position.Sound) : position.parent.Sound := by
  unfold Position.parent
  split
  · exact sound
  · next directory further around =>
    intro other member
    exact sound other (List.mem_cons_of_mem _ (around ▸ member))

/-- An entry of a sound directory is at a sound position. -/
theorem Sound.enter (sound : position.Sound) (inside : entry ∈ position.entry.entries) :
    (position.enter entry).Sound := by
  intro other member
  rcases List.mem_cons.mp member with rfl | around
  · exact sound.innermost.of_mem inside
  · exact sound other around

/-- What was entered is left by two dots. -/
@[simp]
theorem parent_enter (position : Position) (entry : Entry) :
    (position.enter entry).parent = position := rfl

end Position

namespace FileSystem

variable {files : FileSystem} {path : Path} {here position : Position} {entry : Entry} {way : Way}
  {names : List String}

/-- The working directory and the directories around it are sound. -/
def Sound (files : FileSystem) : Prop := files.working.Sound

/-- Files are sound when those of the working directory are and it is the root. -/
theorem sound_of_entries {entries : List Entry} (sound : Entry.Sound entries) :
    Sound { entries } := by
  intro entry member
  obtain rfl := List.mem_singleton.mp member
  exact sound

/-- The position where a way stops, or the directory of the link where it turns. -/
def Way.stop : Way → Position
  | arrives position => position
  | turns directory _ _ => directory

/-- A name leads on from a directory: a dot stays, two dots lead to the directory above, and any
other name leads to an entry of the directory, where the way turns if it is a link. -/
theorem advance_cons {name : String} (led : files.advance here (name :: names) = .ok way) :
    (name = "." ∧ files.advance here names = .ok way) ∨
      (name = ".." ∧ files.advance here.parent names = .ok way) ∨
      (∃ own target, .link own target ∈ here.entry.entries ∧ way = .turns here target names) ∨
      ∃ entry ∈ here.entry.entries, files.advance (here.enter entry) names = .ok way := by
  rw [advance] at led
  cases directory : here.entry with
  | directory own entries =>
    simp only [directory] at led
    split at led
    · cases led
    · by_cases dot : name = "."
      · exact .inl ⟨dot, by simpa [dot] using led⟩
      by_cases above : name = ".."
      · exact .inr (.inl ⟨above, by simpa [dot, above] using led⟩)
      simp only [dot, above, if_false] at led
      split at led
      · cases led
      · split at led
        · cases led
        · next own target found =>
          have inside := List.mem_of_find?_eq_some found
          exact .inr (.inr (.inl ⟨own, target, inside, (Except.ok.inj led).symm⟩))
        · next entry found => exact .inr (.inr (.inr ⟨_, List.mem_of_find?_eq_some found, led⟩))
  | file own content | link own target | special own content =>
    simp only [directory] at led
    cases led

/-- Names lead from a sound position to a sound one, or to a link in one. -/
theorem sound_of_advance (sound : here.Sound) (led : files.advance here names = .ok way) :
    way.stop.Sound := by
  induction names generalizing here with
  | nil =>
    rw [advance] at led
    rw [← Except.ok.inj led]
    exact sound
  | cons name names ih =>
    rcases advance_cons led with ⟨_, stays⟩ | ⟨_, leaves⟩ | ⟨own, target, _, rfl⟩ |
      ⟨entry, inside, enters⟩
    · exact ih sound stays
    · exact ih sound.parent leaves
    · exact sound
    · exact ih (sound.enter inside) enters

/-- A path in a sound file system starts from a sound position. -/
theorem Sound.base (sound : files.Sound) (start : here.Sound) (path : Path) :
    (files.base here path).Sound := by
  unfold FileSystem.base
  split
  · exact start
  · -- the root is the last of the directories around the working directory
    intro entry member
    obtain rfl := List.mem_singleton.mp member
    cases last : files.working.above.getLast? with
    | none => simpa [FileSystem.root, last] using sound.innermost
    | some directory =>
      simpa [FileSystem.root, last] using
        sound directory (List.mem_cons_of_mem _ (List.mem_of_getLast? last))

/-- Names lead to sound positions, through however many links. -/
theorem sound_of_follow (sound : files.Sound) {links : Nat} (start : here.Sound)
    (led : files.follow links here names = .ok position) : position.Sound := by
  induction links generalizing here names with
  | zero =>
    rw [follow] at led
    split at led
    · cases led
    · next advanced =>
      rw [← Except.ok.inj led]
      exact sound_of_advance start advanced
    · cases led
  | succ links ih =>
    rw [follow] at led
    split at led
    · cases led
    · next advanced =>
      rw [← Except.ok.inj led]
      exact sound_of_advance start advanced
    · next directory target rest advanced =>
      exact ih (sound.base (sound_of_advance start advanced) target) led

/-- A path in a sound file system leads to a sound position. -/
theorem Sound.of_locate (sound : files.Sound) (located : files.locate path = .ok position) :
    position.Sound := by
  unfold locate at located
  split at located
  · cases located
  · split at located
    · cases located
    · exact sound_of_follow sound (sound.base sound path) located

/-- An entry is found at the position to which its path leads. -/
theorem find_eq_ok : files.find path = .ok entry ↔
    ∃ position, files.locate path = .ok position ∧ position.entry = entry := by
  unfold find
  cases files.locate path with
  | error why => simp [Except.map]
  | ok position => simp [Except.map]

/-- A path leads nowhere when nothing is found at it. -/
theorem find_eq_error {why : Unreached} :
    files.find path = .error why ↔ files.locate path = .error why := by
  unfold find
  cases files.locate path with
  | error other => simp [Except.map]
  | ok position => simp [Except.map]

/-- What is found in a sound file system is sound. -/
theorem Sound.of_find (sound : files.Sound) (found : files.find path = .ok entry) :
    Entry.Sound entry.entries := by
  obtain ⟨position, located, rfl⟩ := find_eq_ok.mp found
  exact (sound.of_locate located).innermost

/-- A path that is too long is not looked up. -/
theorem find_of_long (noNull : path.hasNull = false)
    (long : pathLimit < path.render.utf8ByteSize) :
    files.find path = .error (.refused .tooLong) := by
  refine find_eq_error.mpr ?_
  simp only [locate, noNull, long, Bool.false_eq_true, if_false, if_true]

/-- The name of an entry that is no link leads from its directory to the entry. -/
theorem advance_entry {own : String} {entries : List Entry}
    (directory : here.entry = .directory own entries)
    (open' : files.refuses .enter here.place = none) (sound : Entry.Sound entries)
    (inside : entry ∈ entries) (direct : ∀ name target, entry ≠ .link name target)
    (rest : List String) :
    files.advance here (entry.name :: rest) = files.advance (here.enter entry) rest := by
  have named := sound.fileName inside
  have short : ¬nameLimit < entry.name.utf8ByteSize := Nat.not_lt.mpr named.short
  rw [advance, directory]
  simp only [open', named.ne_dot, named.ne_above, short, sound.find?_eq inside, if_false]

end FileSystem

/-! ## Winding ways -/

/-- A way that enters a directory and leaves it so many times before it stays there. -/
def winding (name : String) (count : Nat) : List String :=
  (List.replicate count [name, ".."]).flatten ++ [name]

/-- The way has the name and two dots only. -/
theorem mem_winding {name step : String} {count : Nat} (inside : step ∈ winding name count) :
    step = name ∨ step = ".." := by
  rcases List.mem_append.mp inside with turns | last
  · obtain ⟨turn, repeated, member⟩ := List.mem_flatten.mp turns
    obtain rfl := List.eq_of_mem_replicate repeated
    simpa using member
  · exact .inl (List.mem_singleton.mp last)

/-- A longer way has one turn more in front. -/
theorem winding_succ (name : String) (count : Nat) :
    winding name (count + 1) = name :: ".." :: winding name count := by
  simp [winding, List.replicate_succ]

/-- The way leads to the directory when no directory refuses to look up names. -/
theorem FileSystem.advance_winding {files : FileSystem} {here : Position} {own name : String}
    {entries inside : List Entry} (free : ∀ place, files.refuses .enter place = none)
    (directory : here.entry = .directory own entries) (sound : Entry.Sound entries)
    (there : .directory name inside ∈ entries) (count : Nat) :
    files.advance here (winding name count) =
      .ok (.arrives (here.enter (.directory name inside))) := by
  have enters := advance_entry directory (free _) sound there (by simp)
  induction count with
  | zero => exact enters []
  | succ count ih =>
    rw [winding_succ]
    refine (enters _).trans ?_
    -- the two dots lead back to where the way starts
    have inner : (here.enter (.directory name inside)).entry = .directory name inside := rfl
    have notDot : ".." ≠ "." := by decide
    rw [advance, inner]
    simp only [free, notDot, if_false, if_true, Position.parent_enter]
    exact ih

/-- The bytes of the way when every name is written with a slash. -/
theorem sum_winding (name : String) (count : Nat) :
    ((winding name count).map fun step => step.utf8ByteSize + 1).sum =
      count * (name.utf8ByteSize + 4) + (name.utf8ByteSize + 1) := by
  have dots : "..".utf8ByteSize = 2 := by decide
  induction count with
  | zero => simp [winding]
  | succ count ih =>
    rw [winding_succ, List.map_cons, List.map_cons, List.sum_cons, List.sum_cons, ih, dots,
      Nat.add_mul, Nat.one_mul]
    omega

/-- The bytes of the path along the way and further names. -/
theorem utf8ByteSize_render_winding (name : String) (count : Nat) (rest : List String) :
    (Path.render ⟨"", winding name count ++ rest⟩).utf8ByteSize + 1 =
      count * (name.utf8ByteSize + 4) + (name.utf8ByteSize + 1) +
        (rest.map fun step => step.utf8ByteSize + 1).sum := by
  have some : winding name count ++ rest ≠ [] := by simp [winding]
  rw [Path.render_relative some, Path.utf8ByteSize_joined some, List.map_append, List.sum_append,
    sum_winding]

/-- The path along the way is read back from its text. -/
theorem parse_render_winding {name : String} (plain : Path.PlainName name) (count : Nat) :
    Path.parse (Path.render ⟨"", winding name count⟩) = ⟨"", winding name count⟩ := by
  refine Path.parse_render ⟨⟨0, by decide, rfl⟩, fun step inside => ?_⟩ (by simp [winding])
  rcases mem_winding inside with rfl | rfl
  · exact plain
  · exact ⟨by decide, by decide, by decide⟩

/-- The path along the way leads to the directory when the system looks it up. -/
theorem FileSystem.find_winding {files : FileSystem} {own name : String}
    {entries inside : List Entry} {count : Nat} (sound : files.Sound)
    (free : ∀ place, files.refuses .enter place = none)
    (directory : files.working.entry = .directory own entries)
    (there : .directory name inside ∈ entries)
    (short : (Path.render ⟨"", winding name count⟩).utf8ByteSize ≤ pathLimit) :
    files.find ⟨"", winding name count⟩ = .ok (.directory name inside) := by
  have soundHere : Entry.Sound entries := by
    have innermost := Position.Sound.innermost sound
    rwa [directory] at innermost
  have named : FileName name := soundHere.fileName there
  have noNull : Path.hasNull ⟨"", winding name count⟩ = false := by
    refine List.any_eq_false.mpr fun step member => ?_
    rcases mem_winding member with rfl | rfl
    · simpa using named.no_null
    · decide
  have notLong := Nat.not_lt.mpr short
  have way : steps ⟨"", winding name count⟩ = winding name count := by
    simp [steps, winding]
  have start : files.base files.working ⟨"", winding name count⟩ = files.working := rfl
  have led := advance_winding free directory soundHere there count
  refine find_eq_ok.mpr ⟨files.working.enter (.directory name inside), ?_, rfl⟩
  simp only [locate, noNull, notLong, Bool.false_eq_true, if_false, way, start, linkLimit]
  rw [follow, led]

end SourceLens
