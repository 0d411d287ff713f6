import Mathlib.Data.List.Nodup
import SourceLens.Proofs.FileSystem
import SourceLens.Search.Discovery

/-!
# Files that are found

A file that is listed below a directory has names that can be looked up
(`fileName_of_mem_filesBelow`), so its path is read back from its text
(`parse_render_of_mem_findFiles`). The files below a directory come in a strict order
(`pairwise_filesBelow`), so no file is found twice and a path tells the file
(`nodup_render_findFiles`), and no file that is found is inside another one
(`eq_nil_of_append_mem_filesBelow`).
-/
namespace SourceLens

namespace Discovery

variable {settings : SearchSettings} {entries : List Entry} {names : List String}

/-- The names of the files of a directory are those of its entries that are no directories. -/
theorem mem_fileNames {name : String} :
    name ∈ fileNames entries ↔
      ∃ entry ∈ entries, entry.isDirectory = false ∧ entry.name = name := by
  simp [fileNames, and_assoc]

/-- A branch is that of one of the entries. -/
theorem mem_branches {branch : Branch} :
    branch ∈ branches settings entries ↔
      ∃ entry ∈ entries, branch? settings entry = some branch := by
  induction entries with
  | nil => simp [branches]
  | cons first rest ih => simp [branches, ih, Option.mem_toList]

/-- The branch of an entry is that of a directory that is entered, with the files below it. -/
theorem branch?_eq_some {entry : Entry} {branch : Branch} :
    branch? settings entry = some branch ↔ ∃ name inside, entry = .directory name inside ∧
      entered settings name = true ∧ branch = (name, filesBelow settings inside) := by
  constructor
  · intro found
    cases entry with
    | directory own inside =>
      simp only [branch?] at found
      split at found
      · next enters => exact ⟨own, inside, rfl, enters, (Option.some.inj found).symm⟩
      · cases found
    | file own content | link own target | special own content => simp [branch?] at found
  · rintro ⟨name, inside, rfl, enters, rfl⟩
    simp only [branch?, enters, if_true, filesBelow]

/-- A file below a directory is one of its own or is below a directory in it that is entered. -/
theorem mem_filesBelow : names ∈ filesBelow settings entries ↔
    (∃ entry ∈ entries, entry.isDirectory = false ∧ names = [entry.name]) ∨
      ∃ name inside rest, Entry.directory name inside ∈ entries ∧ entered settings name = true ∧
        rest ∈ filesBelow settings inside ∧ names = name :: rest := by
  rw [filesBelow, arrange, List.mem_append, List.mem_map, List.mem_flatMap]
  refine or_congr ?_ ?_
  · constructor
    · rintro ⟨name, own, rfl⟩
      obtain ⟨entry, inside, leaf, rfl⟩ := mem_fileNames.mp own
      exact ⟨entry, inside, leaf, rfl⟩
    · rintro ⟨entry, inside, leaf, rfl⟩
      exact ⟨entry.name, mem_fileNames.mpr ⟨entry, inside, leaf, rfl⟩, rfl⟩
  · constructor
    · rintro ⟨branch, sorted, listed⟩
      obtain ⟨entry, inside, made⟩ := mem_branches.mp (List.mem_mergeSort.mp sorted)
      obtain ⟨name, below, rfl, enters, rfl⟩ := branch?_eq_some.mp made
      obtain ⟨rest, found, rfl⟩ := List.mem_map.mp listed
      exact ⟨name, below, rest, inside, enters, found, rfl⟩
    · rintro ⟨name, below, rest, inside, enters, found, rfl⟩
      have made := branch?_eq_some.mpr ⟨name, below, rfl, enters, rfl⟩
      exact ⟨_, List.mem_mergeSort.mpr (mem_branches.mpr ⟨_, inside, made⟩),
        List.mem_map.mpr ⟨rest, found, rfl⟩⟩

/-- A file below a sound directory has names that can be looked up. -/
theorem fileName_of_mem_filesBelow (sound : Entry.Sound entries)
    (listed : names ∈ filesBelow settings entries) :
    names ≠ [] ∧ ∀ name ∈ names, FileName name := by
  induction names generalizing entries with
  | nil =>
    rcases mem_filesBelow.mp listed with ⟨_, _, _, none⟩ | ⟨_, _, _, _, _, _, none⟩ <;> cases none
  | cons first rest ih =>
    rcases mem_filesBelow.mp listed with ⟨entry, inside, _, same⟩ |
      ⟨name, below, others, inside, _, found, same⟩
    · obtain ⟨rfl, rfl⟩ := List.cons.inj same
      exact ⟨by simp, by simpa using sound.fileName inside⟩
    · obtain ⟨rfl, rfl⟩ := List.cons.inj same
      obtain ⟨_, named⟩ := ih (sound.of_mem inside) found
      exact ⟨by simp, List.forall_mem_cons.mpr ⟨sound.fileName inside, named⟩⟩

/-- No file below a sound directory is inside another one. -/
theorem eq_nil_of_append_mem_filesBelow (sound : Entry.Sound entries) {more : List String}
    (outer : names ∈ filesBelow settings entries)
    (inner : names ++ more ∈ filesBelow settings entries) : more = [] := by
  induction names generalizing entries with
  | nil => exact absurd rfl (fileName_of_mem_filesBelow sound outer).1
  | cons first rest ih =>
    -- the first name tells the entry, so both files are that entry or both are inside it
    rcases mem_filesBelow.mp outer with ⟨entry, inside, leaf, same⟩ |
      ⟨name, below, others, inside, _, found, same⟩
    · obtain ⟨rfl, rfl⟩ := List.cons.inj same
      rcases mem_filesBelow.mp inner with ⟨_, _, _, same'⟩ |
        ⟨name', below', _, inside', _, _, same'⟩
      · exact (List.cons.inj same').2
      · have equal := sound.eq_of_name_eq inside inside' (List.cons.inj same').1
        rw [equal] at leaf
        cases leaf
    · obtain ⟨rfl, rfl⟩ := List.cons.inj same
      rcases mem_filesBelow.mp inner with ⟨entry', inside', leaf', same'⟩ |
        ⟨name', below', others', inside', _, found', same'⟩
      · have equal := sound.eq_of_name_eq inside inside' (List.cons.inj same').1
        rw [← equal] at leaf'
        cases leaf'
      · have equal := sound.eq_of_name_eq inside inside' (List.cons.inj same').1
        obtain ⟨-, rfl⟩ := Entry.directory.inj equal
        obtain rfl : rest ++ more = others' := (List.cons.inj same').2
        exact ih (sound.of_mem inside) found found'

/-- The branches of some entries are those of each in order. -/
theorem branches_eq_filterMap (entries : List Entry) :
    branches settings entries = entries.filterMap (branch? settings) := by
  induction entries with
  | nil => rfl
  | cons first rest ih =>
    rw [branches, ih]
    cases found : branch? settings first <;> simp [found]

/-- A branch has the name of an entry and the files below it. -/
theorem entry_of_mem_branches {branch : Branch} (listed : branch ∈ branches settings entries) :
    ∃ entry ∈ entries, branch = (entry.name, filesBelow settings entry.entries) := by
  obtain ⟨entry, inside, made⟩ := mem_branches.mp listed
  obtain ⟨name, below, rfl, _, rfl⟩ := branch?_eq_some.mp made
  exact ⟨_, inside, rfl⟩

/-! ## Order -/

/-- Items with distinct names are in strict order once they are sorted by name. -/
theorem pairwise_lt_mergeSort {α : Type} (nameOf : α → String) {items : List α}
    (distinct : items.Pairwise fun left right => nameOf left ≠ nameOf right) :
    (items.mergeSort fun left right => decide (nameOf left ≤ nameOf right)).Pairwise
      fun left right => nameOf left < nameOf right := by
  let le : α → α → Bool := fun left right => decide (nameOf left ≤ nameOf right)
  have sorted : (items.mergeSort le).Pairwise fun left right => le left right = true := by
    refine List.pairwise_mergeSort (fun left middle right => ?_) (fun left right => ?_) items
    · simpa only [le, decide_eq_true_eq] using String.le_trans
    · simpa [le] using String.le_total (nameOf left) (nameOf right)
  have apart := (List.mergeSort_perm items le).symm.pairwise distinct fun differ => differ.symm
  refine (sorted.and apart).imp fun ⟨before, differ⟩ => ?_
  exact Std.lt_of_le_of_ne (of_decide_eq_true before) differ

/-- The files of a directory are in the order of their names. -/
theorem pairwise_fileNames (sound : Entry.Sound entries) :
    (fileNames entries).Pairwise fun left right => left < right := by
  obtain ⟨-, distinct, -⟩ := sound
  exact pairwise_lt_mergeSort id (List.pairwise_map.mpr (distinct.filter _))

/-- The branches of a directory are sorted into the order of their names. -/
theorem pairwise_branches (sound : Entry.Sound entries) :
    ((branches settings entries).mergeSort fun left right => decide (left.1 ≤ right.1)).Pairwise
      fun left right => left.1 < right.1 := by
  obtain ⟨-, distinct, -⟩ := sound
  rw [branches_eq_filterMap]
  refine pairwise_lt_mergeSort Prod.fst (distinct.filterMap _ ?_)
  intro left right differ branch made other madeToo
  obtain ⟨name, inside, rfl, _, rfl⟩ := branch?_eq_some.mp made
  obtain ⟨name', inside', rfl, _, rfl⟩ := branch?_eq_some.mp madeToo
  exact differ

/-- One file below a directory comes before another one: the files of the directory itself come
first, by name, and then those of its subdirectories, which stand in the order of their names. -/
inductive Before : List String → List String → Prop where
  /-- Two files of the directory. -/
  | files {left right : String} (less : left < right) : Before [left] [right]
  /-- A file of the directory and one of a subdirectory. -/
  | shallow {name directory : String} {rest : List String} (some : rest ≠ []) :
    Before [name] (directory :: rest)
  /-- Files of two subdirectories. -/
  | directories {left right : String} {leftRest rightRest : List String} (less : left < right)
    (leftSome : leftRest ≠ []) (rightSome : rightRest ≠ []) :
    Before (left :: leftRest) (right :: rightRest)
  /-- Two files of one subdirectory. -/
  | inside {directory : String} {left right : List String} (before : Before left right) :
    Before (directory :: left) (directory :: right)

namespace Before

variable {left right : List String}

/-- Of two files at most one comes before the other. -/
theorem asymm (before : Before left right) : ¬Before right left := by
  induction before with
  | files less =>
    intro back
    cases back with
    | files more => exact String.lt_asymm less more
    | shallow some => exact some rfl
    | directories _ some => exact some rfl
    | inside none => cases none
  | shallow some =>
    intro back
    cases back with
    | files => exact some rfl
    | shallow none => exact none rfl
    | directories _ _ none => exact none rfl
    | inside none => cases none
  | directories less leftSome rightSome =>
    intro back
    cases back with
    | files => exact leftSome rfl
    | shallow => exact rightSome rfl
    | directories more => exact String.lt_asymm less more
    | inside => exact String.lt_irrefl _ less
  | inside before ih =>
    intro back
    cases back with
    | files more => exact String.lt_irrefl _ more
    | shallow => cases before
    | directories more => exact String.lt_irrefl _ more
    | inside back => exact ih back

/-- No file comes before itself. -/
theorem ne (before : Before left right) : left ≠ right := by
  rintro rfl
  exact before.asymm before

end Before

/-- The files below a sound directory are listed in order. -/
theorem pairwise_filesBelow (sound : Entry.Sound entries) :
    (filesBelow settings entries).Pairwise Before := by
  -- the induction orders the files of one branch, their first names those of different branches
  induction sound with
  | @intro entries named distinct below ih =>
    have sound : Entry.Sound entries := ⟨named, distinct, below⟩
    have deeper {entry : Entry} (inside : entry ∈ entries) {rest : List String}
        (found : rest ∈ filesBelow settings entry.entries) : rest ≠ [] :=
      (fileName_of_mem_filesBelow (sound.of_mem inside) found).1
    rw [filesBelow, arrange, List.pairwise_append, List.pairwise_map, List.pairwise_flatMap]
    refine ⟨(pairwise_fileNames sound).imp .files, ⟨?_, ?_⟩, ?_⟩
    · intro branch sorted
      obtain ⟨entry, inside, rfl⟩ := entry_of_mem_branches (List.mem_mergeSort.mp sorted)
      exact List.pairwise_map.mpr ((ih entry inside).imp .inside)
    · refine (pairwise_branches sound).imp_of_mem fun leftSorted rightSorted less => ?_
      obtain ⟨entry, inside, rfl⟩ := entry_of_mem_branches (List.mem_mergeSort.mp leftSorted)
      obtain ⟨other, beside, rfl⟩ := entry_of_mem_branches (List.mem_mergeSort.mp rightSorted)
      simp only [List.forall_mem_map]
      intro names found others foundToo
      exact .directories less (deeper inside found) (deeper beside foundToo)
    · simp only [List.forall_mem_map, List.mem_flatMap]
      rintro name - _ ⟨branch, sorted, listed⟩
      obtain ⟨entry, inside, rfl⟩ := entry_of_mem_branches (List.mem_mergeSort.mp sorted)
      obtain ⟨rest, found, rfl⟩ := List.mem_map.mp listed
      exact .shallow (deeper inside found)

/-- No file is listed twice below a sound directory. -/
theorem nodup_filesBelow (sound : Entry.Sound entries) : (filesBelow settings entries).Nodup :=
  (pairwise_filesBelow sound).imp Before.ne

end Discovery

namespace FileSystem

variable {files : FileSystem} {settings : SearchSettings} {root file : Path}
  {glob : Option String} {includeNonCode : Bool}

/-- The files that are found under a root are those below the directory there that are listed, that
a search looks into and that pass the glob. -/
theorem mem_findFiles : file ∈ files.findFiles settings root glob includeNonCode ↔
    ∃ own entries names, files.find root = .ok (.directory own entries) ∧
      names ∈ Discovery.filesBelow settings entries ∧ file = ⟨root.anchor, root.names ++ names⟩ ∧
      Discovery.isListed files root names = true ∧ Discovery.searchable includeNonCode file = true ∧
      Discovery.passes root glob file = true := by
  unfold findFiles
  split
  · next own entries found =>
    simp only [List.mem_filter, List.mem_map, Bool.and_eq_true, found]
    constructor
    · rintro ⟨⟨names, ⟨below, listed⟩, rfl⟩, searched, passed⟩
      exact ⟨own, entries, names, rfl, below, rfl, listed, searched, passed⟩
    · rintro ⟨own, entries, names, same, below, rfl, listed, searched, passed⟩
      obtain ⟨rfl, rfl⟩ := Entry.directory.inj (Except.ok.inj same)
      exact ⟨⟨names, ⟨below, listed⟩, rfl⟩, searched, passed⟩
  · next noDirectory =>
    constructor
    · intro inside
      simp at inside
    · rintro ⟨own, entries, _, found, _⟩
      exact absurd found (noDirectory own entries)

/-- A file that is found has a path that is read back from its text. -/
theorem parse_render_of_mem_findFiles (sound : files.Sound) (normal : root.Normal)
    (listed : file ∈ files.findFiles settings root glob includeNonCode) :
    Path.parse file.render = file := by
  obtain ⟨own, entries, names, found, below, rfl, _⟩ := mem_findFiles.mp listed
  obtain ⟨some, named⟩ := Discovery.fileName_of_mem_filesBelow (sound.of_find found) below
  refine Path.parse_render (normal.append fun name inside => (named name inside).toPlainName) ?_
  simp [some]

/-- No two files that are found have the same path. -/
theorem nodup_render_findFiles (sound : files.Sound) (normal : root.Normal) :
    ((files.findFiles settings root glob includeNonCode).map Path.render).Nodup := by
  refine List.Nodup.map_on (fun left leftListed right rightListed same => ?_) ?_
  · have read := parse_render_of_mem_findFiles sound normal leftListed
    rw [same, parse_render_of_mem_findFiles sound normal rightListed] at read
    exact read.symm
  · unfold findFiles
    split
    · next own entries found =>
      have distinct : (Discovery.filesBelow settings entries).Nodup :=
        Discovery.nodup_filesBelow (sound.of_find found)
      refine ((distinct.filter _).map fun names others same => ?_).filter _
      exact List.append_cancel_left (Path.mk.inj same).2
    · exact List.nodup_nil

end FileSystem

end SourceLens
