import SourceLens.Proofs.Search.Discovery
import SourceLens.Search

/-!
# What a listing of files reaches

A listing of the files under a root has exactly the files that are sought there and that the walk
through the directories reaches (`mem_findFiles_iff_sought`), each once and in the order of the
walk. That leaves no choice: there is one such listing (`listing_iff`). A glob and the wish for
sources only leave files out and change nothing else (`files_listed_iff_reached`). The walk takes
whatever is no directory for a file, and it passes over a directory that the system does not list,
be it for its rights or for a path that is too long. So a listing can have what is no regular file
and lack one that is (`listing_differs_from_regular_files`).
-/
namespace SourceLens

/-- The names lead from a directory with the entries through directories to what is none. -/
inductive Entry.LeadsToFile : List Entry → List String → Prop where
  /-- To an entry of the directory. -/
  | own {entries : List Entry} {entry : Entry} (inside : entry ∈ entries)
    (leaf : entry.isDirectory = false) : LeadsToFile entries [entry.name]
  /-- Through a directory in it. -/
  | deeper {entries below : List Entry} {name : String} {rest : List String}
    (inside : .directory name below ∈ entries) (leads : LeadsToFile below rest) :
    LeadsToFile entries (name :: rest)

namespace Discovery

/-- There is no glob or an empty one, or it matches the name of a file or the path below the root
that the names are. -/
def Matched (glob : Option String) (names : List String) (file : Path) : Prop :=
  glob = none ∨ glob = some "" ∨ ∃ pattern, glob = some pattern ∧
    ((Glob.parse pattern.toList).isMatch file.name = true ∨
      (Glob.parse pattern.toList).isMatch ("/".intercalate names) = true)

/-- The names lead from a root to a file that a search with these wishes is after. -/
structure Sought (files : FileSystem) (settings : SearchSettings) (root : Path)
    (glob : Option String) (includeNonCode : Bool) (names : List String) (file : Path) :
    Prop where
  /-- The path of the file is that of the root with the names behind it. -/
  place : file = ⟨root.anchor, root.names ++ names⟩
  /-- There is a directory at the root, and the file is below it. -/
  there : ∃ own entries, files.find root = .ok (.directory own entries) ∧
    Entry.LeadsToFile entries names
  /-- No directory between the root and the file is one of those that are never searched, and the
  name of none begins with a dot. -/
  between : ∀ directory ∈ names.dropLast,
    directory ∉ settings.skipped ∧ ".".isPrefixOf directory = false
  /-- It is a source, or another text where these are wanted. -/
  searched : Language.isSource file = true ∨ includeNonCode = true ∧ file.isText = true
  /-- Where there is a glob, it matches the file. -/
  matched : Matched glob names file

/-- The walk reaches a file: the system lists every directory from the root to it by the path under
which the walk goes there, and what stands at the path of the file itself is no directory, also not
through a link. -/
structure Reached (files : FileSystem) (root : Path) (names : List String) : Prop where
  /-- The directories are listed. -/
  listed : ∀ count < names.length, files.lists (listedAs root (names.take count)) = true
  /-- The file is no directory. -/
  leaf : files.isDirectory (listedAs root names) = false

/-- One path under a root comes before another one. -/
def ComesBefore (root left right : Path) : Prop :=
  ∃ earlier later, left = ⟨root.anchor, root.names ++ earlier⟩ ∧
    right = ⟨root.anchor, root.names ++ later⟩ ∧ Before earlier later

/-- The paths are those of the files under a root that are sought and reached. -/
structure Listing (files : FileSystem) (settings : SearchSettings) (root : Path)
    (glob : Option String) (includeNonCode : Bool) (found : List Path) : Prop where
  /-- A path is listed exactly when it is that of a file that is sought and reached. -/
  members : ∀ file, file ∈ found ↔
    ∃ names, Sought files settings root glob includeNonCode names file ∧
      Reached files root names
  /-- No path is listed twice. -/
  once : (found.map Path.render).Nodup
  /-- In every directory its own files come first, by name, and then those of its subdirectories,
  which stand in the order of their names. -/
  ordered : found.Pairwise (ComesBefore root)

variable {entries : List Entry} {names : List String} {files : FileSystem}
  {settings : SearchSettings} {root file : Path} {glob : Option String} {includeNonCode : Bool}

/-! ## Members -/

/-- Names that lead to a file are at least one. -/
theorem ne_nil_of_leadsToFile (leads : Entry.LeadsToFile entries names) : names ≠ [] := by
  cases leads <;> simp

/-- The files listed below a directory are those to which names lead through directories that are
entered. -/
theorem mem_filesBelow_iff_leads : names ∈ filesBelow settings entries ↔
    Entry.LeadsToFile entries names ∧
      ∀ directory ∈ names.dropLast, entered settings directory = true := by
  constructor
  · intro listed
    -- the first name is that of a file, or of a directory to which the rest belongs
    induction names generalizing entries with
    | nil =>
      rcases mem_filesBelow.mp listed with ⟨_, _, _, none⟩ | ⟨_, _, _, _, _, _, none⟩ <;> cases none
    | cons first rest ih =>
      rcases mem_filesBelow.mp listed with ⟨entry, inside, leaf, same⟩ |
        ⟨name, below, others, inside, enters, found, same⟩
      · rw [same]
        exact ⟨.own inside leaf, by simp⟩
      · obtain ⟨rfl, rfl⟩ := List.cons.inj same
        obtain ⟨leads, between⟩ := ih found
        refine ⟨.deeper inside leads, ?_⟩
        rw [List.dropLast_cons_of_ne_nil (ne_nil_of_leadsToFile leads)]
        exact List.forall_mem_cons.mpr ⟨enters, between⟩
  · rintro ⟨leads, between⟩
    induction leads with
    | own inside leaf => exact mem_filesBelow.mpr (.inl ⟨_, inside, leaf, rfl⟩)
    | deeper inside leads ih =>
      rw [List.dropLast_cons_of_ne_nil (ne_nil_of_leadsToFile leads)] at between
      obtain ⟨enters, between⟩ := List.forall_mem_cons.mp between
      exact mem_filesBelow.mpr (.inr ⟨_, _, _, inside, enters, ih between, rfl⟩)

/-- A directory is entered unless it is one of those that are never searched or its name begins with
a dot. -/
theorem entered_iff {name : String} :
    entered settings name = true ↔ name ∉ settings.skipped ∧ ".".isPrefixOf name = false := by
  simp [entered]

/-- The part of a path behind its root. -/
theorem relativeTo_append (root : Path) (names : List String) :
    Path.relativeTo ⟨root.anchor, root.names ++ names⟩ root = ⟨"", names⟩ := by
  simp [Path.relativeTo]

/-- A file passes exactly when the glob, if there is one, matches it. -/
theorem passes_iff (notEmpty : names ≠ []) (place : file = ⟨root.anchor, root.names ++ names⟩) :
    passes root glob file = true ↔ Matched glob names file := by
  have relative : (file.relativeTo root).render = "/".intercalate names := by
    rw [place, relativeTo_append, Path.render_relative notEmpty]
  cases glob with
  | none => simp [passes, Matched]
  | some glob => simp [passes, Matched, globMatches, relative]

/-- A file is listed exactly when the walk reaches it. -/
theorem isListed_iff : isListed files root names = true ↔ Reached files root names := by
  simp only [isListed, Bool.and_eq_true, Bool.not_eq_true', List.all_eq_true, List.mem_range]
  exact ⟨fun ⟨listed, leaf⟩ => ⟨listed, leaf⟩, fun ⟨listed, leaf⟩ => ⟨listed, leaf⟩⟩

/-- The files that are found are those that are sought and reached. -/
theorem mem_findFiles_iff_sought : file ∈ files.findFiles settings root glob includeNonCode ↔
    ∃ names, Sought files settings root glob includeNonCode names file ∧
      Reached files root names := by
  rw [FileSystem.mem_findFiles]
  constructor
  · rintro ⟨own, entries, names, found, below, place, listed, searched, passed⟩
    obtain ⟨leads, between⟩ := mem_filesBelow_iff_leads.mp below
    have notEmpty := ne_nil_of_leadsToFile leads
    refine ⟨names, ⟨place, ⟨own, entries, found, leads⟩, ?_, ?_, ?_⟩, isListed_iff.mp listed⟩
    · exact fun directory inside => entered_iff.mp (between directory inside)
    · simpa [searchable] using searched
    · exact (passes_iff notEmpty place).mp passed
  · rintro ⟨names, ⟨place, ⟨own, entries, found, leads⟩, between, searched, matched⟩, reached⟩
    have notEmpty := ne_nil_of_leadsToFile leads
    refine ⟨own, entries, names, found, ?_, place, isListed_iff.mpr reached, ?_, ?_⟩
    · exact mem_filesBelow_iff_leads.mpr
        ⟨leads, fun directory inside => entered_iff.mpr (between directory inside)⟩
    · simpa [searchable] using searched
    · exact (passes_iff notEmpty place).mpr matched

/-! ## Order -/

/-- The files that are found come in the order of the walk. -/
theorem pairwise_findFiles (sound : files.Sound) :
    (files.findFiles settings root glob includeNonCode).Pairwise (ComesBefore root) := by
  unfold FileSystem.findFiles
  split
  · next own entries found =>
    refine (List.pairwise_map.mpr ?_).filter _
    refine ((pairwise_filesBelow (sound.of_find found)).filter _).imp ?_
    exact fun before => ⟨_, _, rfl, rfl, before⟩
  · exact List.Pairwise.nil

/-- Of two paths under a root at most one comes before the other. -/
theorem ComesBefore.asymm {left right : Path} (before : ComesBefore root left right) :
    ¬ComesBefore root right left := by
  obtain ⟨earlier, later, rfl, rfl, before⟩ := before
  rintro ⟨earlier', later', rightSame, leftSame, back⟩
  obtain rfl := List.append_cancel_left (Path.mk.inj leftSame).2
  obtain rfl := List.append_cancel_left (Path.mk.inj rightSame).2
  exact before.asymm back

/-- The files that are found are a listing. -/
theorem listing_findFiles (sound : files.Sound) (normal : root.Normal) :
    Listing files settings root glob includeNonCode
      (files.findFiles settings root glob includeNonCode) where
  members _ := mem_findFiles_iff_sought
  once := FileSystem.nodup_render_findFiles sound normal
  ordered := pairwise_findFiles sound

/-- Two listings of the same files are equal. -/
theorem Listing.eq {found other : List Path}
    (listing : Listing files settings root glob includeNonCode found)
    (another : Listing files settings root glob includeNonCode other) : found = other := by
  have same := (List.perm_ext_iff_of_nodup listing.once.of_map another.once.of_map).mpr
    fun file => (listing.members file).trans (another.members file).symm
  exact same.eq_of_pairwise (fun _ _ _ _ before back => absurd back before.asymm)
    listing.ordered another.ordered

/-- The files that are found are the only listing. -/
theorem listing_iff (sound : files.Sound) (normal : root.Normal) {listed : List Path} :
    Listing files settings root glob includeNonCode listed ↔
      listed = files.findFiles settings root glob includeNonCode := by
  have found : Listing files settings root glob includeNonCode
      (files.findFiles settings root glob includeNonCode) := listing_findFiles sound normal
  constructor
  · exact fun listing => listing.eq found
  · rintro rfl
    exact found

/-! ## Wishes -/

/-- With a glob the files are found that pass it, in the same order. -/
theorem findFiles_glob (files : FileSystem) (settings : SearchSettings) (root : Path)
    (glob : Option String) (includeNonCode : Bool) :
    files.findFiles settings root glob includeNonCode =
      (files.findFiles settings root none includeNonCode).filter (passes root glob) := by
  unfold FileSystem.findFiles
  split
  · rw [List.filter_filter]
    refine List.filter_congr fun file _ => ?_
    simp [passes, Bool.and_comm]
  · rfl

/-- Sources are among the files that are found with other texts, in the same order. -/
theorem findFiles_sources (files : FileSystem) (settings : SearchSettings) (root : Path)
    (glob : Option String) (includeNonCode : Bool) :
    (files.findFiles settings root glob false).Sublist
      (files.findFiles settings root glob includeNonCode) := by
  unfold FileSystem.findFiles
  split
  · refine List.monotone_filter_right _ fun file kept => ?_
    simp only [searchable, Bool.false_and, Bool.or_false, Bool.and_eq_true] at kept
    simp [searchable, kept]
  · exact List.Sublist.refl []

end Discovery

/-- The files under a root are listed exactly when they are sought and reached, each once and in the
order of the walk, and no other list has them so; a root with a null character ends the listing.
With a glob the files of the listing without it are left that pass, and the listing of the sources
is a part of that with other texts. -/
theorem files_listed_iff_reached (files : FileSystem) (settings : SearchSettings) (root : String)
    (glob : Option String) (includeNonCode : Bool) (sound : files.Sound) :
    ((Path.parse root).hasNull = true →
      files.listFiles settings (Path.parse root) glob includeNonCode = .error .nullInPath) ∧
    ((Path.parse root).hasNull = false → ∃ found sources whole,
      files.listFiles settings (Path.parse root) glob includeNonCode = .ok found ∧
      files.listFiles settings (Path.parse root) glob false = .ok sources ∧
      files.listFiles settings (Path.parse root) none includeNonCode = .ok whole ∧
      (∀ listed, Discovery.Listing files settings (Path.parse root) glob includeNonCode listed ↔
        listed = found) ∧
      sources.Sublist found ∧
      found = whole.filter (Discovery.passes (Path.parse root) glob)) := by
  refine ⟨fun null => ?_, fun noNull => ?_⟩
  · simp only [FileSystem.listFiles, null, if_true]
  · simp only [FileSystem.listFiles, noNull, Bool.false_eq_true, if_false]
    exact ⟨_, _, _, rfl, rfl, rfl, fun _ => Discovery.listing_iff sound (Path.normal_parse root),
      Discovery.findFiles_sources .., Discovery.findFiles_glob ..⟩

/-- A directory with sources, texts and other files, and with directories that are searched, hidden
and never searched. -/
def mixedEntries : List Entry :=
  [.file "z.js" .empty,
    .directory "s" [.directory "t" [.file "c.ts" .empty], .directory ".h" [.file "a.js" .empty],
      .file "n.md" .empty, .file "b.py" .empty],
    .directory "node_modules" [.file "a.js" .empty], .file "s.bin" .empty]

/-- The files of the directory. -/
def mixedFiles : FileSystem := { entries := [.directory "p" mixedEntries] }

/-- The files are sound. -/
theorem sound_mixedFiles : mixedFiles.Sound := by
  have ofFile {name : String} (named : FileName name) : Entry.Sound [.file name .empty] :=
    ⟨by simpa [Entry.name] using named, List.pairwise_singleton _ _, by simpa using .nil⟩
  have searched : Entry.Sound [.directory "t" [.file "c.ts" .empty],
      .directory ".h" [.file "a.js" .empty], .file "n.md" .empty, .file "b.py" .empty] := by
    refine ⟨by decide, by decide, ?_⟩
    simp only [List.forall_mem_cons, Entry.entries]
    exact ⟨ofFile (by decide), ofFile (by decide), .nil, .nil, by simp⟩
  refine FileSystem.sound_of_entries (.of_directory (by decide) ⟨by decide, by decide, ?_⟩)
  simp only [mixedEntries, List.forall_mem_cons, Entry.entries]
  exact ⟨.nil, searched, ofFile (by decide), .nil, by simp⟩

/-- The files below the directory in the order of the walk. -/
theorem filesBelow_mixedEntries : Discovery.filesBelow {} mixedEntries =
    [["s.bin"], ["z.js"], ["s", "b.py"], ["s", "n.md"], ["s", "t", "c.ts"]] := by
  have skipped : Discovery.entered {} "node_modules" = false := by decide +kernel
  have hidden : Discovery.entered {} ".h" = false := by decide +kernel
  have searched : Discovery.entered {} "s" = true ∧ Discovery.entered {} "t" = true := by
    decide +kernel
  simp [mixedEntries, Discovery.filesBelow, Discovery.branches, Discovery.branch?, skipped, hidden,
    searched, Discovery.fileNames, Discovery.arrange, Entry.isDirectory, Entry.name, List.mergeSort]

/-- The files that are listed with a glob for one of the directories. -/
theorem listFiles_mixedFiles : mixedFiles.listFiles {} (Path.parse "p") (some "s/*") true =
    .ok [⟨"", ["p", "s", "b.py"]⟩, ⟨"", ["p", "s", "n.md"]⟩, ⟨"", ["p", "s", "t", "c.ts"]⟩] := by
  have directory : mixedFiles.find (Path.parse "p") = .ok (.directory "p" mixedEntries) := rfl
  have noNull : (Path.parse "p").hasNull = false := by decide
  simp only [FileSystem.listFiles, noNull, FileSystem.findFiles, directory, filesBelow_mixedEntries,
    Bool.false_eq_true, if_false]
  exact congrArg Except.ok (by decide +kernel)

/-- The files that are listed are those that are sought and reached. -/
theorem files_listed_iff_reached_mixedFiles : mixedFiles.Sound ∧
    Discovery.Listing mixedFiles {} (Path.parse "p") (some "s/*") true
      [⟨"", ["p", "s", "b.py"]⟩, ⟨"", ["p", "s", "n.md"]⟩, ⟨"", ["p", "s", "t", "c.ts"]⟩] := by
  obtain ⟨found, sources, whole, listed, _, _, only, _⟩ :=
    (files_listed_iff_reached mixedFiles {} "p" (some "s/*") true sound_mixedFiles).2 (by decide)
  obtain rfl := Except.ok.inj (listed.symm.trans listFiles_mixedFiles)
  exact ⟨sound_mixedFiles, (only _).mpr rfl⟩

/-! ## Listings that differ from the regular files -/

/-- A pipe with the name of a script, beside a directory with a script. -/
def pipeAndScript : FileSystem where
  entries := [.directory "x" [.special "a.js" .empty, .directory "long" [.file "a.js" .empty]]]

/-- The files are sound. -/
theorem sound_pipeAndScript : pipeAndScript.Sound := by
  have inside : Entry.Sound ([("a.js", .empty)].map fun file => .file file.1 file.2) :=
    .of_files (by decide) (by decide)
  refine FileSystem.sound_of_entries (.of_directory (by decide) ⟨by decide, by decide, ?_⟩)
  simp only [List.forall_mem_cons, Entry.entries]
  exact ⟨.nil, inside, by simp⟩

/-- The pipe is among the files that are listed. -/
theorem pipe_listed : ∃ found,
    pipeAndScript.listFiles {} (Path.parse "x") none false = .ok found ∧
      ⟨"", ["x", "a.js"]⟩ ∈ found := by
  have root : Path.parse "x" = ⟨"", ["x"]⟩ := by decide +kernel
  refine ⟨_, if_neg (by decide), FileSystem.mem_findFiles.mpr ⟨_, _, ["a.js"], rfl, ?_, ?_⟩⟩
  · exact Discovery.mem_filesBelow.mpr (.inl ⟨_, List.mem_cons_self, rfl, rfl⟩)
  · rw [root]
    exact ⟨rfl, by decide +kernel, by decide +kernel, rfl⟩

/-- A winding way to the directory with the pipe, as text. -/
def windingRoot : String := Path.render ⟨"", winding "x" 818⟩

/-- The path that is read from the text is the winding way. -/
theorem parse_windingRoot : Path.parse windingRoot = ⟨"", winding "x" 818⟩ :=
  parse_render_winding ⟨by decide, by decide, by decide⟩ 818

/-- The winding way has no null character, also with a further name. -/
theorem hasNull_windingRoot (names : List String) (noNull : ∀ name ∈ names, '\x00' ∉ name.toList) :
    Path.hasNull ⟨"", winding "x" 818 ++ names⟩ = false := by
  refine List.any_eq_false.mpr fun step member => ?_
  rcases List.mem_append.mp member with turn | further
  · rcases mem_winding turn with rfl | rfl <;> decide
  · simpa using noNull step further

/-- The bytes of the path, and of that of the directory of the script. -/
theorem utf8ByteSize_windingRoot :
    (Path.render ⟨"", winding "x" 818⟩).utf8ByteSize = 4091 ∧
      (Path.render ⟨"", winding "x" 818 ++ ["long"]⟩).utf8ByteSize = 4096 := by
  have name : "x".utf8ByteSize = 1 := by decide
  have long : "long".utf8ByteSize = 4 := by decide
  have root := utf8ByteSize_render_winding "x" 818 []
  have directory := utf8ByteSize_render_winding "x" 818 ["long"]
  simp only [List.append_nil, List.map_nil, List.map_cons, List.sum_nil, List.sum_cons, name,
    long] at root directory
  omega

/-- The script is sought from the winding way. -/
theorem sought_deepScript : Discovery.Sought pipeAndScript {} ⟨"", winding "x" 818⟩ none false
    ["long", "a.js"] ⟨"", winding "x" 818 ++ ["long", "a.js"]⟩ where
  place := rfl
  there := by
    refine ⟨_, _, FileSystem.find_winding sound_pipeAndScript (fun _ => rfl) rfl
      (List.mem_singleton.mpr rfl) ?_, .deeper (List.mem_cons_of_mem _ List.mem_cons_self)
        (.own List.mem_cons_self rfl)⟩
    rw [utf8ByteSize_windingRoot.1]
    decide
  between := by decide +kernel
  searched := by
    have name : Path.name ⟨"", winding "x" 818 ++ ["long", "a.js"]⟩ = "a.js" := by simp [Path.name]
    refine .inl ?_
    simp only [Language.isSource, Language.ofPath?, Path.suffix, name]
    decide
  matched := .inl rfl

/-- The path of the directory of the script is too long, so the walk does not reach it. -/
theorem not_reached_deepScript :
    ¬Discovery.Reached pipeAndScript ⟨"", winding "x" 818⟩ ["long", "a.js"] := by
  intro reached
  have notDot : Path.render ⟨"", winding "x" 818⟩ ≠ "." := by
    intro dot
    have size := utf8ByteSize_windingRoot.1
    rw [dot] at size
    exact absurd size (by decide)
  have directory : Discovery.listedAs ⟨"", winding "x" 818⟩ ["long"] =
      ⟨"", winding "x" 818 ++ ["long"]⟩ := if_neg notDot
  have refused : pipeAndScript.locate ⟨"", winding "x" 818 ++ ["long"]⟩ =
      .error (.refused .tooLong) := by
    refine FileSystem.find_eq_error.mp (FileSystem.find_of_long ?_ ?_)
    · exact hasNull_windingRoot ["long"] (by decide)
    · rw [utf8ByteSize_windingRoot.2]
      decide
  have listed := reached.listed 1 (by decide)
  rw [List.take_succ_cons, List.take_zero, directory, FileSystem.lists, refused] at listed
  cases listed

/-- The script is sought from the winding way but not listed. -/
theorem deep_script_passed_over : ∃ file found,
    Discovery.Sought pipeAndScript {} (Path.parse windingRoot) none false ["long", "a.js"] file ∧
      pipeAndScript.listFiles {} (Path.parse windingRoot) none false = .ok found ∧
      file ∉ found := by
  have noNull := hasNull_windingRoot [] (by simp)
  rw [List.append_nil] at noNull
  rw [parse_windingRoot]
  refine ⟨_, _, sought_deepScript, if_neg (by simp [noNull]), fun listed => ?_⟩
  obtain ⟨names, sought, reached⟩ := Discovery.mem_findFiles_iff_sought.mp listed
  obtain rfl := List.append_cancel_left (Path.mk.inj sought.place).2
  exact not_reached_deepScript reached

/-- A pipe is listed, which is no regular file. A script is not, to whose directory the walk goes by
a path with one byte more than the system looks up. There is no listing when the root has a null
character. -/
theorem listing_differs_from_regular_files : pipeAndScript.Sound ∧
    (pipeAndScript.find ⟨"", ["x", "a.js"]⟩ = .ok (.special "a.js" .empty) ∧ ∃ found,
      pipeAndScript.listFiles {} (Path.parse "x") none false = .ok found ∧
        ⟨"", ["x", "a.js"]⟩ ∈ found) ∧
    (pipeAndScript.find ⟨"", ["x", "long", "a.js"]⟩ = .ok (.file "a.js" .empty) ∧ ∃ file found,
      Discovery.Sought pipeAndScript {} (Path.parse windingRoot) none false ["long", "a.js"]
        file ∧
      pipeAndScript.listFiles {} (Path.parse windingRoot) none false = .ok found ∧
        file ∉ found) ∧
    pipeAndScript.listFiles {} (Path.parse "x\x00") none false = .error .nullInPath :=
  ⟨sound_pipeAndScript, ⟨rfl, pipe_listed⟩, ⟨rfl, deep_script_passed_over⟩, if_pos (by decide)⟩

end SourceLens
