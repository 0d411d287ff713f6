import Mathlib.Algebra.Ring.Nat
import SourceLens.Path
import SourceLens.Proofs.Text.Lines

/-!
# Paths as text

A path that was read has plain names: none is empty or a dot or has a slash. Such a path is read
back from its text (`parse_render`), and it stays such a path when plain names are put behind it.
-/
namespace SourceLens.Path

/-- A name can stand in a path as it is. -/
structure PlainName (name : String) : Prop where
  /-- The name is not empty. -/
  ne_empty : name ≠ ""
  /-- It does not stand for the directory it is in. -/
  ne_dot : name ≠ "."
  /-- It is one name. -/
  no_slash : '/' ∉ name.toList

/-- A path is in the form in which paths are read. -/
structure Normal (path : Path) : Prop where
  /-- The root is written with at most two slashes. -/
  anchored : ∃ count ≤ 2, path.anchor = String.ofList (List.replicate count '/')
  /-- All names are plain. -/
  plain : ∀ name ∈ path.names, PlainName name

/-- The names of a text are the pieces between slashes. -/
theorem splitSlashes_eq_splitOn (s : List Char) : splitSlashes s = s.splitOn '/' := by
  induction s with
  | nil => rfl
  | cons c rest ih =>
    rw [List.splitOn_cons_eq_if_modifyHead, ← ih]
    cases divided : splitSlashes rest with
    | nil => exact absurd (ih.symm.trans divided) (List.splitOn_ne_nil '/' rest)
    | cons first others =>
      simp only [splitSlashes, List.foldr_cons] at divided ⊢
      simp [divided]

/-- A path that was read is normal. -/
theorem normal_parse (s : String) : (parse s).Normal := by
  constructor
  · simp only [parse, anchorOf]
    split
    · exact ⟨0, by decide, rfl⟩
    · exact ⟨2, by decide, rfl⟩
    · exact ⟨1, by decide, rfl⟩
  · intro name inside
    obtain ⟨piece, kept⟩ := List.mem_filter.mp inside
    obtain ⟨chars, member, rfl⟩ := List.mem_map.mp piece
    rw [splitSlashes_eq_splitOn] at member
    obtain ⟨notEmpty, notDot⟩ := of_decide_eq_true kept
    exact ⟨notEmpty, notDot, by simpa using Text.not_mem_of_mem_splitOn member⟩

/-- Plain names behind a normal path make a normal path. -/
theorem Normal.append {path : Path} {names : List String} (normal : path.Normal)
    (plain : ∀ name ∈ names, PlainName name) :
    Normal ⟨path.anchor, path.names ++ names⟩ := by
  refine ⟨normal.anchored, fun name inside => ?_⟩
  rcases List.mem_append.mp inside with before | behind
  · exact normal.plain name before
  · exact plain name behind

/-- Plain names are read from the text that they make. -/
theorem names_of_joined {names : List String} (plain : ∀ name ∈ names, PlainName name)
    (some : names ≠ []) :
    ((splitSlashes ("/".intercalate names).toList).map String.ofList).filter
      (fun name => name ≠ "" ∧ name ≠ ".") = names := by
  have content : ("/".intercalate names).toList = ['/'].intercalate (names.map String.toList) := by
    simp
  have divided : (['/'].intercalate (names.map String.toList)).splitOn '/' =
      names.map String.toList :=
    List.splitOn_intercalate '/' (by simpa using fun name inside => (plain name inside).no_slash)
      (by simpa using some)
  rw [content, splitSlashes_eq_splitOn, divided, List.map_map]
  simp only [Function.comp_def, String.ofList_toList, List.map_id']
  exact List.filter_eq_self.mpr fun name inside =>
    decide_eq_true ⟨(plain name inside).ne_empty, (plain name inside).ne_dot⟩

/-- The text of plain names does not begin with a slash. -/
theorem exists_joined {names : List String} (plain : ∀ name ∈ names, PlainName name)
    (some : names ≠ []) : ∃ c rest, ("/".intercalate names).toList = c :: rest ∧ c ≠ '/' := by
  cases names with
  | nil => exact absurd rfl some
  | cons first others =>
    obtain ⟨notEmpty, _, noSlash⟩ := plain first (by simp)
    cases chars : first.toList with
    | nil => exact absurd (String.toList_eq_nil_iff.mp chars) notEmpty
    | cons c cs =>
      have differs : c ≠ '/' := fun same => noSlash (by simp [chars, same])
      cases others with
      | nil => exact ⟨c, cs, by simp [chars], differs⟩
      | cons second others =>
        exact ⟨c, cs ++ '/' :: ("/".intercalate (second :: others)).toList,
          by simp [chars], differs⟩

/-- Slashes in front of a text add empty names to it. -/
theorem splitSlashes_replicate (count : Nat) (s : List Char) :
    splitSlashes (List.replicate count '/' ++ s) = List.replicate count [] ++ splitSlashes s := by
  induction count with
  | zero => simp
  | succ count ih =>
    rw [List.replicate_succ, List.cons_append, List.replicate_succ, List.cons_append, ← ih,
      splitSlashes_eq_splitOn, splitSlashes_eq_splitOn, List.splitOn_cons_eq_if_modifyHead]
    simp

/-- A normal path with a name is read back from its text. -/
theorem parse_render {path : Path} (normal : path.Normal) (some : path.names ≠ []) :
    parse path.render = path := by
  obtain ⟨anchor, names⟩ := path
  obtain ⟨⟨count, few, rfl⟩, plain⟩ := normal
  obtain ⟨c, rest, begins, differs⟩ := exists_joined plain some
  have shown : (render ⟨String.ofList (List.replicate count '/'), names⟩).toList =
      List.replicate count '/' ++ ("/".intercalate names).toList := by
    simp [render, some]
  have slashes : ((List.replicate count '/' ++ c :: rest).takeWhile (· == '/')).length = count := by
    rw [List.takeWhile_append_of_pos (by simp), List.takeWhile_cons_of_neg (by simpa using differs)]
    simp
  have anchor : anchorOf (List.replicate count '/' ++ ("/".intercalate names).toList) =
      String.ofList (List.replicate count '/') := by
    rw [begins, anchorOf, slashes]
    rcases (by omega : count = 0 ∨ count = 1 ∨ count = 2) with rfl | rfl | rfl <;> rfl
  -- the empty names that the slashes of the root add are dropped
  simp only [parse, shown, anchor, splitSlashes_replicate, List.map_append, List.filter_append,
    names_of_joined plain some]
  simp

/-- A relative path with a name is its names joined. -/
theorem render_relative {names : List String} (some : names ≠ []) :
    render ⟨"", names⟩ = "/".intercalate names := by
  simp [render, some]

/-- The text of a path that was read is not empty. -/
theorem render_parse_ne_empty (s : String) : (parse s).render ≠ "" := by
  have plain := (normal_parse s).plain
  unfold render
  split
  · decide
  · next rooted =>
    intro empty
    obtain ⟨anchor, joined⟩ := String.append_eq_empty_iff.mp empty
    by_cases none : (parse s).names = []
    · simp [anchor, none] at rooted
    · obtain ⟨c, rest, begins, _⟩ := exists_joined plain none
      simp [joined] at begins

/-- Joined names have the bytes of the names and one between neighbours. -/
theorem utf8ByteSize_joined {names : List String} (some : names ≠ []) :
    ("/".intercalate names).utf8ByteSize + 1 = (names.map fun name => name.utf8ByteSize + 1).sum := by
  induction names with
  | nil => exact absurd rfl some
  | cons first rest ih =>
    cases rest with
    | nil => simp
    | cons second rest =>
      have later := ih (by simp)
      simp only [String.intercalate_cons_cons, String.utf8ByteSize_append, List.map_cons,
        List.sum_cons] at later ⊢
      have slash : "/".utf8ByteSize = 1 := by decide
      omega

end SourceLens.Path
