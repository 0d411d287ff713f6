import Mathlib.Data.List.Perm.Subperm
import SourceLens.Proofs.Outline.Merge

/-!
# Functions apart from each other

After merging, functions with one name are further apart than the tolerance. Being one entity is not
transitive, so this does not come from the entities of the input: it is an invariant of the
functions kept so far, and each outcome of taking a function keeps it. A function that is added is
no entity that is kept, and one that supplants others supplants all functions of its entity at once
(`separated_supplant`). What is kept is a selection of what was taken (`subperm_foldl`), and
functions that are apart from the start are all kept as they are (`foldl_take_of_separated`).
-/
namespace SourceLens.FunctionEntry

variable {tolerance : Int} {kept entries : List FunctionEntry} {entry : FunctionEntry}

/-- Functions with one name are further apart than the tolerance. -/
def Separated (tolerance : Int) (entries : List FunctionEntry) : Prop :=
  entries.Pairwise fun earlier later =>
    earlier.name = later.name → tolerance < ((earlier.line - later.line).natAbs : Int)

/-- Functions are apart when no two of them are one entity. -/
theorem separated_iff :
    Separated tolerance entries ↔
      entries.Pairwise fun earlier later => sameEntity tolerance earlier later = false := by
  unfold Separated
  refine iff_of_eq (congrArg (List.Pairwise · entries) ?_)
  funext earlier later
  rw [← Bool.not_eq_true, sameEntity_iff, not_and, Int.not_le]

/-- Of two functions that are one entity, either may be named first. -/
theorem sameEntity_comm (left right : FunctionEntry) :
    sameEntity tolerance left right = sameEntity tolerance right left := by
  rw [Bool.eq_iff_iff, sameEntity_iff, sameEntity_iff]
  have distance : (left.line - right.line).natAbs = (right.line - left.line).natAbs := by omega
  rw [distance, eq_comm]

/-! ## Taking a function -/

/-- Functions stay apart when one of them supplants the others of its entity. -/
theorem separated_supplant (separated : Separated tolerance kept) :
    Separated tolerance (supplant tolerance entry kept) := by
  rw [separated_iff] at separated ⊢
  induction kept with
  | nil => exact .nil
  | cons head rest ih =>
    obtain ⟨apart, later⟩ := List.pairwise_cons.mp separated
    by_cases same : sameEntity tolerance head entry = true
    · simp only [supplant, if_pos same]
      refine List.pairwise_cons.mpr ⟨fun other inside => ?_, later.filter _⟩
      -- the later functions that are left are those of other entities
      have differs := (List.mem_filter.mp inside).2
      rw [sameEntity_comm]
      simpa using differs
    · simp only [supplant, if_neg same]
      refine List.pairwise_cons.mpr ⟨fun other inside => ?_, ih later⟩
      rcases mem_supplant.mp inside with ⟨there, _⟩ | ⟨rfl, _⟩
      · exact apart other there
      · exact Bool.eq_false_iff.mpr same

/-- Taking a function keeps the functions apart. -/
theorem separated_take (separated : Separated tolerance kept) (entry : FunctionEntry) :
    Separated tolerance (take tolerance kept entry) := by
  rcases take_cases tolerance kept entry with ⟨new, taken⟩ | ⟨_, taken⟩ | ⟨_, _, _, taken⟩
  · rw [taken, separated_iff, List.pairwise_append]
    refine ⟨separated_iff.mp separated, List.pairwise_singleton _ _, ?_⟩
    intro known inside other here
    rw [List.mem_singleton.mp here]
    exact new known inside
  · rwa [taken]
  · rw [taken]
    exact separated_supplant separated

/-- Functions that are taken one after the other are kept apart. -/
theorem separated_foldl (separated : Separated tolerance kept) (entries : List FunctionEntry) :
    Separated tolerance (entries.foldl (take tolerance) kept) := by
  induction entries generalizing kept with
  | nil => exact separated
  | cons head rest ih => exact ih (separated_take separated head)

/-- Merged functions are apart. -/
theorem separated_merge (tolerance : Int) (entries : List FunctionEntry) :
    Separated tolerance (merge tolerance entries) :=
  separated_foldl .nil entries

/-! ## What is selected -/

/-- A function and those it does not supplant are a selection of the function and all others. -/
theorem subperm_supplant (kept : List FunctionEntry) :
    (supplant tolerance entry kept).Subperm (entry :: kept) := by
  induction kept with
  | nil => exact List.nil_subperm
  | cons head rest ih =>
    by_cases same : sameEntity tolerance head entry = true
    · simp only [supplant, if_pos same]
      have left : (rest.filter fun later => !sameEntity tolerance later entry).Sublist
          (head :: rest) := List.filter_sublist.cons head
      exact (left.cons_cons entry).subperm
    · simp only [supplant, if_neg same]
      have behind : (head :: supplant tolerance entry rest).Subperm (head :: entry :: rest) :=
        (List.subperm_cons head).mpr ih
      exact behind.trans (List.Perm.swap entry head rest).subperm

/-- Taking a function selects among those kept and the function itself. -/
theorem subperm_take (kept : List FunctionEntry) (entry : FunctionEntry) :
    (take tolerance kept entry).Subperm (kept ++ [entry]) := by
  rcases take_cases tolerance kept entry with ⟨_, taken⟩ | ⟨_, taken⟩ | ⟨_, _, _, taken⟩
  · rw [taken]
  · rw [taken]
    exact (List.sublist_append_left kept [entry]).subperm
  · rw [taken]
    exact (subperm_supplant kept).trans (List.perm_append_singleton entry kept).symm.subperm

/-- Taking functions one after the other selects among those kept and those taken. -/
theorem subperm_foldl (kept entries : List FunctionEntry) :
    (entries.foldl (take tolerance) kept).Subperm (kept ++ entries) := by
  induction entries generalizing kept with
  | nil => simpa using List.Subperm.refl kept
  | cons head rest ih =>
    have step : (take tolerance kept head ++ rest).Subperm (kept ++ [head] ++ rest) :=
      (List.subperm_append_right rest).mpr (subperm_take kept head)
    exact (ih _).trans (by simpa using step)

/-- Functions that are apart are all kept as they are. -/
theorem foldl_take_of_separated (separated : Separated tolerance (kept ++ entries)) :
    entries.foldl (take tolerance) kept = kept ++ entries := by
  induction entries generalizing kept with
  | nil => simp
  | cons head rest ih =>
    have new : ∀ known ∈ kept, sameEntity tolerance known head = false := by
      intro known inside
      have across := (List.pairwise_append.mp (separated_iff.mp separated)).2.2
      exact across known inside head (by simp)
    have added : take tolerance kept head = kept ++ [head] := by
      rcases take_cases tolerance kept head with
        ⟨_, taken⟩ | ⟨⟨known, inside, same, _⟩, _⟩ | ⟨_, _, ⟨known, inside, same⟩, _⟩
      · exact taken
      · simp [new known inside] at same
      · simp [new known inside] at same
    rw [List.foldl_cons, added, ih (by simpa using separated)]
    simp

/-- Functions that are apart are unchanged by merging. -/
theorem merge_of_separated (separated : Separated tolerance entries) :
    merge tolerance entries = entries := by
  have whole : Separated tolerance ([] ++ entries) := separated
  exact foldl_take_of_separated whole

/-- Merged functions are apart, each of them occurs in the input at least as often, and exactly the
functions that are apart already are returned unchanged; so merging again changes nothing. -/
theorem merging_separates_entities (tolerance : Int) (entries : List FunctionEntry) :
    Separated tolerance (merge tolerance entries) ∧
      (∀ entry, (merge tolerance entries).count entry ≤ entries.count entry) ∧
      (merge tolerance entries = entries ↔ Separated tolerance entries) ∧
      merge tolerance (merge tolerance entries) = merge tolerance entries := by
  have apart := separated_merge tolerance entries
  refine ⟨apart, fun entry => (subperm_foldl [] entries).count_le entry,
    ⟨fun same => ?_, merge_of_separated⟩, merge_of_separated apart⟩
  rwa [same] at apart

end SourceLens.FunctionEntry
