import SourceLens.Outline.Merge

/-!
# What merging keeps

Merging takes the functions of an outline one after the other. Taking a function has one of three
outcomes (`take_cases`): a new entity is added, a known one is dropped, or a declared function
supplants the bound ones of its entity. A declared function is never supplanted, so an entity that
is kept stays, perhaps with a declared function in the place of the one that was kept first
(`Settled`). The first function with a name is always a new entity, so after merging there is a
function with its name on a line nearby (`exists_mem_merge_near_first`).
-/
namespace SourceLens.FunctionEntry

variable {tolerance : Int} {kept entries : List FunctionEntry} {entry other known : FunctionEntry}

/-- Two functions are one entity when they have one name and their lines are near. -/
theorem sameEntity_iff :
    sameEntity tolerance known entry = true ↔
      known.name = entry.name ∧ ((known.line - entry.line).natAbs : Int) ≤ tolerance := by
  simp [sameEntity]

/-- A function supplants all functions of its entity and nothing else. -/
theorem mem_supplant :
    other ∈ supplant tolerance entry kept ↔
      (other ∈ kept ∧ sameEntity tolerance other entry = false) ∨
        (other = entry ∧ ∃ known ∈ kept, sameEntity tolerance known entry = true) := by
  induction kept with
  | nil => simp [supplant]
  | cons head rest ih =>
    by_cases same : sameEntity tolerance head entry = true
    · simp only [supplant, if_pos same]
      constructor
      · intro member
        rcases List.mem_cons.mp member with rfl | later
        · exact .inr ⟨rfl, head, by simp, same⟩
        · obtain ⟨inside, differs⟩ := List.mem_filter.mp later
          exact .inl ⟨by simp [inside], by simpa using differs⟩
      · rintro (⟨inside, differs⟩ | ⟨rfl, _⟩)
        · rcases List.mem_cons.mp inside with rfl | later
          · simp [same] at differs
          · exact List.mem_cons_of_mem _ (List.mem_filter.mpr ⟨later, by simpa using differs⟩)
        · simp
    · simp only [supplant, if_neg same, List.mem_cons, ih]
      grind

/-- The outcomes of taking a function: it is added, dropped or put in the place of others. -/
theorem take_cases (tolerance : Int) (kept : List FunctionEntry) (entry : FunctionEntry) :
    ((∀ known ∈ kept, sameEntity tolerance known entry = false) ∧
        take tolerance kept entry = kept ++ [entry]) ∨
      ((∃ known ∈ kept, sameEntity tolerance known entry = true ∧
          (entry.isDeclared = true → known.isDeclared = true)) ∧
        take tolerance kept entry = kept) ∨
      (entry.isDeclared = true ∧
        (∀ known ∈ kept, sameEntity tolerance known entry = true → known.isDeclared = false) ∧
        (∃ known ∈ kept, sameEntity tolerance known entry = true) ∧
        take tolerance kept entry = supplant tolerance entry kept) := by
  simp only [take]
  split
  · next new =>
    left
    simpa using new
  · next found =>
    obtain ⟨known, inside, same⟩ : ∃ known ∈ kept, sameEntity tolerance known entry = true := by
      simpa using found
    split
    · next keeps =>
      right; left
      refine ⟨?_, rfl⟩
      cases declared : entry.isDeclared with
      | false => exact ⟨known, inside, same, by simp⟩
      | true =>
        obtain ⟨prior, there, alike, isDeclared⟩ : ∃ prior ∈ kept,
            sameEntity tolerance prior entry = true ∧ prior.isDeclared = true := by
          simpa [declared, and_assoc] using keeps
        exact ⟨prior, there, alike, fun _ => isDeclared⟩
    · next replaces =>
      right; right
      simp only [Bool.or_eq_true, Bool.not_eq_true', List.any_eq_true, List.mem_filter, not_or,
        Bool.not_eq_false, not_exists, not_and, Bool.not_eq_true] at replaces
      exact ⟨replaces.1, fun prior there alike => replaces.2 prior ⟨there, alike⟩,
        ⟨known, inside, same⟩, rfl⟩

/-- Only functions that were kept, or the one that is taken, are kept. -/
theorem mem_of_mem_take (member : other ∈ take tolerance kept entry) :
    other ∈ kept ∨ other = entry := by
  rcases take_cases tolerance kept entry with ⟨_, taken⟩ | ⟨_, taken⟩ | ⟨_, _, _, taken⟩
  · simpa [taken] using member
  · exact .inl (by rwa [taken] at member)
  · rw [taken] at member
    rcases mem_supplant.mp member with ⟨inside, _⟩ | ⟨rfl, _⟩
    · exact .inl inside
    · exact .inr rfl

/-- Only functions that were kept, or that are taken one after the other, are kept. -/
theorem mem_of_mem_foldl (member : other ∈ entries.foldl (take tolerance) kept) :
    other ∈ kept ∨ other ∈ entries := by
  induction entries generalizing kept with
  | nil => exact .inl member
  | cons head rest ih =>
    rcases ih member with before | later
    · rcases mem_of_mem_take before with inside | rfl
      · exact .inl inside
      · exact .inr (by simp)
    · exact .inr (by simp [later])

/-- Merging makes nothing up. -/
theorem mem_of_mem_merge (member : entry ∈ merge tolerance entries) : entry ∈ entries := by
  simpa using mem_of_mem_foldl member

/-! ## Entities stay -/

/-- An entity is settled when a function is kept for it: the function that stands for it, or a
declared one of the same entity. -/
def Settled (tolerance : Int) (kept : List FunctionEntry) (entry : FunctionEntry) : Prop :=
  entry ∈ kept ∨ ∃ known ∈ kept, known.isDeclared = true ∧ sameEntity tolerance known entry = true

/-- Taking a function keeps an entity settled. -/
theorem Settled.take (settled : Settled tolerance kept entry) (other : FunctionEntry) :
    Settled tolerance (take tolerance kept other) entry := by
  rcases take_cases tolerance kept other with ⟨_, taken⟩ | ⟨_, taken⟩ | ⟨declared, bound, _, taken⟩
  · rw [taken]
    rcases settled with inside | ⟨known, inside, facts⟩
    · exact .inl (by simp [inside])
    · exact .inr ⟨known, by simp [inside], facts⟩
  · rwa [taken]
  · rw [taken]
    rcases settled with inside | ⟨known, inside, isDeclared, same⟩
    · cases differs : sameEntity tolerance entry other with
      | false => exact .inl (mem_supplant.mpr (.inl ⟨inside, differs⟩))
      | true =>
        -- the function itself is supplanted, by a declared one of its entity
        refine .inr ⟨other, mem_supplant.mpr (.inr ⟨rfl, entry, inside, differs⟩), declared, ?_⟩
        rw [sameEntity_iff] at differs ⊢
        exact ⟨differs.1.symm, by omega⟩
    · -- a declared function is not supplanted
      have differs : sameEntity tolerance known other = false := by
        cases alike : sameEntity tolerance known other with
        | false => rfl
        | true =>
          have notDeclared := bound known inside alike
          simp [isDeclared] at notDeclared
      exact .inr ⟨known, mem_supplant.mpr (.inl ⟨inside, differs⟩), isDeclared, same⟩

/-- Taking functions one after the other keeps an entity settled. -/
theorem Settled.foldl (settled : Settled tolerance kept entry) (entries : List FunctionEntry) :
    Settled tolerance (entries.foldl (FunctionEntry.take tolerance) kept) entry := by
  induction entries generalizing kept with
  | nil => exact settled
  | cons head rest ih => exact ih (settled.take head)

/-- A settled entity has a function with its name on a line nearby. -/
theorem Settled.exists_near (settled : Settled tolerance kept entry) (wide : 0 ≤ tolerance) :
    ∃ known ∈ kept, known.name = entry.name ∧
      ((entry.line - known.line).natAbs : Int) ≤ tolerance := by
  rcases settled with inside | ⟨known, inside, _, same⟩
  · exact ⟨entry, inside, rfl, by simpa using wide⟩
  · obtain ⟨name, near⟩ := sameEntity_iff.mp same
    exact ⟨known, inside, name, by omega⟩

/-- The first function with a name is a new entity when it is taken, so a function with its name is
kept on a line nearby. -/
theorem exists_mem_merge_near_first {name : String} (wide : 0 ≤ tolerance)
    (first : entries.find? (fun entry => entry.name == name) = some entry) :
    ∃ known ∈ merge tolerance entries, known.name = name ∧
      ((entry.line - known.line).natAbs : Int) ≤ tolerance := by
  obtain ⟨named, before, after, rfl, none⟩ := List.find?_eq_some_iff_append.mp first
  have name_eq : entry.name = name := by simpa using named
  have new : ∀ known ∈ before.foldl (FunctionEntry.take tolerance) [],
      sameEntity tolerance known entry = false := by
    intro known inside
    have other : known.name ≠ name := by
      simpa using none known (by simpa using mem_of_mem_foldl inside)
    simp [sameEntity, name_eq, other]
  have added : Settled tolerance
      (FunctionEntry.take tolerance (before.foldl (FunctionEntry.take tolerance) []) entry)
      entry := by
    rcases take_cases tolerance (before.foldl (FunctionEntry.take tolerance) []) entry with
      ⟨_, taken⟩ | ⟨⟨known, inside, same, _⟩, _⟩ | ⟨_, _, ⟨known, inside, same⟩, _⟩
    · exact .inl (by simp [taken])
    · simp [new known inside] at same
    · simp [new known inside] at same
  have settled := added.foldl after
  rw [← List.foldl_cons, ← List.foldl_append] at settled
  rw [← name_eq]
  exact settled.exists_near wide

end SourceLens.FunctionEntry
