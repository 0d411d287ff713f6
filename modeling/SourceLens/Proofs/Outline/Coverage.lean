import SourceLens.Proofs.Outline.Merge

/-!
# No entity is lost

Every function that is merged stays accounted for. A declared function is kept, or a declared one
of its entity is. A bound function may be dropped for another bound function, and that one may be
supplanted later by a declared function that is further away; so what is left of a bound function
can be out of its entity, but it is then declared and lies within twice the tolerance. The bound
comes from two steps and holds for every run, because a declared function is never supplanted
(`Accounted`). All names therefore stay.
-/
namespace SourceLens.FunctionEntry

variable {tolerance : Int} {kept entries : List FunctionEntry} {entry : FunctionEntry}

/-- A function is accounted for when its entity is settled or, for a bound function, when the entity
of a function near to it is settled. -/
def Accounted (tolerance : Int) (kept : List FunctionEntry) (entry : FunctionEntry) : Prop :=
  Settled tolerance kept entry ∨
    (entry.isDeclared = false ∧
      ∃ known, sameEntity tolerance known entry = true ∧ Settled tolerance kept known)

/-- A function that is taken is accounted for. -/
theorem accounted_take (tolerance : Int) (kept : List FunctionEntry) (entry : FunctionEntry) :
    Accounted tolerance (take tolerance kept entry) entry := by
  rcases take_cases tolerance kept entry with
    ⟨_, taken⟩ | ⟨⟨known, inside, same, prefers⟩, taken⟩ | ⟨_, _, replaced, taken⟩
  · rw [taken]
    exact .inl (.inl (by simp))
  · rw [taken]
    cases declared : entry.isDeclared with
    | true => exact .inl (.inr ⟨known, inside, prefers declared, same⟩)
    | false => exact .inr ⟨declared, known, same, .inl inside⟩
  · rw [taken]
    exact .inl (.inl (mem_supplant.mpr (.inr ⟨rfl, replaced⟩)))

/-- Taking functions one after the other keeps a function accounted for. -/
theorem Accounted.foldl (accounted : Accounted tolerance kept entry)
    (entries : List FunctionEntry) :
    Accounted tolerance (entries.foldl (FunctionEntry.take tolerance) kept) entry := by
  rcases accounted with settled | ⟨bound, known, same, settled⟩
  · exact .inl (settled.foldl entries)
  · exact .inr ⟨bound, known, same, settled.foldl entries⟩

/-- After merging, every function is accounted for. -/
theorem accounted_merge (member : entry ∈ entries) :
    Accounted tolerance (merge tolerance entries) entry := by
  obtain ⟨before, after, rfl⟩ := List.append_of_mem member
  rw [merge, List.foldl_append, List.foldl_cons]
  exact (accounted_take tolerance _ entry).foldl after

/-- A declared function that is merged has its entity settled. -/
theorem settled_merge_of_isDeclared (member : entry ∈ entries)
    (declared : entry.isDeclared = true) : Settled tolerance (merge tolerance entries) entry := by
  rcases accounted_merge member with settled | ⟨bound, _⟩
  · exact settled
  · simp [declared] at bound

/-- A declared function whose entity is settled has a declared function near to it. -/
theorem Settled.exists_declared (settled : Settled tolerance kept entry) (wide : 0 ≤ tolerance)
    (declared : entry.isDeclared = true) :
    ∃ known ∈ kept, known.isDeclared = true ∧ known.name = entry.name ∧
      ((known.line - entry.line).natAbs : Int) ≤ tolerance := by
  rcases settled with inside | ⟨known, inside, isDeclared, same⟩
  · exact ⟨entry, inside, declared, rfl, by simpa using wide⟩
  · exact ⟨known, inside, isDeclared, sameEntity_iff.mp same⟩

/-- A function that is accounted for has one of its name kept within twice the tolerance: one within
the tolerance or a declared one. -/
theorem Accounted.exists_near (accounted : Accounted tolerance kept entry) (wide : 0 ≤ tolerance) :
    ∃ known ∈ kept, known.name = entry.name ∧
      ((known.line - entry.line).natAbs : Int) ≤ 2 * tolerance ∧
      (((known.line - entry.line).natAbs : Int) ≤ tolerance ∨ known.isDeclared = true) := by
  rcases accounted with settled | ⟨_, middle, alike, inside | ⟨known, inside, declared, same⟩⟩
  · obtain ⟨known, inside, name, near⟩ := settled.exists_near wide
    have near' : ((known.line - entry.line).natAbs : Int) ≤ tolerance := by omega
    exact ⟨known, inside, name, by omega, .inl near'⟩
  · obtain ⟨name, near⟩ := sameEntity_iff.mp alike
    exact ⟨middle, inside, name, by omega, .inl near⟩
  · -- one step to the function in between, and one more to the one that supplants it
    obtain ⟨name, near⟩ := sameEntity_iff.mp alike
    obtain ⟨name', near'⟩ := sameEntity_iff.mp same
    exact ⟨known, inside, name'.trans name, by omega, .inr declared⟩

/-- Merging loses no entity. A declared function has a declared one of its name within the
tolerance. A bound function has one of its name within twice the tolerance, and a declared one when
none of its name is within the tolerance. So merging keeps exactly the names that there are. -/
theorem merging_loses_no_entity (tolerance : Int) (wide : 0 ≤ tolerance)
    (entries : List FunctionEntry) :
    (∀ entry ∈ entries, entry.isDeclared = true →
      ∃ known ∈ merge tolerance entries, known.isDeclared = true ∧ known.name = entry.name ∧
        ((known.line - entry.line).natAbs : Int) ≤ tolerance) ∧
    (∀ entry ∈ entries, entry.isDeclared = false →
      ∃ known ∈ merge tolerance entries, known.name = entry.name ∧
        ((known.line - entry.line).natAbs : Int) ≤ 2 * tolerance ∧
        ((∀ other ∈ merge tolerance entries, other.name = entry.name →
          tolerance < ((other.line - entry.line).natAbs : Int)) → known.isDeclared = true)) ∧
    ∀ name, name ∈ (merge tolerance entries).map (·.name) ↔ name ∈ entries.map (·.name) := by
  refine ⟨fun entry member declared => ?_, fun entry member _ => ?_, fun name => ?_⟩
  · exact (settled_merge_of_isDeclared member declared).exists_declared wide declared
  · obtain ⟨known, inside, named, close, near | declared⟩ :=
      (accounted_merge member).exists_near wide
    · refine ⟨known, inside, named, close, fun none => ?_⟩
      have far := none known inside named
      omega
    · exact ⟨known, inside, named, close, fun _ => declared⟩
  · simp only [List.mem_map]
    constructor
    · rintro ⟨known, inside, rfl⟩
      exact ⟨known, mem_of_mem_merge inside, rfl⟩
    · rintro ⟨entry, member, rfl⟩
      obtain ⟨known, inside, named, _⟩ := (accounted_merge member).exists_near wide
      exact ⟨known, inside, named⟩

/-- A function `f` on a line, in a form. -/
def named (line : Int) (form : String) : FunctionEntry :=
  { name := "f", line, column := 0, isAsync := false, signature := "f()", form, doc := none }

/-- A bound function, another one near to it, and a declared one that is near to the first only. -/
def chained : List FunctionEntry :=
  [named 8 "arrow_function", named 10 "arrow_function", named 6 declaredForm]

/-- The second bound function is dropped for the first, which the declared one supplants: what is
left of it is four lines away and declared. -/
theorem merging_loses_no_entity_chained :
    (0 : Int) ≤ 2 ∧ merge 2 chained = [named 6 declaredForm] ∧
      ∃ known ∈ merge 2 chained, known.name = "f" ∧
        ((known.line - 10).natAbs : Int) ≤ 2 * 2 ∧ known.isDeclared = true := by
  have left : merge 2 chained = [named 6 declaredForm] := by decide +kernel
  obtain ⟨known, inside, name, close, declared⟩ :=
    (merging_loses_no_entity 2 (by decide) chained).2.1 (named 10 "arrow_function")
      (by simp [chained]) (by decide)
  refine ⟨by decide, left, known, inside, name, close, declared ?_⟩
  rw [left]
  simp [named]

end SourceLens.FunctionEntry
