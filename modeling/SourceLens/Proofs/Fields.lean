import SourceLens.Value

/-!
# Fields by name

How a field is looked up in a record that is put together from parts: the last part that has the
field decides.
-/
namespace SourceLens.Fields

/-- A record without fields has no field. -/
@[simp]
theorem get?_nil (name : String) : get? [] name = none := rfl

/-- A field is looked up in the second part first. -/
@[simp]
theorem get?_append (first second : Fields) (name : String) :
    get? (first ++ second) name = (get? second name).or (get? first name) := by
  simp only [get?, List.reverse_append, List.find?_append]
  cases second.reverse.find? (·.1 == name) <;> rfl

/-- The first field counts when no later one has its name. -/
@[simp]
theorem get?_cons (own : String) (value : Value) (rest : Fields) (name : String) :
    get? ((own, value) :: rest) name =
      (get? rest name).or (if own = name then some value else none) := by
  rw [← List.singleton_append, get?_append]
  by_cases same : own = name <;> simp [get?, same]

/-- A name that no field has gives nothing. -/
theorem get?_eq_none {fields : Fields} {name : String} (absent : name ∉ fields.map Prod.fst) :
    get? fields name = none := by
  induction fields with
  | nil => rfl
  | cons field rest ih =>
    rw [List.map_cons, List.mem_cons, not_or] at absent
    rw [get?_cons, ih absent.2, if_neg (Ne.symm absent.1), Option.or_none]

/-- A field is found when no other has its name. -/
theorem get?_of_mem {fields : Fields} {name : String} {value : Value}
    (distinct : (fields.map Prod.fst).Nodup) (inside : (name, value) ∈ fields) :
    get? fields name = some value := by
  induction fields with
  | nil => cases inside
  | cons field rest ih =>
    rw [List.map_cons, List.nodup_cons] at distinct
    rw [get?_cons]
    rcases List.mem_cons.mp inside with rfl | later
    · rw [get?_eq_none distinct.1, if_pos rfl, Option.none_or]
    · rw [ih distinct.2 later, Option.some_or]

/-- A filter by name leaves a field as it is when it keeps the name, and drops it otherwise. -/
theorem get?_filter (keep : String → Bool) (fields : Fields) (name : String) :
    get? (fields.filter fun field => keep field.1) name =
      if keep name then get? fields name else none := by
  induction fields with
  | nil => simp
  | cons field rest ih =>
    obtain ⟨own, value⟩ := field
    rw [List.filter_cons, get?_cons]
    by_cases same : own = name
    · subst same
      cases kept : keep own <;> simp [kept, ih]
    · cases kept : keep own <;> simp [same, ih]

/-- An optional field is there when its text is there and not empty. -/
@[simp]
theorem get?_optionalField (own : String) (content : Option String) (name : String) :
    get? (Value.optionalField own content) name =
      if own = name then (content.filter (!·.isEmpty)).map .text else none := by
  cases content with
  | none => simp [Value.optionalField]
  | some content =>
    by_cases empty : content.isEmpty = true <;> simp [Value.optionalField, Option.filter, empty]

end SourceLens.Fields
