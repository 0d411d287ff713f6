import SourceLens.Check.Rules

/-!
# Strict rules

The rules that the program runs with. A value is never converted: a text of digits is no integer, a
truth value is none either, and an integer is no truth value. The items of a list are checked one by
one, so each has a complaint of its own.
-/
namespace SourceLens

namespace Check

/-- A text. -/
def text : Check String
  | _, .text content => .ok content
  | place, _ => refuse place .notText

/-- A text with at least one character. -/
def nonemptyText : Check String
  | place, .text content => if content.isEmpty then refuse place .emptyText else .ok content
  | place, _ => refuse place .notText

/-- An integer, written without a fraction. -/
def integer : Check Int
  | _, .int number => .ok number
  | place, _ => refuse place .notInteger

/-- An integer that is not negative. -/
def count : Check Nat
  | place, .int number => if number < 0 then refuse place .negative else .ok number.toNat
  | place, _ => refuse place .notInteger

/-- A truth value. -/
def boolean : Check Bool
  | _, .bool flag => .ok flag
  | place, _ => refuse place .notBoolean

/-- A text that is one of some choices. -/
def oneOf (choices : List String) : Check String
  | place, .text content =>
    if choices.contains content then .ok content else refuse place (.notOneOf choices)
  | place, _ => refuse place (.notOneOf choices)

/-- Items of a list from an index on. -/
def items {α : Type} (check : Check α) (place : List String) : Nat → List Value → Checked (List α)
  | _, [] => .ok []
  | index, item :: rest =>
    List.cons <$> check (place ++ [toString index]) item <*> items check place (index + 1) rest

/-- A list whose items are checked each. -/
def list {α : Type} (check : Check α) : Check (List α)
  | place, .list values => items check place 0 values
  | place, _ => refuse place .notList

variable {α : Type} {check : Check α} {shown : α → Value} {fits : Value → Bool}

/-- The check of a text is strict. -/
theorem text_strict : Strict text .text Value.isText where
  accepts value fit := by
    cases value with
    | text content => exact ⟨content, rfl, fun _ => rfl⟩
    | _ => cases fit
  refuses value misfit := by
    cases value with
    | text content => cases misfit
    | _ => exact ⟨.notText, fun _ => rfl⟩

/-- The check of a text with at least one character is strict. -/
theorem nonemptyText_strict : Strict nonemptyText .text Value.isNonemptyText where
  accepts value fit := by
    cases value with
    | text content =>
      have something : ¬content.isEmpty = true := by simpa [Value.isNonemptyText] using fit
      exact ⟨content, rfl, fun _ => if_neg something⟩
    | _ => cases fit
  refuses value misfit := by
    cases value with
    | text content =>
      have nothing : content.isEmpty = true := by simpa [Value.isNonemptyText] using misfit
      exact ⟨.emptyText, fun _ => if_pos nothing⟩
    | _ => exact ⟨.notText, fun _ => rfl⟩

/-- The check of an integer is strict. -/
theorem integer_strict : Strict integer .int Value.isInteger where
  accepts value fit := by
    cases value with
    | int number => exact ⟨number, rfl, fun _ => rfl⟩
    | _ => cases fit
  refuses value misfit := by
    cases value with
    | int number => cases misfit
    | _ => exact ⟨.notInteger, fun _ => rfl⟩

/-- The check of an integer that is not negative is strict. -/
theorem count_strict : Strict count .nat Value.isCount where
  accepts value fit := by
    cases value with
    | int number =>
      have natural : 0 ≤ number := by simpa [Value.isCount] using fit
      have same : Value.nat number.toNat = .int number := by
        rw [Value.nat, Int.toNat_of_nonneg natural]
      exact ⟨number.toNat, same, fun _ => if_neg (by omega)⟩
    | _ => cases fit
  refuses value misfit := by
    cases value with
    | int number =>
      have negative : number < 0 := by simpa [Value.isCount] using misfit
      exact ⟨.negative, fun _ => if_pos negative⟩
    | _ => exact ⟨.notInteger, fun _ => rfl⟩

/-- The check of a truth value is strict. -/
theorem boolean_strict : Strict boolean .bool Value.isFlag where
  accepts value fit := by
    cases value with
    | bool flag => exact ⟨flag, rfl, fun _ => rfl⟩
    | _ => cases fit
  refuses value misfit := by
    cases value with
    | bool flag => cases misfit
    | _ => exact ⟨.notBoolean, fun _ => rfl⟩

/-- The check of a choice is strict. -/
theorem oneOf_strict (choices : List String) :
    Strict (oneOf choices) .text (Value.isOneOf choices) where
  accepts value fit := by
    cases value with
    | text content => exact ⟨content, rfl, fun _ => if_pos fit⟩
    | _ => cases fit
  refuses value misfit := by
    cases value with
    | text content =>
      have other : ¬choices.contains content = true := by simpa [Value.isOneOf] using misfit
      exact ⟨.notOneOf choices, fun _ => if_neg other⟩
    | _ => exact ⟨.notOneOf choices, fun _ => rfl⟩

/-- The items of a list are accepted when every one fits. -/
theorem items_accepts (exact : Exact check shown fits) (values : List Value)
    (fit : ∀ value ∈ values, fits value = true) :
    ∃ results, results.map shown = values ∧
      ∀ place index, items check place index values = .ok results := by
  induction values with
  | nil => exact ⟨[], rfl, fun _ _ => rfl⟩
  | cons value rest ih =>
    obtain ⟨result, same, accepted⟩ := exact.accepts value (fit value (by simp))
    obtain ⟨results, others, accepted'⟩ := ih fun other inside => fit other (by simp [inside])
    refine ⟨result :: results, by rw [List.map_cons, same, others], fun place index => ?_⟩
    rw [items, accepted, accepted']
    rfl

/-- The complaints about the items of a list are about places below that of the list, and there are
some when an item does not fit. -/
theorem items_refuses (exact : Exact check shown fits) (place : List String) (index : Nat)
    (values : List Value) (misfit : ∃ value ∈ values, fits value = false) :
    ∃ complaints, items check place index values = .bad complaints ∧ complaints ≠ [] ∧
      ∀ complaint ∈ complaints, place <+: complaint.place := by
  induction values generalizing index with
  | nil => simp at misfit
  | cons value rest ih =>
    have below : ∀ {complaint : Complaint}, place ++ [toString index] <+: complaint.place →
        place <+: complaint.place := (List.prefix_append place [toString index]).trans
    cases here : fits value with
    | true =>
      have later : ∃ other ∈ rest, fits other = false := by simpa [here] using misfit
      obtain ⟨_, _, accepted⟩ := exact.accepts value here
      obtain ⟨complaints, refused, some, inside⟩ := ih (index + 1) later
      refine ⟨complaints, ?_, some, inside⟩
      rw [items, accepted, refused]
      rfl
    | false =>
      obtain ⟨complaints, refused, some, inside⟩ :=
        exact.refuses value here (place ++ [toString index])
      by_cases later : ∃ other ∈ rest, fits other = false
      · obtain ⟨others, refused', _, inside'⟩ := ih (index + 1) later
        refine ⟨complaints ++ others, ?_, by simp [some], fun complaint member => ?_⟩
        · rw [items, refused, refused']
          rfl
        · rcases List.mem_append.mp member with first | second
          · exact below (inside complaint first)
          · exact inside' complaint second
      · have fit : ∀ other ∈ rest, fits other = true := by simpa using later
        obtain ⟨_, _, accepted⟩ := items_accepts exact rest fit
        refine ⟨complaints, ?_, some, fun complaint member => below (inside complaint member)⟩
        rw [items, refused, accepted]
        rfl

/-- The check of a list is exact when the check of its items is. -/
theorem list_exact (exact : Exact check shown fits) :
    Exact (list check) (fun results => .list (results.map shown)) (Value.isListOf fits) where
  accepts value fit := by
    cases value with
    | list values =>
      have all : ∀ value ∈ values, fits value = true := by simpa [Value.isListOf] using fit
      obtain ⟨results, same, accepted⟩ := items_accepts exact values all
      exact ⟨results, congrArg Value.list same, fun place => accepted place 0⟩
    | _ => cases fit
  refuses value misfit place := by
    cases value with
    | list values =>
      have some : ∃ value ∈ values, fits value = false := by
        simpa [Value.isListOf, List.all_eq_false] using misfit
      exact items_refuses exact place 0 values some
    | _ => exact ⟨[⟨place, .notList⟩], rfl, by simp, by simp⟩

end Check

/-- The strict rules. -/
def Rules.strict : Rules where
  text := Check.text
  nonemptyText := Check.nonemptyText
  integer := Check.integer
  count := Check.count
  boolean := Check.boolean
  texts := Check.list Check.text
  oneOf := Check.oneOf
  text_strict := Check.text_strict
  nonemptyText_strict := Check.nonemptyText_strict
  integer_strict := Check.integer_strict
  count_strict := Check.count_strict
  boolean_strict := Check.boolean_strict
  texts_exact := Check.list_exact Check.text_strict.exact
  oneOf_strict := Check.oneOf_strict

end SourceLens
