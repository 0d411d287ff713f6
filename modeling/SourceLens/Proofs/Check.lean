import SourceLens.Check.Rules
import Mathlib.Logic.Function.Basic

/-!
# What checks accept

Values are told apart by the shapes that rules accept, so a rule gives back what a value shows
(`Check.Exact.apply`). The rules of requests are read off from this: a text is what the rule for
texts gives, and so on for the other rules. A check whose value may be absent is as strict as the
check of the value.
-/
namespace SourceLens

/-! ## Values that show something -/

namespace Value

/-- Natural numbers are told apart by their values. -/
theorem nat_inj {one other : Nat} : nat one = nat other ↔ one = other := by
  rw [nat, nat, int.injEq, Int.natCast_inj]

/-- Optional texts are told apart by their values. -/
theorem textOrNull_inj {one other : Option String} :
    textOrNull one = textOrNull other ↔ one = other := by
  cases one <;> cases other <;> simp [textOrNull]

/-- Optional integers are told apart by their values. -/
theorem intOrNull_inj {one other : Option Int} : intOrNull one = intOrNull other ↔ one = other := by
  cases one <;> cases other <;> simp [intOrNull]

/-- Lists of texts are told apart by their values. -/
theorem texts_inj {one other : List String} : texts one = texts other ↔ one = other := by
  rw [texts, texts, list.injEq, List.map_inj_right fun _ _ => text.inj]

end Value

/-! ## Laws of checks -/

namespace Check

variable {α : Type} {check : Check α} {shown : α → Value} {fits : Value → Bool}

/-- What an exact check makes of a value of its shape is what the value shows. -/
theorem Exact.apply (exact : Exact check shown fits) (told : Function.Injective shown) {result : α}
    (fit : fits (shown result) = true) (place : List String) :
    check place (shown result) = .ok result := by
  obtain ⟨other, same, accepted⟩ := exact.accepts _ fit
  rw [accepted, told same]

/-- What a strict check makes of a value of its shape is what the value shows. -/
theorem Strict.apply (strict : Strict check shown fits) (told : Function.Injective shown)
    {result : α} (fit : fits (shown result) = true) (place : List String) :
    check place (shown result) = .ok result :=
  strict.exact.apply told fit place

/-- What an exact check accepts is shown by the value. -/
theorem Exact.eq_shown (exact : Exact check shown fits) {place : List String} {value : Value}
    {result : α} (accepted : check place value = .ok result) : value = shown result := by
  cases fit : fits value with
  | true =>
    obtain ⟨other, same, gives⟩ := exact.accepts value fit
    rw [← same, Checked.ok.inj ((gives place).symm.trans accepted)]
  | false =>
    obtain ⟨complaints, refused, _⟩ := exact.refuses value fit place
    cases refused.symm.trans accepted

/-- A check whose value may be absent is as strict as the check of the value. -/
theorem optional_strict {shownOption : Option α → Value} (strict : Strict check shown fits)
    (present : ∀ result, shownOption (some result) = shown result) :
    Strict (optional check) shownOption fits where
  accepts value fit := by
    obtain ⟨result, same, accepted⟩ := strict.accepts value fit
    refine ⟨some result, (present result).trans same, fun place => ?_⟩
    rw [optional, accepted]
    rfl
  refuses value misfit := by
    obtain ⟨grievance, refused⟩ := strict.refuses value misfit
    refine ⟨grievance, fun place => ?_⟩
    rw [optional, refused]
    rfl

end Check

namespace Rules

variable (rules : Rules) (place : List String)

/-- A text is a text. -/
@[simp]
theorem text_apply (content : String) : rules.text place (.text content) = .ok content :=
  rules.text_strict.apply (fun _ _ => Value.text.inj) rfl place

/-- A text that is not empty has a character. -/
theorem nonemptyText_apply {content : String} (some : content ≠ "") :
    rules.nonemptyText place (.text content) = .ok content :=
  rules.nonemptyText_strict.apply (fun _ _ => Value.text.inj)
    (by simpa [Value.isNonemptyText] using some) place

/-- An integer is an integer. -/
@[simp]
theorem integer_apply (number : Int) : rules.integer place (.int number) = .ok number :=
  rules.integer_strict.apply (fun _ _ => Value.int.inj) rfl place

/-- A natural number is a count. -/
@[simp]
theorem count_apply (size : Nat) : rules.count place (.nat size) = .ok size :=
  rules.count_strict.apply (fun _ _ => Value.nat_inj.mp) (by simp [Value.isCount, Value.nat]) place

/-- A truth value is a truth value. -/
@[simp]
theorem boolean_apply (flag : Bool) : rules.boolean place (.bool flag) = .ok flag :=
  rules.boolean_strict.apply (fun _ _ => Value.bool.inj) rfl place

/-- Texts are a list of texts. -/
@[simp]
theorem texts_apply (contents : List String) :
    rules.texts place (.texts contents) = .ok contents :=
  rules.texts_exact.apply (fun _ _ => Value.texts_inj.mp)
    (by simp [Value.isListOf, Value.texts, Value.isText]) place

/-- A choice is one of the choices. -/
theorem oneOf_apply {choices : List String} {choice : String} (known : choice ∈ choices) :
    rules.oneOf choices place (.text choice) = .ok choice :=
  (rules.oneOf_strict choices).apply (fun _ _ => Value.text.inj)
    (by simpa [Value.isOneOf] using known) place

end Rules

/-! ## Complaints -/

namespace Checked

variable {α β : Type}

/-- Changing a value adds no complaint. -/
@[simp]
theorem complaints_map (change : α → β) (checked : Checked α) :
    (change <$> checked).complaints = checked.complaints := by
  cases checked <;> rfl

/-- A checked function and a checked value have the complaints of both, those about the function
first. -/
@[simp]
theorem complaints_seq (change : Checked (α → β)) (checked : Checked α) :
    (change <*> checked).complaints = change.complaints ++ checked.complaints := by
  cases change with
  | ok apply => cases checked <;> rfl
  | bad first =>
    cases checked with
    | ok value => exact (List.append_nil first).symm
    | bad second => rfl

end Checked

end SourceLens
