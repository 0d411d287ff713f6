import SourceLens.Check

/-!
# Rules of checks

The values of fields are validated by rules that do not belong to the program. What is known of them
is which values they accept: a check is exact for a shape when it accepts the values of this shape,
each as what shows it, and complains about every other value (`Check.Exact`). Most checks complain
only once, about the value itself and in words that do not depend on where it stands
(`Check.Strict`); the check of a list complains about its items. Rules carry these laws
(`Rules`), and nothing else about them is used.
-/
namespace SourceLens

/-! ## Shapes of values -/

namespace Value

/-- Whether a value is a text. -/
def isText : Value → Bool
  | text _ => true
  | _ => false

/-- Whether a value is a text with at least one character. -/
def isNonemptyText : Value → Bool
  | text content => !content.isEmpty
  | _ => false

/-- Whether a value is an integer. A truth value is none, and neither is a number with a
fraction. -/
def isInteger : Value → Bool
  | int _ => true
  | _ => false

/-- Whether a value is an integer that is not negative. -/
def isCount : Value → Bool
  | int number => 0 ≤ number
  | _ => false

/-- Whether a value is a truth value. -/
def isFlag : Value → Bool
  | bool _ => true
  | _ => false

/-- Whether a value is a list of values of some shape. -/
def isListOf (fits : Value → Bool) : Value → Bool
  | list items => items.all fits
  | _ => false

/-- Whether a value is one of some texts. -/
def isOneOf (choices : List String) : Value → Bool
  | text content => choices.contains content
  | _ => false

end Value

/-! ## Laws of checks -/

namespace Check

variable {α : Type}

/-- A check accepts the values of a shape and complains about the others. -/
structure Exact (check : Check α) (shown : α → Value) (fits : Value → Bool) : Prop where
  /-- A value of the shape is accepted as what shows it. -/
  accepts : ∀ value, fits value = true →
    ∃ result, shown result = value ∧ ∀ place, check place value = .ok result
  /-- There are complaints about any other value, and all are about places at or below its own. -/
  refuses : ∀ value, fits value = false → ∀ place, ∃ complaints,
    check place value = .bad complaints ∧ complaints ≠ [] ∧
      ∀ complaint ∈ complaints, place <+: complaint.place

/-- A check accepts the values of a shape and complains once about any other value. -/
structure Strict (check : Check α) (shown : α → Value) (fits : Value → Bool) : Prop where
  /-- A value of the shape is accepted as what shows it. -/
  accepts : ∀ value, fits value = true →
    ∃ result, shown result = value ∧ ∀ place, check place value = .ok result
  /-- There is one complaint about any other value. It is about the place of the value, and its
  words do not depend on the place. -/
  refuses : ∀ value, fits value = false →
    ∃ grievance, ∀ place, check place value = refuse place grievance

/-- A check that complains once is exact. -/
theorem Strict.exact {check : Check α} {shown : α → Value} {fits : Value → Bool}
    (strict : Strict check shown fits) : Exact check shown fits where
  accepts := strict.accepts
  refuses value misfit place := by
    obtain ⟨grievance, refused⟩ := strict.refuses value misfit
    exact ⟨[⟨place, grievance⟩], refused place, by simp, by simp⟩

end Check

/-- The rules by which the values of fields are validated. Every rule is strict: no value is taken
for one of another shape. -/
structure Rules where
  /-- The rule for texts. -/
  text : Check String
  /-- The rule for texts with at least one character. -/
  nonemptyText : Check String
  /-- The rule for integers. -/
  integer : Check Int
  /-- The rule for integers that are not negative. -/
  count : Check Nat
  /-- The rule for truth values. -/
  boolean : Check Bool
  /-- The rule for lists of texts. -/
  texts : Check (List String)
  /-- The rule for a text that is one of some choices. -/
  oneOf : List String → Check String
  /-- Texts are accepted. -/
  text_strict : text.Strict .text Value.isText
  /-- Texts with at least one character are accepted. -/
  nonemptyText_strict : nonemptyText.Strict .text Value.isNonemptyText
  /-- Integers are accepted. -/
  integer_strict : integer.Strict .int Value.isInteger
  /-- Integers that are not negative are accepted. -/
  count_strict : count.Strict .nat Value.isCount
  /-- Truth values are accepted. -/
  boolean_strict : boolean.Strict .bool Value.isFlag
  /-- Lists are accepted when all their items are texts. -/
  texts_exact : texts.Exact .texts (Value.isListOf Value.isText)
  /-- The choices are accepted. -/
  oneOf_strict : ∀ choices, (oneOf choices).Strict .text (Value.isOneOf choices)

end SourceLens
