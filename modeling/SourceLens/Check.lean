import SourceLens.Value

/-!
# Checking values

A dynamic value is checked against what a field expects (`Check`). Checks never stop at the first
complaint: the complaints of all fields are collected in order (`Checked`), each with the place of
the value it is about.
-/
namespace SourceLens

/-- What is wrong with a value. -/
inductive Grievance where
  /-- The value is missing. -/
  | required
  /-- The value is not a text. -/
  | notText
  /-- The value is not an integer. -/
  | notInteger
  /-- The value is not a truth value. -/
  | notBoolean
  /-- The value is not a list. -/
  | notList
  /-- The integer is negative. -/
  | negative
  /-- The text is empty. -/
  | emptyText
  /-- The value is none of the choices. -/
  | notOneOf (choices : List String)
  deriving DecidableEq, Repr

/-- Choices between single quotes, the last one after the word "or". -/
def choiceList : List String → String
  | [] => ""
  | [choice] => s!"'{choice}'"
  | [choice, last] => s!"'{choice}' or '{last}'"
  | choice :: rest => s!"'{choice}', " ++ choiceList rest

/-- The grievance in words. -/
def Grievance.message : Grievance → String
  | required => "Field required"
  | notText => "Input should be a valid string"
  | notInteger => "Input should be a valid integer"
  | notBoolean => "Input should be a valid boolean"
  | notList => "Input should be a valid list"
  | negative => "Input should be greater than or equal to 0"
  | emptyText => "String should have at least 1 character"
  | notOneOf choices => "Input should be " ++ choiceList choices

/-- A grievance about the value at a place, given as names and indices from the outside in. -/
structure Complaint where
  /-- The place of the value. -/
  place : List String
  /-- What is wrong with it. -/
  grievance : Grievance
  deriving DecidableEq, Repr

/-- The place with full stops between its parts. -/
def Complaint.location (complaint : Complaint) : String := ".".intercalate complaint.place

/-- The complaint in words. -/
def Complaint.message (complaint : Complaint) : String :=
  complaint.location ++ ": " ++ complaint.grievance.message

/-- A checked value, or all complaints about it in order. -/
inductive Checked (α : Type) where
  /-- The value. -/
  | ok (value : α)
  /-- The complaints, at least one. -/
  | bad (complaints : List Complaint)
  deriving Repr

namespace Checked

variable {α β : Type}

/-- Change the value of a check that succeeds. -/
def map (f : α → β) : Checked α → Checked β
  | ok value => ok (f value)
  | bad complaints => bad complaints

/-- Apply a checked function to a checked value, keeping the complaints of both. -/
def seq (f : Checked (α → β)) (x : Unit → Checked α) : Checked β :=
  match f, x () with
  | ok f, ok value => ok (f value)
  | bad complaints, ok _ => bad complaints
  | ok _, bad complaints => bad complaints
  | bad first, bad second => bad (first ++ second)

instance : Applicative Checked where
  map := map
  pure := ok
  seq := seq

/-- The complaints of a check. -/
def complaints : Checked α → List Complaint
  | ok _ => []
  | bad complaints => complaints

end Checked

/-- What a field expects of the value at a place. -/
abbrev Check (α : Type) : Type := List String → Value → Checked α

namespace Check

/-- A single complaint about a place. -/
def refuse {α : Type} (place : List String) (grievance : Grievance) : Checked α :=
  .bad [⟨place, grievance⟩]

/-- A check whose value may be absent. -/
def optional {α : Type} (check : Check α) : Check (Option α) :=
  fun place value => some <$> check place value

/-- A check of a value that is changed first. -/
def prepared {α : Type} (prepare : Value → Value) (check : Check α) : Check α :=
  fun place value => check place (prepare value)

/-- A check of the name of a choice. A name that stands for none of the choices is complained about
like any other. -/
def named {α : Type} (check : Check String) (choices : List String) (read : String → Option α) :
    Check α :=
  fun place value =>
    match check place value with
    | .bad complaints => .bad complaints
    | .ok name =>
      match read name with
      | some choice => .ok choice
      | none => refuse place (.notOneOf choices)

end Check

/-- The first of several names under which a record has a value other than null, and the value. -/
def Fields.present? (fields : Fields) : List String → Option (String × Value)
  | [] => none
  | name :: names =>
    match fields.get? name with
    | none | some .null => fields.present? names
    | some value => some (name, value)

/-- The value of a field with a default. -/
def Fields.checkOr {α : Type} (fields : Fields) (names : List String) (default : α)
    (check : Check α) : Checked α :=
  match fields.present? names with
  | none => .ok default
  | some (name, value) => check [name] value

/-- The value of a field that must be there; the complaint about a missing one names the first of
its names. -/
def Fields.checkRequired {α : Type} (fields : Fields) (names : List String) (check : Check α) :
    Checked α :=
  match fields.present? names with
  | none => Check.refuse (names.take 1) .required
  | some (name, value) => check [name] value

end SourceLens
