/-!
# Signatures

The one-line display form of a function: its modifiers, its keyword, its name and its parameters.
A parameter that is not a plain name is shown by three dots.
-/
namespace SourceLens.Signature

/-- What stands for a parameter that is not a plain name. -/
def placeholder : String := "..."

/-- The parameters separated by commas. -/
def parameters (names : List (Option String)) : String :=
  ", ".intercalate <| names.map fun
    | none => placeholder
    | some name => if name.isEmpty then placeholder else name

/-- Every modifier followed by a space. -/
def modified (modifiers : List String) : String := "".intercalate (modifiers.map (· ++ " "))

/-- A named function: modifiers, keyword if any, name and parameters. -/
def named (name : String) (names : List (Option String)) (modifiers : List String)
    (keyword : Option String) : String :=
  let word := match keyword with
    | none => ""
    | some word => if word.isEmpty then "" else word ++ " "
  modified modifiers ++ word ++ name ++ "(" ++ parameters names ++ ")"

/-- A function without a name, shown by an arrow. -/
def arrow (names : List (Option String)) (modifiers : List String) : String :=
  modified modifiers ++ "(" ++ parameters names ++ ") => \x7b...\x7d"

/-- A function bound to a variable. -/
def bound (name value : String) : String := name ++ " = " ++ value

end SourceLens.Signature
