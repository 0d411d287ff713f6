/-!
# Switches and arguments

The words of a command line are switches and arguments. A long switch is written `--name`, with its
value behind an equals sign or as the next word; a short one is a single character behind a dash,
several may share a dash, and the value of the last one may follow at once. Two dashes alone end the
switches. A value is whatever comes next, even if it looks like a switch.
-/
namespace SourceLens.Options

/-- Why a command line is not understood. -/
inductive Refusal where
  /-- There is no such switch. -/
  | unknownSwitch (written : String)
  /-- A switch needs a value. -/
  | valueMissing (written : String)
  /-- A switch takes no value. -/
  | valueUnexpected (written : String)
  /-- There is no command. -/
  | commandMissing
  /-- There is no such command. -/
  | unknownCommand (written : String)
  /-- An argument is missing. -/
  | argumentMissing (name : String)
  /-- There are more arguments than the command takes. -/
  | argumentUnexpected (written : String)
  /-- A value is not one that the switch takes. -/
  | badValue (name written : String)
  deriving DecidableEq, Repr

/-- The error in words. -/
def Refusal.message : Refusal → String
  | unknownSwitch written => s!"No such option: {written}"
  | valueMissing written => s!"Option '{written}' requires an argument."
  | valueUnexpected written => s!"Option '{written}' does not take a value."
  | commandMissing => "Missing command."
  | unknownCommand written => s!"No such command '{written}'."
  | argumentMissing name => s!"Missing argument '{name}'."
  | argumentUnexpected written => s!"Got unexpected extra argument ({written})"
  | badValue name written => s!"Invalid value for '{name}': {written}"

/-- A switch. -/
structure Switch where
  /-- The name behind two dashes. -/
  long : String
  /-- The character behind one dash. -/
  short : Option Char := none
  /-- Whether a value belongs to it. -/
  takesValue : Bool := true
  deriving DecidableEq, Repr

/-- A switch without a value. -/
def Switch.flag (long : String) (short : Option Char) : Switch :=
  { long, short, takesValue := false }

/-- What was read from a command line. -/
structure Words where
  /-- The switches in order, each by its long name and with its value if it takes one. -/
  switches : List (String × Option String) := []
  /-- The arguments in order. -/
  arguments : List String := []
  deriving DecidableEq, Repr

namespace Words

/-- The words with one switch more. -/
def set (words : Words) (switch : Switch) (value : Option String) : Words :=
  { words with switches := words.switches ++ [(switch.long, value)] }

/-- Whether a switch was given. -/
def has (words : Words) (name : String) : Bool := words.switches.any (·.1 = name)

/-- All values of a switch. -/
def values (words : Words) (name : String) : List String :=
  words.switches.filterMap fun (switch, value) => if switch = name then value else none

/-- The value of a switch, the last one if it was given more than once. -/
def value? (words : Words) (name : String) : Option String := (words.values name).getLast?

end Words

/-- Read the characters behind a single dash. The answer holds the switch that waits for its value
as the next word. -/
def shortSwitches (known : List Switch) (words : Words) :
    List Char → Except Refusal (Words × Option Switch)
  | [] => .ok (words, none)
  | c :: rest =>
    match known.find? (·.short = some c) with
    | none => .error (.unknownSwitch (String.ofList ['-', c]))
    | some switch =>
      if !switch.takesValue then shortSwitches known (words.set switch none) rest
      else if rest.isEmpty then .ok (words, some switch)
      else .ok (words.set switch (some (String.ofList rest)), none)

/-- Read a word that starts with two dashes, or with one before something else. The answer holds the
switch that waits for its value as the next word. -/
def switchWord (known : List Switch) (words : Words) (word : List Char) :
    Except Refusal (Words × Option Switch) :=
  let name := word.takeWhile (· ≠ '=')
  let value :=
    if word.contains '=' then some (String.ofList (word.drop (name.length + 1))) else none
  match known.find? fun switch => name = '-' :: '-' :: switch.long.toList with
  | some switch =>
    match switch.takesValue, value with
    | true, some value => .ok (words.set switch (some value), none)
    | true, none => .ok (words, some switch)
    | false, some _ => .error (.valueUnexpected (String.ofList name))
    | false, none => .ok (words.set switch none, none)
  | none =>
    if ['-', '-'].isPrefixOf word then .error (.unknownSwitch (String.ofList name))
    else shortSwitches known words (word.drop 1)

/-- Whether a word is a switch. -/
def isSwitch (word : String) : Bool := word.toList.head? = some '-' && 1 < word.length

/-- Read words after those already read; `waiting` is a switch whose value comes next. Unless
`mixed`, the first argument ends the switches. -/
def readWords (known : List Switch) (mixed : Bool) (waiting : Option Switch) (words : Words) :
    List String → Except Refusal Words
  | [] =>
    match waiting with
    | some switch => .error (.valueMissing ("--" ++ switch.long))
    | none => .ok words
  | word :: rest =>
    match waiting with
    | some switch => readWords known mixed none (words.set switch (some word)) rest
    | none =>
      if word = "--" then .ok { words with arguments := words.arguments ++ rest }
      else if isSwitch word then
        match switchWord known words word.toList with
        | .error error => .error error
        | .ok (words, waiting) => readWords known mixed waiting words rest
      else if mixed then
        readWords known mixed none { words with arguments := words.arguments ++ [word] } rest
      else .ok { words with arguments := words.arguments ++ word :: rest }

/-- The words of a command line with these switches. -/
def read (known : List Switch) (mixed : Bool) (args : List String) : Except Refusal Words :=
  readWords known mixed none {} args

end SourceLens.Options
