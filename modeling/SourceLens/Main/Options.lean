import SourceLens.CommandLine
import SourceLens.Main.Number
import SourceLens.Main.Switches

/-!
# The parser of options

The switches and arguments of the commands, and what they hand over. A count that a command takes is
read as a natural number, so none is negative (`Options.parser`).
-/
namespace SourceLens.Options

open CommandLine

/-! ## Arguments and values -/

/-- The integer of a switch. -/
def integer? (words : Words) (name : String) : Except Refusal (Option Int) :=
  match words.value? name with
  | none => .ok none
  | some written =>
    match readNumber? written with
    | some number => .ok (some number)
    | none => .error (.badValue name written)

/-- The integer of a switch, which must not be negative. -/
def count? (words : Words) (name : String) : Except Refusal (Option Nat) := do
  match ← integer? words name with
  | none => return none
  | some (.ofNat number) => return some number
  | some (.negSucc number) => throw (.badValue name (toString (Int.negSucc number)))

/-- A path argument, which must have no null character. -/
def pathArgument (name written : String) : Except Refusal String :=
  if (Path.parse written).hasNull then .error (.badValue name written) else .ok written

/-- The only argument. -/
def oneArgument (name : String) : List String → Except Refusal String
  | [] => .error (.argumentMissing name)
  | [argument] => .ok argument
  | _ :: extra :: _ => .error (.argumentUnexpected extra)

/-- The two arguments. -/
def twoArguments (first second : String) : List String → Except Refusal (String × String)
  | [] => .error (.argumentMissing first)
  | [_] => .error (.argumentMissing second)
  | [one, two] => .ok (one, two)
  | _ :: _ :: extra :: _ => .error (.argumentUnexpected extra)

/-- An argument and one that may be left out. -/
def oneOrTwoArguments (name : String) : List String → Except Refusal (String × Option String)
  | [] => .error (.argumentMissing name)
  | [one] => .ok (one, none)
  | [one, two] => .ok (one, some two)
  | _ :: _ :: extra :: _ => .error (.argumentUnexpected extra)

/-! ## Commands -/

/-- A command whose counts are not negative. -/
abbrev Counted : Type := { command : Command // ∀ number ∈ command.counts, 0 ≤ number }

/-- A count as a number. -/
def counted (count : Option Nat) : Option Int := count.map Int.ofNat

/-- A count is not negative. -/
theorem nonneg_of_mem_counted {count : Option Nat} {number : Int}
    (member : number ∈ (counted count).toList) : 0 ≤ number := by
  cases count with
  | none => simp [counted] at member
  | some size =>
    have same : number = size := by simpa [counted] using member
    omega

/-- Two counts are not negative. -/
theorem nonneg_of_mem_counted_append {first second : Option Nat} {number : Int}
    (member : number ∈ (counted first).toList ++ (counted second).toList) : 0 ≤ number := by
  rcases List.mem_append.mp member with inFirst | inSecond
  · exact nonneg_of_mem_counted inFirst
  · exact nonneg_of_mem_counted inSecond

/-- The command that reads a whole file. -/
def full (args : List String) : Except Refusal Counted := do
  let words ← read [] true args
  let file ← pathArgument "FILE_PATH" (← oneArgument "FILE_PATH" words.arguments)
  return ⟨.full file, by simp [Command.counts]⟩

/-- The command that reads an outline. -/
def outline (args : List String) : Except Refusal Counted := do
  let words ← read [.flag "brief" none] true args
  let file ← pathArgument "FILE_PATH" (← oneArgument "FILE_PATH" words.arguments)
  return ⟨.outline file (words.has "brief"), by simp [Command.counts]⟩

/-- The switches of the command that reads lines. -/
def lineSwitches : List Switch :=
  [{ long := "line", short := some 'l' }, { long := "above" }, { long := "below" }]

/-- The command that reads lines. -/
def lines (args : List String) : Except Refusal Counted := do
  let words ← read lineSwitches true args
  let file ← pathArgument "FILE_PATH" (← oneArgument "FILE_PATH" words.arguments)
  let line ← integer? words "line"
  let above ← count? words "above"
  let below ← count? words "below"
  return ⟨.lines file line (counted above) (counted below),
    fun _ => nonneg_of_mem_counted_append⟩

/-- The switches of the command that reads an entity. -/
def targetSwitches : List Switch :=
  [.flag "no-context" none, { long := "context-lines", short := some 'C' }]

/-- The command that reads an entity. -/
def target (args : List String) : Except Refusal Counted := do
  let words ← read targetSwitches true args
  let (written, qualifier) ← twoArguments "FILE_PATH" "QUALIFIER" words.arguments
  let file ← pathArgument "FILE_PATH" written
  let contextLines ← count? words "context-lines"
  return ⟨.target file qualifier (words.has "no-context") (counted contextLines),
    fun _ => nonneg_of_mem_counted⟩

/-- The switches of the command that searches. -/
def searchSwitches : List Switch :=
  [{ long := "type", short := some 't' }, { long := "modifier", short := some 'm' },
    { long := "glob", short := some 'g' }, .flag "ignore-case" (some 'i'),
    { long := "context", short := some 'C' }, .flag "files-only" none,
    { long := "limit", short := some 'n' }, .flag "include-non-code" none]

/-- The command that searches. -/
def search (args : List String) : Except Refusal Counted := do
  let words ← read searchSwitches true args
  let (pattern, root) ← oneOrTwoArguments "PATTERN" words.arguments
  let path ← root.mapM (pathArgument "PATH")
  let context ← count? words "context"
  let limit ← count? words "limit"
  let options : SearchOptions :=
    { pattern
      path
      type := words.value? "type"
      modifiers := words.values "modifier"
      glob := words.value? "glob"
      ignoreCase := words.has "ignore-case"
      context := counted context
      filesOnly := words.has "files-only"
      limit := counted limit
      includeNonCode := words.has "include-non-code" }
  return ⟨.search options, fun _ => nonneg_of_mem_counted_append⟩

/-- The commands by name. -/
def commands : List (String × (List String → Except Refusal Counted)) :=
  [("full", full), ("outline", outline), ("lines", lines), ("target", target), ("search", search)]

/-! ## The program -/

/-- The switches of the program. -/
def programSwitches : List Switch := [.flag "version" (some 'v'), { long := "log-level" }]

/-- The level of log messages when none is given. -/
def defaultLevel : String := "WARNING"

/-- What a command line asks for: the version, or a command with a level of log messages. The
version wins over any command. -/
def request? (args : List String) : Except Refusal (Option (String × Counted)) := do
  let words ← read programSwitches false args
  if words.has "version" then return none
  match words.arguments with
  | [] => throw .commandMissing
  | name :: rest =>
    match commands.lookup name with
    | none => throw (.unknownCommand name)
    | some command => return some ((words.value? "log-level").getD defaultLevel, ← command rest)

/-- The answer to a command line. -/
def parse (args : List String) : Except String Invocation :=
  match request? args with
  | .error refusal => .error refusal.message
  | .ok none => .ok .version
  | .ok (some (level, command)) => .ok (.command level command)

/-- No count is negative. -/
theorem counts_nonneg (args : List String) (level : String) (command : Command)
    (asked : parse args = .ok (.command level command)) :
    ∀ number ∈ command.counts, 0 ≤ number := by
  unfold parse at asked
  split at asked
  · cases asked
  · cases asked
  · next own counted _ =>
    cases asked
    exact counted.property

/-- The parser of options of the program. -/
def parser : OptionParser := ⟨parse, counts_nonneg⟩

end SourceLens.Options
