import SourceLens.Text.Integer

/-!
# Breakdowns of patterns

Some patterns are neither refused nor searched: a limit of the engine stops them, when they are read
or when they are matched. A breakdown has no position, and it ends the operation that meets it.
-/
namespace SourceLens.Pattern

/-- Why a pattern breaks an operation off. -/
inductive Breakdown where
  /-- A count of repetitions is too large. -/
  | countTooLarge
  /-- A count of repetitions has too many digits. -/
  | tooManyDigits (digits : Nat)
  /-- Flags of the whole pattern ask for the letters of ASCII and for those of all scripts. -/
  | lettersClash
  /-- A group of a match ends before it starts. -/
  | groupReversed
  deriving DecidableEq, Repr

/-- The breakdown in words. -/
def Breakdown.message : Breakdown → String
  | countTooLarge => "the repetition number is too large"
  | tooManyDigits digits =>
    s!"Exceeds the limit ({Text.maxDigits} digits) for integer string conversion: value has " ++
      s!"{digits} digits; use sys.set_int_max_str_digits() to increase the limit"
  | lettersClash => "ASCII and UNICODE flags are incompatible"
  | groupReversed =>
    "The span of capturing group is wrong, please report a bug for the re module."

end SourceLens.Pattern
