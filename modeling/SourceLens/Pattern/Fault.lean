import SourceLens.Pattern.Breakdown
import SourceLens.Pattern.Node
import SourceLens.Text.Quoted

/-!
# Faults of patterns

Why a text is no pattern, and where. A fault has a position in the pattern, counted in characters,
unless it concerns a part as a whole; the line and the column follow it when the pattern has more
than one line.
-/
namespace SourceLens.Pattern

/-- Why a text is no pattern. -/
inductive Fault where
  /-- A backslash ends the pattern. -/
  | danglingEscape
  /-- An escape without a meaning. -/
  | badEscape (written : String)
  /-- An escape with too few digits. -/
  | incompleteEscape (written : String)
  /-- An octal escape beyond one byte. -/
  | octalTooLarge (written : String)
  /-- A named character without its braces. -/
  | braceMissing
  /-- A name that is empty. -/
  | nameMissing (what : String)
  /-- A name without its end. -/
  | nameUnterminated (terminator : Char)
  /-- A character name that is not known. -/
  | unknownCharacter (name : String)
  /-- A name that is no identifier. -/
  | badName (name : String)
  /-- A group name that is not known. -/
  | unknownName (name : String)
  /-- A group name that is taken. -/
  | nameTaken (name : String) (index earlier : Nat)
  /-- A reference to a group that is not closed yet. -/
  | groupOpen
  /-- A reference inside a look-behind to a group of the same look-behind. -/
  | sameLookBehind
  /-- A reference to a group that does not exist. -/
  | invalidReference (index : Int)
  /-- A condition on the group of the whole match. -/
  | badGroupNumber
  /-- A condition with more than two parts. -/
  | tooManyBranches
  /-- A character set without its end. -/
  | setUnterminated
  /-- A range of characters that is empty or has an end that is no character. -/
  | badRange (low high : String)
  /-- A least count above the greatest one. -/
  | countsReversed
  /-- A quantifier with nothing before it. -/
  | nothingToRepeat
  /-- A quantifier behind a quantifier. -/
  | multipleRepeat
  /-- A group that breaks off behind its question mark. -/
  | endUnexpected
  /-- A kind of group that does not exist. -/
  | unknownExtension (written : String)
  /-- A comment without its end. -/
  | commentUnterminated
  /-- A group without its end. -/
  | groupUnterminated
  /-- A closing parenthesis without an opening one. -/
  | unbalanced
  /-- Flags of the whole pattern that do not stand at its start. -/
  | flagsNotFirst
  /-- The flag for the letters of a locale, which text patterns do not have. -/
  | localeFlag
  /-- Flags for different sets of letters. -/
  | flagsIncompatible
  /-- Flags without what must follow them. -/
  | flagsUnterminated
  /-- A letter that is no flag. -/
  | unknownFlag
  /-- No flag to turn off. -/
  | flagMissing
  /-- Flags to turn off without the colon behind them. -/
  | colonMissing
  /-- A flag of the whole pattern that is turned on in a group. -/
  | globalFlagOn
  /-- A flag of the whole pattern that is turned off. -/
  | globalFlagOff
  /-- A flag for a set of letters that is turned off. -/
  | lettersFlagOff
  /-- A flag that is turned on and off. -/
  | flagOnAndOff
  /-- A look-behind of no fixed width. -/
  | lookBehindVaries
  /-- A repetition in a pattern that must have none. -/
  | repetition (greed : Greed)
  deriving DecidableEq, Repr

/-- The name of a kind of repetition. -/
def Greed.name : Greed → String
  | greedy => "MAX_REPEAT"
  | .lazy => "MIN_REPEAT"
  | possessive => "POSSESSIVE_REPEAT"

/-- The fault in words. -/
def Fault.message : Fault → String
  | danglingEscape => "bad escape (end of pattern)"
  | badEscape written => s!"bad escape {written}"
  | incompleteEscape written => s!"incomplete escape {written}"
  | octalTooLarge written => s!"octal escape value {written} outside of range 0-0o377"
  | braceMissing => "missing \x7b"
  | nameMissing what => s!"missing {what}"
  | nameUnterminated terminator => s!"missing {terminator}, unterminated name"
  | unknownCharacter name => "undefined character name " ++ Text.quoted name
  | badName name => "bad character in group name " ++ Text.quoted name
  | unknownName name => "unknown group name " ++ Text.quoted name
  | nameTaken name index earlier =>
    "redefinition of group name " ++ Text.quoted name ++ s!" as group {index}; was group {earlier}"
  | groupOpen => "cannot refer to an open group"
  | sameLookBehind => "cannot refer to group defined in the same lookbehind subpattern"
  | invalidReference index => s!"invalid group reference {index}"
  | badGroupNumber => "bad group number"
  | tooManyBranches => "conditional backref with more than two branches"
  | setUnterminated => "unterminated character set"
  | badRange low high => s!"bad character range {low}-{high}"
  | countsReversed => "min repeat greater than max repeat"
  | nothingToRepeat => "nothing to repeat"
  | multipleRepeat => "multiple repeat"
  | endUnexpected => "unexpected end of pattern"
  | unknownExtension written => s!"unknown extension ?{written}"
  | commentUnterminated => "missing ), unterminated comment"
  | groupUnterminated => "missing ), unterminated subpattern"
  | unbalanced => "unbalanced parenthesis"
  | flagsNotFirst => "global flags not at the start of the expression"
  | localeFlag => "bad inline flags: cannot use 'L' flag with a str pattern"
  | flagsIncompatible => "bad inline flags: flags 'a', 'u' and 'L' are incompatible"
  | flagsUnterminated => "missing -, : or )"
  | unknownFlag => "unknown flag"
  | flagMissing => "missing flag"
  | colonMissing => "missing :"
  | globalFlagOn => "bad inline flags: cannot turn on global flag"
  | globalFlagOff => "bad inline flags: cannot turn off global flag"
  | lettersFlagOff => "bad inline flags: cannot turn off flags 'a', 'u' and 'L'"
  | flagOnAndOff => "bad inline flags: flag turned on and off"
  | lookBehindVaries => "look-behind requires fixed-width pattern"
  | repetition greed => s!"internal: unsupported template operator {greed.name}"

/-- A fault and its place. -/
structure PatternError where
  /-- Why the text is no pattern. -/
  fault : Fault
  /-- The number of characters before the place of the fault. -/
  position : Option Nat
  deriving DecidableEq, Repr

namespace PatternError

/-- The line and the column of a position, both counted from one. -/
def lineAndColumn (pattern : List Char) (position : Nat) : Nat × Nat :=
  let before := pattern.take position
  (before.count '\n' + 1, (before.reverse.takeWhile (· != '\n')).length + 1)

/-- The error in words. -/
def message (pattern : String) (error : PatternError) : String :=
  match error.position with
  | none => error.fault.message
  | some position =>
    let place := s!"{error.fault.message} at position {position}"
    if pattern.toList.contains '\n' then
      let (line, column) := lineAndColumn pattern.toList position
      s!"{place} (line {line}, column {column})"
    else place

end PatternError

/-- Why a text is not compiled. -/
inductive CompileError where
  /-- The text is no pattern. -/
  | invalid (error : PatternError)
  /-- The text is beyond what is compiled. -/
  | broken (why : Breakdown)
  deriving DecidableEq, Repr

namespace Node

/-- The first fault of the parts of a pattern that was read, from left to right. Without repetition
no part may be repeated; the width of a look-behind is looked at before its parts. -/
def fault? (withoutRepetition : Bool) : Node → Option Fault
  | seq first rest => (first.fault? withoutRepetition).or (rest.fault? withoutRepetition)
  | either first others => (first.fault? withoutRepetition).or (others.fault? withoutRepetition)
  | group _ body | atomic body => body.fault? withoutRepetition
  | repeated greed _ _ body =>
    if withoutRepetition then some (.repetition greed) else body.fault? withoutRepetition
  | look behind _ body =>
    if behind.isSome && !body.width.isFixed then some .lookBehindVaries
    else body.fault? withoutRepetition
  | given _ yes no => (yes.fault? withoutRepetition).or (no.fault? withoutRepetition)
  | empty | one _ | visible | any | anchor _ | again _ _ _ => none

end Node

end SourceLens.Pattern
