import SourceLens.Pattern.Escape
import SourceLens.Text.Identifiers
import SourceLens.Text.Integer

/-!
# Patterns from text

A pattern is read from left to right into a draft. Each step reads at least one token, so there are
at most as many steps as tokens. A fault in the text wins over one of the parts, such as the width of
a look-behind, which are looked at when the whole pattern has been read.
-/
namespace SourceLens.Pattern

namespace Reader

/-! ## Quantifiers -/

/-- The least count that is too large. -/
def countLimit : Nat := 0xFFFFFFFF

/-- The count that some digits write. -/
def count (digits : List Char) : Reader Nat := do
  if Text.maxDigits < digits.length then breakOff (.tooManyDigits digits.length)
  let number := Text.ofDigitsIn 10 digits
  if countLimit ≤ number then breakOff .countTooLarge
  return number

/-- Read the counts of a quantifier in braces; none when it is no quantifier, so that the brace
stands for itself. -/
def bracedCounts : Reader (Option (Nat × Option Nat)) := do
  let here ← get
  if (← peek) = some (.plain '\x7d') then return none
  let low ← takeAll Char.isDigit
  let high ← if ← accept ',' then takeAll Char.isDigit else pure low
  if ← accept '\x7d' then
    let least ← count low
    if high.isEmpty then return some (least, none)
    let most ← count high
    if most < least then refuseAt .countsReversed here.position
    return some (least, some most)
  else
    set here
    return none

/-- Read the counts of a quantifier that starts with a character. -/
def counts (c : Char) : Reader (Option (Nat × Option Nat)) :=
  if c = '?' then return some (0, some 1)
  else if c = '*' then return some (0, none)
  else if c = '+' then return some (1, none)
  else bracedCounts

/-- Read how a quantifier is tried. -/
def greed : Reader Greed := do
  if ← accept '?' then return .lazy
  if ← accept '+' then return .possessive
  return .greedy

/-- Repeat the last piece of a draft. -/
def quantify (draft : Draft) (c : Char) (start : Nat) : Reader Draft := do
  match ← counts c with
  | none => return draft.push (.part ((Member.point c.toNat).node draft.flags))
  | some (low, high) =>
    match draft.top.pieces with
    | [] | .part (.anchor _) :: _ => refuseAt .nothingToRepeat start
    | .part (.repeated _ _ _ _) :: _ => refuseAt .multipleRepeat start
    | piece :: pieces =>
      let part := Node.repeated (← greed) low high (.row piece.parts)
      return { draft with top := { draft.top with pieces := .part part :: pieces } }

/-! ## Flags -/

/-- Whether a token is a letter. -/
def isLetterToken : Token → Bool
  | .plain c => Text.isLetter c
  | _ => false

/-- Refuse a token where a flag or an end was expected. -/
def refuseFlag {α : Type} (otherwise : Fault) (token : Token) : Reader α :=
  refuse (if isLetterToken token then .unknownFlag else otherwise) token.size

/-- Read flags to turn on, at most so many, the first of which is read already; the answer holds
the token behind them. -/
def flagsOn : Nat → Flag → List Flag → Reader (List Flag × Token)
  | 0, _, _ => refuse .flagsUnterminated 0
  | count + 1, flag, found => do
    if flag = .locale then refuse .localeFlag 0
    let found := flag :: found
    if flag.isLetters && found.any fun other => other.isLetters && other ≠ flag then
      refuse .flagsIncompatible 0
    match ← take with
    | none => refuse .flagsUnterminated 0
    | some token =>
      if token = .plain ')' ∨ token = .plain '-' ∨ token = .plain ':' then return (found, token)
      match Flag.ofToken? token with
      | some flag => flagsOn count flag found
      | none => refuseFlag .flagsUnterminated token

/-- Read flags to turn off and the colon behind them, at most so many, the first of which is read
already. -/
def flagsOff : Nat → Flag → List Flag → Reader (List Flag)
  | 0, _, _ => refuse .colonMissing 0
  | count + 1, flag, found => do
    if flag.isLetters then refuse .lettersFlagOff 0
    let found := flag :: found
    match ← take with
    | none => refuse .colonMissing 0
    | some token =>
      if token = .plain ':' then return found
      match Flag.ofToken? token with
      | some flag => flagsOff count flag found
      | none => refuseFlag .colonMissing token

/-- Read the flags to turn off behind a minus sign. -/
def flagsOffAfterMinus : Reader (List Flag) := do
  match ← take with
  | none => refuse .flagMissing 0
  | some token =>
    match Flag.ofToken? token with
    | some flag => flagsOff ((← get).rest.length + 1) flag []
    | none => refuseFlag .flagMissing token

/-- Read flags behind the first token of them: those of the whole pattern, or those that are
turned on and off for a group. -/
def inlineFlags (first : Option Flag) : Reader (List Flag ⊕ List Flag × List Flag) := do
  let (added, token) ← match first with
    | some flag => flagsOn ((← get).rest.length + 1) flag []
    | none => pure ([], .plain '-')
  if token = .plain ')' then return .inl added
  if added.contains .template then refuse .globalFlagOn 1
  let removed ← if token = .plain '-' then flagsOffAfterMinus else pure []
  if removed.contains .template then refuse .globalFlagOff 1
  if added.any removed.contains then refuse .flagOnAndOff 1
  return .inr (added, removed)

/-- Set flags of the whole pattern, which is possible at its start only. -/
def setFlags (draft : Draft) (start : Nat) (added : List Flag) : Reader Draft := do
  if draft.outer.isEmpty && draft.top.branches.isEmpty && draft.top.pieces.isEmpty then
    return { draft with top := { draft.top with flags := draft.flags ++ added } }
  refuseAt .flagsNotFirst start

/-! ## Groups -/

/-- Read a group name and check that it is an identifier. -/
def groupName (terminator : Char) : Reader String := do
  let name ← name "group name" terminator
  if !Text.isIdentifier name then refuse (.badName name) (name.length + 1)
  return name

/-- Open a group whose text is kept. -/
def openNumbered (draft : Draft) (start : Nat) (name : Option String) : Reader Draft := do
  let index := draft.widths.length + 1
  let names ← match name with
    | none => pure draft.names
    | some name =>
      match draft.names.lookup name with
      | some earlier => refuse (.nameTaken name index earlier) (name.length + 1)
      | none => pure ((name, index) :: draft.names)
  let numbered : Draft := { draft with widths := draft.widths ++ [none], names }
  return numbered.opened (.numbered index) start draft.flags

/-- The number of a group with a name. -/
def namedGroup (draft : Draft) (name : String) : Reader Nat :=
  match draft.names.lookup name with
  | some index => return index
  | none => refuse (.unknownName name) (name.length + 1)

/-- Read a group that starts with the letter of names. -/
def namedExtension (draft : Draft) (start : Nat) : Reader Draft := do
  if ← accept '<' then openNumbered draft start (some (← groupName '>'))
  else if ← accept '=' then
    let name ← groupName ')'
    return draft.push (.part (← reference draft (← namedGroup draft name) (name.length + 1)))
  else match ← take with
    | none => refuse .endUnexpected 0
    | some token => refuse (.unknownExtension ("P" ++ token.text)) (token.size + 2)

/-- Open a look-behind. -/
def openBehind (draft : Draft) (start : Nat) : Reader Draft := do
  match ← take with
  | none => refuse .endUnexpected 0
  | some token =>
    if token = .plain '=' ∨ token = .plain '!' then
      let bounded : Draft := { draft with bound := some (draft.bound.getD draft.widths.length) }
      return bounded.opened (.behind (token == .plain '!') draft.bound) start draft.flags
    refuse (.unknownExtension ("<" ++ token.text)) (token.size + 2)

/-- The greatest number of groups. -/
def maxGroups : Nat := 0x3FFFFFFF

/-- The number of a group that a condition mentions by number, with the draft that remembers
it. -/
def numberedCondition (draft : Draft) (name : String) : Reader (Draft × Nat) := do
  let back := name.length + 1
  match Text.readInt? name with
  | some (.ofNat index) =>
    if index = 0 then refuse .badGroupNumber back
    if maxGroups ≤ index then refuse (.invalidReference index) back
    if (draft.conditions.lookup index).isSome then return (draft, index)
    let mention := (index, (← position) - back)
    return ({ draft with conditions := draft.conditions ++ [mention] }, index)
  | _ => refuse (.badName name) back

/-- Open a choice that depends on a group. -/
def openGiven (draft : Draft) (start : Nat) : Reader Draft := do
  let name ← name "group name" ')'
  let (draft, index) ←
    if Text.isIdentifier name then pure (draft, ← namedGroup draft name)
    else numberedCondition draft name
  checkBound draft index
  return draft.opened (.given index) start draft.flags

/-- Read what stands behind a parenthesis and a question mark. -/
def extension (draft : Draft) (start : Nat) : Reader Draft := do
  match ← take with
  | none => refuse .endUnexpected 0
  | some token =>
    let flag := Flag.ofToken? token
    if token = .plain 'P' then namedExtension draft start
    else if token = .plain ':' then return draft.opened .plain start draft.flags
    else if token = .plain '#' then
      if ← skipThrough ')' then return draft else refuseAt .commentUnterminated start
    else if token = .plain '=' ∨ token = .plain '!' then
      return draft.opened (.ahead (token == .plain '!')) start draft.flags
    else if token = .plain '<' then openBehind draft start
    else if token = .plain '(' then openGiven draft start
    else if token = .plain '>' then return draft.opened .atomic start draft.flags
    else if flag.isSome ∨ token = .plain '-' then
      match ← inlineFlags flag with
      | .inl added => setFlags draft start added
      | .inr (added, removed) =>
        return draft.opened .flagged start (Flag.combine draft.flags added removed)
    else refuse (.unknownExtension token.text) (token.size + 1)

/-- Close the innermost group. -/
def close (draft : Draft) : Reader Draft := do
  match draft.outer with
  | [] => if draft.lettersClash then breakOff .lettersClash else refuse .unbalanced 0
  | frame :: outer =>
    skip
    let (draft, piece) := draft.conclude draft.top
    return { draft with top := frame.push piece, outer }

/-- Start the next alternative of the innermost group. -/
def split (draft : Draft) : Reader Draft := do
  match draft.top.opening, draft.top.branches with
  | .given _, _ :: _ => refuse .tooManyBranches 0
  | _, _ =>
    skip
    return { draft with top := draft.top.split }

/-! ## Steps -/

/-- Whether a character is skipped between the parts of a verbose pattern. -/
def isGap (c : Char) : Bool := c = ' ' || ('\t' ≤ c && c ≤ '\r')

/-- Read on behind a character. -/
def character (draft : Draft) (start : Nat) (c : Char) : Reader Draft := do
  let flags := draft.flags
  if flags.contains .verbose && isGap c then return draft
  else if flags.contains .verbose && c = '#' then
    let _ ← skipThrough '\n'
    return draft
  else if c = '[' then return draft.push (.part (← characterSet flags start))
  else if c = '*' || c = '+' || c = '?' || c = '\x7b' then quantify draft c start
  else if c = '.' then
    return draft.push (.part (if flags.contains .dotAll then .any else .visible))
  else if c = '(' then
    if ← accept '?' then extension draft start else openNumbered draft start none
  else if c = '^' then
    return draft.push (.part (.anchor (.lineStart (flags.contains .multiline))))
  else if c = '$' then
    return draft.push (.part (.anchor (.lineEnd (flags.contains .multiline))))
  else return draft.push (.part ((Member.point c.toNat).node flags))

/-- Read on by at least one token. -/
def step (draft : Draft) : Reader Draft := do
  let start ← position
  match ← peek with
  | none | some .dangling => return draft
  | some (.plain '|') => split draft
  | some (.plain ')') => close draft
  | some (.plain c) =>
    skip
    character draft start c
  | some (.escaped c) =>
    skip
    return draft.push (.part (← escape draft c))

/-- Read on to the end, with at most so many steps. -/
def steps : Nat → Draft → Reader Draft
  | 0, draft => return draft
  | count + 1, draft => do
    if (← peek).isNone then return draft
    steps count (← step draft)

/-- The part that a whole draft stands for. -/
def finish (draft : Draft) : Except CompileError Node := do
  if !draft.outer.isEmpty then throw (.invalid ⟨.groupUnterminated, some draft.top.start⟩)
  if draft.lettersClash then throw (.broken .lettersClash)
  match draft.conditions.find? fun (index, _) => draft.widths.length < index with
  | some (index, position) => throw (.invalid ⟨.invalidReference index, some position⟩)
  | none => pure ()
  match draft.top.body.fault? (draft.flags.contains .template) with
  | some fault => throw (.invalid ⟨fault, none⟩)
  | none => return draft.top.body

end Reader

/-- Read a pattern under some flags. -/
def Node.parse (pattern : List Char) (flags : List Flag) : Except CompileError Node := do
  let cursor ← Cursor.start pattern
  let draft : Draft := { top := { opening := .whole, start := 0, flags } }
  let (draft, _) ← (Reader.steps cursor.rest.length draft).run cursor
  Reader.finish draft

end SourceLens.Pattern
