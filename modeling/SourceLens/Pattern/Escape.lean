import SourceLens.Pattern.Draft
import SourceLens.Text.CharName
import SourceLens.Text.Digits

/-!
# Escapes and character sets

A character behind a backslash stands for a kind of characters, a condition on the place, a control
character, a code point written in digits, an earlier group, or itself. A character set lists
characters, ranges and kinds between brackets.
-/
namespace SourceLens.Pattern

namespace Reader

/-! ## Escapes -/

/-- Whether a character is an octal digit. -/
def isOctal (c : Char) : Bool := '0' ≤ c && c ≤ '7'

/-- The greatest code point. -/
def maxPoint : Nat := 0x10FFFF

/-- Read a code point as so many hexadecimal digits behind a letter. -/
def hexEscape (letter : Char) (count : Nat) : Reader Nat := do
  let digits ← takeWhile Text.isHexDigit count
  let written := String.ofList ('\\' :: letter :: digits)
  if digits.length ≠ count then refuse (.incompleteEscape written) written.length
  let code := Text.ofDigitsIn 16 digits
  if maxPoint < code then refuse (.badEscape written) written.length
  return code

/-- Read the name of a character in braces. -/
def namedCharacter : Reader Nat := do
  if !(← accept '\x7b') then refuse .braceMissing 0
  let name ← name "character name" '\x7d'
  match Text.charNamed? name with
  | some code => return code
  | none => refuse (.unknownCharacter name) (name.length + 4)

/-- An octal code, which fits into one byte. -/
def octalCode (digits : List Char) : Reader Nat := do
  let code := Text.ofDigitsIn 8 digits
  if 0xFF < code then
    refuse (.octalTooLarge (String.ofList ('\\' :: digits))) (digits.length + 1)
  return code

/-- The control character that a letter stands for behind a backslash. -/
def controlEscape? : Char → Option Nat
  | 'a' => some 0x07
  | 'f' => some 0x0C
  | 'n' => some 0x0A
  | 'r' => some 0x0D
  | 't' => some 0x09
  | 'v' => some 0x0B
  | '\\' => some 0x5C
  | _ => none

/-- The kind of characters that a letter stands for behind a backslash. -/
def kindEscape? : Char → Option Member
  | 'd' => some (.kind .digit)
  | 'D' => some (.except .digit)
  | 's' => some (.kind .space)
  | 'S' => some (.except .space)
  | 'w' => some (.kind .word)
  | 'W' => some (.except .word)
  | _ => none

/-- The condition that a letter stands for behind a backslash. -/
def anchorEscape? (asciiOnly : Bool) : Char → Option Anchor
  | 'A' => some .textStart
  | 'b' => some (.boundary asciiOnly)
  | 'B' => some (.inside asciiOnly)
  | 'Z' => some .textEnd
  | _ => none

/-- Read the code point of an escape that is neither a digit nor has a meaning of its own. -/
def codeEscape (c : Char) : Reader Nat :=
  if c = 'x' then hexEscape c 2
  else if c = 'u' then hexEscape c 4
  else if c = 'U' then hexEscape c 8
  else if c = 'N' then namedCharacter
  else if c.isAlpha || c.isDigit then refuse (.badEscape (String.ofList ['\\', c])) 2
  else return c.toNat

/-- Read an escape in a character set. -/
def memberEscape (c : Char) : Reader Member := do
  if c = 'b' then return .point 0x08
  match controlEscape? c, kindEscape? c with
  | some code, _ => return .point code
  | none, some member => return member
  | none, none =>
    if isOctal c then return .point (← octalCode (c :: (← takeWhile isOctal 2)))
    else return .point (← codeEscape c)

/-- Check that a reference inside a look-behind points to a group before it. -/
def checkBound (draft : Draft) (index : Nat) : Reader Unit :=
  match draft.bound with
  | none => return ()
  | some bound => do
    if (draft.closedWidth? index).isNone then refuse .groupOpen 0
    if bound < index then refuse .sameLookBehind 0

/-- A reference to a group; a fault is reported so many characters back. -/
def reference (draft : Draft) (index back : Nat) : Reader Node := do
  match draft.closedWidth? index with
  | none => refuse .groupOpen back
  | some width =>
    checkBound draft index
    return .again index width (.ofFlags draft.flags)

/-- Read an escape that starts with a digit other than zero: three octal digits are a code point,
anything else is the number of a group. -/
def digitEscape (draft : Draft) (first : Char) : Reader Node := do
  let more ← takeWhile Char.isDigit 1
  let last ← if isOctal first && more.all isOctal && !more.isEmpty then takeWhile isOctal 1
    else pure []
  let digits := first :: more ++ last
  if digits.length = 3 then
    return (Member.point (← octalCode digits)).node draft.flags
  else
    let index := Text.ofDigitsIn 10 digits
    if index ≤ draft.widths.length then reference draft index (digits.length + 1)
    else refuse (.invalidReference index) digits.length

/-- Read an escape outside of a character set. -/
def escape (draft : Draft) (c : Char) : Reader Node := do
  match anchorEscape? (draft.flags.contains .ascii) c, kindEscape? c, controlEscape? c with
  | some anchor, _, _ => return .anchor anchor
  | none, some member, _ => return member.node draft.flags
  | none, none, some code => return (Member.point code).node draft.flags
  | none, none, none =>
    if c = '0' then
      return (Member.point (Text.ofDigitsIn 8 (← takeWhile isOctal 2))).node draft.flags
    else if c.isDigit then digitEscape draft c
    else return (Member.point (← codeEscape c)).node draft.flags

/-! ## Character sets -/

/-- The member that a token stands for. -/
def member : Token → Reader Member
  | .plain c => return .point c.toNat
  | .escaped c => memberEscape c
  | .dangling => return .point 0x5C

/-- The range between two members. -/
def range (low high : Token) (least most : Member) : Reader Member := do
  let bad := refuse (.badRange low.text high.text) (low.size + 1 + high.size)
  match least, most with
  | .point least, .point most => if most < least then bad else return .range least most
  | _, _ => bad

/-- Read the members of a set that starts at a position, at most so many tokens, after those
already read. -/
def members (start : Nat) : Nat → List Member → Reader (List Member)
  | 0, _ => refuseAt .setUnterminated start
  | count + 1, found => do
    match ← take with
    | none => refuseAt .setUnterminated start
    | some token =>
      if token = .plain ']' ∧ found ≠ [] then return found.reverse
      let least ← member token
      if ← accept '-' then
        match ← take with
        | none => refuseAt .setUnterminated start
        | some other =>
          if other = .plain ']' then return (.point '-'.toNat :: least :: found).reverse
          members start count ((← range token other least (← member other)) :: found)
      else members start count (least :: found)

/-- Read a character set behind its bracket. -/
def characterSet (flags : List Flag) (start : Nat) : Reader Node := do
  let negated ← accept '^'
  let listed ← members start ((← get).rest.length + 1) []
  return .one (.ofFlags flags negated listed.eraseDups)

end Reader

end SourceLens.Pattern
