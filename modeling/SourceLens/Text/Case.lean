import SourceLens.Text.CaseTable

/-!
# Letter case

The lower-case form of a text. Every character maps to its lower-case form by itself, with two
exceptions: the dotted capital I becomes a letter and a mark, and a capital sigma takes its final
form at the end of a word, that is after a letter with case and not before one, characters that
case rules skip left out.
-/
namespace SourceLens.Text

namespace CaseRun

/-- The image of a code point that belongs to the run. -/
def image? (run : CaseRun) (point : Nat) : Option Nat :=
  if run.first ≤ point ∧ point ≤ run.last ∧ (point - run.first) % run.step = 0 then
    some (Int.toNat (point + run.shift))
  else none

/-- The code point of the run whose image is the given one. -/
def origin? (run : CaseRun) (image : Nat) : Option Nat :=
  let point := Int.toNat (image - run.shift)
  if run.image? point = some image then some point else none

/-- Whether a code point of the run lies between two. -/
def meets (run : CaseRun) (low high : Nat) : Bool :=
  let ahead := (low - run.first + run.step - 1) / run.step * run.step
  run.first + ahead ≤ min run.last high

end CaseRun

/-- The lower-case form of a code point. -/
def lowerPoint (point : Nat) : Nat := (lowerRuns.findSome? (·.image? point)).getD point

/-- The lower-case form of a character by itself. -/
def lowerChar (c : Char) : Char :=
  if c.toNat < 0x80 then c.toLower else Char.ofNat (lowerPoint c.toNat)

/-- The upper-case form of a character by itself; a character whose upper-case form is several
characters is left as it is. -/
def upperChar (c : Char) : Char :=
  if c.toNat < 0x80 then c.toUpper
  else Char.ofNat ((upperRuns.findSome? (·.image? c.toNat)).getD c.toNat)

/-- Whether a code point between two has another form in lower or in upper case. -/
def hasCaseBetween (low high : Nat) : Bool :=
  lowerRuns.any (·.meets low high) || upperRuns.any (·.meets low high) ||
    severalUpper.meets low high

/-- The code points whose lower-case form is the given one. -/
def lowerOrigins (point : Nat) : List Nat :=
  let others := lowerRuns.filterMap (·.origin? point)
  if lowerPoint point = point then point :: others else others

/-- The other lower-case letters with the same upper-case letter. -/
def siblings (point : Nat) : List Nat := (caseSiblings.lookup point).getD []

/-- Whether a character is skipped by case rules. -/
def isCaseIgnorable (c : Char) : Bool := caseIgnorables.holds c

/-- Whether a character is a letter with case that case rules do not skip. -/
def isCased (c : Char) : Bool := casedLetters.holds c

/-- Whether the next character that case rules do not skip is a letter with case. -/
def casedAhead (rest : List Char) : Bool :=
  match rest.dropWhile isCaseIgnorable with
  | [] => false
  | c :: _ => isCased c

/-- The lower-case form of a character in its place: `casedBefore` says whether the nearest
character before it that case rules do not skip is a letter with case. -/
def lowerInPlace (casedBefore : Bool) (c : Char) (rest : List Char) : List Char :=
  if c = '\u0130' then ['i', '\u0307']
  else if c = '\u03A3' then
    [if casedBefore && !casedAhead rest then '\u03C2' else '\u03C3']
  else [lowerChar c]

/-- The lower-case form of a character list, given what stands before it. -/
def lowerFrom : Bool → List Char → List Char
  | _, [] => []
  | casedBefore, c :: rest =>
    lowerInPlace casedBefore c rest ++
      lowerFrom (if isCaseIgnorable c then casedBefore else isCased c) rest

/-- The lower-case form of a text. -/
def lower (s : String) : String := String.ofList (lowerFrom false s.toList)

/-- The upper-case form of a text, character by character. -/
def upper (s : String) : String := String.ofList (s.toList.map upperChar)

end SourceLens.Text
