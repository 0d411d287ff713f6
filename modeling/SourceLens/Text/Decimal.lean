import SourceLens.Text.Integer

/-!
# Written decimal numbers

A decimal number has digits of any script behind an optional sign, a point before, between or
behind them, and an exponent. Single low lines may stand between digits, and padding around the
number does not count. Infinity and the value that is no number are written as words.
-/
namespace SourceLens.Text

/-- Whether a text is a run of digits, with single low lines between them. -/
def isDigitRun (s : List Char) : Bool := (readDigits false s).isSome

/-- A text without the sign at its front. -/
def unsigned : List Char → List Char
  | '+' :: rest | '-' :: rest => rest
  | rest => rest

/-- A text without the padding at its ends. -/
def unpadded (s : List Char) : List Char :=
  ((s.dropWhile isPadding).reverse.dropWhile isPadding).reverse

/-- The words for numbers without digits. -/
def numberWords : List String := ["inf", "infinity", "nan"]

/-- Whether a text is a number before its exponent: there are digits on one side of the point at
least. -/
def isMantissa (s : List Char) : Bool :=
  let whole := s.takeWhile (· ≠ '.')
  let fraction := (s.drop whole.length).drop 1
  if s.contains '.' then
    (whole.isEmpty || isDigitRun whole) && (fraction.isEmpty || isDigitRun fraction) &&
      !(whole.isEmpty && fraction.isEmpty)
  else isDigitRun s

/-- Whether a text writes a decimal number. -/
def isDecimal (s : List Char) : Bool :=
  let body := unsigned (unpadded s)
  let mantissa := body.takeWhile fun c => c ≠ 'e' && c ≠ 'E'
  let exponent := body.drop (mantissa.length + 1)
  numberWords.contains (String.ofList (body.map Char.toLower)) ||
    (isMantissa mantissa &&
      (mantissa.length = body.length || isDigitRun (unsigned exponent)))

end SourceLens.Text
