import Mathlib.Data.List.TakeWhile
import SourceLens.Text.Digits
import SourceLens.Value.Layout

/-!
# Printed values are read back

The layout of a value is a text of the JSON format. The format is given by a reader (`Json.read?`),
which reads one value from a text, with spaces and line breaks between its parts, and takes nothing
that the format does not have: no number with needless zeros, no text with a control in it, no comma
behind the last item. It leaves out two things that the format has and no layout uses: numbers with
an exponent, and characters written as two halves. Every value is read back from its layout
(`Json.read?_layout`). So what is printed is well formed, and two values never have one layout.
-/
namespace SourceLens.Json

/-! ## Reading -/

/-- Whether a character may stand between the parts of a value. -/
def isSpace (c : Char) : Bool := c = ' ' || c = '\t' || c = '\n' || c = '\r'

/-- A text without the spaces at its front. -/
def skip (text : List Char) : List Char := text.dropWhile isSpace

/-- The character that a letter behind a backslash stands for. -/
def unescape? (c : Char) : Option Char :=
  match c with
  | '"' => some '"'
  | '\\' => some '\\'
  | '/' => some '/'
  | 'b' => some '\x08'
  | 'f' => some '\x0c'
  | 'n' => some '\n'
  | 'r' => some '\r'
  | 't' => some '\t'
  | _ => none

/-- The character whose code point is written in hexadecimal digits. The halves of a pair that only
together stand for a character are not read. -/
def ofHex? (digits : List Char) : Option Char := do
  let point ← Text.readBase? 16 digits
  if point.isValidChar then some (Char.ofNat point) else none

/-- The characters of a text behind its opening mark, and what follows its closing mark. -/
def readText : List Char → Option (List Char × List Char)
  | [] => none
  | '"' :: rest => some ([], rest)
  | '\\' :: 'u' :: a :: b :: c :: d :: rest => do
    let first ← ofHex? [a, b, c, d]
    let (others, rest) ← readText rest
    return (first :: others, rest)
  | '\\' :: letter :: rest => do
    let first ← unescape? letter
    let (others, rest) ← readText rest
    return (first :: others, rest)
  | c :: rest =>
    if c.toNat < 0x20 then none
    else do
      let (others, rest) ← readText rest
      return (c :: others, rest)

/-- Whether some digits write a whole number, without needless zeros at the front. -/
def isWhole (digits : List Char) : Bool :=
  digits == ['0'] || digits.head?.any (· != '0')

/-- A number without a sign, with the number of its digits behind the point if it has a point, and
what follows it. -/
def readUnsigned (text : List Char) : Option ((Nat × Option Nat) × List Char) :=
  let whole := text.takeWhile Char.isDigit
  if !isWhole whole then none
  else
    match text.dropWhile Char.isDigit with
    | '.' :: rest =>
      let fraction := rest.takeWhile Char.isDigit
      if fraction.isEmpty then none
      else some ((Nat.ofDigitChars 10 (whole ++ fraction) 0, some fraction.length),
        rest.dropWhile Char.isDigit)
    | rest => some ((Nat.ofDigitChars 10 whole 0, none), rest)

/-- The value of a number, of which so many digits stand behind the point if it has one. -/
def numberValue (number : Int) : Option Nat → Value
  | none => .int number
  | some places => .decimal number (places - 1)

/-- A number, and what follows it. -/
def readNumber : List Char → Option (Value × List Char)
  | '-' :: rest =>
    (readUnsigned rest).map fun ((number, places), rest) => (numberValue (-number) places, rest)
  | rest =>
    (readUnsigned rest).map fun ((number, places), rest) => (numberValue number places, rest)

/-- A word, and what follows it. -/
def readWord : List Char → Option (Value × List Char)
  | 'n' :: 'u' :: 'l' :: 'l' :: rest => some (.null, rest)
  | 't' :: 'r' :: 'u' :: 'e' :: rest => some (.bool true, rest)
  | 'f' :: 'a' :: 'l' :: 's' :: 'e' :: rest => some (.bool false, rest)
  | _ => none

section

variable {α : Type} (readOne : List Char → Option (α × List Char)) (close : Char)

/-- At least one member and at most so many, with commas between them, up to a closing bracket. -/
def readSeries : Nat → List Char → Option (List α × List Char)
  | 0, _ => none
  | count + 1, text => do
    let (first, rest) ← readOne (skip text)
    match skip rest with
    | ',' :: rest => do
      let (others, rest) ← readSeries count rest
      return (first :: others, rest)
    | c :: rest => if c = close then some ([first], rest) else none
    | [] => none

/-- The members behind an opening bracket, and what follows the closing one. -/
def readMembers (text : List Char) : Option (List α × List Char) :=
  if (skip text).head? = some close then some ([], (skip text).drop 1)
  else readSeries readOne close text.length text

/-- A member with its name. -/
def readNamed (text : List Char) : Option ((String × α) × List Char) :=
  match text with
  | '"' :: rest => do
    let (name, rest) ← readText rest
    match skip rest with
    | ':' :: rest => do
      let (one, rest) ← readOne (skip rest)
      return ((String.ofList name, one), rest)
    | _ => none
  | _ => none

end

/-- A value with at most so many levels, and what follows it. -/
def readValue : Nat → List Char → Option (Value × List Char)
  | 0, _ | _, [] => none
  | depth + 1, c :: rest =>
    if c = '"' then
      (readText rest).map fun (content, rest) => (.text (String.ofList content), rest)
    else if c = '[' then
      (readMembers (readValue depth) ']' rest).map fun (items, rest) => (.list items, rest)
    else if c = '\x7b' then
      (readMembers (readNamed (readValue depth)) '\x7d' rest).map fun (fields, rest) =>
        (.record fields, rest)
    else if c = '-' || c.isDigit then readNumber (c :: rest)
    else readWord (c :: rest)

/-- The value that a text writes, with spaces around it. -/
def read? (text : String) : Option Value :=
  match readValue text.toList.length (skip text.toList) with
  | some (value, rest) => if (skip rest).isEmpty then some value else none
  | none => none

example : read? "[0, -1.05]\n" = some (.list [.int 0, .decimal (-105) 1]) := rfl

example : read? "[0, 1,]" = none := rfl

/-! ## Texts -/

/-- A control is read back from its hexadecimal digits. -/
theorem ofHex?_hexDigits {c : Char} (control : c.toNat < 0x20) :
    ofHex? (Text.hexDigits 4 c.toNat) = some c := by
  have all : ∀ point < 0x20, ofHex? (Text.hexDigits 4 point) = some (Char.ofNat point) := by decide
  rw [all _ control, Char.ofNat_toNat]

/-- A character is read back from its printed form. -/
theorem readText_escapeChar (c : Char) (rest : List Char) :
    readText (Value.escapeChar c ++ rest) =
      (readText rest).map fun read => (c :: read.1, read.2) := by
  have escaped (letter : Char) (known : unescape? letter = some c) (other : letter ≠ 'u') :
      readText ('\\' :: letter :: rest) =
        (readText rest).map fun read => (c :: read.1, read.2) := by
    cases read : readText rest <;> simp [readText, known, other, read]
  unfold Value.escapeChar
  split
  · next same => exact escaped '"' (by rw [same]; rfl) (by decide)
  split
  · next same => exact escaped '\\' (by rw [same]; rfl) (by decide)
  split
  · next same => exact escaped 'n' (by rw [same]; rfl) (by decide)
  split
  · next same => exact escaped 'r' (by rw [same]; rfl) (by decide)
  split
  · next same => exact escaped 't' (by rw [same]; rfl) (by decide)
  split
  · next same => exact escaped 'b' (by rw [same]; rfl) (by decide)
  split
  · next same => exact escaped 'f' (by rw [same]; rfl) (by decide)
  split
  · next control =>
    have point := ofHex?_hexDigits control
    simp only [Text.hexDigits, List.nil_append, List.cons_append] at point ⊢
    cases read : readText rest <;> simp [readText, point, read]
  · next _ noBackslash _ _ _ _ _ noControl =>
    cases read : readText rest <;> simp [readText, noBackslash, noControl, read]

/-- A text is read back from its printed form, behind the opening mark. -/
theorem readText_flatMap (characters rest : List Char) :
    readText (characters.flatMap Value.escapeChar ++ '"' :: rest) = some (characters, rest) := by
  induction characters with
  | nil => simp [readText]
  | cons c characters ih =>
    rw [List.flatMap_cons, List.append_assoc, readText_escapeChar, ih]
    rfl

/-! ## Numbers -/

/-- What may follow a number: no digit and no point. -/
def EndsNumber (rest : List Char) : Prop := ∀ c ∈ rest.head?, c.isDigit = false ∧ c ≠ '.'

/-- Digits end where a number does. -/
theorem span_digits {digits : List Char} (all : ∀ c ∈ digits, c.isDigit = true)
    (rest : List Char) (ends : ∀ c ∈ rest.head?, c.isDigit = false) :
    (digits ++ rest).takeWhile Char.isDigit = digits ∧
      (digits ++ rest).dropWhile Char.isDigit = rest := by
  rw [List.takeWhile_append_of_pos all, List.dropWhile_append_of_pos all]
  cases rest with
  | nil => simp
  | cons c rest =>
    have other : c.isDigit = false := ends c rfl
    simp [other]

/-- The decimal digits of a number are digits. -/
theorem isDigit_of_mem_toDigits {number : Nat} {c : Char} (inside : c ∈ Nat.toDigits 10 number) :
    c.isDigit = true :=
  Nat.isDigit_of_mem_toDigits (by decide) (by decide) inside

/-- The decimal digits of a number have no needless zeros. -/
theorem isWhole_toDigits (number : Nat) : isWhole (Nat.toDigits 10 number) = true := by
  have first : ∀ number, 0 < number →
      (Nat.toDigits 10 number).head?.any (· != '0') = true := by
    intro number
    induction number using Nat.strongRecOn with
    | ind number ih =>
      intro positive
      rcases Nat.lt_or_ge number 10 with small | large
      · rw [Nat.toDigits_of_lt_base small]
        simp only [List.head?_cons, Option.any_some, bne_iff_ne, ne_eq, Nat.digitChar_eq_zero]
        omega
      · rw [Nat.toDigits_of_base_le (by decide) large, List.head?_append]
        have front := ih (number / 10) (by omega) (by omega)
        cases head : (Nat.toDigits 10 (number / 10)).head? with
        | none => simp [head] at front
        | some c => simpa [head] using front
  rcases Nat.eq_zero_or_pos number with rfl | positive
  · rw [Nat.toDigits_zero]
    decide
  · rw [isWhole, first number positive, Bool.or_true]

/-- The lowest digits of a number are as many digits as asked for. -/
theorem lowestDigits_spec (count number : Nat) :
    (Value.lowestDigits count number).length = count ∧
      ∀ c ∈ Value.lowestDigits count number, c.isDigit = true := by
  induction count generalizing number with
  | zero => simp [Value.lowestDigits]
  | succ count ih =>
    obtain ⟨length, digits⟩ := ih (number / 10)
    have low : number % 10 < 10 := Nat.mod_lt _ (by decide)
    constructor
    · simp [Value.lowestDigits, length]
    · simp only [Value.lowestDigits, List.forall_mem_append, List.forall_mem_singleton]
      exact ⟨digits, by simpa [Nat.isDigit_digitChar] using low⟩

/-- The digits of a number are those of its higher part and its lowest ones. -/
theorem ofDigitChars_higherPart (count number : Nat) :
    Nat.ofDigitChars 10
      (Nat.toDigits 10 (Value.higherPart count number) ++ Value.lowestDigits count number) 0 =
      number := by
  induction count generalizing number with
  | zero =>
    rw [Value.higherPart, Value.lowestDigits, List.append_nil, Nat.ofDigitChars_ten_toDigits]
  | succ count ih =>
    have low : number % 10 < 10 := Nat.mod_lt _ (by decide)
    rw [Value.higherPart, Value.lowestDigits, ← List.append_assoc, Nat.ofDigitChars_append, ih,
      Nat.ofDigitChars_cons_digitChar_of_lt_ten low, Nat.ofDigitChars_nil]
    omega

/-- A whole number is read back from its digits. -/
theorem readUnsigned_toDigits (number : Nat) {rest : List Char} (ends : EndsNumber rest) :
    readUnsigned (Nat.toDigits 10 number ++ rest) = some ((number, none), rest) := by
  have digits : ∀ c ∈ Nat.toDigits 10 number, c.isDigit = true := fun _ => isDigit_of_mem_toDigits
  obtain ⟨whole, behind⟩ := span_digits digits rest fun c head => (ends c head).1
  have noPoint : ∀ more, rest ≠ '.' :: more := by
    rintro more rfl
    exact (ends '.' rfl).2 rfl
  rw [readUnsigned, whole, behind, isWhole_toDigits]
  split
  · cases ‹_›
  · split
    · next more => exact absurd rfl (noPoint more)
    · rw [Nat.ofDigitChars_ten_toDigits]

/-- A number with a point is read back from the digits on both sides of it. -/
theorem readUnsigned_lowestDigits (number places : Nat) {rest : List Char}
    (ends : EndsNumber rest) :
    readUnsigned (Nat.toDigits 10 (Value.higherPart (places + 1) number) ++
        '.' :: Value.lowestDigits (places + 1) number ++ rest) =
      some ((number, some (places + 1)), rest) := by
  obtain ⟨length, digits⟩ := lowestDigits_spec (places + 1) number
  have front : ∀ c ∈ Nat.toDigits 10 (Value.higherPart (places + 1) number), c.isDigit = true :=
    fun _ => isDigit_of_mem_toDigits
  obtain ⟨whole, behind⟩ :=
    span_digits front ('.' :: Value.lowestDigits (places + 1) number ++ rest) (by simp)
  obtain ⟨fraction, further⟩ := span_digits digits rest fun c head => (ends c head).1
  have some' : (Value.lowestDigits (places + 1) number).isEmpty = false := by
    rw [List.isEmpty_eq_false_iff, ← List.length_pos_iff, length]
    exact Nat.succ_pos places
  have all := ofDigitChars_higherPart (places + 1) number
  rw [List.append_assoc, readUnsigned, whole, behind, isWhole_toDigits]
  simp only [List.cons_append, fraction, further, some', all, length, Bool.not_true,
    Bool.false_eq_true, if_false]

/-- A number is read back with its sign, when it is without. -/
theorem readNumber_signed {number : Int} {places : Option Nat} {digits rest : List Char}
    (begins : ∃ c more, digits = c :: more ∧ c.isDigit = true)
    (unsigned : readUnsigned (digits ++ rest) = some ((number.natAbs, places), rest)) :
    readNumber (Value.signed number digits ++ rest) = some (numberValue number places, rest) := by
  unfold Value.signed
  split
  · next negative =>
    have back : -(number.natAbs : Int) = number := by omega
    simp only [List.cons_append, readNumber, unsigned, Option.map_some, back]
  · next nonnegative =>
    have back : (number.natAbs : Int) = number := by omega
    obtain ⟨c, more, rfl, digit⟩ := begins
    have noSign : c ≠ '-' := by
      rintro rfl
      exact absurd digit (by decide)
    unfold readNumber
    split
    · next minus => exact absurd (List.cons.inj minus).1 noSign
    · simp only [unsigned, Option.map_some, back]

/-- The decimal digits of a number begin with a digit. -/
theorem exists_cons_toDigits (number : Nat) :
    ∃ c more, Nat.toDigits 10 number = c :: more ∧ c.isDigit = true := by
  obtain ⟨c, more, digits⟩ := List.exists_cons_of_ne_nil
    (Nat.toDigits_ne_nil : Nat.toDigits 10 number ≠ [])
  exact ⟨c, more, digits, isDigit_of_mem_toDigits (digits ▸ List.mem_cons_self)⟩

/-- An integer is read back from its printed form. -/
theorem readNumber_printInt (number : Int) {rest : List Char} (ends : EndsNumber rest) :
    readNumber (Value.printInt number ++ rest) = some (.int number, rest) :=
  readNumber_signed (exists_cons_toDigits _) (readUnsigned_toDigits _ ends)

/-- A number with a point is read back from its printed form. -/
theorem readNumber_printDecimal (mantissa : Int) (places : Nat) {rest : List Char}
    (ends : EndsNumber rest) :
    readNumber (Value.printDecimal mantissa places ++ rest) =
      some (.decimal mantissa places, rest) := by
  obtain ⟨c, more, digits, digit⟩ :=
    exists_cons_toDigits (Value.higherPart (places + 1) mantissa.natAbs)
  refine readNumber_signed ⟨c, more ++ '.' :: Value.lowestDigits (places + 1) mantissa.natAbs,
    ?_, digit⟩ (readUnsigned_lowestDigits _ _ ends)
  rw [digits, List.cons_append]

/-! ## Lists and records -/

/-- What follows a member: a comma or a line break. -/
theorem endsNumber_of_mark {c : Char} (mark : c = ',' ∨ c = '\n') (rest : List Char) :
    EndsNumber (c :: rest) := by
  rintro _ ⟨⟩
  rcases mark with rfl | rfl <;> decide

/-- Spaces in front of a character that is none are passed over. -/
theorem skip_newline {c : Char} (noSpace : isSpace c = false) (level : Nat) (rest : List Char) :
    skip (Value.newline level ++ c :: rest) = c :: rest := by
  have spaces : ∀ c ∈ Value.newline level, isSpace c = true := by
    simp only [Value.newline, List.forall_mem_cons, List.mem_replicate]
    exact ⟨by decide, fun c ⟨_, same⟩ => same ▸ by decide⟩
  rw [skip, List.dropWhile_append_of_pos spaces, List.dropWhile_cons_of_neg (by simp [noSpace])]

/-- Nothing is passed over in front of a character that is no space. -/
theorem skip_cons {c : Char} (noSpace : isSpace c = false) (rest : List Char) :
    skip (c :: rest) = c :: rest := by
  rw [skip, List.dropWhile_cons_of_neg (by simp [noSpace])]

section

variable {α : Type} {readOne : List Char → Option (α × List Char)} {close : Char}
  {print : α → List Char}

/-- Members are read back one by one: each is printed with a character in front that is no space and
does not close the brackets, and is read back whatever follows that ends a number. -/
structure ReadsBack (readOne : List Char → Option (α × List Char)) (close : Char)
    (print : α → List Char) (member : α) : Prop where
  /-- The first character tells that there is a member. -/
  begins : ∃ c more, print member = c :: more ∧ isSpace c = false ∧ c ≠ close
  /-- The member is read back. -/
  reads : ∀ rest, EndsNumber rest → readOne (print member ++ rest) = some (member, rest)

/-- A member is read back behind a line break. -/
theorem ReadsBack.readOne_newline {member : α} (back : ReadsBack readOne close print member)
    (level : Nat) {rest : List Char} (ends : EndsNumber rest) :
    readOne (skip (Value.newline level ++ (print member ++ rest))) = some (member, rest) := by
  obtain ⟨⟨c, more, printed, noSpace, _⟩, reads⟩ := back
  have read := reads rest ends
  rw [printed, List.cons_append] at read ⊢
  rw [skip_newline noSpace, read]

/-- The printed members behind the first one, up to the closing bracket. -/
def printRest (print : α → List Char) (close : Char) (level : Nat) (members : List α) :
    List Char :=
  (members.map print).flatMap (fun member => ',' :: Value.newline (level + 1) ++ member) ++
    Value.newline level ++ [close]

/-- There is more than one character for each of the members. -/
theorem length_lt_printRest (print : α → List Char) (close : Char) (level : Nat)
    (members : List α) : members.length < (printRest print close level members).length := by
  induction members with
  | nil => simp [printRest]
  | cons member members ih =>
    simp only [printRest, List.map_cons, List.flatMap_cons, List.length_append,
      List.length_cons] at ih ⊢
    omega

/-- What follows a member ends a number. -/
theorem endsNumber_printRest (print : α → List Char) (close : Char) (level : Nat)
    (members : List α) (rest : List Char) :
    EndsNumber (printRest print close level members ++ rest) := by
  cases members with
  | nil => exact endsNumber_of_mark (.inr rfl) _
  | cons member members => exact endsNumber_of_mark (.inl rfl) _

/-- A series of members is read back. -/
theorem readSeries_members (closes : isSpace close = false) (noComma : close ≠ ',') {level : Nat}
    {first : α} {members : List α} {count : Nat} (enough : members.length < count)
    (back : ∀ member ∈ first :: members, ReadsBack readOne close print member)
    (rest : List Char) :
    readSeries readOne close count (Value.newline (level + 1) ++
        (print first ++ (printRest print close level members ++ rest))) =
      some (first :: members, rest) := by
  induction members generalizing first count with
  | nil =>
    obtain ⟨count, rfl⟩ := Nat.exists_eq_succ_of_ne_zero (Nat.ne_of_gt enough)
    have one := (back first List.mem_cons_self).readOne_newline (level + 1)
      (endsNumber_printRest print close level [] rest)
    have closing : skip (printRest print close level [] ++ rest) = close :: rest := by
      simpa [printRest] using skip_newline closes level rest
    rw [readSeries, one]
    simp [closing]
  | cons second members ih =>
    obtain ⟨count, rfl⟩ := Nat.exists_eq_succ_of_ne_zero (Nat.ne_of_gt (Nat.zero_lt_of_lt enough))
    have one := (back first List.mem_cons_self).readOne_newline (level + 1)
      (endsNumber_printRest print close level (second :: members) rest)
    have later : ∀ member ∈ second :: members, ReadsBack readOne close print member :=
      fun member inside => back member (List.mem_cons_of_mem _ inside)
    have others := ih (Nat.lt_of_succ_lt_succ enough) later
    have next : skip (printRest print close level (second :: members) ++ rest) =
        ',' :: (Value.newline (level + 1) ++
          (print second ++ (printRest print close level members ++ rest))) := by
      simp [printRest, skip_cons (by decide : isSpace ',' = false)]
    rw [readSeries, one]
    simp [next, others]

/-- Printed members are read back from behind the opening bracket. -/
theorem readMembers_bracket (closes : isSpace close = false) (noComma : close ≠ ',') (left : Char)
    (level : Nat) {members : List α}
    (back : ∀ member ∈ members, ReadsBack readOne close print member) (rest : List Char) :
    ∃ inside, Value.bracket left close level (members.map print) ++ rest = left :: inside ∧
      readMembers readOne close inside = some (members, rest) := by
  cases members with
  | nil =>
    refine ⟨close :: rest, rfl, ?_⟩
    simp [readMembers, skip_cons closes]
  | cons first members =>
    refine ⟨Value.newline (level + 1) ++
      (print first ++ (printRest print close level members ++ rest)), ?_, ?_⟩
    · simp [Value.bracket, printRest]
    · obtain ⟨c, more, printed, noSpace, opens⟩ := (back first List.mem_cons_self).begins
      have head : (skip (Value.newline (level + 1) ++
          (print first ++ (printRest print close level members ++ rest)))).head? ≠ some close := by
        rw [printed, List.cons_append, skip_newline noSpace]
        simpa using opens
      have enough := length_lt_printRest print close level members
      rw [readMembers, if_neg head]
      refine readSeries_members closes noComma ?_ back rest
      simp only [List.length_append]
      omega

end

/-! ## Values -/

/-- What holds of a value when it holds of its parts holds of every value. -/
theorem valueInduct {motive : Value → Prop} (null : motive .null)
    (bool : ∀ flag, motive (.bool flag)) (int : ∀ number, motive (.int number))
    (decimal : ∀ mantissa places, motive (.decimal mantissa places))
    (text : ∀ content, motive (.text content))
    (list : ∀ items, (∀ item ∈ items, motive item) → motive (.list items))
    (record : ∀ fields, (∀ field ∈ fields, motive field.2) → motive (.record fields)) :
    ∀ value, motive value
  | .null => null
  | .bool flag => bool flag
  | .int number => int number
  | .decimal mantissa places => decimal mantissa places
  | .text content => text content
  | .list items => list items fun item _ =>
    valueInduct null bool int decimal text list record item
  | .record fields => record fields fun field _ =>
    valueInduct null bool int decimal text list record field.2
termination_by value => sizeOf value
decreasing_by
  · decreasing_tactic
  · have smaller := List.sizeOf_lt_of_mem ‹field ∈ fields›
    obtain ⟨name, value⟩ := field
    simp only [Prod.mk.sizeOf_spec, Value.record.sizeOf_spec] at smaller ⊢
    omega

/-- The items of a list are printed one by one. -/
theorem layoutItems_eq (level : Nat) (items : List Value) :
    Value.layoutItems level items = items.map (Value.layoutAt level) := by
  induction items with
  | nil => rfl
  | cons item items ih => rw [Value.layoutItems, ih, List.map_cons]

/-- The fields of a record are printed one by one. -/
theorem layoutFields_eq (level : Nat) (fields : Fields) :
    Value.layoutFields level fields = fields.map (Value.layoutField level) := by
  induction fields with
  | nil => rfl
  | cons field fields ih => rw [Value.layoutFields, ih, List.map_cons]

/-- A member has fewer characters than the list or record that it stands in. -/
theorem length_lt_bracket (left right : Char) (level : Nat) {members : List (List Char)}
    {member : List Char} (inside : member ∈ members) :
    member.length < (Value.bracket left right level members).length := by
  cases members with
  | nil => cases inside
  | cons first members =>
    simp only [Value.bracket, List.length_append, List.length_cons]
    rcases List.mem_cons.mp inside with rfl | later
    · omega
    · obtain ⟨before, after, rfl⟩ := List.append_of_mem later
      simp only [List.flatMap_append, List.flatMap_cons, List.length_append, List.length_cons]
      omega

/-- A number behind its sign begins with the sign or a digit. -/
theorem exists_cons_signed (number : Int) {digits : List Char}
    (begins : ∃ c more, digits = c :: more ∧ c.isDigit = true) :
    ∃ c more, Value.signed number digits = c :: more ∧ (c = '-' ∨ c.isDigit = true) := by
  unfold Value.signed
  split
  · exact ⟨'-', digits, rfl, .inl rfl⟩
  · obtain ⟨c, more, rfl, digit⟩ := begins
    exact ⟨c, more, rfl, .inr digit⟩

/-- An integer begins with its sign or a digit. -/
theorem exists_cons_printInt (number : Int) :
    ∃ c more, Value.printInt number = c :: more ∧ (c = '-' ∨ c.isDigit = true) :=
  exists_cons_signed number (exists_cons_toDigits _)

/-- A number with a point begins with its sign or a digit. -/
theorem exists_cons_printDecimal (mantissa : Int) (places : Nat) :
    ∃ c more, Value.printDecimal mantissa places = c :: more ∧ (c = '-' ∨ c.isDigit = true) := by
  obtain ⟨c, more, digits, digit⟩ :=
    exists_cons_toDigits (Value.higherPart (places + 1) mantissa.natAbs)
  exact exists_cons_signed mantissa
    ⟨c, more ++ '.' :: Value.lowestDigits (places + 1) mantissa.natAbs,
      by rw [digits, List.cons_append], digit⟩

/-- A sign or a digit is not a character that is neither. -/
theorem ne_of_begins_number {c other : Char} (begins : c = '-' ∨ c.isDigit = true)
    (noSign : other ≠ '-') (noDigit : other.isDigit = false) : c ≠ other := by
  rintro rfl
  rcases begins with sign | digit
  · exact noSign sign
  · exact absurd (noDigit.symm.trans digit) (by decide)

/-- The first character of a printed value is no space and no closing bracket. -/
theorem exists_cons_layoutAt (level : Nat) (value : Value) :
    ∃ c more, Value.layoutAt level value = c :: more ∧
      isSpace c = false ∧ c ≠ ']' ∧ c ≠ '\x7d' := by
  have number {digits : List Char}
      (begins : ∃ c more, digits = c :: more ∧ (c = '-' ∨ c.isDigit = true)) :
      ∃ c more, digits = c :: more ∧ isSpace c = false ∧ c ≠ ']' ∧ c ≠ '\x7d' := by
    obtain ⟨c, more, printed, numeric⟩ := begins
    have ne (other : Char) (noSign : other ≠ '-') (noDigit : other.isDigit = false) : c ≠ other :=
      ne_of_begins_number numeric noSign noDigit
    refine ⟨c, more, printed, ?_, ne ']' (by decide) (by decide), ne '\x7d' (by decide) (by decide)⟩
    simp only [isSpace, Bool.or_eq_false_iff, decide_eq_false_iff_not]
    exact ⟨⟨⟨ne ' ' (by decide) (by decide), ne '\t' (by decide) (by decide)⟩,
      ne '\n' (by decide) (by decide)⟩, ne '\r' (by decide) (by decide)⟩
  cases value with
  | null => exact ⟨'n', _, rfl, by decide⟩
  | bool flag => cases flag <;> exact ⟨_, _, rfl, by decide⟩
  | int whole => exact number (exists_cons_printInt whole)
  | decimal mantissa places => exact number (exists_cons_printDecimal mantissa places)
  | text content => exact ⟨'"', _, rfl, by decide⟩
  | list items =>
    rw [Value.layoutAt]
    cases Value.layoutItems (level + 1) items with
    | nil => exact ⟨'[', _, rfl, by decide⟩
    | cons first rest => exact ⟨'[', _, rfl, by decide⟩
  | record fields =>
    rw [Value.layoutAt]
    cases Value.layoutFields (level + 1) fields with
    | nil => exact ⟨'\x7b', _, rfl, by decide⟩
    | cons first rest => exact ⟨'\x7b', _, rfl, by decide⟩

/-- A value that begins like a number is read as one. -/
theorem readValue_of_begins_number {c : Char} (begins : c = '-' ∨ c.isDigit = true) (depth : Nat)
    (rest : List Char) : readValue (depth + 1) (c :: rest) = readNumber (c :: rest) := by
  have noText : c ≠ '"' := ne_of_begins_number begins (by decide) (by decide)
  have noList : c ≠ '[' := ne_of_begins_number begins (by decide) (by decide)
  have noRecord : c ≠ '\x7b' := ne_of_begins_number begins (by decide) (by decide)
  have numeric : (c = '-' || c.isDigit) = true := by simpa using begins
  rw [readValue, if_neg noText, if_neg noList, if_neg noRecord, if_pos numeric]

/-- A field is read back when its value is. -/
theorem readNamed_layoutField {readOne : List Char → Option (Value × List Char)} {level : Nat}
    (field : String × Value) {rest : List Char}
    (value : readOne (Value.layoutAt level field.2 ++ rest) = some (field.2, rest)) :
    readNamed readOne (Value.layoutField level field ++ rest) = some (field, rest) := by
  obtain ⟨name, content⟩ := field
  obtain ⟨c, more, printed, noSpace, _⟩ := exists_cons_layoutAt level content
  have behind : skip (' ' :: (Value.layoutAt level content ++ rest)) =
      Value.layoutAt level content ++ rest := by
    rw [printed, List.cons_append, skip, List.dropWhile_cons_of_pos (by decide),
      List.dropWhile_cons_of_neg (by simp [noSpace])]
  simp [readNamed, Value.layoutField, Value.printText, readText_flatMap,
    skip_cons (by decide : isSpace ':' = false), behind, value]

/-- A depth that covers a printed value is not zero. -/
theorem exists_succ_of_length_layoutAt {level depth : Nat} {value : Value}
    (enough : (Value.layoutAt level value).length ≤ depth) : ∃ less, depth = less + 1 := by
  obtain ⟨c, more, printed, _⟩ := exists_cons_layoutAt level value
  refine Nat.exists_eq_succ_of_ne_zero ?_
  rintro rfl
  simp [printed] at enough

/-- A printed value is read back, whatever follows it that ends a number. The depth of the reading
covers the length of the text, and so the levels of the value. -/
theorem readValue_layoutAt (value : Value) (level depth : Nat)
    (enough : (Value.layoutAt level value).length ≤ depth) {rest : List Char}
    (ends : EndsNumber rest) :
    readValue depth (Value.layoutAt level value ++ rest) = some (value, rest) := by
  induction value using valueInduct generalizing level depth rest with
  | null =>
    obtain ⟨depth, rfl⟩ := exists_succ_of_length_layoutAt enough
    simp [Value.layoutAt, readValue, readWord]
  | bool flag =>
    obtain ⟨depth, rfl⟩ := exists_succ_of_length_layoutAt enough
    cases flag <;> simp [Value.layoutAt, readValue, readWord]
  | int number =>
    obtain ⟨depth, rfl⟩ := exists_succ_of_length_layoutAt enough
    obtain ⟨c, more, printed, begins⟩ := exists_cons_printInt number
    have read := readNumber_printInt number ends
    rw [Value.layoutAt]
    rw [printed, List.cons_append] at read ⊢
    rw [readValue_of_begins_number begins, read]
  | decimal mantissa places =>
    obtain ⟨depth, rfl⟩ := exists_succ_of_length_layoutAt enough
    obtain ⟨c, more, printed, begins⟩ := exists_cons_printDecimal mantissa places
    have read := readNumber_printDecimal mantissa places ends
    rw [Value.layoutAt]
    rw [printed, List.cons_append] at read ⊢
    rw [readValue_of_begins_number begins, read]
  | text content =>
    obtain ⟨depth, rfl⟩ := exists_succ_of_length_layoutAt enough
    simp [Value.layoutAt, Value.printText, readValue, readText_flatMap]
  | list items ih =>
    obtain ⟨depth, rfl⟩ := exists_succ_of_length_layoutAt enough
    rw [Value.layoutAt, layoutItems_eq] at enough ⊢
    have back : ∀ item ∈ items, ReadsBack (readValue depth) ']'
        (Value.layoutAt (level + 1)) item := by
      intro item inside
      obtain ⟨c, more, printed, noSpace, opens, _⟩ := exists_cons_layoutAt (level + 1) item
      have shorter := length_lt_bracket '[' ']' level
        (List.mem_map_of_mem (f := Value.layoutAt (level + 1)) inside)
      exact ⟨⟨c, more, printed, noSpace, opens⟩, fun rest ends =>
        ih item inside (level + 1) depth (by omega) ends⟩
    obtain ⟨inside, printed, read⟩ :=
      readMembers_bracket (by decide) (by decide) '[' level back rest
    rw [printed]
    simp [readValue, read]
  | record fields ih =>
    obtain ⟨depth, rfl⟩ := exists_succ_of_length_layoutAt enough
    rw [Value.layoutAt, layoutFields_eq] at enough ⊢
    have back : ∀ field ∈ fields, ReadsBack (readNamed (readValue depth)) '\x7d'
        (Value.layoutField (level + 1)) field := by
      rintro ⟨name, content⟩ inside
      have shorter := length_lt_bracket '\x7b' '\x7d' level
        (List.mem_map_of_mem (f := Value.layoutField (level + 1)) inside)
      have covered : (Value.layoutAt (level + 1) content).length ≤ depth := by
        simp only [Value.layoutField, List.length_append, List.length_cons] at shorter
        omega
      exact ⟨⟨'"', _, rfl, by decide, by decide⟩, fun rest ends =>
        readNamed_layoutField _ (ih _ inside (level + 1) depth covered ends)⟩
    obtain ⟨inside, printed, read⟩ :=
      readMembers_bracket (by decide) (by decide) '\x7b' level back rest
    rw [printed]
    simp [readValue, read]

/-- A printed value is read back, with any spaces behind it. -/
theorem read?_layout (value : Value) (spaces : String) (blank : spaces.toList.all isSpace = true) :
    read? (value.layout ++ spaces) = some value := by
  rw [List.all_eq_true] at blank
  obtain ⟨c, more, printed, noSpace, _⟩ := exists_cons_layoutAt 0 value
  have text : (value.layout ++ spaces).toList = Value.layoutAt 0 value ++ spaces.toList := by
    rw [String.toList_append, Value.layout, String.toList_ofList]
  have front : skip (value.layout ++ spaces).toList =
      Value.layoutAt 0 value ++ spaces.toList := by
    rw [text, printed, List.cons_append, skip_cons noSpace]
  have ends : EndsNumber spaces.toList := by
    intro c head
    have space := blank c (List.mem_of_mem_head? head)
    simp only [isSpace, Bool.or_eq_true, decide_eq_true_eq] at space
    rcases space with ((rfl | rfl) | rfl) | rfl <;> decide
  have behind : skip spaces.toList = [] := by
    rw [skip, List.dropWhile_eq_nil_iff]
    exact blank
  have enough : (Value.layoutAt 0 value).length ≤ (value.layout ++ spaces).toList.length := by
    rw [text, List.length_append]
    omega
  rw [read?, front, readValue_layoutAt value 0 _ enough ends]
  simp only [behind, List.isEmpty_nil, if_true]

/-- Two values never have one layout. -/
theorem layout_injective : Function.Injective Value.layout := by
  intro value other same
  have read := read?_layout value "" (by decide)
  rw [same, read?_layout other "" (by decide)] at read
  exact (Option.some.inj read).symm

end SourceLens.Json
