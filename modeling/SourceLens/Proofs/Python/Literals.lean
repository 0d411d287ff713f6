import Mathlib.Data.List.Infix
import Mathlib.Data.List.TakeWhile
import SourceLens.Grammar.Python
import SourceLens.Proofs.Tree.Decodable

/-!
# String literals

A string literal is a body between two equal quotes, with letters in front that mark it and perhaps
a line feed behind. One text can be a literal in more than one way: six double quotes are an empty
body between triple quotes, and four quotes between single ones. The triple quotes are tried first,
so a body is read back from its literal (`unquote_of_quoted`) unless it stands between single quotes
and begins with one. What is no literal in any way is left as it is (`unquote_of_not_literal`), and
what is one is read in one of its ways (`isLiteral_unquote`).
-/
namespace SourceLens.Python

/-! ## Between quotes -/

section Quotes

variable {quote body content ending inside tail : List Char}

/-- What stands before an end makes the text together with the end. -/
theorem before?_eq_some_iff :
    before? ending content = some inside ↔ content = inside ++ ending := by
  unfold before?
  split
  · next ends =>
    obtain ⟨front, rfl⟩ := List.isSuffixOf_iff_suffix.mp ends
    simp [eq_comm]
  · next other =>
    simp only [reduceCtorEq, false_iff]
    rintro rfl
    exact other (List.isSuffixOf_iff_suffix.mpr (List.suffix_append inside ending))

/-- A text is a quote, a body and the quote again, perhaps with a line feed behind. -/
def IsQuoted (quote content body : List Char) : Prop :=
  content = quote ++ (body ++ quote) ∨ content = quote ++ (body ++ (quote ++ ['\n']))

/-- Behind a quote, the body ends where the quote stands again: at the end, or before a last line
feed. -/
theorem between?_append (quote tail : List Char) : between? quote (quote ++ tail) =
    (before? quote tail).or (before? (quote ++ ['\n']) tail) := by
  have begins : quote.isPrefixOf (quote ++ tail) = true :=
    List.isPrefixOf_iff_prefix.mpr (List.prefix_append quote tail)
  simp only [between?, begins, if_true, List.drop_left]

/-- There is nothing between quotes in a text that does not begin with the quote. -/
theorem between?_eq_none (other : ¬ quote <+: content) : between? quote content = none :=
  if_neg fun begins => other (List.isPrefixOf_iff_prefix.mp begins)

/-- What is read between quotes stands between them. -/
theorem isQuoted_of_between? (found : between? quote content = some body) :
    IsQuoted quote content body := by
  by_cases begins : quote <+: content
  · obtain ⟨tail, rfl⟩ := begins
    rw [between?_append] at found
    rcases Option.or_eq_some_iff.mp found with closed | ⟨_, closed⟩
    · exact .inl (by rw [before?_eq_some_iff.mp closed])
    · exact .inr (by rw [before?_eq_some_iff.mp closed])
  · rw [between?_eq_none begins] at found
    cases found

/-- A body between quotes is read. -/
theorem between?_quoted (quote body : List Char) :
    between? quote (quote ++ (body ++ quote)) = some body := by
  rw [between?_append, before?_eq_some_iff.mpr rfl, Option.some_or]

/-- Something is read between the quotes of a quoted text. -/
theorem isSome_between? (quoted : IsQuoted quote content body) :
    (between? quote content).isSome = true := by
  rcases quoted with rfl | rfl
  · rw [between?_quoted]
    rfl
  · have closed : before? (quote ++ ['\n']) (body ++ (quote ++ ['\n'])) = some body :=
      before?_eq_some_iff.mpr rfl
    rw [between?_append, closed, Option.isSome_or, Option.isSome_some, Bool.or_true]

/-- A body between single quotes that does not begin with one does not begin with three. -/
theorem no_triple_in_front {c : Char} (plain : ¬ [c] <+: body) :
    ¬ [c, c, c] <+: [c] ++ (body ++ [c]) := by
  intro begins
  cases body with
  | nil => simpa using begins.length_le
  | cons head rest =>
    simp only [List.cons_append, List.nil_append, List.cons_prefix_cons] at begins
    exact plain (List.cons_prefix_cons.mpr ⟨begins.2.1, List.nil_prefix⟩)

/-- The first quote that fits a body between quotes gives the body, unless a single quote stands
before another one. -/
theorem findSome?_quoted (known : quote ∈ quotes) (plain : quote.length = 1 → ¬ quote <+: body) :
    quotes.findSome? (between? · (quote ++ (body ++ quote))) = some body := by
  have own := between?_quoted quote body
  have skip (other : List Char) (differ : ¬ other <+: quote ++ (body ++ quote)) :
      between? other (quote ++ (body ++ quote)) = none := between?_eq_none differ
  simp only [quotes, List.mem_cons, List.not_mem_nil, or_false] at known
  rcases known with rfl | rfl | rfl | rfl
  · simp only [quotes, List.findSome?_cons, own]
  · simp only [quotes, List.findSome?_cons, own, skip ['"', '"', '"'] (by simp)]
  · simp only [quotes, List.findSome?_cons, own, skip ['\x27', '\x27', '\x27'] (by simp),
      skip ['"', '"', '"'] (no_triple_in_front (plain rfl))]
  · simp only [quotes, List.findSome?_cons, own, skip ['"', '"', '"'] (by simp),
      skip ['\x27', '\x27', '\x27'] (no_triple_in_front (plain rfl)), skip ['"'] (by simp)]

end Quotes

/-! ## Literals -/

/-- A text is a string literal with a body: letters that mark it, and the body between quotes. -/
def IsLiteral (content body : String) : Prop :=
  ∃ marks quote quoted : List Char, content.toList = marks ++ quoted ∧
    (∀ c ∈ marks, isLiteralMark c = true) ∧ quote ∈ quotes ∧ IsQuoted quote quoted body.toList

/-- No quote begins with a letter that marks a literal. -/
theorem dropWhile_quote {quote : List Char} (known : quote ∈ quotes) (tail : List Char) :
    (quote ++ tail).dropWhile isLiteralMark = quote ++ tail := by
  simp only [quotes, List.mem_cons, List.not_mem_nil, or_false] at known
  rcases known with rfl | rfl | rfl | rfl <;> rfl

/-- The marks of a quoted text are dropped, and nothing else. -/
theorem dropWhile_marks {marks quote quoted body : List Char}
    (marked : ∀ c ∈ marks, isLiteralMark c = true) (known : quote ∈ quotes)
    (fits : IsQuoted quote quoted body) : (marks ++ quoted).dropWhile isLiteralMark = quoted := by
  rw [List.dropWhile_append_of_pos marked]
  rcases fits with rfl | rfl
  · exact dropWhile_quote known _
  · exact dropWhile_quote known _

/-- The body between the first quotes that fit behind the marks. -/
def firstBody? (content : String) : Option (List Char) :=
  quotes.findSome? (between? · (content.toList.dropWhile isLiteralMark))

/-- The content of a text is the body between the first quotes that fit, or the text. -/
theorem unquote_eq (content : String) :
    unquote content = ((firstBody? content).map String.ofList).getD content := by
  rw [unquote, firstBody?]
  split
  · next found =>
    rw [found]
    rfl
  · next nothing =>
    rw [nothing]
    rfl

/-- What is found between quotes behind the marks is the body of a literal. -/
theorem isLiteral_of_firstBody? {content : String} {inside : List Char}
    (found : firstBody? content = some inside) : IsLiteral content (String.ofList inside) := by
  obtain ⟨quote, known, between⟩ := List.exists_of_findSome?_eq_some found
  refine ⟨content.toList.takeWhile isLiteralMark, quote, content.toList.dropWhile isLiteralMark,
    List.takeWhile_append_dropWhile.symm, fun c marked => List.mem_takeWhile_imp marked, known, ?_⟩
  rw [String.toList_ofList]
  exact isQuoted_of_between? between

/-- A literal has a body between quotes behind its marks. -/
theorem isSome_firstBody? {content body : String} (literal : IsLiteral content body) :
    (firstBody? content).isSome = true := by
  obtain ⟨marks, quote, quoted, parts, marked, known, fits⟩ := literal
  rw [firstBody?, parts, dropWhile_marks marked known fits, List.findSome?_isSome_iff]
  exact ⟨quote, known, isSome_between? fits⟩

/-- A body is read back from its literal. -/
theorem unquote_of_quoted {marks quote body : String}
    (marked : ∀ c ∈ marks.toList, isLiteralMark c = true) (known : quote.toList ∈ quotes)
    (plain : quote.length = 1 → ¬ quote.toList <+: body.toList) :
    unquote (marks ++ quote ++ body ++ quote) = body := by
  have unmarked : (marks ++ quote ++ body ++ quote).toList.dropWhile isLiteralMark =
      quote.toList ++ (body.toList ++ quote.toList) := by
    simp only [String.toList_append, List.append_assoc]
    exact dropWhile_marks marked known (.inl rfl)
  rw [unquote_eq, firstBody?, unmarked, findSome?_quoted known plain, Option.map_some,
    Option.getD_some, String.ofList_toList]

/-- A text that is no literal is left as it is. -/
theorem unquote_of_not_literal {content : String} (other : ∀ body, ¬ IsLiteral content body) :
    unquote content = content := by
  cases found : firstBody? content with
  | none => rw [unquote_eq, found, Option.map_none, Option.getD_none]
  | some inside => exact absurd (isLiteral_of_firstBody? found) (other _)

/-- What a literal is read as is a body with which it is a literal. -/
theorem isLiteral_unquote {content body : String} (literal : IsLiteral content body) :
    IsLiteral content (unquote content) := by
  obtain ⟨inside, found⟩ := Option.isSome_iff_exists.mp (isSome_firstBody? literal)
  rw [unquote_eq, found, Option.map_some, Option.getD_some]
  exact isLiteral_of_firstBody? found

/-- The value at a site is its text without marks and quotes. -/
theorem stringValue_of_text {site : Site} {content : String} (text : site.text = .ok content) :
    stringValue site = .ok (unquote content) := by
  rw [stringValue, text]
  rfl

/-- The body of a string literal is read back whatever letters mark it and whatever stands in it, if
single quotes do not enclose a body that begins with one. A text that is no string literal in any
way is its own value, and one that is has a body as its value with which it is a literal. -/
theorem literals_unquoted_exactly :
    (∀ (site : Site) (marks quote body : String), (∀ c ∈ marks.toList, isLiteralMark c = true) →
      quote.toList ∈ quotes → (quote.length = 1 → ¬ quote.toList <+: body.toList) →
      site.text = .ok (marks ++ quote ++ body ++ quote) → stringValue site = .ok body) ∧
    (∀ (site : Site) (content : String), site.text = .ok content →
      (∀ body, ¬ IsLiteral content body) → stringValue site = .ok content) ∧
    (∀ (site : Site) (content body : String), site.text = .ok content → IsLiteral content body →
      ∃ inside, IsLiteral content inside ∧ stringValue site = .ok inside) := by
  refine ⟨?_, ?_, ?_⟩
  · intro site marks quote body marked known plain text
    rw [stringValue_of_text text, unquote_of_quoted marked known plain]
  · intro site content text other
    rw [stringValue_of_text text, unquote_of_not_literal other]
  · intro site content body text literal
    exact ⟨unquote content, isLiteral_unquote literal, stringValue_of_text text⟩

/-- The site of a string with a text. -/
def stringSite (content : String) : Site :=
  .root (.covering "string" none 0 ⟨0, 0⟩ ⟨0, content.utf8ByteSize⟩ content [])

/-- The text at the site is the one that it was made with. -/
theorem text_stringSite (content : String) : (stringSite content).text = .ok content :=
  Text.Utf8.decode_eq_ok_iff.mpr rfl

/-- Single quotes may stand at the ends of a body between triple ones, quotes that differ enclose
nothing, and five quotes are a literal in one way at least. -/
theorem literals_unquoted_exactly_samples :
    stringValue (stringSite "Rb\"\"\"\"a\"\n\"\"\"\"") = .ok "\"a\"\n\"" ∧
      stringValue (stringSite "u\x27a\"") = .ok "u\x27a\"" ∧
      ∃ inside, IsLiteral "\"\"\"\"\"" inside ∧
        stringValue (stringSite "\"\"\"\"\"") = .ok inside := by
  obtain ⟨quoted, unquoted, literal⟩ := literals_unquoted_exactly
  have mixed : ∀ body, ¬ IsLiteral "u\x27a\"" body := by
    intro body literal
    have nothing : (firstBody? "u\x27a\"").isSome = false := by decide
    rw [isSome_firstBody? literal] at nothing
    cases nothing
  have five : IsLiteral "\"\"\"\"\"" "\"\"\"" :=
    ⟨[], ['"'], "\"\"\"\"\"".toList, rfl, by simp, by decide, .inl (by decide)⟩
  have marked : "Rb".toList.all isLiteralMark = true := by decide
  refine ⟨?_, ?_, ?_⟩
  · exact quoted _ "Rb" "\"\"\"" "\"a\"\n\"" (List.all_eq_true.mp marked) (by decide)
      (by decide) (text_stringSite _)
  · exact unquoted _ _ (text_stringSite _) mixed
  · exact literal _ _ _ (text_stringSite _) five

end SourceLens.Python
