import SourceLens.Proofs.Qualifier

/-!
# Reading and writing qualifiers

Reading undoes writing, and writing undoes reading (`written_qualifiers_are_read_back`). The second
half is not immediate: a text without a colon has no path, and one whose path begins with a full
stop loses the mark, because an empty owner counts as none. All other texts come back without the
blanks at their ends, and since these never matter two such texts mean the same only when they are
the same between their blanks.
-/
namespace SourceLens

namespace Text

/-- Every character of a text is blank. -/
def AllBlank (s : List Char) : Prop := ∀ c ∈ s, isBlank c = true

instance (s : List Char) : Decidable (AllBlank s) :=
  List.decidableBAll (fun c => isBlank c = true) s

/-- Blanks in front are dropped. -/
theorem trimLeft_append {before : List Char} (blank : AllBlank before) (s : List Char) :
    trimLeft (before ++ s) = trimLeft s := List.dropWhile_append_of_pos blank

/-- Nothing is left of blanks. -/
theorem trimLeft_eq_nil {s : List Char} (blank : AllBlank s) : trimLeft s = [] := by
  rw [← List.append_nil s, trimLeft_append blank]
  rfl

/-- Blanks at the back are dropped. -/
theorem trimRight_append {after : List Char} (blank : AllBlank after) (s : List Char) :
    trimRight (s ++ after) = trimRight s := by
  have blank' : ∀ c ∈ after.reverse, isBlank c = true := by
    intro c inside
    exact blank c (List.mem_reverse.mp inside)
  rw [trimRight, List.reverse_append, List.dropWhile_append_of_pos blank', trimRight]

/-- Blanks around a text are dropped with those at its own ends. -/
theorem trim_surrounded {before after : List Char} (front : AllBlank before)
    (back : AllBlank after) (s : List Char) : trim (before ++ s ++ after) = trim s := by
  rw [trim, List.append_assoc, trimLeft_append front, trimLeft, List.dropWhile_append]
  by_cases nothing : (s.dropWhile isBlank).isEmpty = true
  · have empty : trimLeft s = [] := List.isEmpty_iff.mp nothing
    have rest : after.dropWhile isBlank = [] := trimLeft_eq_nil back
    rw [if_pos nothing, rest, trim, empty]
  · rw [if_neg nothing, trimRight_append back]
    rfl

/-- The end of a text with a solid back is solid. -/
theorem SolidBack.of_append {before after : List Char} (back : SolidBack (before ++ after)) :
    SolidBack after := by
  intro c last
  apply back c
  rw [List.getLast?_append, Option.mem_def.mp last]
  rfl

end Text

namespace Qualifier

open Text

variable {one other : Qualifier} {text : String}

/-- The kind, the owner and the name of a qualifier. -/
def parts (qualifier : Qualifier) : String × Option String × String :=
  (qualifier.kind, qualifier.owner, qualifier.name)

/-- The written form of a qualifier: the kind, a colon and the path. -/
def written (qualifier : Qualifier) : String := qualifier.kind ++ ":" ++ qualifier.path

/-- A text between its blanks is a kind, a colon and a path that does not begin with a full stop. -/
def IsRegular (text : String) : Prop :=
  ∃ kind path : List Char, trim text.toList = kind ++ ':' :: path ∧ ':' ∉ kind ∧
    path.head? ≠ some '.'

/-- Qualifiers with the same parts are written alike. -/
theorem written_congr (same : one.parts = other.parts) : one.written = other.written := by
  obtain ⟨kind, rest⟩ := Prod.mk.inj same
  obtain ⟨owner, name⟩ := Prod.mk.inj rest
  rw [written, written, path, path, kind, owner, name]

/-- Texts that are the same between their blanks have the same parts. -/
theorem parts_parse_congr {text text' : String} (same : trim text.toList = trim text'.toList) :
    (parse text).parts = (parse text').parts := by
  simp only [parse, parts, same]

/-- A regular text is written again as it is between its blanks. -/
theorem written_parse (regular : IsRegular text) : (parse text).written = strip text := by
  obtain ⟨kind, path, divided, undivided, start⟩ := regular
  have cutKind : cut ':' (trim text.toList) = (kind, true, path) := by
    rw [divided, cut_append undivided]
  rw [strip, divided]
  by_cases dotted : '.' ∈ path
  · obtain ⟨owner, member, rfl, plain⟩ := List.eq_append_cons_of_mem dotted
    have owned : owner ≠ [] := by
      rintro rfl
      exact start rfl
    have read : parse text =
        ⟨text, String.ofList kind, String.ofList member, some (String.ofList owner)⟩ := by
      simp only [parse, cutKind, cut_append plain]
      simp [owned]
    rw [read, written, Qualifier.path]
    apply String.toList_inj.mp
    simp [owned]
  · have read : parse text = ⟨text, String.ofList kind, String.ofList path, none⟩ := by
      simp only [parse, cutKind, cut_of_not_mem dotted]
      simp
    rw [read, written, Qualifier.path]
    apply String.toList_inj.mp
    simp

end Qualifier

open Text Qualifier

/-- Qualifiers are read back from their written form, and regular texts are written back from what
is read.

A kind without colon that does not start with a blank, an owner without full stop that is not empty,
and a member are read back from the text they make unless it ends with a blank; so are such a kind
and a name without full stop. Blanks around a text change no part. A regular text is written back
without the blanks around it, so regular texts that differ between their blanks differ in a part. -/
theorem written_qualifiers_are_read_back :
    (∀ kind owner member : String, ':' ∉ kind.toList → SolidFront kind.toList → owner ≠ "" →
      '.' ∉ owner.toList → SolidBack (kind ++ ":" ++ owner ++ "." ++ member).toList →
      parse (kind ++ ":" ++ owner ++ "." ++ member) =
          ⟨kind ++ ":" ++ owner ++ "." ++ member, kind, member, some owner⟩ ∧
        (parse (kind ++ ":" ++ owner ++ "." ++ member)).path = owner ++ "." ++ member) ∧
    (∀ kind name : String, ':' ∉ kind.toList → SolidFront kind.toList → '.' ∉ name.toList →
      SolidBack name.toList →
      parse (kind ++ ":" ++ name) = ⟨kind ++ ":" ++ name, kind, name, none⟩) ∧
    (∀ before text after : String, AllBlank before.toList → AllBlank after.toList →
      (parse (before ++ text ++ after)).parts = (parse text).parts) ∧
    (∀ text : String, IsRegular text → (parse text).written = strip text) ∧
    (∀ text text' : String, IsRegular text → IsRegular text' → strip text ≠ strip text' →
      (parse text).parts ≠ (parse text').parts) := by
  refine ⟨?_, ?_, ?_, fun text => written_parse, ?_⟩
  · intro kind owner member undivided front owned plain back
    have joined :
        kind ++ ":" ++ owner ++ "." ++ member = kind ++ ":" ++ (owner ++ "." ++ member) := by
      simp only [String.append_assoc]
    have ending : SolidBack member.toList := by
      rw [String.toList_append] at back
      exact back.of_append
    have read := parse_member kind front undivided owned plain ending
    rw [joined, read]
    refine ⟨rfl, ?_⟩
    have something : owner.isEmpty = false := by simpa using owned
    simp [path, something]
  · intro kind name undivided front plain back
    exact parse_name kind front undivided plain back
  · intro before text after front back
    apply parts_parse_congr
    rw [String.toList_append, String.toList_append, trim_surrounded front back]
  · intro text text' regular regular' differ same
    have written := written_congr same
    rw [written_parse regular, written_parse regular'] at written
    exact differ written

/-- Only the first colon and the first full stop divide a text, a wide space around it does not
matter, and a path that begins with a blank is kept as it is. -/
theorem written_qualifiers_are_read_back_samples :
    (parse "class:Cache.get:x.y").parts = ("class", some "Cache", "get:x.y") ∧
      (parse "\u2003function:run\n").parts = ("function", none, "run") ∧
      IsRegular " : .x " ∧ (parse " : .x ").written = ": .x" ∧
      (parse " : .x ").parts ≠ (parse ": x").parts := by
  obtain ⟨member, name, surrounded, written, distinct⟩ := written_qualifiers_are_read_back
  have divided : parse "class:Cache.get:x.y" =
      ⟨"class:Cache.get:x.y", "class", "get:x.y", some "Cache"⟩ :=
    (member "class" "Cache" "get:x.y" (by decide) (by decide) (by decide) (by decide)
      (by decide)).1
  have plain : parse "function:run" = ⟨"function:run", "function", "run", none⟩ :=
    name "function" "run" (by decide) (by decide) (by decide) (by decide)
  have wide : (parse "\u2003function:run\n").parts = (parse "function:run").parts :=
    surrounded "\u2003" "function:run" "\n" (by decide) (by decide)
  have regular : IsRegular " : .x " := ⟨[], " .x".toList, by decide, by decide, by decide⟩
  have regular' : IsRegular ": x" := ⟨[], " x".toList, by decide, by decide, by decide⟩
  refine ⟨by rw [divided]; rfl, by rw [wide, plain]; rfl, regular, ?_, ?_⟩
  · rw [written _ regular]
    decide
  · exact distinct _ _ regular regular' (by decide)

end SourceLens
