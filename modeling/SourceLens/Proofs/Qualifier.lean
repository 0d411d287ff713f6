import SourceLens.Qualifier

/-!
# Written qualifiers

A qualifier is read back from its written form. The first colon ends the kind and the first full
stop ends the owner, so the kind must have no colon and the owner no full stop; and blanks at the
ends of the whole are lost, so the kind must not start with one and the name must not end with one
(`parse_name`, `parse_member`).
-/
namespace SourceLens

namespace Text

/-- A text does not start with a blank. -/
def SolidFront (s : List Char) : Prop := ∀ c ∈ s.head?, isBlank c = false

/-- A text does not end with a blank. -/
def SolidBack (s : List Char) : Prop := ∀ c ∈ s.getLast?, isBlank c = false

instance (s : List Char) : Decidable (SolidFront s) :=
  Option.decidableForallMem s.head?

instance (s : List Char) : Decidable (SolidBack s) :=
  Option.decidableForallMem s.getLast?

/-- Nothing is dropped from a solid front. -/
theorem trimLeft_eq_self {s : List Char} (front : SolidFront s) : trimLeft s = s := by
  cases s with
  | nil => rfl
  | cons c rest =>
    have solid : isBlank c = false := front c rfl
    simp [trimLeft, solid]

/-- Nothing is dropped from a solid back. -/
theorem trimRight_eq_self {s : List Char} (back : SolidBack s) : trimRight s = s := by
  have front : SolidFront s.reverse := by
    intro c first
    exact back c (by rwa [List.head?_reverse] at first)
  have kept : s.reverse.dropWhile isBlank = s.reverse := trimLeft_eq_self front
  rw [trimRight, kept, List.reverse_reverse]

/-- Nothing is dropped from a text that is solid at both ends. -/
theorem trim_eq_self {s : List Char} (front : SolidFront s) (back : SolidBack s) : trim s = s := by
  rw [trim, trimLeft_eq_self front, trimRight_eq_self back]

/-- A mark that is not blank keeps the front solid. -/
theorem SolidFront.append_cons {before : List Char} {mark : Char} (front : SolidFront before)
    (solid : isBlank mark = false) (after : List Char) : SolidFront (before ++ mark :: after) := by
  intro c first
  cases before with
  | nil =>
    obtain rfl : mark = c := by simpa using first
    exact solid
  | cons head rest => exact front c first

/-- A mark that is not blank keeps the back solid. -/
theorem SolidBack.append_cons {mark : Char} {after : List Char} (solid : isBlank mark = false)
    (back : SolidBack after) (before : List Char) : SolidBack (before ++ mark :: after) := by
  intro c last
  rw [List.getLast?_append, List.getLast?_cons, Option.some_or] at last
  obtain rfl := Option.some.inj last
  cases ending : after.getLast? with
  | none => simpa [ending] using solid
  | some c => simpa [ending] using back c ending

end Text

namespace Qualifier

open Text

/-- A character list without the mark is not divided. -/
theorem cut_of_not_mem {mark : Char} {s : List Char} (free : mark ∉ s) :
    cut mark s = (s, false, []) := by
  induction s with
  | nil => rfl
  | cons c rest ih =>
    simp only [List.mem_cons, not_or] at free
    simp [cut, Ne.symm free.1, ih free.2]

/-- The first mark divides a character list. -/
theorem cut_append {mark : Char} {before : List Char} (free : mark ∉ before) (after : List Char) :
    cut mark (before ++ mark :: after) = (before, true, after) := by
  induction before with
  | nil => simp [cut]
  | cons c rest ih =>
    simp only [List.mem_cons, not_or] at free
    simp [cut, Ne.symm free.1, ih free.2]

/-- The first colon ends the kind of a written qualifier. -/
theorem cut_trim {kind path : String} (front : SolidFront kind.toList)
    (divided : ':' ∉ kind.toList) (back : SolidBack path.toList) :
    cut ':' (trim (kind ++ ":" ++ path).toList) = (kind.toList, true, path.toList) := by
  have content : (kind ++ ":" ++ path).toList = kind.toList ++ ':' :: path.toList := by simp
  have solid : isBlank ':' = false := by decide
  rw [content, trim_eq_self (front.append_cons solid _) (back.append_cons solid _)]
  exact cut_append divided path.toList

/-- A kind and a name without full stop are read back. -/
theorem parse_name (kind : String) {name : String} (front : SolidFront kind.toList)
    (divided : ':' ∉ kind.toList) (plain : '.' ∉ name.toList) (back : SolidBack name.toList) :
    parse (kind ++ ":" ++ name) = ⟨kind ++ ":" ++ name, kind, name, none⟩ := by
  simp only [parse, cut_trim front divided back, cut_of_not_mem plain]
  simp

/-- A kind, an owner without full stop and a name are read back. -/
theorem parse_member (kind : String) {owner name : String} (front : SolidFront kind.toList)
    (divided : ':' ∉ kind.toList) (owned : owner ≠ "") (plain : '.' ∉ owner.toList)
    (back : SolidBack name.toList) :
    parse (kind ++ ":" ++ (owner ++ "." ++ name)) =
      ⟨kind ++ ":" ++ (owner ++ "." ++ name), kind, name, some owner⟩ := by
  have content : (owner ++ "." ++ name).toList = owner.toList ++ '.' :: name.toList := by simp
  have ending : SolidBack (owner ++ "." ++ name).toList := by
    rw [content]
    exact back.append_cons (by decide) _
  simp only [parse, cut_trim front divided ending]
  rw [content, cut_append plain]
  simp [owned]

end Qualifier

end SourceLens
