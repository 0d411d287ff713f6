import Mathlib.Data.List.Basic
import SourceLens.Text.Case
import SourceLens.Text.Occurs

/-!
# Finding words in lower case

The lower-case form of a text is not put together from those of its parts, because a capital sigma
looks at what is around it. A word without a sigma does not notice: it is found in the lower-case
form exactly when it is found in the lower-case forms of the single characters one after the other
(`holds_lower_iff`), and those can be taken apart. A word that lacks a mark is found around the mark
only on one of its sides (`infix_append_cons_iff`).
-/
namespace SourceLens.Text

/-! ## Blocks of lists -/

section Block

variable {α : Type} {needle left right : List α} {mark : α}

/-- A list without a mark begins before the mark only when it ends before it. -/
theorem prefix_of_prefix_append_cons (absent : mark ∉ needle)
    (starts : needle <+: left ++ mark :: right) : needle <+: left := by
  rcases List.prefix_or_prefix_of_prefix starts (List.prefix_append left _) with
    short | ⟨more, rfl⟩
  · exact short
  · cases more with
    | nil => simp
    | cons first others =>
      have next := (List.prefix_append_right_inj left).mp starts
      obtain ⟨rfl, _⟩ := List.cons_prefix_cons.mp next
      simp at absent

/-- A list without a mark is a block of what is around the mark exactly when it is one on either
side. -/
theorem infix_append_cons_iff (absent : mark ∉ needle) :
    needle <:+: left ++ mark :: right ↔ needle <:+: left ∨ needle <:+: right := by
  induction left with
  | nil =>
    rw [List.nil_append, List.infix_cons_iff, List.infix_nil]
    refine or_congr_left ⟨fun starts => ?_, ?_⟩
    · have empty : needle <+: [] := prefix_of_prefix_append_cons absent starts
      exact List.prefix_nil.mp empty
    · rintro rfl
      exact List.nil_prefix
  | cons first rest ih =>
    rw [List.cons_append, List.infix_cons_iff, ih, List.infix_cons_iff, or_assoc]
    refine or_congr_left ⟨fun starts => ?_, fun starts => ?_⟩
    · rw [← List.cons_append] at starts
      exact prefix_of_prefix_append_cons absent starts
    · exact starts.trans (List.prefix_append (first :: rest) _)

end Block

/-- A text stands somewhere in another one exactly when it is a block of it. -/
theorem occursIn_iff {needle text : List Char} :
    occursIn needle text = true ↔ needle <:+: text := by
  induction text with
  | nil => simp [occursIn]
  | cons c rest ih =>
    rw [occursIn, Bool.or_eq_true, List.isPrefixOf_iff_prefix, ih, List.infix_cons_iff]

/-! ## Characters by themselves -/

/-- The lower-case forms of the characters of a text, each by itself. -/
def lowerEach (s : List Char) : List Char := s.flatMap fun c => lowerInPlace false c []

/-- The lower-case forms of the characters of two texts one after the other. -/
theorem lowerEach_append (first second : List Char) :
    lowerEach (first ++ second) = lowerEach first ++ lowerEach second := List.flatMap_append

/-- A digit is its own lower-case form. -/
theorem lowerInPlace_of_isDigit {c : Char} (digit : c.isDigit = true) :
    lowerInPlace false c [] = [c] := by
  obtain ⟨low, high⟩ : 48 ≤ c.toNat ∧ c.toNat ≤ 57 := by
    simpa [Char.isDigit, Char.le_def, UInt32.le_iff_toNat_le] using digit
  have digits : ∀ point < 58, 48 ≤ point →
      lowerInPlace false (Char.ofNat point) [] = [Char.ofNat point] := by decide
  have here := digits c.toNat (by omega) low
  rwa [Char.ofNat_toNat] at here

/-- The digits of a number are their own lower-case form. -/
theorem lowerEach_toDigits (number : Nat) :
    lowerEach (Nat.toDigits 10 number) = Nat.toDigits 10 number := by
  have digits : ∀ c ∈ Nat.toDigits 10 number, lowerInPlace false c [] = [c] := fun c inside =>
    lowerInPlace_of_isDigit (Nat.isDigit_of_mem_toDigits (by decide) (by decide) inside)
  rw [lowerEach, List.flatMap_congr digits, List.flatMap_singleton']

/-! ## Sigma -/

/-- A character, or the plain small sigma for a final one. -/
def settle (c : Char) : Char := if c = '\u03C2' then '\u03C3' else c

/-- The place of a character only decides between the two small forms of sigma. -/
theorem map_settle_lowerInPlace (casedBefore : Bool) (c : Char) (rest : List Char) :
    (lowerInPlace casedBefore c rest).map settle = (lowerInPlace false c []).map settle := by
  unfold lowerInPlace
  split
  · rfl
  · split
    · split <;> rfl
    · rfl

/-- The lower-case form of a text differs from those of its characters only in final sigmas. -/
theorem map_settle_lowerFrom (casedBefore : Bool) (s : List Char) :
    (lowerFrom casedBefore s).map settle = (lowerEach s).map settle := by
  induction s generalizing casedBefore with
  | nil => rfl
  | cons c rest ih =>
    simp only [lowerFrom, List.map_append, map_settle_lowerInPlace, ih, lowerEach,
      List.flatMap_cons]

/-- A text has no small sigma of either form. -/
def SigmaFree (needle : List Char) : Prop := ∀ c ∈ needle, c ≠ '\u03C2' ∧ c ≠ '\u03C3'

/-- Whether a text has no small sigma can be checked. -/
instance (needle : List Char) : Decidable (SigmaFree needle) :=
  List.decidableBAll (fun c => c ≠ '\u03C2' ∧ c ≠ '\u03C3') needle

/-- A text without sigma is found whichever form of sigma stands around it. -/
theorem infix_map_settle {needle text : List Char} (free : SigmaFree needle) :
    needle <:+: text.map settle ↔ needle <:+: text := by
  have fixed : ∀ c, settle c ∈ needle → settle c = c := by
    intro c inside
    unfold settle at inside ⊢
    split at inside
    · exact absurd rfl (free _ inside).2
    · next other => simp [other]
  constructor
  · rintro ⟨front, back, divided⟩
    obtain ⟨kept, last, rfl, whole, _⟩ := List.map_eq_append_iff.mp divided.symm
    obtain ⟨first, middle, rfl, _, settled⟩ := List.map_eq_append_iff.mp whole
    have same : middle.map settle = middle :=
      (List.map_congr_left fun c inside => fixed c (settled ▸ List.mem_map_of_mem inside)).trans
        (List.map_id _)
    exact ⟨first, last, by rw [← settled, same]⟩
  · intro inside
    have same : needle.map settle = needle :=
      (List.map_congr_left fun c member => if_neg (free c member).1).trans (List.map_id _)
    exact same ▸ inside.map settle

/-- A text without sigma is found in the lower-case form of another one exactly when it is found in
the lower-case forms of its characters. -/
theorem holds_lower_iff {text needle : String} (free : SigmaFree needle.toList) :
    holds (lower text) needle = true ↔ needle.toList <:+: lowerEach text.toList := by
  rw [holds, occursIn_iff, lower, String.toList_ofList, ← infix_map_settle free,
    map_settle_lowerFrom, infix_map_settle free]

end SourceLens.Text
