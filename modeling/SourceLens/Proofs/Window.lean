import SourceLens.Proofs.Text.Lines
import SourceLens.Window

/-!
# Exact excerpts

Lines that are picked between two numbers inside a text are a block of it: so many consecutive
lines from the first number on (`Block`). The excerpt of a span inside a text therefore holds the
lines of the span and no others, and on either side as many lines as were asked for and exist
(`Excerpt.Exact`).
-/
namespace SourceLens.Window

variable {lines part : List String} {first last context : Nat} {includeContext : Bool}

/-- Some lines are those of a text from a number on, so many of them. -/
structure Block (lines : List String) (first count : Nat) (part : List String) : Prop where
  /-- The lines stand in the text one after the other from the number on. -/
  content : part = (lines.drop (first - 1)).take count
  /-- None of them is missing. -/
  full : part.length = count

/-- The lines of a block are lines of the text. -/
theorem Block.subset {count : Nat} (block : Block lines first count part) : part ⊆ lines := by
  rw [block.content]
  exact fun _ inside => List.mem_of_mem_drop (List.mem_of_mem_take inside)

/-- Lines picked inside a text are a block, also when the last number is just before the first. -/
theorem block_pick (positive : 1 ≤ first) (ordered : first ≤ last + 1)
    (inside : last ≤ lines.length) :
    Block lines first (last + 1 - first) (pick lines first last) := by
  have low : max 1 (first : Int) = first := by omega
  have high : min (lines.length : Int) last = last := by omega
  simp only [pick, low, high]
  split
  -- only a block of no lines has its last number before the first
  · next before =>
    obtain rfl : first = last + 1 := by omega
    exact ⟨by simp, by simp⟩
  · next notBefore =>
    have size : last - (first - 1) = last + 1 - first := by omega
    refine ⟨?_, ?_⟩
    · rw [Int.toNat_natCast, Int.toNat_natCast, List.drop_take, size]
    · simp only [Int.toNat_natCast, List.length_drop, List.length_take]
      omega

/-- Lines picked up to a number and the lines picked behind it are the lines picked over both. -/
theorem pick_append {middle : Nat} (positive : 1 ≤ first) (low : first ≤ middle + 1)
    (high : middle ≤ last) (inside : last ≤ lines.length) :
    pick lines first middle ++ pick lines (middle + 1 : Nat) last = pick lines first last := by
  have front := (block_pick positive low (Nat.le_trans high inside)).content
  have back := (block_pick (by omega) (by omega : middle + 1 ≤ last + 1) inside).content
  have whole := (block_pick positive (by omega) inside).content
  have size : last + 1 - first = (middle + 1 - first) + (last + 1 - (middle + 1)) := by omega
  have start : first - 1 + (middle + 1 - first) = middle + 1 - 1 := by omega
  rw [front, back, whole, size, List.take_add, List.drop_drop, start]

/-- The text of a block of at least one line is divided into the lines of the block. -/
theorem lines_unlines_of_block {count : Nat} (free : ∀ line ∈ lines, '\n' ∉ line.toList)
    (block : Block lines first count part) (some : 1 ≤ count) :
    Text.lines (Text.unlines part) = part := by
  refine Text.lines_unlines ?_ fun line member => free line (block.subset member)
  rintro rfl
  have none : 0 = count := block.full
  omega

/-- An excerpt holds the lines of a span, and beside them the context that was asked for, as far as
the text goes. -/
structure Excerpt.Exact (lines : List String) (first last context : Nat) (includeContext : Bool)
    (excerpt : Excerpt) : Prop where
  /-- The code is made of the lines of the span. -/
  code : Block lines first (last - first + 1) (Text.lines excerpt.code)
  /-- The text above is made of the lines before the span, not more than the context. -/
  before : includeContext = true → ∃ above,
    Block lines (first - min context (first - 1)) (min context (first - 1)) above ∧
      excerpt.before = Text.unlines above
  /-- The text below is made of the lines after the span, not more than the context. -/
  after : includeContext = true → ∃ below,
    Block lines (last + 1) (min context (lines.length - last)) below ∧
      excerpt.after = Text.unlines below
  /-- There is no text above or below when no context was asked for. -/
  bare : includeContext = false → excerpt.before = "" ∧ excerpt.after = ""

/-- The text above a span, from where its window starts, is that of a block. -/
theorem exists_above (positive : 1 ≤ first) (ordered : first ≤ last) (inside : last ≤ lines.length)
    (context : Nat) :
    ∃ above, Block lines (first - min context (first - 1)) (min context (first - 1)) above ∧
      slice lines (widen first last context lines.length none).1 (first - 1) =
        Text.unlines above := by
  have start : (widen first last context lines.length none).1 =
      ((first - min context (first - 1) : Nat) : Int) := by
    simp only [widen]
    omega
  have stop : (first : Int) - 1 = ((first - 1 : Nat) : Int) := by omega
  have count : first - 1 + 1 - (first - min context (first - 1)) = min context (first - 1) := by
    omega
  have block : Block lines _ (first - 1 + 1 - (first - min context (first - 1))) _ :=
    block_pick (by omega) (by omega) (by omega)
  rw [count] at block
  exact ⟨_, block, by rw [start, stop, slice]⟩

/-- The text below a span, up to where its window stops, is that of a block. -/
theorem exists_below (first : Nat) (inside : last ≤ lines.length) (context : Nat) :
    ∃ below, Block lines (last + 1) (min context (lines.length - last)) below ∧
      slice lines (last + 1) (widen first last context lines.length none).2 =
        Text.unlines below := by
  have stop : (widen first last context lines.length none).2 =
      ((last + min context (lines.length - last) : Nat) : Int) := by
    simp only [widen, Option.getD_none]
    omega
  have start : (last : Int) + 1 = ((last + 1 : Nat) : Int) := by omega
  have count : last + min context (lines.length - last) + 1 - (last + 1) =
      min context (lines.length - last) := by
    omega
  have block : Block lines _ (last + min context (lines.length - last) + 1 - (last + 1)) _ :=
    block_pick (by omega) (by omega) (by omega)
  rw [count] at block
  exact ⟨_, block, by rw [start, stop, slice]⟩

/-- The text of no lines is empty. -/
theorem unlines_of_block_zero (block : Block lines first 0 part) : Text.unlines part = "" := by
  obtain rfl := List.eq_nil_of_length_eq_zero block.full
  rfl

/-- The excerpt of a span inside a text is exact. -/
theorem exact_excerpt (free : ∀ line ∈ lines, '\n' ∉ line.toList) (positive : 1 ≤ first)
    (ordered : first ≤ last) (inside : last ≤ lines.length) :
    (excerpt lines first last context includeContext).Exact lines first last context
      includeContext := by
  have low : max 1 (first : Int) = first := by omega
  have high : min (lines.length : Int) (max first last) = last := by omega
  constructor
  case code =>
    have count : last + 1 - first = last - first + 1 := by omega
    have block : Block lines first (last + 1 - first) _ := block_pick positive (by omega) inside
    rw [count] at block
    simp only [excerpt, low, high, slice]
    rw [lines_unlines_of_block free block (by omega)]
    exact block
  case before =>
    rintro rfl
    simp only [excerpt, low, high, if_true]
    exact exists_above positive ordered inside context
  case after =>
    rintro rfl
    simp only [excerpt, low, high, if_true]
    exact exists_below first inside context
  case bare =>
    rintro rfl
    obtain ⟨above, blockAbove, textAbove⟩ := exists_above positive ordered inside 0
    obtain ⟨below, blockBelow, textBelow⟩ := exists_below first inside 0
    rw [Nat.zero_min] at blockAbove blockBelow
    simp only [excerpt, low, high, Bool.false_eq_true, if_false]
    exact ⟨textAbove.trans (unlines_of_block_zero blockAbove),
      textBelow.trans (unlines_of_block_zero blockBelow)⟩

end SourceLens.Window
