import SourceLens.Proofs.Window

/-!
# Excerpts in one piece

The parts of an excerpt, with a line feed between neighbours and without empty context, are joined
to one text. When the span begins inside the text the joined parts stand there in one piece,
whatever the other numbers are: the three parts are lines that follow each other, and leaving out a
part without text leaves such lines. A span that begins behind the last line has no code but may
have context above it, so that a line feed follows the last line. This text stands in the whole one
by chance only, and never when the context has all lines (`excerpt_contiguous_iff`).
-/
namespace SourceLens

namespace Text

variable {front part behind lines : List String}

/-- Lines are joined in two parts. -/
theorem unlines_append (some : front ≠ []) (others : behind ≠ []) :
    unlines (front ++ behind) = unlines front ++ "\n" ++ unlines behind :=
  String.intercalate_append_of_ne_nil some others

/-- The text of the first lines is the beginning of the text. -/
theorem unlines_isPrefix (part behind : List String) :
    (unlines part).toList <+: (unlines (part ++ behind)).toList := by
  by_cases none : part = []
  · simp [none, unlines]
  by_cases last : behind = []
  · simp [last]
  rw [unlines_append none last, String.append_assoc, String.toList_append]
  exact List.prefix_append _ _

/-- The text of the last lines is the end of the text. -/
theorem unlines_isSuffix (front part : List String) :
    (unlines part).toList <:+ (unlines (front ++ part)).toList := by
  by_cases none : part = []
  · simp [none, unlines]
  by_cases first : front = []
  · simp [first]
  rw [unlines_append first none, String.toList_append]
  exact List.suffix_append _ _

/-- The text of lines that follow each other stands in the text of all lines. -/
theorem unlines_isInfix (inside : part <:+: lines) :
    (unlines part).toList <:+: (unlines lines).toList := by
  obtain ⟨front, behind, rfl⟩ := inside
  exact (unlines_isSuffix front part).isInfix.trans
    (unlines_isPrefix (front ++ part) behind).isInfix

/-- Texts of lines are joined like the lines themselves. -/
theorem unlines_map_unlines {groups : List (List String)} (some : ∀ group ∈ groups, group ≠ []) :
    unlines (groups.map unlines) = unlines groups.flatten := by
  induction groups with
  | nil => rfl
  | cons group rest ih =>
    have joined := ih fun other inside => some other (List.mem_cons_of_mem _ inside)
    have first : group ≠ [] := some group (List.mem_cons_self ..)
    by_cases last : rest = []
    · simp [last, unlines]
    have texts : rest.map unlines ≠ [] := by simpa using last
    have lines : rest.flatten ≠ [] := by
      obtain ⟨other, inside⟩ := List.exists_mem_of_ne_nil rest last
      have more := some other (List.mem_cons_of_mem _ inside)
      exact fun none => more (List.flatten_eq_nil_iff.mp none other inside)
    calc unlines ((group :: rest).map unlines)
        = unlines ([unlines group] ++ rest.map unlines) := rfl
      _ = unlines [unlines group] ++ "\n" ++ unlines (rest.map unlines) :=
          unlines_append (by simp) texts
      _ = unlines group ++ "\n" ++ unlines rest.flatten := by
          rw [joined]
          simp [unlines]
      _ = unlines (group :: rest).flatten := by
          rw [List.flatten_cons, unlines_append first lines]

end Text

namespace Window

variable {lines above code below : List String} {start : Int}

/-- The text of an excerpt: the context above, the code and the context below, without context that
is empty. -/
def Excerpt.joined (excerpt : Excerpt) : String :=
  Text.unlines ((if excerpt.before = "" then [] else [excerpt.before]) ++ [excerpt.code] ++
    if excerpt.after = "" then [] else [excerpt.after])

/-- An excerpt stands in the text of some lines in one piece. -/
def Excerpt.Contiguous (lines : List String) (excerpt : Excerpt) : Prop :=
  excerpt.joined.toList <:+: (Text.unlines lines).toList

/-- An excerpt without code and context below is its context above and a line feed, or empty. -/
theorem joined_of_context {found : Excerpt} (code : found.code = "") (after : found.after = "") :
    found.joined = if found.before = "" then "" else found.before ++ "\n" := by
  rw [Excerpt.joined, code, after]
  split <;> simp [Text.unlines]

/-! ## Spans that begin inside the text -/

/-- Some lines as a group of their own, unless they make no text. -/
def groupOf (part : List String) : List (List String) :=
  if Text.unlines part = "" then [] else [part]

/-- The text of a group is left out when it is empty. -/
theorem map_unlines_groupOf (part : List String) :
    (groupOf part).map Text.unlines =
      if Text.unlines part = "" then [] else [Text.unlines part] := by
  unfold groupOf
  split <;> rfl

/-- A group has lines. -/
theorem ne_nil_of_mem_groupOf {part group : List String} (inside : group ∈ groupOf part) :
    group ≠ [] := by
  unfold groupOf at inside
  split at inside
  · simp at inside
  · next content =>
    obtain rfl : group = part := by simpa using inside
    rintro rfl
    exact content rfl

/-- A group has all lines or none. -/
theorem flatten_groupOf (part : List String) :
    (groupOf part).flatten = [] ∨ (groupOf part).flatten = part := by
  unfold groupOf
  split
  · exact .inl rfl
  · exact .inr (by simp)

/-- The lines that are left of three parts follow each other when those of the parts do. -/
theorem groupOf_isInfix (above code below : List String) :
    (groupOf above).flatten ++ code ++ (groupOf below).flatten <:+: above ++ code ++ below := by
  obtain ⟨front, above_eq⟩ : ∃ front, front ++ (groupOf above).flatten = above := by
    rcases flatten_groupOf above with none | all
    · exact ⟨above, by simp [none]⟩
    · exact ⟨[], by simp [all]⟩
  obtain ⟨behind, below_eq⟩ : ∃ behind, (groupOf below).flatten ++ behind = below := by
    rcases flatten_groupOf below with none | all
    · exact ⟨below, by simp [none]⟩
    · exact ⟨[], by simp [all]⟩
  refine ⟨front, behind, ?_⟩
  calc front ++ ((groupOf above).flatten ++ code ++ (groupOf below).flatten) ++ behind
      = (front ++ (groupOf above).flatten) ++ code ++ ((groupOf below).flatten ++ behind) := by simp
    _ = above ++ code ++ below := by rw [above_eq, below_eq]

/-- An excerpt whose parts are lines that follow each other stands in the text in one piece. -/
theorem contiguous_of_isInfix {excerpt : Excerpt} (inside : above ++ code ++ below <:+: lines)
    (some : code ≠ []) (before : excerpt.before = Text.unlines above)
    (middle : excerpt.code = Text.unlines code) (after : excerpt.after = Text.unlines below) :
    excerpt.Contiguous lines := by
  -- context of one empty line is left out like no context, so parts become groups before joining
  have joined : excerpt.joined =
      Text.unlines ((groupOf above).flatten ++ code ++ (groupOf below).flatten) :=
    calc excerpt.joined
        = Text.unlines ((groupOf above ++ [code] ++ groupOf below).map Text.unlines) := by
          rw [Excerpt.joined, before, middle, after, List.map_append, List.map_append,
            map_unlines_groupOf, map_unlines_groupOf]
          rfl
      _ = Text.unlines (groupOf above ++ [code] ++ groupOf below).flatten := by
          apply Text.unlines_map_unlines
          intro group member
          rcases List.mem_append.mp member with front | last
          · rcases List.mem_append.mp front with first | alone
            · exact ne_nil_of_mem_groupOf first
            · rwa [List.mem_singleton.mp alone]
          · exact ne_nil_of_mem_groupOf last
      _ = _ := by simp
  unfold Excerpt.Contiguous
  rw [joined]
  exact Text.unlines_isInfix ((groupOf_isInfix above code below).trans inside)

section Span

variable (stop context : Int) (includeContext : Bool)

/-- The excerpt of a span that begins inside a text has three parts that follow each other. -/
theorem exists_parts (inside : start ≤ lines.length) (some : lines ≠ []) :
    ∃ first low high last : Nat, 1 ≤ first ∧ first ≤ low ∧ low ≤ high ∧ high ≤ last ∧
      last ≤ lines.length ∧
      excerpt lines start stop context includeContext =
        { code := slice lines low high
          before := slice lines first (low - 1 : Nat)
          after := slice lines (high + 1 : Nat) last
          first := first
          last := last } := by
  have total : 1 ≤ lines.length := List.length_pos_iff.mpr some
  generalize size : (if includeContext then context else 0) = wanted
  obtain ⟨low, low_eq⟩ := Int.eq_ofNat_of_zero_le (by omega : 0 ≤ max 1 start)
  obtain ⟨high, high_eq⟩ := Int.eq_ofNat_of_zero_le
    (by omega : 0 ≤ min (lines.length : Int) (max low stop))
  obtain ⟨first, first_eq⟩ := Int.eq_ofNat_of_zero_le
    (by omega : 0 ≤ max 1 ((low : Int) - max 0 wanted))
  obtain ⟨last, last_eq⟩ := Int.eq_ofNat_of_zero_le
    (by omega : 0 ≤ min (lines.length : Int) (high + max 0 wanted))
  have above : (low : Int) - 1 = (low - 1 : Nat) := by omega
  refine ⟨first, low, high, last, by omega, by omega, by omega, by omega, by omega, ?_⟩
  simp only [excerpt, widen, Option.getD_none, size, low_eq, high_eq, first_eq, last_eq, above]
  rfl

/-- Three parts that follow each other are lines of the text that do. -/
theorem picked_isInfix {first low high last : Nat} (positive : 1 ≤ first) (above : first ≤ low)
    (ordered : low ≤ high) (below : high ≤ last) (inside : last ≤ lines.length) :
    pick lines first (low - 1 : Nat) ++ pick lines low high ++ pick lines (high + 1 : Nat) last <:+:
      lines := by
  have front : pick lines first (low - 1 : Nat) ++ pick lines (low - 1 + 1 : Nat) high =
      pick lines first high := pick_append positive (by omega) (by omega) (by omega)
  have next : low - 1 + 1 = low := by omega
  rw [next] at front
  have whole : pick lines first high ++ pick lines (high + 1 : Nat) last = pick lines first last :=
    pick_append positive (by omega) below inside
  have block : Block lines first _ (pick lines first last) :=
    block_pick positive (by omega) inside
  have rest : lines.drop (first - 1) <:+ lines := List.drop_suffix _ _
  have begins : (lines.drop (first - 1)).take (last + 1 - first) <+: lines.drop (first - 1) :=
    List.take_prefix _ _
  rw [front, whole, block.content]
  exact begins.isInfix.trans rest.isInfix

/-- There are no lines to pick from no lines. -/
theorem slice_nil (start stop : Int) : slice [] start stop = "" := by
  rw [slice, pick]
  split
  · rfl
  · rw [List.take_nil, List.drop_nil]
    rfl

/-- The excerpt of a span that begins inside a text stands there in one piece. -/
theorem contiguous_of_inside (inside : start ≤ lines.length) :
    (excerpt lines start stop context includeContext).Contiguous lines := by
  -- without lines the window is cut back to nothing, and no part has a line
  by_cases none : lines = []
  · subst none
    have empty : (excerpt [] start stop context includeContext).joined = "" := by
      rw [joined_of_context (slice_nil _ _) (slice_nil _ _)]
      exact if_pos (slice_nil _ _)
    unfold Excerpt.Contiguous
    rw [empty]
    exact List.nil_infix
  · obtain ⟨first, low, high, last, positive, above, ordered, below, within, parts⟩ :=
      exists_parts stop context includeContext inside none
    have code : Block lines low (high + 1 - low) (pick lines low high) :=
      block_pick (by omega) (by omega) (by omega)
    have some : pick lines low high ≠ [] := by
      intro empty
      have count := code.full
      rw [empty, List.length_nil] at count
      omega
    have pieces := picked_isInfix positive above ordered below within
    rw [parts]
    exact contiguous_of_isInfix pieces some rfl rfl rfl

/-! ## Spans that begin behind the text -/

/-- There are no lines to pick from a number behind the last one. -/
theorem slice_of_behind (behind : (lines.length : Int) < start) : slice lines start stop = "" := by
  have none : min (lines.length : Int) stop < max 1 start := by omega
  rw [slice, pick, if_pos none]
  rfl

/-- All lines from a number on are picked when the last number is behind the text. -/
theorem pick_to_end {first : Nat} (positive : 1 ≤ first) (behind : (lines.length : Int) ≤ stop) :
    pick lines first stop = lines.drop (first - 1) := by
  have low : max 1 (first : Int) = first := by omega
  have high : min (lines.length : Int) stop = lines.length := by omega
  rw [pick, low, high]
  split
  · next before =>
    rw [List.drop_eq_nil_of_le (by omega)]
  · rw [Int.toNat_natCast, Int.toNat_natCast, List.take_length]

/-- A span that begins behind a text has no code and no context below, and the context above has the
lines from the beginning of the window on. -/
theorem excerpt_of_behind (behind : (lines.length : Int) < start) :
    ∃ first : Nat, excerpt lines start stop context includeContext =
      { code := "", before := Text.unlines (lines.drop (first - 1)), after := ""
        first := first, last := lines.length } := by
  generalize size : (if includeContext then context else 0) = wanted
  have low : max 1 start = start := by omega
  have high : min (lines.length : Int) (max start stop) = lines.length := by omega
  have last : min (lines.length : Int) (lines.length + max 0 wanted) = lines.length := by omega
  obtain ⟨first, first_eq⟩ := Int.eq_ofNat_of_zero_le (by omega : 0 ≤ max 1 (start - max 0 wanted))
  have above : slice lines first (start - 1) = Text.unlines (lines.drop (first - 1)) := by
    rw [slice, pick_to_end _ (by omega) (by omega)]
  have code : slice lines start lines.length = "" := slice_of_behind _ behind
  have below : slice lines (lines.length + 1) lines.length = "" := slice_of_behind _ (by omega)
  refine ⟨first, ?_⟩
  simp only [excerpt, widen, Option.getD_none, size, low, high, last, first_eq, code, below]
  rw [← above]

/-- The excerpt of a span behind a text stands there in one piece when its context is empty or is
followed by a line feed somewhere. -/
theorem contiguous_iff_of_behind (behind : (lines.length : Int) < start) :
    (excerpt lines start stop context includeContext).Contiguous lines ↔
      (excerpt lines start stop context includeContext).before = "" ∨
        ((excerpt lines start stop context includeContext).before ++ "\n").toList <:+:
          (Text.unlines lines).toList := by
  obtain ⟨first, parts⟩ := excerpt_of_behind stop context includeContext behind
  rw [parts, Excerpt.Contiguous, joined_of_context rfl rfl]
  by_cases none : Text.unlines (lines.drop (first - 1)) = ""
  · simp [none]
  · simp [none]

/-- A text and a line feed do not stand in the text. -/
theorem not_isInfix_feed (text : String) : ¬(text ++ "\n").toList <:+: text.toList := by
  intro inside
  have shorter := inside.length_le
  rw [String.toList_append, List.length_append] at shorter
  have one : "\n".toList.length = 1 := rfl
  omega

/-- The excerpt of a span behind a text does not stand there in one piece when its context has all
lines, unless there is no text at all. -/
theorem contiguous_iff_of_all_lines (behind : (lines.length : Int) < start)
    (whole : (excerpt lines start stop context includeContext).first = 1) :
    (excerpt lines start stop context includeContext).Contiguous lines ↔
      Text.unlines lines = "" := by
  obtain ⟨first, parts⟩ := excerpt_of_behind stop context includeContext behind
  rw [contiguous_iff_of_behind stop context includeContext behind]
  rw [parts] at whole ⊢
  have start_eq : first = 1 := Int.ofNat.inj whole
  rw [start_eq]
  constructor
  · rintro (none | inside)
    · exact none
    · exact absurd inside (not_isInfix_feed _)
  · exact .inl

end Span

/-- The excerpt of a span stands in one piece in the text that it is taken from exactly when the
span begins inside the text, or the context above it is empty, or this context is followed by a line
feed somewhere in the text. Behind the text there is no code and the context alone stands in the
text; but when the context has all lines, the excerpt does not, unless there is no text at all. -/
theorem excerpt_contiguous_iff (lines : List String) (start stop context : Int)
    (includeContext : Bool) :
    let found := excerpt lines start stop context includeContext
    (found.Contiguous lines ↔
      start ≤ lines.length ∨ found.before = "" ∨
        (found.before ++ "\n").toList <:+: (Text.unlines lines).toList) ∧
    (lines.length < start →
      found.code = "" ∧ found.after = "" ∧ found.before.toList <:+: (Text.unlines lines).toList ∧
      (found.first = 1 → (found.Contiguous lines ↔ Text.unlines lines = ""))) := by
  intro found
  constructor
  · by_cases inside : start ≤ lines.length
    · have contiguous : found.Contiguous lines :=
        contiguous_of_inside stop context includeContext inside
      simp [contiguous, inside]
    · have behind : (lines.length : Int) < start := by omega
      rw [contiguous_iff_of_behind stop context includeContext behind]
      simp [inside, found]
  · intro behind
    have all := contiguous_iff_of_all_lines stop context includeContext behind
    obtain ⟨first, parts⟩ := excerpt_of_behind stop context includeContext behind
    have same : found = _ := parts
    rw [same]
    rw [parts] at all
    have last : lines.drop (first - 1) <:+ lines := List.drop_suffix _ _
    exact ⟨rfl, rfl, Text.unlines_isInfix last.isInfix, all⟩

/-- The excerpt of the line behind a text of two lines, with one line of context, is a line and a
line feed. Here they stand in the text as well, in front of the last line. -/
theorem excerpt_contiguous_iff_repeated :
    (excerpt ["a", "a"] 3 3 1 true).before = "a" ∧
      (excerpt ["a", "a"] 3 3 1 true).Contiguous ["a", "a"] := by
  have before : (excerpt ["a", "a"] 3 3 1 true).before = "a" := by decide +kernel
  refine ⟨before, (excerpt_contiguous_iff ["a", "a"] 3 3 1 true).1.mpr (.inr (.inr ?_))⟩
  rw [before]
  exact ⟨[], ['a'], rfl⟩

/-- The excerpt of the line behind a text of one line, with one line of context, is the text and a
line feed, and no part of the text. -/
theorem excerpt_behind_text_not_contiguous :
    (∀ line ∈ ["a"], '\n' ∉ line.toList) ∧
      excerpt ["a"] 2 2 1 true =
        { code := "", before := "a", after := "", first := 1, last := 1 } ∧
      ¬(excerpt ["a"] 2 2 1 true).Contiguous ["a"] := by
  have parts : excerpt ["a"] 2 2 1 true =
      { code := "", before := "a", after := "", first := 1, last := 1 } := by
    decide +kernel
  refine ⟨by decide +kernel, parts, ?_⟩
  rw [contiguous_iff_of_all_lines 2 1 true (by decide) (by rw [parts])]
  decide +kernel

end Window

end SourceLens
