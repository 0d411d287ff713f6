import SourceLens.Proofs.Text.Case
import SourceLens.Proofs.Tree.Decodable
import SourceLens.Tree.Breakage

/-!
# Faults in trees

The search for the first fault passes over every subtree that is marked neither as broken nor as
missing. Where the marks can be trusted (`Tree.MarksFaults`) nothing is at fault there, so the
search finds the first fault of the whole tree in document order (`first_fault_of_walk`).

The kind of a failure is read off the words that describe the fault, and those hold text of the
source. The words in front of that text decide all the same (`breakage_kind_survives_message`): an
unexpected token is spoken of before anything is quoted, and the words for an open construct speak
of one only through the kind of a missing token, because nothing else in them has the letter x.
-/
namespace SourceLens

namespace Tree

/-! ## The first fault -/

/-- Every error, and every node with an error or a missing token below it, is marked as broken.
Other nodes may be marked as well. -/
def MarksFaults (tree : Tree) : Prop :=
  ∀ node ∈ tree.preorder,
    (node.kind = "ERROR" ∨ ∃ below ∈ preorders node.children, below.atFault = true) →
      node.info.broken = true

/-- Whether a tree marks its faults can be checked. -/
instance (tree : Tree) : Decidable tree.MarksFaults :=
  inferInstanceAs (Decidable (∀ node ∈ tree.preorder,
    (node.kind = "ERROR" ∨ ∃ below ∈ preorders node.children, below.atFault = true) →
      node.info.broken = true))

/-- The children of a tree that marks its faults mark theirs. -/
theorem MarksFaults.of_mem_children {tree child : Tree} (marked : tree.MarksFaults)
    (inside : child ∈ tree.children) : child.MarksFaults := by
  intro node below
  exact marked node (mem_preorder.mpr (.inr ⟨child, inside, below⟩))

/-- Nothing is at fault at or below a node that is marked neither as broken nor as missing. -/
theorem MarksFaults.atFault_eq_false {tree node : Tree} (marked : tree.MarksFaults)
    (unmarked : (tree.info.broken || tree.info.missing) = false) (inside : node ∈ tree.preorder) :
    node.atFault = false := by
  obtain ⟨unbroken, present⟩ := Bool.or_eq_false_iff.mp unmarked
  have faultless := mt (marked tree (mem_preorder.mpr (.inl rfl))) (by simp [unbroken])
  obtain ⟨noError, noneBelow⟩ := not_or.mp faultless
  rw [preorder_eq] at inside
  rcases List.mem_cons.mp inside with rfl | deeper
  · simp [atFault, present, noError]
  · exact Bool.eq_false_iff.mpr fun faulty => noneBelow ⟨node, deeper, faulty⟩

/-- Passing over trees in which nothing is sought does not change what is found first. -/
theorem find?_preorders_filter {keep sought : Tree → Bool} {trees : List Tree}
    (nothing : ∀ tree ∈ trees, keep tree = false → ∀ node ∈ tree.preorder, sought node = false) :
    (preorders (trees.filter keep)).find? sought = (preorders trees).find? sought := by
  induction trees with
  | nil => rfl
  | cons first rest ih =>
    have later := ih fun tree inside => nothing tree (List.mem_cons_of_mem _ inside)
    cases kept : keep first with
    | true => simp only [List.filter_cons_of_pos kept, preorders, List.find?_append, later]
    | false =>
      have none : first.preorder.find? sought = none :=
        List.find?_eq_none.mpr fun node inside => by simp [nothing first (by simp) kept node inside]
      rw [List.filter_cons_of_neg (by simp [kept]), preorders, List.find?_append, none, later,
        Option.none_or]

/-- The search of a stack finds the first fault at or below its trees. -/
theorem findFault?_eq_find? (stack : List Tree) (marked : ∀ tree ∈ stack, tree.MarksFaults) :
    findFault? stack = (preorders stack).find? atFault := by
  -- what waits on the stack are trees that mark their faults, and so do the suspects put on it
  fun_induction findFault? stack with
  | case1 => rfl
  | case2 tree stack faulty =>
    rw [preorders, preorder_eq, List.cons_append, List.find?_cons_of_pos faulty]
  | case3 tree stack faultless ih =>
    have here : tree.MarksFaults := marked tree (by simp)
    have suspects : (preorders tree.suspects).find? atFault =
        (preorders tree.children).find? atFault :=
      find?_preorders_filter fun child inside unmarked _ below =>
        (here.of_mem_children inside).atFault_eq_false unmarked below
    rw [ih, preorders_append, List.find?_append, suspects, preorders, preorder_eq,
      List.cons_append, List.find?_cons_of_neg faultless, List.find?_append]
    intro other member
    rcases List.mem_append.mp member with inside | later
    · exact here.of_mem_children (List.mem_filter.mp inside).1
    · exact marked other (List.mem_cons_of_mem _ later)

/-- The search through suspects finds the first node of the walk that is missing or an error, and
nothing exactly when there is no such node. -/
theorem first_fault_of_walk (tree : Tree) (marked : tree.MarksFaults) :
    tree.firstFault? = ((Site.walk tree).find? fun site =>
      site.tree.info.missing || site.kind == "ERROR").map Site.tree ∧
    (tree.firstFault? = none ↔
      ∀ site ∈ Site.walk tree, site.tree.info.missing = false ∧ site.kind ≠ "ERROR") := by
  have found : tree.firstFault? = ((Site.walk tree).find? fun site =>
      site.tree.info.missing || site.kind == "ERROR").map Site.tree := by
    have only : ∀ other ∈ [tree], other.MarksFaults := by simpa using marked
    rw [firstFault?, findFault?_eq_find? _ only, preorders, preorders, List.append_nil,
      ← Site.map_tree_walk, List.find?_map]
    rfl
  refine ⟨found, ?_⟩
  rw [found, Option.map_eq_none_iff, List.find?_eq_none]
  simp

/-- A construct that is marked as broken, over a text, given its kind, the byte where it starts and
its ends. -/
def flagged (kind : String) (first : Nat) (start stop : Point) (content : String)
    (children : List Tree) : Tree :=
  .node
    { kind, field := none, named := true, missing := false, broken := true, startByte := first
      endByte := first + content.utf8ByteSize, start, stop }
    content.toUTF8 children

/-- An error in a block. -/
def strayWord : Tree := flagged "ERROR" 4 ⟨0, 4⟩ ⟨0, 7⟩ "eof" []

/-- A tree with an error in a block, behind a statement that is marked without need. -/
def strayWordInBlock : Tree :=
  flagged "program" 0 ⟨0, 0⟩ ⟨0, 9⟩ "a \x7b eof \x7d"
    [flagged "expression_statement" 0 ⟨0, 0⟩ ⟨0, 1⟩ "a"
      [covering "identifier" none 0 ⟨0, 0⟩ ⟨0, 1⟩ "a" []],
    flagged "statement_block" 2 ⟨0, 2⟩ ⟨0, 9⟩ "\x7b eof \x7d"
      [token "\x7b" 2 ⟨0, 2⟩ ⟨0, 3⟩, strayWord, token "\x7d" 8 ⟨0, 8⟩ ⟨0, 9⟩]]

/-- The search finds the error in the block. -/
theorem first_fault_of_walk_strayWordInBlock :
    strayWordInBlock.MarksFaults ∧ strayWordInBlock.firstFault? = some strayWord := by
  have marked : strayWordInBlock.MarksFaults := by decide
  refine ⟨marked, ?_⟩
  rw [(first_fault_of_walk strayWordInBlock marked).1, Site.walk_eq_preorder]
  rfl

end Tree

/-! ## The words for a fault -/

namespace ParseFailure

variable {message : String}

/-- A message that speaks of an unexpected token is about syntax, whatever else it speaks of. -/
theorem kind_ofMessage_of_unexpected
    (speaks : Text.holds (Text.lower message) "unexpected token" = true) :
    (ofMessage message).kind = .unsupportedSyntax := by
  simp only [ofMessage, classify, speaks, if_true]

/-- Any other message that speaks of something unterminated is about an open construct. -/
theorem kind_ofMessage_of_unterminated
    (silent : Text.holds (Text.lower message) "unexpected token" = false)
    (speaks : Text.holds (Text.lower message) "unterminated" = true) :
    (ofMessage message).kind = .unclosedConstruct := by
  simp only [ofMessage, classify, silent, speaks, Bool.false_eq_true, Bool.or_true, if_false,
    if_true]

end ParseFailure

namespace Tree

open Text (holds holds_lower_iff lower lowerEach lowerEach_append lowerEach_toDigits SigmaFree)

variable {tree : Tree} {sourceLength : Int}

/-- Where a node starts, in words. -/
def place (tree : Tree) : String := s!"at line {tree.startLine}, column {tree.info.start.column}"

/-- The characters of the words for a place. -/
theorem toList_place (tree : Tree) :
    tree.place.toList = "at line ".toList ++ (Nat.toDigits 10 (tree.info.start.row + 1) ++
      (", column ".toList ++ Nat.toDigits 10 tree.info.start.column)) := by
  have shown : tree.place = "at line " ++ Nat.repr (tree.info.start.row + 1) ++ ", column " ++
      Nat.repr tree.info.start.column := rfl
  rw [shown]
  simp

/-- The words for a place are in lower case. -/
theorem lowerEach_place (tree : Tree) : lowerEach tree.place.toList = tree.place.toList := by
  have line : lowerEach "at line ".toList = "at line ".toList := by decide
  have column : lowerEach ", column ".toList = ", column ".toList := by decide
  rw [toList_place]
  simp only [lowerEach_append, lowerEach_toDigits, line, column]

/-- The words for a place have no x. -/
theorem not_mem_place (tree : Tree) : 'x' ∉ tree.place.toList := by
  have digits : ∀ number, 'x' ∉ Nat.toDigits 10 number := fun number inside => by
    have digit := Nat.isDigit_of_mem_toDigits (by decide) (by decide) inside
    simp at digit
  rw [toList_place]
  simp [digits]

/-- The words for an unexpected token have no sigma. -/
theorem sigmaFree_unexpected : SigmaFree "unexpected token".toList := by decide

/-- The word for an open construct has no sigma. -/
theorem sigmaFree_unterminated : SigmaFree "unterminated".toList := by decide

/-- A fault leaves a construct open: a token is missing, or an error that covers something reaches
the end of a source of the given length. -/
def LeavesOpen (sourceLength : Int) (fault : Tree) : Prop :=
  fault.info.missing = true ∨
    fault.info.startByte < fault.info.endByte ∧ sourceLength ≤ fault.info.endByte

/-- The words for a missing token are those for an open construct, provided the kind of the token
does not speak of an unexpected one. -/
theorem kind_describeFault_of_missing (missing : tree.info.missing = true)
    (plain : holds (lower tree.kind) "unexpected token" = false) :
    (ParseFailure.ofMessage (tree.describeFault sourceLength)).kind = .unclosedConstruct := by
  have message : tree.describeFault sourceLength =
      "Unterminated construct: missing '" ++ tree.kind ++ "' " ++ tree.place := by
    simp only [describeFault, missing, if_true]
    rfl
  have front : lowerEach "Unterminated construct: missing '".toList =
      "unterminated construct: missing ".toList ++ ['\''] := by decide
  have behind : lowerEach "' ".toList = ['\'', ' '] := by decide
  have lowered : lowerEach (tree.describeFault sourceLength).toList =
      "unterminated construct: missing ".toList ++ '\'' :: (lowerEach tree.kind.toList ++
        '\'' :: (' ' :: tree.place.toList)) := by
    simp only [message, String.toList_append, lowerEach_append, front, behind, lowerEach_place,
      List.append_assoc, List.cons_append, List.nil_append]
  refine ParseFailure.kind_ofMessage_of_unterminated ?_ ?_
  · refine Bool.eq_false_iff.mpr fun held => ?_
    -- the quotes around the kind keep what is sought from reaching over its ends
    rw [holds_lower_iff sigmaFree_unexpected, lowered, Text.infix_append_cons_iff (by decide),
      Text.infix_append_cons_iff (by decide)] at held
    have x : 'x' ∈ "unexpected token".toList := by decide
    rcases held with before | within | after
    · exact absurd (before.subset x) (by decide)
    · rw [← holds_lower_iff sigmaFree_unexpected, plain] at within
      cases within
    · exact absurd (after.subset x) (by simp [not_mem_place])
  · rw [holds_lower_iff sigmaFree_unterminated, lowered]
    exact ⟨[], _, rfl⟩

/-- The words for an error that reaches the end of the source are those for an open construct. -/
theorem kind_describeFault_of_reaching (present : tree.info.missing = false)
    (covers : tree.info.startByte < tree.info.endByte)
    (reaches : sourceLength ≤ tree.info.endByte) :
    (ParseFailure.ofMessage (tree.describeFault sourceLength)).kind = .unclosedConstruct := by
  have message : tree.describeFault sourceLength =
      "Unterminated construct starting " ++ tree.place ++ " runs to eof" := by
    simp only [describeFault, present, covers, reaches, Bool.false_eq_true, and_self, if_true,
      if_false]
    rfl
  have front : lowerEach "Unterminated construct starting ".toList =
      "unterminated construct starting ".toList := by decide
  have behind : lowerEach " runs to eof".toList = " runs to eof".toList := by decide
  have lowered : lowerEach (tree.describeFault sourceLength).toList =
      "unterminated construct starting ".toList ++
        (tree.place.toList ++ " runs to eof".toList) := by
    simp only [message, String.toList_append, lowerEach_append, front, behind, lowerEach_place,
      List.append_assoc]
  refine ParseFailure.kind_ofMessage_of_unterminated ?_ ?_
  · refine Bool.eq_false_iff.mpr fun held => ?_
    rw [holds_lower_iff sigmaFree_unexpected, lowered] at held
    have x : 'x' ∈ "unexpected token".toList := by decide
    exact absurd (held.subset x) (by simp [not_mem_place])
  · rw [holds_lower_iff sigmaFree_unterminated, lowered]
    exact ⟨[], _, rfl⟩

/-- The words for any other error are those for an unexpected token, whatever its text is. -/
theorem kind_describeFault_of_closed (closed : ¬tree.LeavesOpen sourceLength) :
    (ParseFailure.ofMessage (tree.describeFault sourceLength)).kind = .unsupportedSyntax := by
  obtain ⟨present, short⟩ := not_or.mp closed
  have message : tree.describeFault sourceLength =
      "Unexpected token '" ++ tree.snippet ++ "' " ++ tree.place := by
    simp only [describeFault, present, and_comm.not.mp short, Bool.false_eq_true, if_false]
    rfl
  have front : lowerEach "Unexpected token '".toList =
      "unexpected token".toList ++ [' ', '\''] := by decide
  refine ParseFailure.kind_ofMessage_of_unexpected ?_
  rw [holds_lower_iff sigmaFree_unexpected, message]
  simp only [String.toList_append, lowerEach_append, front, List.append_assoc]
  exact ⟨[], _, rfl⟩

/-- The words for a fault that leaves a construct open are those for an open construct. -/
theorem LeavesOpen.kind_describeFault (opens : tree.LeavesOpen sourceLength)
    (plain : tree.info.missing = true → holds (lower tree.kind) "unexpected token" = false) :
    (ParseFailure.ofMessage (tree.describeFault sourceLength)).kind = .unclosedConstruct := by
  cases missing : tree.info.missing with
  | true => exact kind_describeFault_of_missing missing (plain missing)
  | false =>
    obtain ⟨covers, reaches⟩ := opens.resolve_left (by simp [missing])
    exact kind_describeFault_of_reaching missing covers reaches

/-- The kind of a failure says what was found whatever the source holds: nothing, a fault that
leaves a construct open, or another fault. The advice is that for the kind. -/
theorem breakage_kind_survives_message (tree : Tree) (sourceLength : Int)
    (plain : ∀ fault, tree.firstFault? = some fault → fault.info.missing = true →
      holds (lower fault.kind) "unexpected token" = false) :
    let failure := ParseFailure.ofMessage (tree.describeBreakage sourceLength)
    (failure.kind = .unknownParse ↔ tree.firstFault? = none) ∧
      (failure.kind = .unclosedConstruct ↔
        ∃ fault, tree.firstFault? = some fault ∧ fault.LeavesOpen sourceLength) ∧
      (failure.kind = .unsupportedSyntax ↔
        ∃ fault, tree.firstFault? = some fault ∧ ¬fault.LeavesOpen sourceLength) ∧
      failure.hint = failure.kind.parseHint := by
  intro failure
  cases found : tree.firstFault? with
  | none =>
    have kind : failure.kind = .unknownParse := by
      simp only [failure, describeBreakage, found]
      decide
    simp [kind, ParseFailure.hint]
  | some fault =>
    have described : failure = ParseFailure.ofMessage (fault.describeFault sourceLength) := by
      simp only [failure, describeBreakage, found]
    by_cases opens : fault.LeavesOpen sourceLength
    · have kind : failure.kind = .unclosedConstruct := by
        rw [described]
        exact opens.kind_describeFault (plain fault found)
      simp [kind, opens, ParseFailure.hint]
    · have kind : failure.kind = .unsupportedSyntax := by
        rw [described]
        exact kind_describeFault_of_closed opens
      simp [kind, opens, ParseFailure.hint]

/-- A tree in which a token is missing. -/
def lostParenthesis : Tree :=
  flagged "program" 0 ⟨0, 0⟩ ⟨0, 2⟩ "f("
    [.node
      { kind := ")", field := none, named := false, missing := true, broken := false, startByte := 2
        endByte := 2, start := ⟨0, 2⟩, stop := ⟨0, 2⟩ }
      "".toUTF8 []]

/-- The missing token leaves a construct open. -/
theorem breakage_kind_survives_message_lostParenthesis :
    (∀ fault, lostParenthesis.firstFault? = some fault → fault.info.missing = true →
      holds (lower fault.kind) "unexpected token" = false) ∧
    (ParseFailure.ofMessage (lostParenthesis.describeBreakage 2)).kind = .unclosedConstruct := by
  have found : lostParenthesis.firstFault? = lostParenthesis.children.head? := by
    simp [firstFault?, findFault?, lostParenthesis, flagged, suspects, Tree.children, atFault,
      Tree.info, Tree.kind]
  have plain : ∀ fault, lostParenthesis.firstFault? = some fault → fault.info.missing = true →
      holds (lower fault.kind) "unexpected token" = false := by
    intro fault is _
    obtain rfl := Option.some.inj (found.symm.trans is)
    decide
  have said := breakage_kind_survives_message lostParenthesis 2 plain
  exact ⟨plain, said.2.1.mpr ⟨_, found, .inl rfl⟩⟩

end Tree

end SourceLens
