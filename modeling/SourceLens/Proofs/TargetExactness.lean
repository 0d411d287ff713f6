import SourceLens.Grammar.Select
import SourceLens.Proofs.EcmaScript.Targets
import SourceLens.Proofs.Python.Targets
import SourceLens.Proofs.Tree.WellFormed
import SourceLens.Proofs.Window
import SourceLens.Target

/-!
# Exact targets

The first and the last line of a target may come from different nodes: a member starts with the
decorators in front of it, a decorated definition with the node around it. On a tree that fits the
document both lines are inside the document and in order (`LinesInside`), whatever the qualifier
and the language. The target therefore holds the lines of the entity and no others, with as much
context as was asked for and exists (`target_extraction_exact`).
-/
namespace SourceLens

open Reading

/-- A first and a last line are in order and inside a text of so many lines. -/
structure LinesInside (lineCount : Nat) (start stop : Int) : Prop where
  /-- Lines are numbered from one. -/
  positive : 1 ≤ start
  /-- The first line comes no later than the last one. -/
  ordered : start ≤ stop
  /-- The last line exists. -/
  inside : stop ≤ lineCount

/-- The lines of a well-formed site are inside the text. -/
theorem Site.WellFormed.linesInside {lineCount : Nat} {site : Site}
    (fits : site.WellFormed lineCount) : LinesInside lineCount site.startLine site.endLine := by
  obtain ⟨ordered, inside, _, _⟩ := fits.tree.rowsFit
  simp only [Tree.startRow, Tree.endRow] at ordered inside
  simp only [startLine, endLine, Tree.startLine, Tree.endLine]
  constructor <;> omega

/-- Lines stay inside the text when they start earlier, at a line that exists. -/
theorem LinesInside.extend {lineCount : Nat} {start earlier stop : Int}
    (lines : LinesInside lineCount start stop) (positive : 1 ≤ earlier) (before : earlier ≤ start) :
    LinesInside lineCount earlier stop :=
  ⟨positive, Int.le_trans before lines.ordered, lines.inside⟩

/-! ## JavaScript -/

namespace EcmaScript

variable {tree : Tree} {name : String} {className : Option String} {span : TargetSpan}
  {lineCount : Nat} {qualifier : Qualifier}

/-- A member starts at its own first line or at that of a sibling before it. -/
theorem memberStart_cases (site : Site) :
    memberStart site = site.startLine ∨ ∃ elder ∈ site.elders, memberStart site = elder.startLine := by
  simp only [memberStart]
  split
  · exact .inl rfl
  · next first farthest =>
    have decorator := List.mem_of_getLast? farthest
    have named := (List.takeWhile_sublist _).subset decorator
    exact .inr ⟨first, (List.mem_filter.mp named).1, rfl⟩

/-- The lines of a member with its decorators are inside the text. -/
theorem linesInside_memberStart {site : Site} (fits : site.WellFormed lineCount) :
    LinesInside lineCount (memberStart site) site.endLine := by
  rcases memberStart_cases site with same | ⟨elder, before, start⟩
  · rw [same]
    exact fits.linesInside
  · rw [start]
    have earlier := fits.startRow_le_of_mem_elders before
    simp only [Tree.startRow] at earlier
    refine fits.linesInside.extend ?_ ?_ <;>
      simp only [Tree.startLine, Site.startLine] <;> omega

/-- The members of a class stand at well-formed sites. -/
theorem wellFormed_of_mem_members {site : Site} {found : List Member} {member : Member}
    (fits : site.WellFormed lineCount) (read : members site = .ok found) (listed : member ∈ found) :
    member.site.WellFormed lineCount := by
  unfold members at read
  split at read
  · obtain rfl := pure_eq_ok.mp read
    simp at listed
  · next body =>
    obtain ⟨here, inside, made⟩ := exists_of_mem_filterMapM read listed
    rw [(memberParts?_of_member? made).1]
    exact (fits.of_child? body).of_mem_namedChildren inside

/-- The lines of a class that is found are inside the text. -/
theorem linesInside_of_findClass (fits : tree.WellFormed lineCount)
    (found : findClass tree name = .ok (some span)) :
    LinesInside lineCount span.start span.stop := by
  obtain ⟨site, visited, _, rfl⟩ := exists_of_search_by_name found
  have walked := (List.mem_filter.mp visited).1
  exact (Site.wellFormed_of_mem_walk fits site walked).linesInside

/-- The lines of a member that is found are inside the text. -/
theorem linesInside_of_findMember (fits : tree.WellFormed lineCount)
    (found : findMember tree name className = .ok (some span)) :
    LinesInside lineCount span.start span.stop := by
  obtain ⟨site, visited, here⟩ := exists_of_findSomeM?_eq_some found
  have walked := (List.mem_filter.mp visited).1
  obtain ⟨owner, _, here⟩ := bind_eq_ok.mp here
  split at here
  · obtain ⟨listed, read, made⟩ := bind_pure_eq_ok.mp here
    obtain ⟨member, first, rfl⟩ := Option.map_eq_some_iff.mp made
    have fitsClass := Site.wellFormed_of_mem_walk fits site walked
    exact linesInside_memberStart
      (wellFormed_of_mem_members fitsClass read (List.mem_of_find?_eq_some first))
  · cases pure_eq_ok.mp here

/-- The lines of a function that is found are inside the text. -/
theorem linesInside_of_findFunction (fits : tree.WellFormed lineCount)
    (found : findFunction tree name = .ok (some span)) :
    LinesInside lineCount span.start span.stop := by
  obtain ⟨site, visited, _, rfl⟩ := exists_of_search_by_name found
  have walked := (List.mem_filter.mp visited).1
  exact (Site.wellFormed_of_mem_walk fits site walked).linesInside

/-- The lines of whatever a qualifier names are inside the text. -/
theorem linesInside_of_resolve (fits : tree.WellFormed lineCount)
    (found : resolve tree qualifier = .ok (some span)) :
    LinesInside lineCount span.start span.stop := by
  rcases resolve_cases found with here | ⟨_, here⟩ | here
  · exact linesInside_of_findClass fits here
  · exact linesInside_of_findMember fits here
  · exact linesInside_of_findFunction fits here

end EcmaScript

/-! ## Python -/

namespace Python

variable {tree : Tree} {name : String} {className : Option String} {span : TargetSpan}
  {lineCount : Nat} {qualifier : Qualifier} {site : Site}

/-- The node that holds a definition together with its decorators stands at a well-formed site. -/
theorem wellFormed_outer (fits : site.WellFormed lineCount) : (outer site).WellFormed lineCount := by
  rcases outer_cases site with same | ⟨above, _⟩
  · rwa [same]
  · exact fits.of_parent above

/-- The definition inside a decorated one stands at a well-formed site. -/
theorem wellFormed_inner (fits : site.WellFormed lineCount) : (inner site).WellFormed lineCount := by
  rcases inner_cases site with same | below
  · rwa [same]
  · exact fits.of_mem_children below

/-- The methods of a class stand at well-formed sites. -/
theorem wellFormed_of_mem_methods {method : Site} (fits : site.WellFormed lineCount)
    (listed : method ∈ methods site) : method.WellFormed lineCount := by
  unfold methods at listed
  split at listed
  · simp at listed
  · next body =>
    obtain ⟨statement, inside, rfl⟩ := List.mem_map.mp (List.mem_filter.mp listed).1
    exact wellFormed_inner ((fits.of_child? body).of_mem_namedChildren inside)

/-- The lines of a function with its decorators are inside the text. -/
theorem linesInside_functionSpan (fits : site.WellFormed lineCount) :
    LinesInside lineCount (functionSpan site).1 (functionSpan site).2 := by
  unfold functionSpan
  split
  · exact (wellFormed_outer fits).linesInside
  · exact fits.linesInside

/-- The lines of a class that is found are inside the text. -/
theorem linesInside_of_findClass (fits : tree.WellFormed lineCount)
    (found : findClass tree name = .ok (some span)) :
    LinesInside lineCount span.start span.stop := by
  obtain ⟨site, visited, _, rfl⟩ := exists_of_search_by_name found
  have walked := (List.mem_filter.mp visited).1
  exact (wellFormed_outer (Site.wellFormed_of_mem_walk fits site walked)).linesInside

/-- The lines of a method that is found are inside the text. -/
theorem linesInside_of_findMethod (fits : tree.WellFormed lineCount)
    (found : findMethod tree name className = .ok (some span)) :
    LinesInside lineCount span.start span.stop := by
  obtain ⟨site, visited, here⟩ := exists_of_findSomeM?_eq_some found
  have walked := (List.mem_filter.mp visited).1
  obtain ⟨owner, _, here⟩ := bind_eq_ok.mp here
  split at here
  · obtain ⟨method, listed, _, rfl⟩ := exists_of_search_by_name here
    have fitsClass := Site.wellFormed_of_mem_walk fits site walked
    exact (wellFormed_outer (wellFormed_of_mem_methods fitsClass listed)).linesInside
  · cases pure_eq_ok.mp here

/-- The lines of a function that is found are inside the text. -/
theorem linesInside_of_findFunction (fits : tree.WellFormed lineCount)
    (found : findFunction tree name = .ok (some span)) :
    LinesInside lineCount span.start span.stop := by
  obtain ⟨site, walked, _, _, rfl⟩ := exists_of_findFunction found
  exact linesInside_functionSpan (Site.wellFormed_of_mem_walk fits site walked)

/-- The lines of whatever a qualifier names are inside the text. -/
theorem linesInside_of_resolve (fits : tree.WellFormed lineCount)
    (found : resolve tree qualifier = .ok (some span)) :
    LinesInside lineCount span.start span.stop := by
  rcases resolve_cases found with here | ⟨_, here⟩ | here
  · exact linesInside_of_findClass fits here
  · exact linesInside_of_findMethod fits here
  · exact linesInside_of_findFunction fits here

end Python

/-! ## Both languages -/

/-- The lines of whatever a qualifier names are inside the text, in any language. -/
theorem Language.linesInside_of_resolve {language : Language} {tree : Tree} {lineCount : Nat}
    {qualifier : Qualifier} {span : TargetSpan} (fits : tree.WellFormed lineCount)
    (found : language.grammar.resolve tree qualifier = .ok (some span)) :
    LinesInside lineCount span.start span.stop := by
  cases language with
  | python => exact Python.linesInside_of_resolve fits found
  | javascript | typescript | tsx => exact EcmaScript.linesInside_of_resolve fits found

namespace Target

variable {grammar : Grammar} {tree : Tree} {doc : Document} {qualifier : Qualifier}
  {span : TargetSpan} {contextLines : Int} {includeContext : Bool} {target : Target}

/-- What was extracted is what was found, with an excerpt around its lines. -/
theorem resolve_of_extract
    (extracted : extract grammar tree doc qualifier contextLines includeContext = .ok (.ok target)) :
    grammar.resolve tree qualifier = .ok (some target.span) ∧
      target.excerpt = Window.excerpt doc.lines target.span.start target.span.stop contextLines
        includeContext := by
  unfold extract at extracted
  split at extracted
  · obtain ⟨found, resolved, rest⟩ := bind_eq_ok.mp extracted
    cases found with
    | none =>
      obtain ⟨hint, _, hinted⟩ := bind_pure_eq_ok.mp rest
      cases hinted
    | some span =>
      obtain rfl := Except.ok.inj (pure_eq_ok.mp rest)
      exact ⟨resolved, rfl⟩
  · cases pure_eq_ok.mp extracted

/-- An entity that is found is extracted. -/
theorem extract_of_resolve (entity : qualifier.kind ∈ entityKinds) (named : qualifier.name ≠ "")
    (resolved : grammar.resolve tree qualifier = .ok (some span)) :
    ∃ target, extract grammar tree doc qualifier contextLines includeContext = .ok (.ok target) ∧
      target.span = span := by
  have asked : (entityKinds.contains qualifier.kind && !qualifier.name.isEmpty) = true := by
    simp [entity, named]
  unfold extract
  rw [if_pos asked, resolved]
  exact ⟨_, rfl, rfl⟩

/-- A target has lines inside a document and holds these lines and no others, with the context that
was asked for as far as the document goes. -/
structure Exact (doc : Document) (context : Nat) (includeContext : Bool) (target : Target)
    (first last : Nat) : Prop where
  /-- The number of its first line. -/
  start : target.span.start = first
  /-- The number of its last line. -/
  stop : target.span.stop = last
  /-- Both lines are in order and exist. -/
  lines : 1 ≤ first ∧ first ≤ last ∧ last ≤ doc.lineCount
  /-- The excerpt is that of the lines. -/
  excerpt : target.excerpt.Exact doc.lines first last context includeContext

/-- A target whose lines are inside the document is exact. -/
theorem exact_of_linesInside {context : Nat}
    (lines : LinesInside doc.lineCount target.span.start target.span.stop)
    (carved : target.excerpt = Window.excerpt doc.lines target.span.start target.span.stop context
      includeContext) :
    ∃ first last, target.Exact doc context includeContext first last := by
  obtain ⟨positive, ordered, inside⟩ := lines
  -- the lines of a span are integers; these two are numbers of lines
  obtain ⟨first, start⟩ := Int.eq_ofNat_of_zero_le (by omega : 0 ≤ target.span.start)
  obtain ⟨last, stop⟩ := Int.eq_ofNat_of_zero_le (by omega : 0 ≤ target.span.stop)
  rw [start, stop] at carved
  have low : 1 ≤ first := by omega
  have high : last ≤ doc.lineCount := by omega
  have between : first ≤ last := by omega
  have free : ∀ line ∈ doc.lines, '\n' ∉ line.toList := by
    rw [doc.divided]
    exact fun line inside => Text.not_mem_of_mem_lines inside
  refine ⟨first, last, start, stop, ⟨low, between, high⟩, ?_⟩
  rw [carved]
  exact Window.exact_excerpt free low between high

end Target

/-- On a tree that fits the document, every entity that is found is extracted, and whatever is
extracted is exact: its lines exist and are in order, its code is made of these lines and no
others, and its context is as long as was asked for or as the document allows, or empty when none
was asked for. -/
theorem target_extraction_exact (language : Language) (doc : Document) (tree : Tree)
    (qualifier : Qualifier) (context : Nat) (includeContext : Bool)
    (fits : tree.WellFormed doc.lineCount) :
    (∀ span, qualifier.kind ∈ Target.entityKinds → qualifier.name ≠ "" →
      language.grammar.resolve tree qualifier = .ok (some span) →
      ∃ target,
        Target.extract language.grammar tree doc qualifier context includeContext =
          .ok (.ok target) ∧ target.span = span) ∧
    ∀ target,
      Target.extract language.grammar tree doc qualifier context includeContext =
        .ok (.ok target) →
      ∃ first last, target.Exact doc context includeContext first last := by
  constructor
  · intro span entity named resolved
    exact Target.extract_of_resolve entity named resolved
  · intro target extracted
    obtain ⟨resolved, carved⟩ := Target.resolve_of_extract extracted
    exact Target.exact_of_linesInside (Language.linesInside_of_resolve fits resolved) carved

/-- The text of a class with a method behind a decorator. -/
def decoratedMethodText : String := "class C \x7b\n  @a\n  m() \x7b\x7d\n\x7d\n"

/-- The tree of a class with a method behind a decorator. -/
def decoratedMethod : Tree :=
  .covering "program" none 0 ⟨0, 0⟩ ⟨4, 0⟩ decoratedMethodText
    [.covering "class_declaration" none 0 ⟨0, 0⟩ ⟨3, 1⟩
      "class C \x7b\n  @a\n  m() \x7b\x7d\n\x7d"
      [.token "class" 0 ⟨0, 0⟩ ⟨0, 5⟩,
        .covering "type_identifier" (some "name") 6 ⟨0, 6⟩ ⟨0, 7⟩ "C" [],
        .covering "class_body" (some "body") 8 ⟨0, 8⟩ ⟨3, 1⟩ "\x7b\n  @a\n  m() \x7b\x7d\n\x7d"
          [.token "\x7b" 8 ⟨0, 8⟩ ⟨0, 9⟩,
            .covering "decorator" none 12 ⟨1, 2⟩ ⟨1, 4⟩ "@a"
              [.token "@" 12 ⟨1, 2⟩ ⟨1, 3⟩, .covering "identifier" none 13 ⟨1, 3⟩ ⟨1, 4⟩ "a" []],
            .covering "method_definition" none 17 ⟨2, 2⟩ ⟨2, 8⟩ "m() \x7b\x7d"
              [.covering "property_identifier" (some "name") 17 ⟨2, 2⟩ ⟨2, 3⟩ "m" [],
                .covering "formal_parameters" (some "parameters") 18 ⟨2, 3⟩ ⟨2, 5⟩ "()"
                  [.token "(" 18 ⟨2, 3⟩ ⟨2, 4⟩, .token ")" 19 ⟨2, 4⟩ ⟨2, 5⟩],
                .covering "statement_block" (some "body") 21 ⟨2, 6⟩ ⟨2, 8⟩ "\x7b\x7d"
                  [.token "\x7b" 21 ⟨2, 6⟩ ⟨2, 7⟩, .token "\x7d" 22 ⟨2, 7⟩ ⟨2, 8⟩]],
            .token "\x7d" 24 ⟨3, 0⟩ ⟨3, 1⟩]]]

/-- The method is found from its decorator on. -/
theorem resolve_decoratedMethod :
    Language.typescript.grammar.resolve decoratedMethod ⟨"class:C.m", "class", "m", some "C"⟩ =
      .ok (some ⟨"method", "m", 2, 3, some "C"⟩) := by
  simp only [Language.grammar, EcmaScript.grammar, EcmaScript.resolve, EcmaScript.findMember,
    Site.walk_eq_preorder]
  decide +kernel

/-- A method behind a decorator is extracted exactly, with a line on either side. -/
theorem target_extraction_exact_decoratedMethod :
    decoratedMethod.WellFormed (Text.lines decoratedMethodText).length ∧
      ∃ target,
        Target.extract Language.typescript.grammar decoratedMethod
          ⟨"c.ts", decoratedMethodText, _, rfl⟩ ⟨"class:C.m", "class", "m", some "C"⟩ 1 true =
            .ok (.ok target) ∧
        target.span = ⟨"method", "m", 2, 3, some "C"⟩ ∧
        ∃ first last, target.Exact ⟨"c.ts", decoratedMethodText, _, rfl⟩ 1 true first last := by
  have fits : decoratedMethod.WellFormed (Text.lines decoratedMethodText).length := by
    decide +kernel
  obtain ⟨extracts, exact⟩ := target_extraction_exact .typescript
    ⟨"c.ts", decoratedMethodText, _, rfl⟩ decoratedMethod
    ⟨"class:C.m", "class", "m", some "C"⟩ 1 true fits
  obtain ⟨target, extracted, span⟩ :=
    extracts _ (by decide) (by decide) resolve_decoratedMethod
  exact ⟨fits, target, extracted, span, exact target extracted⟩

end SourceLens
