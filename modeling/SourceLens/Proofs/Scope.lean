import SourceLens.Grammar.EcmaScript
import SourceLens.Grammar.Python
import SourceLens.Proofs.Grammar.Totality
import SourceLens.Proofs.Tree.Ancestry

/-!
# Scopes

The scopes around a site are met on the way from the site up to the root, the innermost one first,
and listed from the outside in. What is met further up comes in front of what was met before and
changes nothing of it (`climb_eq_append`), so the list can be told from above: that of a site is the
list of the site above it, with the scope that this one is, if it is one, at the end
(`segments_of_parent?`). Hence the list of a site begins with the list of every site above it.
-/
namespace SourceLens.Site

open Reading

variable {scopes : List (String × String)} {site parent above name : Site} {word : String}

/-! ## One scope -/

/-- A site is a scope with a name: there is a word for its kind that is not empty, and the site has
a name. -/
structure IsScope (scopes : List (String × String)) (site : Site) (word : String) (name : Site) :
    Prop where
  /-- There is a word for its kind. -/
  worded : scopes.lookup site.kind = some word
  /-- The word is not empty. -/
  nonempty : word ≠ ""
  /-- There is a name. -/
  named : site.child? "name" = some name

/-- A scope with a name adds its word and its name. -/
theorem IsScope.segment (isScope : site.IsScope scopes word name) :
    site.segment scopes = (do
      let content ← name.text
      pure (some (word ++ ":" ++ content))) := by
  have worded : (scopes.lookup site.kind).bind nonempty? = some word := by
    rw [isScope.worded]
    exact if_neg fun empty => isScope.nonempty (String.isEmpty_iff.mp empty)
  simp only [Site.segment, worded, isScope.named]

/-- A site that is no scope with a name adds nothing. -/
theorem segment_of_plain (plain : ∀ word name, ¬ site.IsScope scopes word name) :
    site.segment scopes = .ok none := by
  unfold segment
  split
  · next word name worded named =>
    obtain ⟨found, word', same⟩ := Option.bind_eq_some_iff.mp worded
    unfold nonempty? at same
    split at same
    · cases same
    · next solid =>
      obtain rfl := Option.some.inj same
      exact absurd ⟨word', fun empty => solid (String.isEmpty_iff.mpr empty), named⟩ (plain _ _)
  · rfl

/-! ## The way up -/

/-- What was met before the climb is kept behind the scopes that the climb meets. -/
theorem climb_eq_append (scopes : List (String × String)) (met : List String) (site : Site) :
    site.climb scopes met = (do
      let outer ← site.segments scopes
      pure (outer ++ met)) := by
  induction site generalizing met with
  | root tree => rfl
  | child parent elders tree ih =>
    rw [segments, climb, climb, bind_assoc]
    congr 1
    funext own
    -- both climbs go on from the site above, with the own scope of that site in front
    rw [ih, ih, bind_assoc]
    simp only [pure_bind, List.append_nil, List.append_assoc]

/-- The scopes around a site are those around the site above it, and then the scope that this one
is. -/
theorem segments_of_parent? (above : site.parent? = some parent) :
    site.segments scopes = (do
      let own ← parent.segment scopes
      let outer ← parent.segments scopes
      pure (outer ++ own.toList)) := by
  cases site with
  | root tree => simp [parent?] at above
  | child _ elders tree =>
    obtain rfl := Option.some.inj above
    simp only [segments, climb]
    congr 1
    funext own
    rw [climb_eq_append, List.append_nil, segments]

/-- Below a site that is no scope with a name there are the scopes around that site. -/
theorem segments_of_plain (above : site.parent? = some parent)
    (plain : ∀ word name, ¬ parent.IsScope scopes word name) :
    site.segments scopes = parent.segments scopes := by
  rw [segments_of_parent? above, segment_of_plain plain]
  cases parent.segments scopes with
  | error fault => rfl
  | ok parts => simp [bind, Except.bind, pure, Except.pure]

/-- The scopes around a site begin with those around the site above it. -/
theorem exists_prefix_of_parent? {parts : List String} (above : site.parent? = some parent)
    (read : site.segments scopes = .ok parts) :
    ∃ outer, parent.segments scopes = .ok outer ∧ outer <+: parts := by
  rw [segments_of_parent? above] at read
  obtain ⟨own, _, read⟩ := bind_eq_ok.mp read
  obtain ⟨outer, around, rfl⟩ := bind_pure_eq_ok.mp read
  exact ⟨outer, around, List.prefix_append outer own.toList⟩

/-- The scopes around a site begin with those around every site above it. -/
theorem exists_prefix_of_mem_ancestors {parts : List String} (up : above ∈ site.ancestors)
    (read : site.segments scopes = .ok parts) :
    ∃ outer, above.segments scopes = .ok outer ∧ outer <+: parts := by
  induction site generalizing parts with
  | root tree => simp [ancestors] at up
  | child parent elders tree ih =>
    obtain ⟨outer, around, begins⟩ := exists_prefix_of_parent? rfl read
    rcases List.mem_cons.mp up with rfl | higher
    · exact ⟨outer, around, begins⟩
    · obtain ⟨first, further, shorter⟩ := ih higher around
      exact ⟨first, further, shorter.trans begins⟩

/-! ## Scopes as they are listed -/

/-- The scopes around a site are listed from the outside in. -/
structure ListsScopes (scopes : List (String × String)) (site : Site) : Prop where
  /-- There are none around a root. -/
  root : site.parent? = none → site.segments scopes = .ok []
  /-- A scope right above the site comes behind the scopes around it, by its word and its name. -/
  scope : ∀ parent word name content, site.parent? = some parent →
    parent.IsScope scopes word name → name.text = .ok content → site.segments scopes = (do
      let outer ← parent.segments scopes
      pure (outer ++ [word ++ ":" ++ content]))
  /-- A name of a scope right above that is not text is the fault. -/
  fault : ∀ parent word name fault, site.parent? = some parent →
    parent.IsScope scopes word name → name.text = .error fault →
    site.segments scopes = .error fault
  /-- Any other site right above adds nothing. -/
  plain : ∀ parent, site.parent? = some parent →
    (∀ word name, ¬ parent.IsScope scopes word name) →
    site.segments scopes = parent.segments scopes
  /-- They are read where the texts of the tree are. -/
  read : site.Decodable → ∃ parts, site.segments scopes = .ok parts
  /-- In one text there is a mark between any two of them. -/
  joined : ∀ text, site.scope scopes = .ok (some text) ↔ ∃ parts, parts ≠ [] ∧
    site.segments scopes = .ok parts ∧ text = " > ".intercalate parts
  /-- There is no text exactly when there are none. -/
  unscoped : site.scope scopes = .ok none ↔ site.segments scopes = .ok []
  /-- They begin with those around any site above. -/
  outer : ∀ above ∈ site.ancestors, ∀ parts, site.segments scopes = .ok parts →
    ∃ outer, above.segments scopes = .ok outer ∧ outer <+: parts

/-- The scopes around a site in one text, as they are listed. -/
theorem scope_eq_ok_iff {text : Option String} : site.scope scopes = .ok text ↔
    ∃ parts, site.segments scopes = .ok parts ∧
      (if parts.isEmpty then none else some (" > ".intercalate parts)) = text :=
  bind_pure_eq_ok

/-- At every site, whatever kinds are scopes, the climb to the root lists the scopes around the site
from the outside in. -/
theorem scopes_listed_from_outside (scopes : List (String × String)) (site : Site) :
    site.ListsScopes scopes where
  root top := by
    cases site with
    | root tree => rfl
    | child parent elders tree => cases top
  scope parent word name content above isScope named := by
    rw [segments_of_parent? above, isScope.segment, named]
    rfl
  fault parent word name fault above isScope named := by
    rw [segments_of_parent? above, isScope.segment, named]
    rfl
  plain parent above plain := segments_of_plain above plain
  read decodable := decodable.succeeds_segments scopes
  joined text := by
    rw [scope_eq_ok_iff]
    constructor
    · rintro ⟨parts, read, shown⟩
      split at shown
      · cases shown
      · next some =>
        exact ⟨parts, fun nothing => some (List.isEmpty_iff.mpr nothing), read,
          (Option.some.inj shown).symm⟩
    · rintro ⟨parts, some, read, rfl⟩
      exact ⟨parts, read, if_neg fun nothing => some (List.isEmpty_iff.mp nothing)⟩
  unscoped := by
    rw [scope_eq_ok_iff]
    constructor
    · rintro ⟨parts, read, shown⟩
      split at shown
      · next nothing => rw [read, List.isEmpty_iff.mp nothing]
      · cases shown
    · intro read
      exact ⟨[], read, rfl⟩
  outer above up parts read := exists_prefix_of_mem_ancestors up read

/-- The tree of a function with a class in it that has a method. -/
def classInFunction : Tree :=
  .covering "program" none 0 ⟨0, 0⟩ ⟨0, 38⟩ "function f() \x7b class A \x7b m() \x7b x \x7d \x7d \x7d"
    [.covering "function_declaration" none 0 ⟨0, 0⟩ ⟨0, 38⟩
      "function f() \x7b class A \x7b m() \x7b x \x7d \x7d \x7d"
      [.token "function" 0 ⟨0, 0⟩ ⟨0, 8⟩,
        .covering "identifier" (some "name") 9 ⟨0, 9⟩ ⟨0, 10⟩ "f" [],
        .covering "formal_parameters" (some "parameters") 10 ⟨0, 10⟩ ⟨0, 12⟩ "()"
          [.token "(" 10 ⟨0, 10⟩ ⟨0, 11⟩, .token ")" 11 ⟨0, 11⟩ ⟨0, 12⟩],
        .covering "statement_block" (some "body") 13 ⟨0, 13⟩ ⟨0, 38⟩
          "\x7b class A \x7b m() \x7b x \x7d \x7d \x7d"
          [.token "\x7b" 13 ⟨0, 13⟩ ⟨0, 14⟩,
            .covering "class_declaration" none 15 ⟨0, 15⟩ ⟨0, 36⟩ "class A \x7b m() \x7b x \x7d \x7d"
              [.token "class" 15 ⟨0, 15⟩ ⟨0, 20⟩,
                .covering "identifier" (some "name") 21 ⟨0, 21⟩ ⟨0, 22⟩ "A" [],
                .covering "class_body" (some "body") 23 ⟨0, 23⟩ ⟨0, 36⟩ "\x7b m() \x7b x \x7d \x7d"
                  [.token "\x7b" 23 ⟨0, 23⟩ ⟨0, 24⟩,
                    .covering "method_definition" none 25 ⟨0, 25⟩ ⟨0, 34⟩ "m() \x7b x \x7d"
                      [.covering "property_identifier" (some "name") 25 ⟨0, 25⟩ ⟨0, 26⟩ "m" [],
                        .covering "formal_parameters" (some "parameters") 26 ⟨0, 26⟩ ⟨0, 28⟩ "()"
                          [.token "(" 26 ⟨0, 26⟩ ⟨0, 27⟩, .token ")" 27 ⟨0, 27⟩ ⟨0, 28⟩],
                        .covering "statement_block" (some "body") 29 ⟨0, 29⟩ ⟨0, 34⟩ "\x7b x \x7d"
                          [.token "\x7b" 29 ⟨0, 29⟩ ⟨0, 30⟩,
                            .covering "expression_statement" none 31 ⟨0, 31⟩ ⟨0, 32⟩ "x"
                              [.covering "identifier" none 31 ⟨0, 31⟩ ⟨0, 32⟩ "x" []],
                            .token "\x7d" 33 ⟨0, 33⟩ ⟨0, 34⟩]],
                    .token "\x7d" 35 ⟨0, 35⟩ ⟨0, 36⟩]],
            .token "\x7d" 37 ⟨0, 37⟩ ⟨0, 38⟩]]]

/-- The tree of a class with a function in it. -/
def functionInClass : Tree :=
  .covering "module" none 0 ⟨0, 0⟩ ⟨2, 0⟩ "class A:\n  def f(): x\n"
    [.covering "class_definition" none 0 ⟨0, 0⟩ ⟨1, 12⟩ "class A:\n  def f(): x"
      [.token "class" 0 ⟨0, 0⟩ ⟨0, 5⟩, .covering "identifier" (some "name") 6 ⟨0, 6⟩ ⟨0, 7⟩ "A" [],
        .token ":" 7 ⟨0, 7⟩ ⟨0, 8⟩,
        .covering "block" (some "body") 11 ⟨1, 2⟩ ⟨1, 12⟩ "def f(): x"
          [.covering "function_definition" none 11 ⟨1, 2⟩ ⟨1, 12⟩ "def f(): x"
            [.token "def" 11 ⟨1, 2⟩ ⟨1, 5⟩,
              .covering "identifier" (some "name") 15 ⟨1, 6⟩ ⟨1, 7⟩ "f" [],
              .covering "parameters" (some "parameters") 16 ⟨1, 7⟩ ⟨1, 9⟩ "()"
                [.token "(" 16 ⟨1, 7⟩ ⟨1, 8⟩, .token ")" 17 ⟨1, 8⟩ ⟨1, 9⟩],
              .token ":" 18 ⟨1, 9⟩ ⟨1, 10⟩,
              .covering "block" (some "body") 20 ⟨1, 11⟩ ⟨1, 12⟩ "x"
                [.covering "expression_statement" none 20 ⟨1, 11⟩ ⟨1, 12⟩ "x"
                  [.covering "identifier" none 20 ⟨1, 11⟩ ⟨1, 12⟩ "x" []]]]]]]

/-- Methods and blocks are no scopes, and of two scopes the outer one comes first, with either table
of scopes. -/
theorem scopes_listed_from_outside_samples :
    (∃ site ∈ walk classInFunction, site.text = .ok "x" ∧
      site.scope EcmaScript.scopes = .ok (some "function:f > class:A") ∧
      ∀ above ∈ site.ancestors, ∃ outer, above.segments EcmaScript.scopes = .ok outer ∧
        outer <+: ["function:f", "class:A"]) ∧
    ∃ site ∈ walk functionInClass, site.text = .ok "x" ∧
      site.scope Python.scopes = .ok (some "class:A > function:f") := by
  constructor
  · obtain ⟨site, visited, text, read⟩ : ∃ site ∈ walk classInFunction, site.text = .ok "x" ∧
        site.segments EcmaScript.scopes = .ok ["function:f", "class:A"] := by
      rw [walk_eq_preorder]
      decide +kernel
    have listed := scopes_listed_from_outside EcmaScript.scopes site
    exact ⟨site, visited, text, (listed.joined _).mpr ⟨_, by simp, read, by decide⟩,
      fun above up => listed.outer above up _ read⟩
  · obtain ⟨site, visited, text, read⟩ : ∃ site ∈ walk functionInClass, site.text = .ok "x" ∧
        site.segments Python.scopes = .ok ["class:A", "function:f"] := by
      rw [walk_eq_preorder]
      decide +kernel
    have listed := scopes_listed_from_outside Python.scopes site
    exact ⟨site, visited, text, (listed.joined _).mpr ⟨_, by simp, read, by decide⟩⟩

end SourceLens.Site
