import SourceLens.Proofs.Python.Symbols

/-!
# Exports of a Python module

A module lists its exports in `__all__`, by assignments and by augmented assignments. The outline
reads both, but a search goes through the symbols of plain assignments only, so it misses what an
augmented assignment adds (`augmented_exports_not_searched`). Apart from that the two agree: the
exports that a search finds are among those of the outline, in the same order, and they are all of
them exactly when no augmented assignment of the module lists any (`exports_searched_iff`).
-/
namespace SourceLens.Python

open Reading

variable {tree : Tree} {doc : Document} {site : Site} {found : Findings} {symbols : List Symbol}
  {entries : List ExportEntry}

/-- Every assignment to `__all__` assigns to a plain name. -/
def PlainExports (tree : Tree) : Prop :=
  ∀ site ∈ Site.walk tree, site.kind = "assignment" → ∀ left, site.child? "left" = some left →
    left.text = .ok "__all__" → left.kind = "identifier"

/-- The names and lines of the exports of an outline. -/
def listedNames (entries : List ExportEntry) : List (Option String × Int) :=
  entries.map fun entry => (entry.name, entry.line)

/-- The names and lines of the exports among symbols. -/
def searchedNames (symbols : List Symbol) : List (Option String × Int) :=
  (symbolsOf .exports symbols).map fun symbol => (some symbol.name, symbol.line)

/-- No exports are searched among symbols of other categories. -/
theorem searchedNames_eq_nil (category : ∀ symbol ∈ symbols, symbol.category ≠ .exports) :
    searchedNames symbols = [] := by
  have none : symbolsOf .exports symbols = [] :=
    List.filter_eq_nil_iff.mpr fun symbol inside => by simp [category symbol inside]
  rw [searchedNames, none, List.map_nil]

/-- What an assignment lists: nothing, or exports that have names if it assigns to `__all__`. -/
theorem moduleExports_cases (read : moduleExports doc site = .ok entries) :
    entries = [] ∨
      (∃ left, site.child? "left" = some left ∧ left.text = .ok "__all__") ∧
        ∀ entry ∈ entries, ∃ name, entry.name = some name := by
  unfold moduleExports listedExports at read
  split at read
  · split at read
    · exact .inl (pure_eq_ok.mp read).symm
    next left present =>
    obtain ⟨name, named, read⟩ := bind_eq_ok.mp read
    split at read
    · exact .inl (pure_eq_ok.mp read).symm
    split at read
    · next lists =>
      simp only [Bool.and_eq_true, beq_iff_eq] at lists
      rw [lists.1] at named
      refine .inr ⟨⟨left, present, named⟩, fun entry inside => ?_⟩
      obtain ⟨pairs, _, rfl, each⟩ := exists_pairs read
      obtain ⟨pair, here, rfl⟩ := List.mem_map.mp inside
      obtain ⟨content, _, made⟩ := bind_pure_eq_ok.mp (each pair here)
      exact ⟨content, by rw [← made]⟩
    · exact .inl (pure_eq_ok.mp read).symm
  · exact .inl (pure_eq_ok.mp read).symm

/-! ## One site -/

/-- Only assignments have symbols of exports. -/
theorem category_ne_exports (noAssignment : site.kind ≠ "assignment")
    (made : siteSymbols doc site = .ok symbols) :
    ∀ symbol ∈ symbols, symbol.category ≠ .exports := by
  unfold siteSymbols at made
  split at made
  · rcases functionSymbols_cases made with ⟨_, rfl⟩ | ⟨_, _, _, _, _, _, _, _, rfl⟩ <;> simp
  split at made
  · rcases classSymbols_cases made with ⟨_, rfl⟩ | ⟨_, _, _, _, _, rfl⟩ <;> simp
  split at made
  · next kind => exact absurd (beq_iff_eq.mp kind) noAssignment
  split at made
  · obtain ⟨entries, _, made⟩ := bind_eq_ok.mp made
    intro symbol inside
    rw [((Site.symbols_of_mapM made).2 symbol inside).1]
    decide
  split at made
  · intro symbol inside
    rw [(call_of_callSymbols made symbol inside).1]
    decide
  · obtain rfl := pure_eq_ok.mp made
    simp

/-- A plain assignment shows the exports that it lists. -/
theorem exports_of_assigned (plain : ∀ left, site.child? "left" = some left →
      left.text = .ok "__all__" → left.kind = "identifier")
    (kind : site.kind = "assignment") (binds : boundLambda? site = none)
    (read : moduleExports doc site = .ok entries) (made : siteSymbols doc site = .ok symbols) :
    listedNames entries = searchedNames symbols := by
  rcases assigned_cases kind binds made with ⟨rfl, unlike⟩ | ⟨own, _, category, _, shown, rfl⟩
  · rcases moduleExports_cases read with rfl | ⟨⟨left, present, content⟩, _⟩
    · rfl
    · exact absurd (plain left present content) (unlike left present)
  · obtain rfl := value_unique read shown
    have exported : ∀ symbol ∈ entries.map exportSymbol, symbol.category = .exports := by
      intro symbol inside
      obtain ⟨entry, _, rfl⟩ := List.mem_map.mp inside
      rfl
    have shownNames : searchedNames (own :: entries.map exportSymbol) =
        entries.map fun entry => (some (entry.name.getD ""), entry.line) := by
      simp [searchedNames, category, symbolsOf_of_forall exported, exportSymbol]
    rw [shownNames]
    refine List.map_congr_left fun entry inside => ?_
    rcases moduleExports_cases read with rfl | ⟨_, named⟩
    · simp at inside
    · obtain ⟨name, same⟩ := named entry inside
      simp [same]

/-- Any site but an augmented assignment shows the exports that it lists. -/
theorem exports_of_site (plain : site.kind = "assignment" → ∀ left,
      site.child? "left" = some left → left.text = .ok "__all__" → left.kind = "identifier")
    (noAugmented : site.kind ≠ "augmented_assignment") (read : findings doc site = .ok found)
    (made : siteSymbols doc site = .ok symbols) :
    listedNames found.exports = searchedNames symbols := by
  have unsearched (noAssignment : site.kind ≠ "assignment") :
      listedNames [] = searchedNames symbols :=
    (searchedNames_eq_nil (category_ne_exports noAssignment made)).symm
  cases contribution_of_findings read with
  | ofClass isClassSite => exact unsearched (by simp [kind_of_isNamedClass isClassSite])
  | declared entry isDeclared => exact unsearched (by simp [kind_of_isNamedFunction isDeclared])
  | bound function entry kind binds =>
    obtain ⟨name, scope, _, rfl⟩ := symbols_of_bound kind binds made
    rfl
  | assigned entries kind binds here => exact exports_of_assigned (plain kind) kind binds here made
  | augmented entries kind => exact absurd kind noAugmented
  | imported entries kind => exact unsearched (kind_ne_of_import kind (by decide))
  | nothing _ _ noAssignment => exact unsearched noAssignment

/-- An augmented assignment contributes the exports that it lists. -/
theorem findings_of_augmented (kind : site.kind = "augmented_assignment")
    (read : findings doc site = .ok found) :
    moduleExports doc site = .ok found.exports := by
  have asked : findings doc site = (do
      let entries ← moduleExports doc site
      pure (.ofExports entries)) := by
    simp [findings, kind]
  rw [asked] at read
  obtain ⟨entries, listed, rfl⟩ := bind_pure_eq_ok.mp read
  exact listed

/-! ## The whole tree -/

/-- The exports among the symbols of several sites are those of each. -/
theorem searchedNames_flatten (shown : List (List Symbol)) :
    searchedNames shown.flatten = shown.flatMap searchedNames := by
  induction shown with
  | nil => rfl
  | cons head tail ih =>
    rw [List.flatten_cons, List.flatMap_cons, ← ih]
    simp [searchedNames]

/-- At every site the exports of the symbols are among those of the outline. -/
theorem searchedNames_sublist_of_site (plain : site.kind = "assignment" → ∀ left,
      site.child? "left" = some left → left.text = .ok "__all__" → left.kind = "identifier")
    (read : findings doc site = .ok found) (made : siteSymbols doc site = .ok symbols) :
    (searchedNames symbols).Sublist (listedNames found.exports) := by
  by_cases augmented : site.kind = "augmented_assignment"
  · obtain rfl := value_unique (siteSymbols_of_augmented augmented) made
    exact List.nil_sublist _
  · rw [exports_of_site plain augmented read made]

/-- The symbols show the same exports as the outline at every site exactly when no augmented
assignment lists any. -/
theorem exports_agree_iff (decodable : tree.Decodable) (plain : PlainExports tree) :
    (∀ site ∈ Site.walk tree, ∀ found symbols, findings doc site = .ok found →
        siteSymbols doc site = .ok symbols →
        listedNames found.exports = searchedNames symbols) ↔
      ∀ site ∈ Site.walk tree, site.kind = "augmented_assignment" →
        moduleExports doc site = .ok [] := by
  constructor
  · intro agree site inside kind
    obtain ⟨found, read⟩ : Succeeds (findings doc site) :=
      succeeds_findings (Site.decodable_of_mem_walk decodable site inside)
    have same := agree site inside found [] read (siteSymbols_of_augmented kind)
    have nothing : found.exports = [] := List.map_eq_nil_iff.mp same
    rw [findings_of_augmented kind read, nothing]
  · intro nothing site inside found symbols read made
    by_cases kind : site.kind = "augmented_assignment"
    · obtain rfl := value_unique (siteSymbols_of_augmented kind) made
      have listed := value_unique (findings_of_augmented kind read) (nothing site inside kind)
      rw [listed]
      rfl
    · exact exports_of_site (plain site inside) kind read made

/-- The exports among the symbols of a module are exports of its outline, in the same order, and
they are all of them exactly when no augmented assignment of the module lists any. -/
theorem exports_searched_iff (tree : Tree) (doc : Document) (decodable : tree.Decodable)
    (plain : PlainExports tree) :
    ∃ listed searched, Python.outline tree doc = .ok listed ∧
      Python.symbols tree doc = .ok searched ∧
      (searchedNames searched).Sublist (listedNames listed.exports) ∧
      (listedNames listed.exports = searchedNames searched ↔
        ∀ site ∈ Site.walk tree, site.kind = "augmented_assignment" →
          moduleExports doc site = .ok []) := by
  obtain ⟨listed, read⟩ := succeeds_outline decodable doc
  obtain ⟨searched, made⟩ := succeeds_symbols decodable doc
  obtain ⟨founds, survey⟩ := exists_survey read
  obtain ⟨shown, seen, joined⟩ := bind_pure_eq_ok.mp made
  have total : listedNames listed.exports =
      founds.flatMap fun found => listedNames found.exports := by
    rw [survey.exports, listedNames, List.map_flatMap]
    rfl
  obtain ⟨part, same⟩ := flatMap_eq_iff_of_mapM
    (fun site inside _ _ read made => searchedNames_sublist_of_site (plain site inside) read made)
    survey.contributed seen
  refine ⟨listed, searched, read, made, ?_⟩
  rw [total, ← joined, searchedNames_flatten]
  exact ⟨part, same.trans (exports_agree_iff decodable plain)⟩

/-- The text of a module that lists one export and adds another. -/
def addedExportText : String := "__all__ = [\"a\"]\n__all__ += [\"b\"]\n"

/-- The tree of a module that lists one export and adds another. -/
def addedExport : Tree :=
  .covering "module" none 0 ⟨0, 0⟩ ⟨2, 0⟩ addedExportText
    [.covering "expression_statement" none 0 ⟨0, 0⟩ ⟨0, 15⟩ "__all__ = [\"a\"]"
      [.covering "assignment" none 0 ⟨0, 0⟩ ⟨0, 15⟩ "__all__ = [\"a\"]"
        [.covering "identifier" (some "left") 0 ⟨0, 0⟩ ⟨0, 7⟩ "__all__" [],
          .token "=" 8 ⟨0, 8⟩ ⟨0, 9⟩,
          .covering "list" (some "right") 10 ⟨0, 10⟩ ⟨0, 15⟩ "[\"a\"]"
            [.token "[" 10 ⟨0, 10⟩ ⟨0, 11⟩,
              .covering "string" none 11 ⟨0, 11⟩ ⟨0, 14⟩ "\"a\""
                [.covering "string_start" none 11 ⟨0, 11⟩ ⟨0, 12⟩ "\"" [],
                  .covering "string_content" none 12 ⟨0, 12⟩ ⟨0, 13⟩ "a" [],
                  .covering "string_end" none 13 ⟨0, 13⟩ ⟨0, 14⟩ "\"" []],
              .token "]" 14 ⟨0, 14⟩ ⟨0, 15⟩]]],
      .covering "expression_statement" none 16 ⟨1, 0⟩ ⟨1, 16⟩ "__all__ += [\"b\"]"
        [.covering "augmented_assignment" none 16 ⟨1, 0⟩ ⟨1, 16⟩ "__all__ += [\"b\"]"
          [.covering "identifier" (some "left") 16 ⟨1, 0⟩ ⟨1, 7⟩ "__all__" [],
            .token "+=" 24 ⟨1, 8⟩ ⟨1, 10⟩ (some "operator"),
            .covering "list" (some "right") 27 ⟨1, 11⟩ ⟨1, 16⟩ "[\"b\"]"
              [.token "[" 27 ⟨1, 11⟩ ⟨1, 12⟩,
                .covering "string" none 28 ⟨1, 12⟩ ⟨1, 15⟩ "\"b\""
                  [.covering "string_start" none 28 ⟨1, 12⟩ ⟨1, 13⟩ "\"" [],
                    .covering "string_content" none 29 ⟨1, 13⟩ ⟨1, 14⟩ "b" [],
                    .covering "string_end" none 30 ⟨1, 14⟩ ⟨1, 15⟩ "\"" []],
                .token "]" 31 ⟨1, 15⟩ ⟨1, 16⟩]]]]

/-- The sample assigns to plain names. -/
theorem plainExports_addedExport : PlainExports addedExport := by
  have plain : ((Site.walk addedExport).filter fun site => site.kind == "assignment").all
      (fun site => (site.child? "left").all fun left => left.kind == "identifier") = true := by
    rw [Site.walk_eq_preorder]
    decide +kernel
  intro site inside kind left present _
  have assigned := List.all_eq_true.mp plain site (List.mem_filter.mpr ⟨inside, by simp [kind]⟩)
  simpa [present] using assigned

/-- The outline and the symbols of the sample are read, and what the symbols show is part of what
the outline shows. -/
theorem exports_searched_iff_addedExport :
    addedExport.Decodable ∧ PlainExports addedExport ∧
      ∃ listed searched,
        Python.outline addedExport ⟨"p.py", addedExportText, _, rfl⟩ = .ok listed ∧
        Python.symbols addedExport ⟨"p.py", addedExportText, _, rfl⟩ = .ok searched ∧
        (searchedNames searched).Sublist (listedNames listed.exports) ∧
        (listedNames listed.exports = searchedNames searched ↔
          ∀ site ∈ Site.walk addedExport, site.kind = "augmented_assignment" →
            moduleExports ⟨"p.py", addedExportText, _, rfl⟩ site = .ok []) := by
  have decodable : addedExport.Decodable := by simp [addedExport]
  exact ⟨decodable, plainExports_addedExport,
    exports_searched_iff addedExport _ decodable plainExports_addedExport⟩

/-- The outline of the sample lists both exports, a search finds the first one only. -/
theorem augmented_exports_not_searched :
    (Python.outline addedExport ⟨"p.py", addedExportText, _, rfl⟩).map (fun outline =>
        listedNames outline.exports) = .ok [(some "a", 1), (some "b", 2)] ∧
      (Python.symbols addedExport ⟨"p.py", addedExportText, _, rfl⟩).map searchedNames =
        .ok [(some "a", 1)] := by
  simp only [Python.outline, Python.symbols, Site.walk_eq_preorder]
  decide +kernel

end SourceLens.Python
