import Mathlib.Algebra.Ring.Nat
import Mathlib.Data.List.Basic
import SourceLens.Grammar.Select
import SourceLens.Proofs.EcmaScript.Totality
import SourceLens.Proofs.Python.Totality
import SourceLens.Search.Match

/-!
# Filters of a search

A search of the symbols of a tree can ask for one category and for modifiers. The categories divide
the matches: every match of a search for all of them has one, and the search for a category gives
those that have it. More modifiers leave fewer matches, with one exception: a modifier that is also
the pattern makes the search forget the names of the symbols, and may find others than before. The
modifiers count as a set of lower-case texts (`search_filters_compose`).
-/
namespace SourceLens

namespace SearchRequest

/-- The same request for symbols of a type. -/
def forType (request : SearchRequest) (type : SymbolType) : SearchRequest := { request with type }

/-- The same request with other modifiers. -/
def withModifiers (request : SearchRequest) (modifiers : List String) : SearchRequest :=
  { request with modifiers }

/-- What the filters of a request do to the matches that requests give. -/
structure FiltersCompose (request : SearchRequest)
    (found : SearchRequest → List SearchMatch) : Prop where
  /-- Every match of the search for all categories has one category, and the search for a category
  gives those that have it, in the same order. -/
  divided : ∃ tagged : List (Category × SearchMatch),
    found (request.forType none) = tagged.map Prod.snd ∧
      ∀ category, found (request.forType (some category)) =
        (tagged.filter fun place => place.1 = category).map Prod.snd
  /-- The matches of a category are among all matches, in the same order. -/
  selected : ∀ category,
    (found (request.forType (some category))).Sublist (found (request.forType none))
  /-- Together the categories have as many matches as there are. -/
  total : (Category.all.map fun category =>
    (found (request.forType (some category))).length).sum = (found (request.forType none)).length
  /-- Only the set of the modifiers in lower case matters. -/
  modifiers : ∀ left right : List String,
    (∀ name, name ∈ left.map Text.lower ↔ name ∈ right.map Text.lower) →
      found (request.withModifiers left) = found (request.withModifiers right)
  /-- One more modifier that is not the pattern in lower case leaves some of the matches, in the
  same order. -/
  narrowed : ∀ (modifier : String) (fewer more : List String),
    Text.lower modifier ≠ Text.lower request.pattern →
    (∀ name, name ∈ more.map Text.lower ↔
      name = Text.lower modifier ∨ name ∈ fewer.map Text.lower) →
      (found (request.withModifiers more)).Sublist (found (request.withModifiers fewer))

end SearchRequest

/-! ## Categories -/

/-- The parts of a list by category have as many items together as the list. -/
theorem Category.sum_length_filter {α : Type} (categoryOf : α → Category) (items : List α) :
    (Category.all.map fun category =>
      (items.filter fun item => categoryOf item = category).length).sum = items.length := by
  induction items with
  | nil => simp [all]
  | cons item rest ih =>
    rw [List.length_cons, ← ih]
    simp only [List.filter_cons, all, List.map_cons, List.map_nil, List.sum_cons, List.sum_nil]
    cases categoryOf item <;> simp <;> omega

namespace SymbolFilter

variable {request : SearchRequest} {test : String → Bool} {symbol : Symbol}

/-- A symbol is asked for in a category exactly when it has the category and is asked for at all. -/
theorem keeps_forType (category : Category) :
    keeps (request.forType (some category)) test symbol =
      (decide (symbol.category = category) && keeps (request.forType none) test symbol) := by
  simp [keeps, suits, wantsCategory, required, namesModifier, SearchRequest.forType, Bool.and_assoc]

/-- A symbol that is asked for with more modifiers is asked for with fewer, provided the pattern is
not one of the modifiers that are left out. -/
theorem keeps_of_more {fewer more : List String}
    (included : ∀ name ∈ fewer.map Text.lower, name ∈ more.map Text.lower)
    (named : Text.lower request.pattern ∈ more.map Text.lower →
      Text.lower request.pattern ∈ fewer.map Text.lower)
    (kept : keeps (request.withModifiers more) test symbol = true) :
    keeps (request.withModifiers fewer) test symbol = true := by
  simp only [keeps, suits, wantsCategory, required, namesModifier, SearchRequest.withModifiers,
    Bool.and_eq_true, Bool.or_eq_true, List.all_eq_true, List.contains_iff_mem] at kept ⊢
  obtain ⟨⟨wanted, carried⟩, matched⟩ := kept
  exact ⟨⟨wanted, fun name asked => carried name (included name asked)⟩, matched.imp_left named⟩

end SymbolFilter

namespace SearchMatch

variable {settings : SearchSettings} {request : SearchRequest} {test : String → Bool}
  {doc : Document} {symbols : List Symbol}

/-- The matches for a category are those of the symbols asked for at all that have it. -/
theorem ofSymbols_forType (category : Category) :
    ofSymbols settings (request.forType (some category)) test doc symbols =
      ((symbols.filter (SymbolFilter.keeps (request.forType none) test)).filter fun symbol =>
        symbol.category = category).map (ofSymbol doc (request.window settings)) := by
  rw [ofSymbols, List.filter_filter]
  congr 2
  funext symbol
  exact SymbolFilter.keeps_forType category

/-- Fewer modifiers give all the matches that more of them give, in the same order. -/
theorem sublist_of_more {fewer more : List String}
    (included : ∀ name ∈ fewer.map Text.lower, name ∈ more.map Text.lower)
    (named : Text.lower request.pattern ∈ more.map Text.lower →
      Text.lower request.pattern ∈ fewer.map Text.lower) :
    (ofSymbols settings (request.withModifiers more) test doc symbols).Sublist
      (ofSymbols settings (request.withModifiers fewer) test doc symbols) :=
  (List.monotone_filter_right symbols fun _ kept =>
    SymbolFilter.keeps_of_more included named kept).map _

end SearchMatch

/-- Whatever the symbols of a document are, the filters of a search of them compose. -/
theorem SearchRequest.filtersCompose (settings : SearchSettings) (request : SearchRequest)
    (test : String → Bool) (doc : Document) (symbols : List Symbol) :
    request.FiltersCompose fun asked => SearchMatch.ofSymbols settings asked test doc symbols where
  divided := by
    let kept := symbols.filter (SymbolFilter.keeps (request.forType none) test)
    let place := SearchMatch.ofSymbol doc (request.window settings)
    refine ⟨kept.map fun symbol => (symbol.category, place symbol), ?_, fun category => ?_⟩
    · rw [List.map_map]
      rfl
    · rw [SearchMatch.ofSymbols_forType, List.filter_map, List.map_map]
      rfl
  selected category := by
    rw [SearchMatch.ofSymbols_forType]
    exact List.filter_sublist.map _
  total := by
    simp only [SearchMatch.ofSymbols_forType, List.length_map]
    rw [Category.sum_length_filter, SearchMatch.ofSymbols, List.length_map]
  modifiers left right same := by
    refine List.Sublist.antisymm ?_ ?_
    · exact SearchMatch.sublist_of_more (fun name => (same name).mpr) (same _).mp
    · exact SearchMatch.sublist_of_more (fun name => (same name).mp) (same _).mpr
  narrowed modifier fewer more other same := by
    refine SearchMatch.sublist_of_more (fun name asked => (same name).mpr (.inr asked)) ?_
    intro named
    exact ((same _).mp named).resolve_left other.symm

/-- A decodable tree has its symbols in every language. -/
theorem Language.succeeds_symbols {language : Language} {tree : Tree} (decodable : tree.Decodable)
    (doc : Document) : Reading.Succeeds (language.grammar.symbols tree doc) := by
  cases language with
  | python => exact Python.succeeds_symbols decodable doc
  | javascript | typescript | tsx => exact EcmaScript.succeeds_symbols decodable doc

/-- The types of a request are the six categories and the wish for all of them. The symbols of a
tree are read in either grammar unless the tree has a text that cannot be read, and then the filters
of a search of them compose, whatever names are tested by. -/
theorem search_filters_compose (language : Language) (tree : Tree) (doc : Document)
    (settings : SearchSettings) (request : SearchRequest) (test : String → Bool) :
    ["function", "class", "import", "export", "variable", "call", "all"].map SymbolType.ofName? =
        Category.all.map (fun category => some (some category)) ++ [some none] ∧
      ((¬tree.Decodable ∧ ∃ fault, language.grammar.symbols tree doc = .error fault) ∨
        ∃ symbols, language.grammar.symbols tree doc = .ok symbols ∧
          request.FiltersCompose fun asked =>
            SearchMatch.ofSymbols settings asked test doc symbols) := by
  refine ⟨by decide, ?_⟩
  cases read : language.grammar.symbols tree doc with
  | ok symbols => exact .inr ⟨symbols, rfl, request.filtersCompose settings test doc symbols⟩
  | error fault =>
    refine .inl ⟨fun decodable => ?_, fault, rfl⟩
    obtain ⟨symbols, made⟩ := Language.succeeds_symbols decodable doc
    cases read.symm.trans made

/-- A modifier that is also the pattern finds a symbol whose name is not found. -/
example :
    let symbol : Symbol := ⟨"f", 1, 0, "function_declaration", .functions, ["async"], none, none⟩
    SymbolFilter.keeps { pattern := "async" } (· == "async") symbol = false ∧
      SymbolFilter.keeps { pattern := "async", modifiers := ["ASYNC"] } (· == "async") symbol =
        true := by
  decide

end SourceLens
