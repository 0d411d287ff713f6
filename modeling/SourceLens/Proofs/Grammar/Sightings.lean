import SourceLens.Proofs.Grammar.Survey

/-!
# Outlines beside symbols

The outline and the symbols of a tree are read off the same sites, one site after the other. A
relation between outlines and lists of symbols that holds at every site, and that is kept when two
parts are put together, holds between the whole outline and all symbols (`agree_of_sites`). The
relations in question compare what the entries of an outline and the symbols show of a declaration:
its name, its line and column, and its documentation (`place`).
-/
namespace SourceLens

open Reading

/-- What a function shows of itself: its name, line, column and documentation. -/
def FunctionEntry.place (entry : FunctionEntry) : String × Int × Int × Option String :=
  (entry.name, entry.line, entry.column, entry.doc)

/-- What a class shows of itself: its name, line, column and documentation. -/
def ClassEntry.place (entry : ClassEntry) : String × Int × Int × Option String :=
  (entry.name, entry.line, entry.column, entry.doc)

/-- What a symbol shows of itself: its name, line, column and documentation. -/
def Symbol.place (symbol : Symbol) : String × Int × Int × Option String :=
  (symbol.name, symbol.line, symbol.column, symbol.doc)

/-- The symbols of a category. -/
def symbolsOf (category : Category) (symbols : List Symbol) : List Symbol :=
  symbols.filter (·.category == category)

/-- A category has no symbols among none. -/
@[simp]
theorem symbolsOf_nil (category : Category) : symbolsOf category [] = [] := rfl

/-- The symbols of a category, one by one. -/
@[simp]
theorem symbolsOf_cons (category : Category) (symbol : Symbol) (rest : List Symbol) :
    symbolsOf category (symbol :: rest) =
      (if symbol.category = category then [symbol] else []) ++ symbolsOf category rest := by
  by_cases same : symbol.category = category <;> simp [symbolsOf, same]

/-- The symbols of a category in two lists. -/
@[simp]
theorem symbolsOf_append (category : Category) (first second : List Symbol) :
    symbolsOf category (first ++ second) = symbolsOf category first ++ symbolsOf category second :=
  List.filter_append ..

/-- Symbols of one category are all of it, and none of another. -/
theorem symbolsOf_of_forall {own : Category} {symbols : List Symbol}
    (each : ∀ symbol ∈ symbols, symbol.category = own) (category : Category) :
    symbolsOf category symbols = if own = category then symbols else [] := by
  by_cases same : own = category
  · rw [if_pos same]
    exact List.filter_eq_self.mpr fun symbol inside => by simp [each symbol inside, same]
  · rw [if_neg same]
    exact List.filter_eq_nil_iff.mpr fun symbol inside => by simp [each symbol inside, same]

/-- The symbol at a site shows what it is made from; only its scope is read. -/
theorem Site.exists_scope_of_symbol {scopes : List (String × String)} {doc : Document}
    {site : Site} {name form : String} {category : Category} {modifiers : List String}
    {documented : Option String} {symbol : Symbol}
    (read : site.symbol scopes doc name form category modifiers documented = .ok symbol) :
    ∃ scope, symbol = ⟨name, site.startLine, site.columnIn doc, form, category, modifiers, scope,
      documented⟩ := by
  obtain ⟨scope, _, rfl⟩ := bind_pure_eq_ok.mp read
  exact ⟨scope, rfl⟩

/-- Symbols that are made at one site for the items of a list show the names of the items, and are
all of one category. -/
theorem Site.symbols_of_mapM {α : Type} {scopes : List (String × String)} {doc : Document}
    {site : Site} {name : α → String} {form : String} {category : Category} {items : List α}
    {symbols : List Symbol}
    (read : (items.mapM fun item => site.symbol scopes doc (name item) form category [] none) =
      .ok symbols) :
    symbols.map (fun symbol => (symbol.name, symbol.line)) =
        items.map (fun item => (name item, site.startLine)) ∧
      ∀ symbol ∈ symbols, symbol.category = category ∧ symbol.form = form := by
  constructor
  · refine (map_eq_of_mapM (fun item symbol made => ?_) read).symm
    obtain ⟨scope, rfl⟩ := exists_scope_of_symbol made
    rfl
  · intro symbol inside
    obtain ⟨pairs, _, rfl, each⟩ := exists_pairs read
    obtain ⟨pair, here, rfl⟩ := List.mem_map.mp inside
    obtain ⟨scope, made⟩ := exists_scope_of_symbol (each pair here)
    rw [made]
    exact ⟨rfl, rfl⟩

/-- Two outlines put together. -/
def Outline.join (first second : Outline) : Outline :=
  ⟨first.functions ++ second.functions, first.classes ++ second.classes,
    first.imports ++ second.imports, first.exports ++ second.exports⟩

/-- The part of an outline that one site contributes, given the entries of the classes there. -/
def Findings.part (found : Findings) (classes : List ClassEntry) : Outline :=
  ⟨found.functions, classes, found.imports, found.exports⟩

/-- The entries of the classes at one site: the entry of the site if it is a class, and none
otherwise. -/
inductive ClassesAt (isClass : Site → Bool) (classEntry : Site → Reading ClassEntry)
    (site : Site) : List ClassEntry → Prop
  /-- A class has an entry. -/
  | one (entry : ClassEntry) (isClassSite : isClass site = true)
      (read : classEntry site = .ok entry) : ClassesAt isClass classEntry site [entry]
  /-- Another site has none. -/
  | none (noClass : isClass site = false) : ClassesAt isClass classEntry site []

/-- A site that is no class has no entries of classes. -/
theorem ClassesAt.eq_nil {isClass : Site → Bool} {classEntry : Site → Reading ClassEntry}
    {site : Site} {classes : List ClassEntry} (listed : ClassesAt isClass classEntry site classes)
    (noClass : isClass site = false) : classes = [] := by
  cases listed with
  | one entry isClassSite => simp [noClass] at isClassSite
  | none => rfl

/-- A relation between outlines and symbols that holds at every site, and that is kept when parts
are put together, holds between all that the sites contribute and all their symbols. -/
theorem agree_of_sites {agrees : Outline → List Symbol → Prop}
    {findings : Site → Reading Findings} {isClass : Site → Bool}
    {classEntry : Site → Reading ClassEntry} {siteSymbols : Site → Reading (List Symbol)}
    (nothing : agrees .empty [])
    (joined : ∀ first second left right, agrees first left → agrees second right →
      agrees (first.join second) (left ++ right))
    (each : ∀ site found classes symbols, findings site = .ok found →
      ClassesAt isClass classEntry site classes → siteSymbols site = .ok symbols →
      agrees (found.part classes) symbols)
    {sites : List Site} {founds : List Findings} {classes : List ClassEntry}
    {shown : List (List Symbol)} (contributed : sites.mapM findings = .ok founds)
    (entries : (sites.filter isClass).mapM classEntry = .ok classes)
    (seen : sites.mapM siteSymbols = .ok shown) :
    agrees ⟨founds.flatMap (·.functions), classes, founds.flatMap (·.imports),
      founds.flatMap (·.exports)⟩ shown.flatten := by
  induction sites generalizing founds classes shown with
  | nil =>
    obtain rfl := pure_eq_ok.mp contributed
    obtain rfl := pure_eq_ok.mp entries
    obtain rfl := pure_eq_ok.mp seen
    exact nothing
  | cons site rest ih =>
    rw [List.mapM_cons] at contributed seen
    obtain ⟨found, here, contributed⟩ := bind_eq_ok.mp contributed
    obtain ⟨_, contributedRest, rfl⟩ := bind_pure_eq_ok.mp contributed
    obtain ⟨symbols, made, seen⟩ := bind_eq_ok.mp seen
    obtain ⟨_, seenRest, rfl⟩ := bind_pure_eq_ok.mp seen
    cases isClassSite : isClass site with
    | false =>
      rw [List.filter_cons_of_neg (by simp [isClassSite])] at entries
      have first := each site found [] symbols here (.none isClassSite) made
      exact joined _ _ _ _ first (ih contributedRest entries seenRest)
    | true =>
      rw [List.filter_cons_of_pos isClassSite, List.mapM_cons] at entries
      obtain ⟨entry, read, entries⟩ := bind_eq_ok.mp entries
      obtain ⟨_, entriesRest, rfl⟩ := bind_pure_eq_ok.mp entries
      have first := each site found [entry] symbols here (.one entry isClassSite read) made
      exact joined _ _ _ _ first (ih contributedRest entriesRest seenRest)

/-- Lists that show the same still do after a test of what they show. -/
theorem map_filter_eq_of_map_eq {α β γ : Type} {left : α → γ} {right : β → γ} {first : List α}
    {second : List β} (keep : γ → Bool) (same : first.map left = second.map right) :
    (first.filter fun item => keep (left item)).map left =
      (second.filter fun item => keep (right item)).map right := by
  have kept := congrArg (List.filter keep) same
  rw [List.filter_map, List.filter_map] at kept
  exact kept

end SourceLens
