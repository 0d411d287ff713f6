import SourceLens.Proofs.Reading
import SourceLens.Proofs.Tree.Decodable

/-!
# Readings at decodable sites

The readings that every grammar shares succeed at decodable sites: the texts of sites, and symbols
with the scopes around them.
-/
namespace SourceLens

open Reading

/-- The text of a decodable site is read. -/
theorem Site.Decodable.succeeds_text {site : Site} (decodable : site.Decodable) :
    Succeeds site.text :=
  decodable.exists_text

/-- The text of a site that may be absent is read. -/
theorem succeeds_textOr {site? : Option Site} (decodable : ∀ site ∈ site?, site.Decodable) :
    Succeeds (textOr site?) := by
  cases site? with
  | none => exact succeeds_pure ""
  | some site => exact (decodable site rfl).succeeds_text

/-- The text of a site that may be absent is read, as one that may be absent. -/
theorem succeeds_textOf? {site? : Option Site} (decodable : ∀ site ∈ site?, site.Decodable) :
    Succeeds (textOf? site?) := by
  cases site? with
  | none => exact succeeds_pure none
  | some site =>
    exact succeeds_bind (decodable site rfl).succeeds_text fun content _ => succeeds_pure _

/-- The text of a site that may be absent is read, as a list. -/
theorem succeeds_textsOf {site? : Option Site} (decodable : ∀ site ∈ site?, site.Decodable) :
    Succeeds (textsOf site?) :=
  succeeds_mapM fun site inside => (decodable site (Option.mem_toList.mp inside)).succeeds_text

namespace Site.Decodable

variable {site : Site}

/-- The text of the child with a field is read. -/
theorem succeeds_textOr_child? (decodable : site.Decodable) (field : String) :
    Succeeds (textOr (site.child? field)) :=
  succeeds_textOr fun _ found => decodable.of_child? found

/-- What a site adds to the scope below it is read. -/
theorem succeeds_segment (decodable : site.Decodable) (scopes : List (String × String)) :
    Succeeds (site.segment scopes) := by
  unfold segment
  split
  · next found =>
    exact succeeds_bind (decodable.of_child? found).succeeds_text fun _ _ => succeeds_pure _
  · exact succeeds_pure none

/-- The scopes met on the way up from a site are read. -/
theorem succeeds_climb (decodable : site.Decodable) (scopes : List (String × String))
    (met : List String) : Succeeds (site.climb scopes met) := by
  induction site generalizing met with
  | root tree => exact succeeds_pure met
  | child parent elders tree ih =>
    exact succeeds_bind (decodable.1.succeeds_segment scopes) fun own _ => ih decodable.1 _

/-- The scopes around a site are read. -/
theorem succeeds_segments (decodable : site.Decodable) (scopes : List (String × String)) :
    Succeeds (site.segments scopes) :=
  decodable.succeeds_climb scopes []

/-- The symbol at a site is read. -/
theorem succeeds_symbol (decodable : site.Decodable) (scopes : List (String × String))
    (doc : Document) (name form : String) (category : Category) (modifiers : List String)
    (documented : Option String) :
    Succeeds (site.symbol scopes doc name form category modifiers documented) := by
  refine succeeds_bind ?_ fun scope _ => succeeds_pure _
  exact succeeds_bind (decodable.succeeds_segments scopes) fun parts _ => succeeds_pure _

end Site.Decodable

end SourceLens
