import Mathlib.Data.List.Pairwise
import SourceLens.Proofs.Outline.Coverage
import SourceLens.Proofs.Outline.Separation

/-!
# Declared functions before bound ones

A declared function goes before the bound ones of its entity. Among the functions that are kept this
always holds, since they are apart. Among all functions it holds but for one case: a declared
function that was merged into another declared one stands between that one and a bound function,
near to both (`Bridges`). The bound function is then kept, although it is near to a declared one.
-/
namespace SourceLens.FunctionEntry

variable {tolerance : Int} {entries : List FunctionEntry} {left right known declared bound :
  FunctionEntry}

/-- No bound function is kept that is one entity with a declared function. -/
def DeclaredWins (tolerance : Int) (entries : List FunctionEntry) : Prop :=
  ∀ bound ∈ merge tolerance entries, bound.isDeclared = false →
    ∀ declared ∈ entries, declared.isDeclared = true → bound.name = declared.name →
      tolerance < ((bound.line - declared.line).natAbs : Int)

/-- A declared function stands between another one and a bound one, near to both. -/
structure Bridges (tolerance : Int) (known bridge bound : FunctionEntry) : Prop where
  /-- The function in the middle is declared. -/
  isDeclared : bridge.isDeclared = true
  /-- It is one entity with the declared function. -/
  nearKnown : sameEntity tolerance known bridge = true
  /-- It is one entity with the bound function. -/
  nearBound : sameEntity tolerance bridge bound = true
  /-- Its line is between theirs. -/
  between : (known.line < bridge.line ∧ bridge.line < bound.line) ∨
    (bound.line < bridge.line ∧ bridge.line < known.line)

/-- Two different functions of a list in which functions are apart are different entities. -/
theorem Separated.differ (separated : Separated tolerance entries) (first : left ∈ entries)
    (second : right ∈ entries) (other : left ≠ right) :
    sameEntity tolerance left right = false := by
  have : Std.Symm fun left right => sameEntity tolerance left right = false :=
    ⟨fun left right apart => by rwa [sameEntity_comm]⟩
  exact (separated_iff.mp separated).forall first second other

/-- A declared function is different from a bound one. -/
theorem ne_of_isDeclared (isDeclared : declared.isDeclared = true)
    (isBound : bound.isDeclared = false) : declared ≠ bound := by
  rintro rfl
  simp [isDeclared] at isBound

/-- A declared function and a bound one that are both kept are different entities. -/
theorem differ_of_mem_merge (first : declared ∈ merge tolerance entries)
    (isDeclared : declared.isDeclared = true) (second : bound ∈ merge tolerance entries)
    (isBound : bound.isDeclared = false) : sameEntity tolerance declared bound = false :=
  (separated_merge tolerance entries).differ first second (ne_of_isDeclared isDeclared isBound)

/-- A function near to two others that are apart is between them. -/
theorem between_of_apart (toKnown : sameEntity tolerance known declared = true)
    (toBound : sameEntity tolerance declared bound = true)
    (apart : sameEntity tolerance known bound = false) :
    (known.line < declared.line ∧ declared.line < bound.line) ∨
      (bound.line < declared.line ∧ declared.line < known.line) := by
  obtain ⟨name, near⟩ := sameEntity_iff.mp toKnown
  obtain ⟨name', near'⟩ := sameEntity_iff.mp toBound
  have far : tolerance < ((known.line - bound.line).natAbs : Int) := by
    rw [← Bool.not_eq_true, sameEntity_iff, not_and, Int.not_le] at apart
    exact apart (name.trans name')
  omega

/-- A declared function near to a bound one that is kept was merged into another declared one, and
bridges the two. -/
theorem exists_bridges (kept : bound ∈ merge tolerance entries) (isBound : bound.isDeclared = false)
    (member : declared ∈ entries) (isDeclared : declared.isDeclared = true)
    (near : sameEntity tolerance declared bound = true) :
    declared ∉ merge tolerance entries ∧
      ∃ known ∈ merge tolerance entries, known.isDeclared = true ∧
        Bridges tolerance known declared bound := by
  have absent : declared ∉ merge tolerance entries := by
    intro inside
    simp [differ_of_mem_merge inside isDeclared kept isBound] at near
  rcases settled_merge_of_isDeclared member isDeclared with inside | ⟨known, inside, wins, same⟩
  · exact absurd inside absent
  · have apart := differ_of_mem_merge inside wins kept isBound
    exact ⟨absent, known, inside, wins, isDeclared, same, near, between_of_apart same near apart⟩

/-- Declared functions go before bound ones when no two of them are one entity. -/
theorem declaredWins_iff :
    DeclaredWins tolerance entries ↔
      ∀ bound ∈ merge tolerance entries, bound.isDeclared = false →
        ∀ declared ∈ entries, declared.isDeclared = true →
          sameEntity tolerance declared bound = false := by
  unfold DeclaredWins
  refine forall₄_congr fun bound _ _ declared => forall₂_congr fun _ _ => ?_
  rw [sameEntity_comm, ← Bool.not_eq_true, sameEntity_iff, not_and, Int.not_le]

/-- Declared functions go before bound ones when there is no bridge between those that are kept. -/
theorem declaredWins_of_unbridged
    (unbridged : ∀ known ∈ merge tolerance entries, known.isDeclared = true →
      ∀ bound ∈ merge tolerance entries, bound.isDeclared = false →
        ∀ bridge ∈ entries, bridge ∉ merge tolerance entries →
          ¬Bridges tolerance known bridge bound) : DeclaredWins tolerance entries := by
  rw [declaredWins_iff]
  intro bound kept isBound declared member isDeclared
  by_contra near
  obtain ⟨absent, known, inside, wins, bridges⟩ :=
    exists_bridges kept isBound member isDeclared (by simpa using near)
  exact unbridged known inside wins bound kept isBound declared member absent bridges

/-- There is no bridge from one declared function to another when declared functions are apart. -/
theorem not_bridges_of_separated (separated : Separated tolerance (entries.filter (·.isDeclared)))
    (inside : known ∈ merge tolerance entries) (wins : known.isDeclared = true)
    (member : declared ∈ entries) (absent : declared ∉ merge tolerance entries) :
    ¬Bridges tolerance known declared bound := by
  intro bridges
  have other : known ≠ declared := by
    rintro rfl
    exact absent inside
  have apart : sameEntity tolerance known declared = false := by
    apply separated.differ _ _ other
    · exact List.mem_filter.mpr ⟨mem_of_mem_merge inside, wins⟩
    · exact List.mem_filter.mpr ⟨member, bridges.isDeclared⟩
  simp [bridges.nearKnown] at apart

/-- Declared functions go before bound ones exactly when no declared function that was merged away
bridges a declared and a bound function that are kept; in particular when all declared functions are
apart. -/
theorem declared_wins_iff_unbridged (tolerance : Int) (entries : List FunctionEntry) :
    (DeclaredWins tolerance entries ↔
      ∀ known ∈ merge tolerance entries, known.isDeclared = true →
        ∀ bound ∈ merge tolerance entries, bound.isDeclared = false →
          ∀ bridge ∈ entries, bridge ∉ merge tolerance entries →
            ¬Bridges tolerance known bridge bound) ∧
    (Separated tolerance (entries.filter (·.isDeclared)) → DeclaredWins tolerance entries) := by
  constructor
  · constructor
    · intro wins known _ _ bound kept isBound bridge member _ bridges
      have apart := declaredWins_iff.mp wins bound kept isBound bridge member bridges.isDeclared
      simp [bridges.nearBound] at apart
    · exact declaredWins_of_unbridged
  · intro separated
    apply declaredWins_of_unbridged
    intro known inside wins bound _ _ bridge member absent
    exact not_bridges_of_separated separated inside wins member absent

/-- Declared functions that are apart, one of which supplants a bound function, and a bound function
that is near to neither. -/
def spaced : List FunctionEntry :=
  [named 1 "arrow_function", named 3 declaredForm, named 6 "arrow_function", named 9 declaredForm]

/-- Only the bound function that is near to no declared one is kept. -/
theorem declared_wins_iff_unbridged_spaced :
    Separated 2 (spaced.filter (·.isDeclared)) ∧ DeclaredWins 2 spaced ∧
      merge 2 spaced = [named 3 declaredForm, named 6 "arrow_function", named 9 declaredForm] := by
  have separated : Separated 2 (spaced.filter (·.isDeclared)) := by
    have declared : spaced.filter (·.isDeclared) =
        [named 3 declaredForm, named 9 declaredForm] := by decide +kernel
    rw [declared, separated_iff]
    decide +kernel
  exact ⟨separated, (declared_wins_iff_unbridged 2 spaced).2 separated, by decide +kernel⟩

/-- A bound function, and two declared functions of one entity of which only the second is near to
it. -/
def bridged : List FunctionEntry :=
  [named 5 "arrow_function", named 1 declaredForm, named 3 declaredForm]

/-- The second declared function is dropped for the first, and the bound function near to it is
kept. -/
theorem bound_kept_beside_declared :
    merge 2 bridged = [named 5 "arrow_function", named 1 declaredForm] ∧
      ¬DeclaredWins 2 bridged := by
  have left : merge 2 bridged = [named 5 "arrow_function", named 1 declaredForm] := by
    decide +kernel
  refine ⟨left, fun wins => ?_⟩
  have far := wins (named 5 "arrow_function") (by simp [left]) (by decide) (named 3 declaredForm)
    (by simp [bridged]) (by decide) rfl
  simp [named] at far

end SourceLens.FunctionEntry
