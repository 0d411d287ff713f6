import Mathlib.Data.List.Forall2
import SourceLens.Grammar

/-!
# Laws of readings

A reading is a value or the fault of the first node whose bytes are not text. This module says what
a successful reading consists of: a sequence of readings succeeds when each of them does, a reading
of a list is a reading of every item in order (`mapM_eq_ok_iff`), and two readings of one list agree
as a whole when they agree item by item (`flatMap_eq_iff_of_mapM`). A search through a list whose
readings all succeed is the plain search through what they find (`findSomeM?_map_eq_ok`).
-/
namespace SourceLens.Reading

variable {α β γ δ : Type}

/-- A reading that gives a value. -/
def Succeeds (reading : Reading α) : Prop := ∃ value, reading = .ok value

/-- A reading gives one value. -/
theorem value_unique {reading : Reading α} {first second : α} (left : reading = .ok first)
    (right : reading = .ok second) : first = second :=
  Except.ok.inj (left.symm.trans right)

/-- Two readings in a row, whatever their faults are, give what the second one gives on the value of
the first. -/
theorem bind_eq_ok {ε : Type} {first : Except ε α} {next : α → Except ε β} {result : β} :
    (first >>= next) = .ok result ↔ ∃ value, first = .ok value ∧ next value = .ok result := by
  cases first with
  | error fault => simp [bind, Except.bind]
  | ok value => simp [bind, Except.bind]

/-- Nothing is read, and the value is given. -/
theorem pure_eq_ok {ε : Type} {value result : α} :
    (pure value : Except ε α) = .ok result ↔ value = result := by
  simp [pure, Except.pure]

/-- A reading whose value is changed gives the changed value. -/
theorem bind_pure_eq_ok {ε : Type} {reading : Except ε α} {change : α → β} {result : β} :
    (reading >>= fun value => pure (change value)) = .ok result ↔
      ∃ value, reading = .ok value ∧ change value = result := by
  simp only [bind_eq_ok, pure_eq_ok]

/-- A value that is given without reading. -/
theorem succeeds_pure (value : α) : Succeeds (pure value : Reading α) := ⟨value, rfl⟩

/-- Two readings in a row succeed when the first does, and the second on its value. -/
theorem succeeds_bind {first : Reading α} {next : α → Reading β} (head : Succeeds first)
    (tail : ∀ value, first = .ok value → Succeeds (next value)) : Succeeds (first >>= next) := by
  obtain ⟨value, read⟩ := head
  obtain ⟨result, found⟩ := tail value read
  exact ⟨result, bind_eq_ok.mpr ⟨value, read, found⟩⟩

/-- A reading of a list succeeds when the reading of every item does. -/
theorem succeeds_mapM {read : α → Reading β} {items : List α}
    (each : ∀ item ∈ items, Succeeds (read item)) : Succeeds (items.mapM read) := by
  induction items with
  | nil => exact succeeds_pure []
  | cons head tail ih =>
    rw [List.mapM_cons]
    refine succeeds_bind (each head (by simp)) fun value _ => ?_
    refine succeeds_bind (ih fun item inside => each item (by simp [inside])) fun values _ => ?_
    exact succeeds_pure _

/-- Two readings that agree on the items of a list agree on the list. -/
theorem mapM_congr {first second : α → Reading β} {items : List α}
    (same : ∀ item ∈ items, first item = second item) : items.mapM first = items.mapM second := by
  induction items with
  | nil => rfl
  | cons head tail ih =>
    rw [List.mapM_cons, List.mapM_cons, same head (by simp),
      ih fun item inside => same item (by simp [inside])]

/-- A list that is put together from parts is read part by part. -/
theorem mapM_flatMap {read : β → Reading γ} {part : α → List β} (items : List α) :
    (items.flatMap part).mapM read = (do
      let results ← items.mapM fun item => (part item).mapM read
      pure results.flatten) := by
  induction items with
  | nil => rfl
  | cons head tail ih => simp [List.mapM_append, ih]

/-- A selective reading of a list succeeds when the reading of every item does. -/
theorem succeeds_filterMapM {read : α → Reading (Option β)} {items : List α}
    (each : ∀ item ∈ items, Succeeds (read item)) : Succeeds (items.filterMapM read) := by
  induction items with
  | nil => exact succeeds_pure []
  | cons head tail ih =>
    rw [List.filterMapM_cons]
    have rest := ih fun item inside => each item (by simp [inside])
    refine succeeds_bind (each head (by simp)) fun value _ => ?_
    cases value with
    | none => exact rest
    | some value => exact succeeds_bind rest fun values _ => succeeds_pure _

/-- A search through a list succeeds when the reading of every item does. -/
theorem succeeds_findSomeM? {read : α → Reading (Option β)} {items : List α}
    (each : ∀ item ∈ items, Succeeds (read item)) : Succeeds (items.findSomeM? read) := by
  induction items with
  | nil => exact succeeds_pure none
  | cons head tail ih =>
    rw [List.findSomeM?_cons]
    refine succeeds_bind (each head (by simp)) fun value _ => ?_
    cases value with
    | none => exact ih fun item inside => each item (by simp [inside])
    | some value => exact succeeds_pure _

/-- What a selective reading of a list keeps was read from one of its items. -/
theorem exists_of_mem_filterMapM {read : α → Reading (Option β)} {items : List α}
    {results : List β} {value : β} (done : items.filterMapM read = .ok results)
    (kept : value ∈ results) : ∃ item ∈ items, read item = .ok (some value) := by
  induction items generalizing results with
  | nil =>
    obtain rfl := pure_eq_ok.mp done
    simp at kept
  | cons head tail ih =>
    rw [List.filterMapM_cons, bind_eq_ok] at done
    obtain ⟨found, read, rest⟩ := done
    cases found with
    | none =>
      obtain ⟨item, inside, here⟩ := ih rest kept
      exact ⟨item, by simp [inside], here⟩
    | some first =>
      obtain ⟨others, tail, joined⟩ := bind_eq_ok.mp rest
      obtain rfl := pure_eq_ok.mp joined
      rcases List.mem_cons.mp kept with rfl | later
      · exact ⟨head, by simp, read⟩
      · obtain ⟨item, inside, here⟩ := ih tail later
        exact ⟨item, by simp [inside], here⟩

/-- The results of reading a list are the readings of its items in order. -/
theorem mapM_eq_ok_iff {read : α → Reading β} {items : List α} {results : List β} :
    items.mapM read = .ok results ↔
      List.Forall₂ (fun item result => read item = .ok result) items results := by
  induction items generalizing results with
  | nil => rw [List.mapM_nil, pure_eq_ok, List.forall₂_nil_left_iff, eq_comm]
  | cons head tail ih =>
    simp only [List.mapM_cons, bind_eq_ok, pure_eq_ok, List.forall₂_cons_left_iff, ih]
    constructor
    · rintro ⟨value, read, values, rest, rfl⟩
      exact ⟨value, values, read, rest, rfl⟩
    · rintro ⟨value, values, read, rest, rfl⟩
      exact ⟨value, read, values, rest, rfl⟩

/-- What a reading keeps of every item it keeps of the list. -/
theorem map_eq_of_mapM {read : α → Reading β} {left : α → γ} {right : β → γ} {items : List α}
    {results : List β} (keeps : ∀ item result, read item = .ok result → left item = right result)
    (done : items.mapM read = .ok results) : items.map left = results.map right := by
  rw [mapM_eq_ok_iff] at done
  induction done with
  | nil => rfl
  | cons head _ ih => rw [List.map_cons, List.map_cons, keeps _ _ head, ih]

/-- Two readings of a list, one of which shows at every item some of what the other shows, show the
same in total exactly when they show the same at every item. -/
theorem flatMap_eq_iff_of_mapM {read : α → Reading β} {other : α → Reading γ} {left : β → List δ}
    {right : γ → List δ} {items : List α} {results : List β} {others : List γ}
    (part : ∀ item ∈ items, ∀ first second, read item = .ok first → other item = .ok second →
      (right second).Sublist (left first))
    (first : items.mapM read = .ok results) (second : items.mapM other = .ok others) :
    (others.flatMap right).Sublist (results.flatMap left) ∧
      (results.flatMap left = others.flatMap right ↔ ∀ item ∈ items, ∀ first second,
        read item = .ok first → other item = .ok second → left first = right second) := by
  rw [mapM_eq_ok_iff] at first second
  induction first generalizing others with
  | nil =>
    cases second
    simp
  | @cons item result items results head _ ih =>
    cases second with
    | @cons _ shown _ others head' tail' =>
      obtain ⟨rest, same⟩ := ih (fun item inside => part item (by simp [inside])) tail'
      have here := part item (by simp) result shown head head'
      refine ⟨by simpa using here.append rest, ?_⟩
      simp only [List.flatMap_cons, List.forall_mem_cons, ← same]
      constructor
      · intro total
        -- neither part is longer on the right, so both parts have the same length
        have fewer := here.length_le
        have fewerRest := rest.length_le
        have lengths := congrArg List.length total
        simp only [List.length_append] at lengths
        obtain ⟨equal, equalRest⟩ := List.append_inj total (by omega)
        refine ⟨fun first second read other => ?_, equalRest⟩
        rw [← value_unique head read, ← value_unique head' other]
        exact equal
      · rintro ⟨equal, equalRest⟩
        rw [equal result shown head head', equalRest]

/-- The items of a list that pass a test beside what their readings show, when the reading of an
item that passes shows one value and that of any other shows none. -/
theorem exists_pairs_filter {read : α → Reading β} {keep : α → Bool} {view : β → List γ}
    {items : List α} {results : List β} (holds : α → γ → Prop)
    (kept : ∀ item result, keep item = true → read item = .ok result →
      ∃ value, view result = [value] ∧ holds item value)
    (dropped : ∀ item result, keep item = false → read item = .ok result → view result = [])
    (done : items.mapM read = .ok results) :
    ∃ pairs : List (α × γ), pairs.map (·.1) = items.filter keep ∧
      pairs.map (·.2) = results.flatMap view ∧ ∀ pair ∈ pairs, holds pair.1 pair.2 := by
  rw [mapM_eq_ok_iff] at done
  induction done with
  | nil => exact ⟨[], rfl, rfl, by simp⟩
  | @cons item result items results head _ ih =>
    obtain ⟨pairs, left, right, each⟩ := ih
    cases passes : keep item with
    | false =>
      have hidden := dropped item result passes head
      exact ⟨pairs, by simp [passes, left], by simp [hidden, right], each⟩
    | true =>
      obtain ⟨value, shown, here⟩ := kept item result passes head
      exact ⟨(item, value) :: pairs, by simp [passes, left], by simp [shown, right],
        List.forall_mem_cons.mpr ⟨here, each⟩⟩

/-- A list that was read, item by item beside the results. -/
theorem exists_pairs {read : α → Reading β} {items : List α} {results : List β}
    (done : items.mapM read = .ok results) :
    ∃ pairs : List (α × β), pairs.map (·.1) = items ∧ pairs.map (·.2) = results ∧
      ∀ pair ∈ pairs, read pair.1 = .ok pair.2 := by
  rw [mapM_eq_ok_iff] at done
  induction done with
  | nil => exact ⟨[], rfl, rfl, by simp⟩
  | @cons item result _ _ head _ ih =>
    obtain ⟨pairs, rfl, rfl, each⟩ := ih
    exact ⟨(item, result) :: pairs, rfl, rfl, List.forall_mem_cons.mpr ⟨head, each⟩⟩

/-- The items of pairs go one by one with what stands beside them. -/
theorem forall₂_of_pairs {holds : α → β → Prop} {pairs : List (α × β)}
    (each : ∀ pair ∈ pairs, holds pair.1 pair.2) :
    List.Forall₂ holds (pairs.map (·.1)) (pairs.map (·.2)) := by
  rw [List.forall₂_map_left_iff, List.forall₂_map_right_iff, List.forall₂_same]
  exact each

/-- Lists that go one by one with the items of the same list go with each other. -/
theorem forall₂_of_common {items : List α} {left : List β} {right : List γ}
    {first : α → β → Prop} {second : α → γ → Prop} {holds : β → γ → Prop}
    (here : List.Forall₂ first items left) (there : List.Forall₂ second items right)
    (both : ∀ item value other, first item value → second item other → holds value other) :
    List.Forall₂ holds left right := by
  induction here generalizing right with
  | nil =>
    cases there
    exact .nil
  | @cons item value _ _ head _ ih =>
    cases there with
    | cons head' rest => exact .cons (both item value _ head head') (ih rest)

/-- A view that shows the item itself where it passes a test selects the items that pass. -/
theorem flatMap_eq_filter {read : α → Reading β} {keep : α → Bool} {view : β → List α}
    {items : List α} {results : List β}
    (shown : ∀ item result, read item = .ok result → view result = if keep item then [item] else [])
    (done : items.mapM read = .ok results) : results.flatMap view = items.filter keep := by
  rw [mapM_eq_ok_iff] at done
  induction done with
  | nil => rfl
  | @cons item result _ _ head _ ih =>
    cases passes : keep item <;> simp [shown item result head, passes, ih]

/-- A search whose readings all succeed is the search through what they find. -/
theorem findSomeM?_map_eq_ok {key : δ → α} {read : α → Reading (Option β)}
    {answer : δ → Option β} {items : List δ}
    (answered : ∀ item ∈ items, read (key item) = .ok (answer item)) :
    (items.map key).findSomeM? read = .ok (items.findSome? answer) := by
  induction items with
  | nil => rfl
  | cons head tail ih =>
    have rest := ih fun item inside => answered item (by simp [inside])
    rw [List.map_cons, List.findSomeM?_cons, answered head (by simp), List.findSome?_cons]
    cases answer head with
    | none => exact rest
    | some value => rfl

/-- What a search finds was read from one of the items. -/
theorem exists_of_findSomeM?_eq_some {read : α → Reading (Option β)} {items : List α} {value : β}
    (found : items.findSomeM? read = .ok (some value)) :
    ∃ item ∈ items, read item = .ok (some value) := by
  induction items with
  | nil => cases pure_eq_ok.mp found
  | cons head tail ih =>
    rw [List.findSomeM?_cons] at found
    obtain ⟨answer, here, rest⟩ := bind_eq_ok.mp found
    cases answer with
    | none =>
      obtain ⟨item, inside, there⟩ := ih rest
      exact ⟨item, by simp [inside], there⟩
    | some answer =>
      obtain rfl : answer = value := Option.some.inj (pure_eq_ok.mp rest)
      exact ⟨head, by simp, here⟩

/-- A search that passes over no fewer items and gives the same answer where the other one ends finds
the same. -/
theorem findSomeM?_eq_some_of_narrower {read narrow : α → Reading (Option β)} {items : List α}
    {value : β} (found : items.findSomeM? read = .ok (some value))
    (passed : ∀ item ∈ items, read item = .ok none → narrow item = .ok none)
    (ended : ∀ item ∈ items, read item = .ok (some value) → narrow item = .ok (some value)) :
    items.findSomeM? narrow = .ok (some value) := by
  induction items with
  | nil => cases pure_eq_ok.mp found
  | cons head tail ih =>
    rw [List.findSomeM?_cons] at found ⊢
    obtain ⟨answer, here, rest⟩ := bind_eq_ok.mp found
    cases answer with
    | none =>
      have later := ih rest (fun item inside => passed item (by simp [inside]))
        fun item inside => ended item (by simp [inside])
      exact bind_eq_ok.mpr ⟨none, passed head (by simp) here, later⟩
    | some answer =>
      obtain rfl : answer = value := Option.some.inj (pure_eq_ok.mp rest)
      exact bind_eq_ok.mpr ⟨some answer, ended head (by simp) here, rfl⟩

/-- Items that a search passes over can be left out beforehand. -/
theorem findSomeM?_filter {read : α → Reading (Option β)} {items : List α} (keep : α → Bool)
    (skipped : ∀ item ∈ items, keep item = false → read item = .ok none) :
    items.findSomeM? read = (items.filter keep).findSomeM? read := by
  induction items with
  | nil => rfl
  | cons head tail ih =>
    have rest := ih fun item inside => skipped item (by simp [inside])
    cases passes : keep head with
    | false =>
      rw [List.findSomeM?_cons, skipped head (by simp) passes,
        List.filter_cons_of_neg (by simp [passes]), ← rest]
      rfl
    | true =>
      rw [List.filter_cons_of_pos passes, List.findSomeM?_cons, List.findSomeM?_cons, rest]

end SourceLens.Reading
