import SourceLens.Pattern.Trail

/-!
# Matching

A part is matched at a place of a text by trying its ways in order and handing every trail that it
reaches to the rest of the pattern, until the rest succeeds. The first success decides. A part that
is repeated stops as soon as a turn beyond the required ones starts where the turn before it
started, so a turn that matches nothing is never taken twice.
-/
namespace SourceLens.Pattern

/-- The ways of a part: from a trail on, and with the rest of the pattern. -/
abbrev Ways : Type := Trail → Rest → Outcome

/-- What matters about the place of a part in the pattern. -/
structure Surroundings where
  /-- Whether the part is inside a greedy or lazy repetition of more than one character. -/
  inRepetition : Bool := false
  /-- The set that is tested right behind the part. -/
  ahead : Option CharSet := none

/-- How often a part is repeated. -/
structure Repetition where
  /-- How the number of turns is chosen. -/
  greed : Greed
  /-- The least number of turns. -/
  low : Nat
  /-- The greatest number of turns, if there is one. -/
  high : Option Nat

namespace Repetition

/-- Whether there may be another turn after so many; `last` is where the last turn beyond the
required ones started. -/
def mayGoOn (times : Repetition) (turn : Nat) (last : Option Nat) (place : Place) : Bool :=
  times.high.all (turn < ·) && last != some place.index

end Repetition

/-! ## One character, repeated -/

/-- A test of one character that is repeated. -/
structure Single where
  /-- The test. -/
  test : Char → Bool
  /-- Whether every character that passes is noted. -/
  stepwise : Bool := false

/-- The test of a row that is one character, possibly inside of groups with flags. -/
def Node.single? : Node → Option Single
  | seq (one set) empty => some ⟨set.holds, set.isStepwise⟩
  | seq visible empty => some ⟨(· != '\n'), false⟩
  | seq any empty => some ⟨fun _ => true, false⟩
  | seq (group none body) empty => body.single?
  | _ => none

namespace Single

/-- The place that is noted when characters between two places have been counted. -/
def noteOf (single : Single) (first last : Place) : Place :=
  if single.stepwise then last else first

/-- Try the rest at some places in order. -/
def tryEach (around : Surroundings) (before : Marks) (rest : Rest) :
    List Place → Memory → Outcome
  | [], memory => .error memory
  | place :: places, memory =>
    match rest (.retry place memory.marks) with
    | .ok found => .ok found
    | .error left =>
      tryEach around before rest places
        { left with marks := left.marks.restored around.inRepetition before }

/-- Whether the rest of the pattern can match at a place, as far as a character that must come next
shows it. -/
def isOpen (around : Surroundings) (place : Place) : Bool :=
  match around.ahead.bind CharSet.literal? with
  | some code => place.rest.head?.any (·.toNat = code)
  | none => true

/-- Try the rest at a place, and then behind one character more, at most so many times. -/
def tryOnward (single : Single) (around : Surroundings) (before : Marks) (rest : Rest) :
    Nat → Place → Marks → Outcome
  | left, place, marks =>
    match rest (.retry place marks) with
    | .ok found => .ok found
    | .error failure =>
      let marks := failure.marks.restored around.inRepetition before
      match place.step single.test with
      | none => .error ⟨place, marks⟩
      | some next =>
        match left with
        | 0 => .error ⟨single.noteOf place next, marks⟩
        | left + 1 => tryOnward single around before rest left next marks

/-- The ways of one character that is repeated. -/
def run (single : Single) (times : Repetition) (around : Surroundings) : Ways :=
  fun trail rest =>
    let here := trail.place
    let available := here.rest.length
    if available < times.low then trail.fail
    else
      let most := match times.greed with
        | .lazy => times.low
        | _ => min (times.high.getD available) available
      let places := here.reach single.test most []
      let furthest := places.head?.getD here
      let noted := single.noteOf here furthest
      if places.length ≤ times.low then .error ⟨noted, trail.marks⟩
      else match times.greed with
        | .greedy =>
          tryEach around trail.marks rest
            ((places.take (places.length - times.low)).filter (isOpen around))
            ⟨noted, trail.marks⟩
        | .lazy =>
          tryOnward single around trail.marks rest
            ((times.high.getD (times.low + available)) - times.low) furthest trail.marks
        | .possessive => rest { trail with place := furthest, noted }

end Single

/-! ## Parts, repeated -/

namespace Repetition

/-- The ways of a part that is repeated greedily, with at most so many turns left: `turn` counts the
turns taken, and `last` is where the last turn beyond the required ones started. -/
def greedyTurns (times : Repetition) (body : Ways) (rest : Rest) : Nat → Nat → Option Nat → Rest
  | 0, _, _, trail => trail.fail
  | left + 1, turn, last, trail =>
    let trail := trail.note
    let again := fun last => greedyTurns times body rest left (turn + 1) last
    if turn < times.low then (body trail (again last)).notingAt trail.place
    else
      let taken :=
        if times.mayGoOn turn last trail.place then body trail (again (some trail.place.index))
        else trail.fail
      match taken with
      | .ok found => .ok found
      | .error _ => (rest trail).notingAt trail.place

/-- The ways of a part that is repeated lazily. -/
def lazyTurns (times : Repetition) (around : Surroundings) (body : Ways) (rest : Rest) :
    Nat → Nat → Option Nat → Rest
  | 0, _, _, trail => trail.fail
  | left + 1, turn, last, trail =>
    let trail := trail.note
    let again := fun last => lazyTurns times around body rest left (turn + 1) last
    if turn < times.low then (body trail (again last)).notingAt trail.place
    else
      match rest trail with
      | .ok found => .ok found
      | .error failure =>
        let trail := { trail with
          marks := failure.marks.restored around.inRepetition trail.marks }
        if times.mayGoOn turn last trail.place then
          (body trail (again (some trail.place.index))).notingAt trail.place
        else trail.fail

/-- The ways of a part that is repeated possessively from a place on. A turn that fails ends the
repetition at the place that it noted last. -/
def possessiveTurns (times : Repetition) (origin : Place) (body : Ways) (rest : Rest) :
    Nat → Nat → Option Nat → Rest
  | 0, _, _, trail => trail.fail
  | left + 1, turn, last, trail =>
    let again := fun last => possessiveTurns times origin body rest left (turn + 1) last
    if turn < times.low then
      match body trail Trail.arrive with
      | .ok next => again last next
      | .error failure => .error { failure with noted := origin }
    else if times.mayGoOn turn last trail.place then
      match body trail Trail.arrive with
      | .ok next => again (some trail.place.index) next
      | .error failure => rest (.retry failure.noted trail.marks)
    else rest trail

/-- The ways of a part that is repeated. There are never more turns than required and possible at
different places. -/
def run (times : Repetition) (around : Surroundings) (body : Surroundings → Ways) : Ways :=
  fun trail rest =>
    let turns := times.low + trail.place.size + 2
    match times.greed with
    | .greedy => times.greedyTurns (body { inRepetition := true }) rest turns 0 none trail
    | .lazy => times.lazyTurns around (body { inRepetition := true }) rest turns 0 none trail
    | .possessive =>
      times.possessiveTurns trail.place (body { around with ahead := none }) rest turns 0 none
        trail.note

end Repetition

/-! ## All parts -/

namespace Node

/-- Whether a choice leaves an alternative out because of the next character. -/
def isShut (alternative : Node) (place : Place) : Bool :=
  match alternative.entry none with
  | some set => set.isProbed && !place.rest.head?.any set.holds
  | none => false

/-- Try an alternative of a choice. -/
def attempt (around : Surroundings) (shut : Bool) (ways : Ways) : Ways :=
  fun trail rest =>
    if shut then trail.fail
    else (ways trail.note rest).mapError fun left =>
      { left with marks := left.marks.restored around.inRepetition trail.marks }

/-- The outcome of a condition on the text around a place: `found` is what matching it gave. -/
def decideLook (around : Surroundings) (negated : Bool) (trail : Trail) (found : Outcome)
    (rest : Rest) : Outcome :=
  match found with
  | .ok seen =>
    if negated then .error ⟨seen.noted, seen.marks⟩
    else rest { seen with place := trail.place }
  | .error left =>
    if negated then
      rest { trail with
        noted := left.noted
        marks := left.marks.restored around.inRepetition trail.marks }
    else .error left

/-- The ways of a part. -/
def run : Node → Surroundings → Ways
  | empty, _, trail, rest => rest trail
  | one set, _, trail, rest => trail.moveTo (trail.place.step set.holds) rest
  | visible, _, trail, rest => trail.moveTo (trail.place.step (· != '\n')) rest
  | any, _, trail, rest => trail.moveTo (trail.place.step fun _ => true) rest
  | anchor condition, _, trail, rest =>
    if condition.holds trail.place then rest trail else trail.fail
  | seq first second, around, trail, rest =>
    first.run { around with ahead := second.entry around.ahead } trail fun next =>
      second.run around next rest
  | either first others, around, trail, rest =>
    let alone := { around with ahead := none }
    match attempt around (first.isShut trail.place) (first.run alone) trail rest with
    | .ok found => .ok found
    | .error left =>
      let trail := { trail with noted := left.noted, marks := left.marks }
      if others.isEither then others.run around trail rest
      else attempt around (others.isShut trail.place) (others.run alone) trail rest
  | group none body, around, trail, rest => body.run around trail rest
  | group (some index) body, around, trail, rest =>
    body.run { around with ahead := none } (trail.mark (Marks.opening index)) fun next =>
      rest (next.mark (Marks.closing index))
  | repeated greed low high body, around, trail, rest =>
    match body.single? with
    | some single => single.run ⟨greed, low, high⟩ around trail rest
    | none => Repetition.run ⟨greed, low, high⟩ around body.run trail rest
  | look behind negated body, around, trail, rest =>
    match trail.place.back (behind.getD 0) with
    | none => if negated then rest trail else trail.fail
    | some earlier =>
      let found := body.run { around with ahead := none }
        { trail with place := earlier, noted := earlier } Trail.arrive
      decideLook around negated trail found rest
  | atomic body, around, trail, rest =>
    match body.run { around with ahead := none } trail.note Trail.arrive with
    | .ok next => rest next
    | .error left => .error { left with noted := trail.place }
  | again index _ folding, _, trail, rest =>
    trail.moveTo ((trail.marks.text? index).bind fun text => trail.place.pass folding text) rest
  | given index yes no, around, trail, rest =>
    if (trail.marks.text? index).isSome then
      yes.run (if no = empty then around else { around with ahead := none }) trail rest
    else no.run around trail rest

end Node

end SourceLens.Pattern
