import FilterQuery.Pattern

/-!
# Searching for patterns

`Pattern.ends` follows a pattern from a set of places in a text to the set of places where a match
that begins at one of the former can end. All places are followed at once, so the time stays
polynomial whatever the pattern. A pattern occurs in a text if some place is reached from some
place.
-/

namespace FilterQuery

/-- The characters on both sides of a place in a text. -/
def around (text : Array Char) (place : Nat) : Option Char × Option Char :=
  (if place = 0 then none else text[place - 1]?, text[place]?)

/-- Whether there is a word character. -/
def isWordAt (c : Option Char) : Bool :=
  c.any Unicode.isWord

/-- Whether a condition holds at a place in a text. -/
def Assertion.holds (text : Array Char) (place : Nat) (a : Assertion) : Bool :=
  let (before, after) := around text place
  match a with
  | .textStart => before.isNone
  | .textEnd => after.isNone
  | .lineStart false => before.isNone || before = some '\n'
  | .lineStart true =>
    before.isNone || before = some '\n' || (before = some '\r' && after ≠ some '\n')
  | .lineEnd false => after.isNone || after = some '\n'
  | .lineEnd true =>
    after.isNone || after = some '\r' || (after = some '\n' && before ≠ some '\r')
  | .wordBoundary => isWordAt before != isWordAt after
  | .notWordBoundary => isWordAt before == isWordAt after
  | .wordStart => !isWordAt before && isWordAt after
  | .wordEnd => isWordAt before && !isWordAt after
  | .notAfterWord => !isWordAt before
  | .notBeforeWord => !isWordAt after

/-- The places of a set that are not known yet, without repetitions. -/
def newPlaces (known places : List Nat) : List Nat :=
  places.eraseDups.filter (· ∉ known)

/-- Takes a step from a set of places `count` times, and stops once it leads back to the same. -/
def stepTimes (step : List Nat → List Nat) : Nat → List Nat → List Nat
  | 0, places => places
  | count + 1, places =>
    let reached := step places
    if reached = places then places else stepTimes step count reached

/-- Takes a step up to `count` times and collects all places on the way in `known`. Only the places
that the last step has found lead to new ones, and without any the search is over. -/
def stepUpTo (step : List Nat → List Nat) : Nat → (found known : List Nat) → List Nat
  | 0, _, known => known
  | count + 1, found, known =>
    let found := newPlaces known (step found)
    if found = [] then known else stepUpTo step count found (found ++ known)

namespace Pattern

/-- Where the matches that begin at one of some places can end. -/
def ends (text : Array Char) : Pattern → List Nat → List Nat
  | empty, places => places
  | set s, places =>
    (places.filter fun place => (text[place]?).any s.contains).map (· + 1)
  | assert a, places => places.filter fun place => a.holds text place
  | sequence first second, places => second.ends text (first.ends text places)
  | choice first second, places =>
    let reached := first.ends text places
    reached ++ newPlaces reached (second.ends text places)
  | repetition p least most, places =>
    let more := match most with
      | some most => most - least
      | none => text.size
    let reached := stepTimes (p.ends text) least places
    stepUpTo (p.ends text) more reached reached
  | group _ p, places => p.ends text places

/-- Whether the pattern occurs in a text. -/
def occursIn (p : Pattern) (text : String) : Bool :=
  let chars := text.toList.toArray
  !(p.ends chars (List.range (chars.size + 1))).isEmpty

end Pattern

end FilterQuery
