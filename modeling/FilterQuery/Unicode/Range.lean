/-!
# Tables of code points

A set of characters is kept as a list of inclusive ranges of code points. A map between characters
is kept as a list of runs: the code points from `first` to `last` in steps of `stride`, all moved by
the same distance.
-/

namespace FilterQuery.Unicode

/-- Whether a character lies in one of some inclusive ranges. -/
def inRanges (ranges : List (Nat × Nat)) (c : Char) : Bool :=
  ranges.any fun (first, last) => first ≤ c.toNat && c.toNat ≤ last

/-- Code points that a map moves by one distance. -/
structure Run where
  first : Nat
  last : Nat
  stride : Nat
  shift : Int

namespace Run

/-- Whether the run moves a code point. -/
def moves (r : Run) (n : Nat) : Bool :=
  r.first ≤ n && n ≤ r.last && (n - r.first) % r.stride = 0

/-- Where the run moves a code point to. -/
def image? (r : Run) (n : Nat) : Option Nat :=
  if r.moves n then some ((n : Int) + r.shift).toNat else none

/-- The code point that the run moves to `n`. -/
def preimage? (r : Run) (n : Nat) : Option Nat :=
  let source := ((n : Int) - r.shift).toNat
  if r.moves source then some source else none

end Run

/-- The character that a map sends `c` to. A character in no run stays. -/
def mapChar (runs : List Run) (c : Char) : Char :=
  match runs.findSome? (·.image? c.toNat) with
  | some n => Char.ofNat n
  | none => c

/-- The characters other than `c` that a map sends to `c`. -/
def sources (runs : List Run) (c : Char) : List Char :=
  (runs.filterMap (·.preimage? c.toNat)).map Char.ofNat

end FilterQuery.Unicode
