import FilterQuery.Pattern

/-!
# Sizes of patterns

A pattern that would need a huge automaton is refused when it is read. `Pattern.size` estimates the
number of states of the automaton that reads a text byte by byte; the automaton itself is not built,
so near the limit the estimate may decide otherwise than the number of states would. Counted
repetitions multiply, so a short pattern can be of any size.
-/

namespace FilterQuery

/-- The greatest size that a pattern may have: ten mebibytes of states of thirty-two bytes. -/
def maxPatternSize : Nat := 327680

/-- The states for one character of a set. Outside ASCII a character is several bytes, and the large
classes need many ways through them. -/
def CharSet.size : CharSet → Nat
  | none => 1
  | range _ last => if last.toNat < 128 then 1 else 4
  | digit => 80
  | space => 20
  | word => 600
  | caseless set => 2 * set.size
  | negate set => set.size + 10
  | union a b => a.size + b.size
  | intersection a b => a.size + b.size
  | difference a b => a.size + b.size

namespace Pattern

/-- Whether only the empty text can match. -/
def onlyEmpty : Pattern → Bool
  | empty => true
  | set _ => false
  | assert _ => true
  | sequence first second => first.onlyEmpty && second.onlyEmpty
  | choice first second => first.onlyEmpty && second.onlyEmpty
  | repetition p _ most => p.onlyEmpty || most = some 0
  | group _ p => p.onlyEmpty

/-- The states for a pattern. What is repeated is written out as often as the counts say, unless
repeating it makes no difference. -/
def size : Pattern → Nat
  | empty => 1
  | set s => s.size
  | assert _ => 1
  | sequence first second => first.size + second.size
  | choice first second => first.size + second.size + 2
  | repetition p least most =>
    if p.onlyEmpty then p.size + 2
    else match most with
      | some most => least * p.size + (most - least) * (p.size + 1) + 1
      | none => max 1 least * p.size + 1
  | group _ p => p.size

end Pattern

end FilterQuery
