import FilterQuery.Comparator

/-!
# Condition trees

A `Tree` is the meaning of a query: comparisons at the leaves, gates above them. Parsing makes only
`comparison` and `join`. The other shapes are for trees that an application puts together itself:
brackets around one tree, and operations that still lack their right operand or their gate.
-/

namespace FilterQuery

/-- A comparison such as `age>=10`. -/
structure Comparison where
  field : String
  comparator : Comparator
  value : String
  deriving DecidableEq

/-- A condition. -/
inductive Tree where
  | comparison (c : Comparison)
  /-- Both sides joined by a gate. -/
  | join (left : Tree) (gate : Gate) (right : Tree)
  /-- One tree in brackets. -/
  | group (inner : Tree)
  /-- A gate that lacks its right operand. -/
  | openGate (left : Tree) (gate : Gate)
  /-- Two operands without a gate between them. -/
  | ungated (left right : Tree)
  deriving DecidableEq

namespace Tree

/-- Whether the tree is a single comparison. -/
def isComparison : Tree → Bool
  | comparison _ => true
  | _ => false

/-- The number of comparisons in a tree. -/
def count : Tree → Nat
  | comparison _ => 1
  | join left _ right => left.count + right.count
  | group inner => inner.count
  | openGate left _ => left.count
  | ungated left right => left.count + right.count

/-- The comparisons of a tree, from left to right. -/
def leaves : Tree → List Comparison
  | comparison c => [c]
  | join left _ right => left.leaves ++ right.leaves
  | group inner => inner.leaves
  | openGate left _ => left.leaves
  | ungated left right => left.leaves ++ right.leaves

/-- No tree is without comparisons. -/
theorem count_pos (t : Tree) : 0 < t.count := by
  induction t with
  | comparison c => exact Nat.one_pos
  | join left gate right ihl ihr => exact Nat.lt_of_lt_of_le ihl (Nat.le_add_right ..)
  | group inner ih => exact ih
  | openGate left gate ih => exact ih
  | ungated left right ihl ihr => exact Nat.lt_of_lt_of_le ihl (Nat.le_add_right ..)

@[simp] theorem length_leaves (t : Tree) : t.leaves.length = t.count := by
  induction t with
  | comparison c => rfl
  | join left gate right ihl ihr => simp [leaves, count, ihl, ihr]
  | group inner ih => exact ih
  | openGate left gate ih => exact ih
  | ungated left right ihl ihr => simp [leaves, count, ihl, ihr]

end Tree

end FilterQuery
