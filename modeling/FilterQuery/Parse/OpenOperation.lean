import FilterQuery.SyntaxError

/-!
# Operations that are still open

An `OpenOperation` holds what has been read of an operation. `AND` and `OR` bind equally, so as soon
as a gate has its right operand the whole joins into one left operand: `a AND b OR c` becomes
`((a AND b) OR c)`.
-/

namespace FilterQuery

/-- The part of an operation that has been read. -/
inductive OpenOperation where
  | empty
  /-- A complete operation, which a gate may continue. -/
  | complete (tree : Tree)
  /-- An operation that waits for the operand after its gate. -/
  | gated (tree : Tree) (gate : Gate)
  deriving DecidableEq

namespace OpenOperation

/-- An operand may follow at the start and after a gate. -/
def admitOperand : OpenOperation → Except SyntaxError Unit
  | complete _ => .error .missingGate
  | _ => .ok ()

/-- Adds an operand. -/
def addOperand : OpenOperation → Tree → Except SyntaxError OpenOperation
  | empty, tree => .ok (complete tree)
  | gated left gate, tree => .ok (complete (.join left gate tree))
  | complete _, _ => .error .missingGate

/-- Adds a gate, which must follow an operand. -/
def addGate : OpenOperation → Gate → Except SyntaxError OpenOperation
  | empty, gate => .error (.leadingGate gate)
  | complete tree, gate => .ok (gated tree gate)
  | gated _ first, gate => .error (.doubledGate first gate)

/-- The tree of a complete operation. An empty one gives the error `onEmpty`. -/
def close (onEmpty : SyntaxError) : OpenOperation → Except SyntaxError Tree
  | empty => .error onEmpty
  | complete tree => .ok tree
  | gated tree gate => .error (.openGate gate tree)

end OpenOperation

end FilterQuery
