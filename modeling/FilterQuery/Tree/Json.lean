import FilterQuery.Json
import FilterQuery.Tree

/-!
# Trees in JSON

A comparison is an object with the one member `expression`, every other shape an object with the one
member `operation`. The gate or the right operand that a shape lacks is `null`.
-/

namespace FilterQuery

/-- A comparison as a JSON object. -/
def Comparison.toJson (c : Comparison) : Json :=
  .object [("field", .string c.field), ("comparator", .string c.comparator.name),
    ("value", .string c.value)]

/-- Reads a comparison. -/
def Comparison.ofJson? (value : Json) : Option Comparison := do
  let field ← (← value.member? "field").text?
  let comparator ← Comparator.ofName? (← (← value.member? "comparator").text?)
  return ⟨field, comparator, ← (← value.member? "value").text?⟩

namespace Tree

/-- An operation as a JSON object. -/
def operationJson (left gate right : Json) : Json :=
  .object [("operation", .object [("left", left), ("gate", gate), ("right", right)])]

/-- A tree as a JSON object. -/
def toJson : Tree → Json
  | comparison c => .object [("expression", c.toJson)]
  | join left gate right => operationJson left.toJson (.string gate.name) right.toJson
  | group inner => operationJson inner.toJson .null .null
  | openGate left gate => operationJson left.toJson (.string gate.name) .null
  | ungated left right => operationJson left.toJson .null right.toJson

/-- An operation of parts that have been read. -/
def ofParts (left : Tree) : Option Gate → Option Tree → Tree
  | none, none => group left
  | some gate, none => openGate left gate
  | none, some right => ungated left right
  | some gate, some right => join left gate right

/-- Reads an optional gate. -/
def gateOfJson? : Json → Option (Option Gate)
  | .null => some none
  | .string name => (Gate.ofName? name).map some
  | _ => none

/-- Reads a tree. -/
def ofJson? (value : Json) : Option Tree :=
  match value.member? "expression" with
  | some c => (Comparison.ofJson? c).map comparison
  | none =>
    match _hp : value.member? "operation" with
    | none => none
    | some parts =>
      match _hl : parts.member? "left" with
      | none => none
      | some first => do
        let left ← ofJson? first
        let gate ← gateOfJson? ((parts.member? "gate").getD .null)
        match _hr : parts.member? "right" with
        | none | some .null => return ofParts left gate none
        | some second => return ofParts left gate (some (← ofJson? second))
  termination_by sizeOf value
  decreasing_by
    · have := Json.sizeOf_member?_lt _hp
      have := Json.sizeOf_member?_lt _hl
      omega
    · have := Json.sizeOf_member?_lt _hp
      have := Json.sizeOf_member?_lt _hr
      omega

end Tree

end FilterQuery
