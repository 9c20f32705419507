import FilterQuery.Token.Scan
import FilterQuery.Tree

/-!
# Writing trees as queries

`Tree.display` writes a tree in the query language, every operation in brackets. A literal is put
between quotes whenever the bare word would be read as something else. A quote inside a quoted
literal is not escaped, since the language has no escape for it.
-/

namespace FilterQuery

/-- Whether a bare word of these characters would be read as something other than itself. -/
def needsQuotes (literal : List Char) : Bool :=
  literal.isEmpty || (Gate.ofWord? literal).isSome || literal.head? = some '"'
    || literal.any (fun c => isBlank c || isSpecial c)

/-- A field or a value as it is written in a query. -/
def writeLiteral (literal : String) : String :=
  if needsQuotes literal.toList then "\"" ++ literal ++ "\"" else literal

def Comparison.display (c : Comparison) : String :=
  writeLiteral c.field ++ " " ++ c.comparator.symbol ++ " " ++ writeLiteral c.value

/-- The tree in the query language. Without a gate only the left operand is shown. -/
def Tree.display : Tree → String
  | comparison c => c.display
  | join left gate right =>
    "(" ++ left.display ++ " " ++ gate.symbol ++ " " ++ right.display ++ ")"
  | group inner => "(" ++ inner.display ++ ")"
  | openGate left gate => "(" ++ left.display ++ " " ++ gate.symbol ++ ")"
  | ungated left _ => "(" ++ left.display ++ ")"

end FilterQuery
