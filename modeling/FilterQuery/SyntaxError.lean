import FilterQuery.Token
import FilterQuery.Tree.Display

/-!
# Syntax errors

The reasons for which a query, or a tree put together by hand, is no condition, and the text that
tells a user about each.
-/

namespace FilterQuery

/-- The deepest nesting of brackets that a query may have. -/
def nestingLimit : Nat := 128

/-- The most comparisons that a query may have. -/
def comparisonLimit : Nat := 1024

/-- Why a query is not a condition. -/
inductive SyntaxError where
  /-- The query holds no comparison. -/
  | emptyQuery
  /-- A pair of brackets holds no comparison. -/
  | emptyGroup
  | unclosedBracket
  | unmatchedBracket
  | tooDeep
  | tooManyComparisons
  /-- Two conditions stand side by side. -/
  | missingGate
  | leadingGate (gate : Gate)
  | doubledGate (first second : Gate)
  /-- Nothing follows a gate. -/
  | openGate (gate : Gate) (left : Tree)
  /-- An operation put together by hand has a gate and no right operand. -/
  | noRightOperand (gate : Gate)
  | unexpected (found : Lexeme)
  /-- A comparison should start where the query ends. -/
  | noField
  | expectedField (found : Kind)
  | emptyField
  | noComparator (field : String)
  | expectedComparator (field : String) (found : Kind)
  | noValue (field : String) (comparator : Comparator)
  | expectedValue (found : Kind)
  deriving DecidableEq

/-- What is wrong, in words. -/
def SyntaxError.reason : SyntaxError → String
  | emptyQuery => "empty query"
  | emptyGroup => "can't close a bracket when nothing was parsed inside it"
  | unclosedBracket => "unclosed bracket at end of query"
  | unmatchedBracket => "found ')' without a matching '('"
  | tooDeep => "brackets nested deeper than " ++ toString nestingLimit ++ " levels"
  | tooManyComparisons => "query has more than " ++ toString comparisonLimit ++ " comparisons"
  | missingGate => "expected AND or OR between two expressions"
  | leadingGate gate => "found " ++ gate.symbol ++ " with nothing on its left"
  | doubledGate first second =>
    "already found a gate (" ++ first.symbol ++ ") when " ++ second.symbol ++ " appeared"
  | openGate gate left =>
    "found open gate: " ++ gate.symbol ++ " after '" ++ left.display ++ "' has no right operand"
  | noRightOperand gate => "found open gate: " ++ gate.symbol ++ " with no right operand"
  | unexpected found => "unexpected token " ++ found.kind.label ++ " '" ++ found.literal ++ "'"
  | noField => "expected field, got end of query"
  | expectedField found => "expected field, got " ++ found.label
  | emptyField => "field name can't be empty"
  | noComparator field => "found no comparator when expected after '" ++ field ++ "'"
  | expectedComparator field found =>
    "expected comparator after '" ++ field ++ "', got " ++ found.label
  | noValue field comparator =>
    "found no value when expected after '" ++ field ++ comparator.symbol ++ "'"
  | expectedValue found => "expected value, got " ++ found.label

/-- The message shown to users. -/
def SyntaxError.message (e : SyntaxError) : String :=
  "syntax error: " ++ e.reason

end FilterQuery
