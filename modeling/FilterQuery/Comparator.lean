/-!
# Comparators and gates

The two kinds of operator of the filter language. A `Comparator` relates a field to a value, a
`Gate` joins two conditions. Each has a `symbol`, the spelling in a query, and a `name`, the
spelling in JSON.
-/

namespace FilterQuery

/-- How a comparison relates its field to its value. -/
inductive Comparator where
  | equal
  | notEqual
  | greater
  | greaterOrEqual
  | less
  | lessOrEqual
  /-- The value occurs somewhere in the field's text. -/
  | contains
  deriving DecidableEq

/-- How two conditions are joined. Both gates bind equally, from left to right. -/
inductive Gate where
  | and
  | or
  deriving DecidableEq

/-- The comparator as it is written in a query. -/
def Comparator.symbol : Comparator → String
  | .equal => "="
  | .notEqual => "!="
  | .greater => ">"
  | .greaterOrEqual => ">="
  | .less => "<"
  | .lessOrEqual => "<="
  | .contains => "%"

/-- The comparator as it is named in JSON. -/
def Comparator.name : Comparator → String
  | .equal => "Equal"
  | .notEqual => "NotEqual"
  | .greater => "GreaterThan"
  | .greaterOrEqual => "GreaterThanOrEqual"
  | .less => "LessThan"
  | .lessOrEqual => "LessThanOrEqual"
  | .contains => "Like"

/-- All comparators. -/
def Comparator.all : List Comparator :=
  [.equal, .notEqual, .greater, .greaterOrEqual, .less, .lessOrEqual, .contains]

/-- The comparator of a JSON name. -/
def Comparator.ofName? (name : String) : Option Comparator :=
  Comparator.all.find? (·.name = name)

theorem Comparator.ofName?_name (c : Comparator) : ofName? c.name = some c := by
  cases c <;> decide

/-- The gate as it is written in a query, in its canonical upper case. -/
def Gate.symbol : Gate → String
  | .and => "AND"
  | .or => "OR"

/-- The gate as it is named in JSON. -/
def Gate.name : Gate → String
  | .and => "And"
  | .or => "Or"

/-- The gate of a JSON name. -/
def Gate.ofName? (name : String) : Option Gate :=
  [Gate.and, Gate.or].find? (·.name = name)

theorem Gate.ofName?_name (g : Gate) : ofName? g.name = some g := by
  cases g <;> decide

end FilterQuery
