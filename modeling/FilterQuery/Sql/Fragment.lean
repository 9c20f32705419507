import FilterQuery.Comparator

/-!
# Fragments of statements

A `Fragment` is a piece of SQL with a `?` for each value that is bound to it, and the values in the
order of their placeholders. Values are never part of the text.
-/

namespace FilterQuery.Sql

/-- A template and the values bound to it. -/
structure Fragment where
  raw : String
  values : List String
  deriving DecidableEq

namespace Fragment

/-- The fragment without text and without values. -/
def empty : Fragment := ⟨"", []⟩

/-- The fragment in one pair of brackets. -/
def group (inner : Fragment) : Fragment :=
  ⟨"(" ++ inner.raw ++ ")", inner.values⟩

/-- Two fragments joined by a gate, in brackets. -/
def join (left : Fragment) (gate : Gate) (right : Fragment) : Fragment :=
  ⟨"(" ++ left.raw ++ " " ++ gate.symbol ++ " " ++ right.raw ++ ")", left.values ++ right.values⟩

/-- The number of placeholders in the template. -/
def placeholders (f : Fragment) : Nat :=
  f.raw.toList.count '?'

/-- Numbers the placeholders of a template: the first becomes `$` and the number after `last`. -/
def numberFrom (last : Nat) : List Char → List Char
  | [] => []
  | c :: cs =>
    if c = '?' then '$' :: (Nat.toDigits 10 (last + 1) ++ numberFrom (last + 1) cs)
    else c :: numberFrom last cs

/-- The template with numbered placeholders, for a statement that binds `offset` values already. -/
def numbered (f : Fragment) (offset : Nat) : String :=
  String.ofList (numberFrom offset f.raw.toList)

/-- The pattern that finds a value anywhere in a text. -/
def containing (value : String) : String :=
  "%" ++ value ++ "%"

/-- The comparison of a column with a value. -/
def compare (column : String) (comparator : Comparator) (value : String) : Fragment :=
  match comparator with
  | .contains => ⟨column ++ " LIKE ?", [containing value]⟩
  | c => ⟨column ++ c.symbol ++ "?", [value]⟩

end Fragment

end FilterQuery.Sql
