/-!
# Decimal numbers

`Numeral.digits?` reads a run of ASCII digits. `Integer.ofText?` and `Decimal.ofText?` read the two
kinds of number that a field may ask for. A decimal number is kept exactly, as a coefficient and a
power of ten, and `Decimal.isFinite` tells whether rounding it to double precision gives a finite
number.
-/

namespace FilterQuery

/-! ### Powers -/

/-- Two to the power of `n`. -/
def powerOfTwo (n : Nat) : Nat := Nat.pow 2 n

/-- Ten to the power of `n`. -/
def powerOfTen (n : Nat) : Nat := Nat.pow 10 n

/-! ### Digits -/

/-- The value of a run of digits that follows the digits of `start`. -/
def Numeral.value (start : Nat) (digits : List Char) : Nat :=
  digits.foldl (fun n c => 10 * n + (c.toNat - '0'.toNat)) start

/-- The value of a non-empty run of ASCII digits. -/
def Numeral.digits? (text : List Char) : Option Nat :=
  if text ≠ [] ∧ text.all Char.isDigit then some (Numeral.value 0 text) else none

/-- Takes a sign off the front of a numeral. The flag is set for a minus. -/
def Numeral.takeSign : List Char → Bool × List Char
  | '-' :: rest => (true, rest)
  | '+' :: rest => (false, rest)
  | rest => (false, rest)

/-- The number of decimal digits of `n`, none for zero. -/
def Numeral.length (n : Nat) : Nat :=
  if n = 0 then 0 else (Nat.toDigits 10 n).length

/-! ### Integers -/

/-- Reads an integer: a sign or none, then digits. -/
def Integer.ofText? (text : List Char) : Option Int :=
  let (negative, digits) := Numeral.takeSign text
  (Numeral.digits? digits).map fun n => if negative then -(n : Int) else n

/-! ### Decimals -/

/-- The number `coefficient · 10 ^ exponent` with a sign, which a zero has too. -/
structure Decimal where
  negative : Bool
  coefficient : Nat
  exponent : Int
  deriving DecidableEq

namespace Decimal

/-- Reads the digits before and after the point. Either side may be empty, but not both, and a
numeral without digits after it needs no point. -/
def mantissa? (text : List Char) : Option (Nat × Nat) :=
  let whole := text.takeWhile Char.isDigit
  match text.dropWhile Char.isDigit with
  | [] => if whole = [] then none else some (Numeral.value 0 whole, 0)
  | '.' :: fraction =>
    if fraction.all Char.isDigit ∧ ¬ (whole = [] ∧ fraction = []) then
      some (Numeral.value 0 (whole ++ fraction), fraction.length)
    else none
  | _ => none

/-- Splits a numeral at its exponent mark. -/
def splitExponent (text : List Char) : List Char × Option (List Char) :=
  let isMark := fun c : Char => c = 'e' || c = 'E'
  match text.dropWhile (fun c => !isMark c) with
  | [] => (text, none)
  | _ :: exponent => (text.takeWhile (fun c => !isMark c), some exponent)

/-- Reads a decimal number: a sign or none, digits with a point or none, and an exponent or none. -/
def ofText? (text : List Char) : Option Decimal := do
  let (negative, unsigned) := Numeral.takeSign text
  let (significand, exponent) := splitExponent unsigned
  let (coefficient, places) ← mantissa? significand
  match exponent with
  | none => return ⟨negative, coefficient, -(places : Int)⟩
  | some exponent =>
    let power ← Integer.ofText? exponent
    return ⟨negative, coefficient, power - (places : Int)⟩

/-- The least magnitude that rounds to no finite double: half a unit in the last place above the
largest one. -/
def overflow : Nat := powerOfTwo 1024 - powerOfTwo 970

/-- Whether the magnitude is less than `overflow`, which has 309 digits. Only a magnitude of as many
digits has to be compared exactly, so that a huge exponent costs nothing. -/
def isFinite (d : Decimal) : Bool :=
  if d.coefficient = 0 then true
  else
    let length := (Numeral.length d.coefficient : Int) + d.exponent
    if length < 309 then true
    else if length > 309 then false
    else
      d.coefficient * powerOfTen d.exponent.toNat
        < overflow * powerOfTen (-d.exponent).toNat

end Decimal

end FilterQuery
