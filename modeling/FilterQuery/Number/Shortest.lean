import FilterQuery.Number.Decimal

/-!
# The shortest text of a double

A number that is kept in double precision is written with the fewest digits that read back to the
same double. `Double.nearest` rounds a fraction to a double, ties going to the even neighbour.
`Double.digits` looks for the shortest decimal among the neighbours of the double on ever finer
decimal grids, and `Decimal.shortest` lays the digits out.
-/

namespace FilterQuery

/-- The magnitude `mantissa · 2 ^ exponent`. -/
structure Double where
  mantissa : Nat
  exponent : Int
  deriving DecidableEq

/-- The quotient rounded to the nearest integer, a tie to the even one. -/
def roundHalfEven (numerator denominator : Nat) : Nat :=
  let quotient := numerator / denominator
  let twice := 2 * (numerator % denominator)
  if twice < denominator then quotient
  else if twice > denominator then quotient + 1
  else quotient + quotient % 2

namespace Double

/-- Scales a fraction by `2 ^ (-exponent)`. -/
def scale (numerator denominator : Nat) (exponent : Int) : Nat × Nat :=
  (numerator * powerOfTwo (-exponent).toNat, denominator * powerOfTwo exponent.toNat)

/-- The double nearest to a fraction. Its mantissa has 53 bits, or fewer at the least exponent. -/
def nearest (numerator denominator : Nat) : Double :=
  if numerator = 0 then ⟨0, -1074⟩
  else
    let guess : Int := (numerator.log2 : Int) - (denominator.log2 : Int) - 53
    let (n, d) := scale numerator denominator guess
    let exponent := max (-1074) (if n / d < powerOfTwo 53 then guess else guess + 1)
    let (n, d) := scale numerator denominator exponent
    let mantissa := roundHalfEven n d
    if mantissa = powerOfTwo 53 then ⟨powerOfTwo 52, exponent + 1⟩ else ⟨mantissa, exponent⟩

/-- The double nearest to the magnitude of a decimal. -/
def ofDecimal (d : Decimal) : Double :=
  nearest (d.coefficient * powerOfTen d.exponent.toNat) (powerOfTen (-d.exponent).toNat)

/-- The ends of the interval of magnitudes that round to this double, and the double between them,
all in quarters of a unit in the last place. The gap below a power of two is half as wide. -/
def quarters (x : Double) : Nat × Nat × Nat :=
  let below := if x.mantissa = powerOfTwo 52 ∧ x.exponent > -1074 then 1 else 2
  (4 * x.mantissa - below, 4 * x.mantissa, 4 * x.mantissa + 2)

/-- The decimal on the grid of `10 ^ power` that reads back as `x` and lies nearest to it. -/
def onGrid? (x : Double) (power : Int) : Option Nat :=
  let (low, mid, high) := x.quarters
  let unit := x.exponent - 2
  -- every number is put over the common unit `2 ^ unit · 10 ^ power`
  let up := powerOfTwo unit.toNat * powerOfTen (-power).toNat
  let down := powerOfTwo (-unit).toNat * powerOfTen power.toNat
  let reads (n : Nat) : Bool :=
    if x.mantissa % 2 = 0 then low * up ≤ n * down ∧ n * down ≤ high * up
    else low * up < n * down ∧ n * down < high * up
  let floor := mid * up / down
  let nearer := roundHalfEven (mid * up) down
  let farther := if nearer = floor then floor + 1 else floor
  if reads nearer then some nearer
  else if reads farther then some farther
  else none

/-- The decimal exponent of the leading digit, or one more. -/
def magnitude (x : Double) : Int :=
  if x.exponent ≥ 0 then Numeral.length (x.mantissa * powerOfTwo x.exponent.toNat)
  else
    let scaled := x.mantissa * powerOfTen 330 / powerOfTwo (-x.exponent).toNat
    (Numeral.length scaled : Int) - 330

/-- The shortest decimal that reads back as `x`, as a coefficient and a power of ten. -/
def digits (x : Double) : Nat × Int :=
  let powers := (List.range 18).map fun n : Nat => x.magnitude - (n : Int)
  match powers.findSome? fun power => (x.onGrid? power).map (·, power) with
  | some found => found
  | none => (0, 0)

end Double

/-- Moves the zeros at the end of a coefficient into the power of ten, at most `fuel` of them. -/
def stripZeros : Nat → Nat → Int → Nat × Int
  | 0, coefficient, power => (coefficient, power)
  | fuel + 1, coefficient, power =>
    if coefficient ≠ 0 ∧ coefficient % 10 = 0 then stripZeros fuel (coefficient / 10) (power + 1)
    else (coefficient, power)

/-- Lays out `digits · 10 ^ power`. The notation is positional from `10 ^ (-5)` up to `10 ^ 16`,
with a digit on both sides of the point, and scientific elsewhere. -/
def layOut (digits : List Char) (power : Int) : List Char :=
  let point := (digits.length : Int) + power
  let zeros := fun n : Int => List.replicate n.toNat '0'
  if 0 ≤ power ∧ point ≤ 16 then digits ++ zeros power ++ ['.', '0']
  else if 0 < point ∧ point ≤ 16 then
    digits.take point.toNat ++ ['.'] ++ digits.drop point.toNat
  else if -5 < point ∧ point ≤ 0 then ['0', '.'] ++ zeros (-point) ++ digits
  else
    let fraction := if digits.length = 1 then [] else '.' :: digits.drop 1
    digits.take 1 ++ fraction ++ ['e'] ++ (toString (point - 1)).toList

/-- Writes a number in double precision with the fewest digits. -/
def Decimal.shortest (d : Decimal) : String :=
  let (coefficient, power) :=
    if d.coefficient = 0 then (0, 0)
    else
      let (coefficient, power) := (Double.ofDecimal d).digits
      stripZeros 20 coefficient power
  String.ofList ((if d.negative then ['-'] else []) ++ layOut (Nat.toDigits 10 coefficient) power)

end FilterQuery
