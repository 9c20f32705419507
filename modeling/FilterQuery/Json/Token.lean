import FilterQuery.Json

/-!
# JSON tokens

The first half of reading JSON: a text becomes a list of tokens. Strings are decoded here, numbers
are told apart by their spelling, and white space is dropped.
-/

namespace FilterQuery.Json

/-- A token of a JSON text. -/
inductive Token where
  | openArray
  | closeArray
  | openObject
  | closeObject
  | comma
  | colon
  /-- A value without parts. -/
  | scalar (value : Json)
  /-- A string, which may be a value or a key. -/
  | string (value : String)

/-- The white space of JSON. -/
def isSpace (c : Char) : Bool :=
  c = ' ' || c = '\t' || c = '\n' || c = '\r'

/-! ### Strings -/

/-- The value of a hexadecimal digit. -/
def hexDigit? (c : Char) : Option Nat :=
  if '0' ≤ c ∧ c ≤ '9' then some (c.toNat - '0'.toNat)
  else if 'a' ≤ c ∧ c ≤ 'f' then some (c.toNat - 'a'.toNat + 10)
  else if 'A' ≤ c ∧ c ≤ 'F' then some (c.toNat - 'A'.toNat + 10)
  else none

/-- The number that four hexadecimal digits write. -/
def hexFour? (a b c d : Char) : Option Nat := do
  return (((← hexDigit? a) * 16 + (← hexDigit? b)) * 16 + (← hexDigit? c)) * 16 + (← hexDigit? d)

/-- The character of a one-letter escape. -/
def shortEscape? : Char → Option Char
  | '"' => some '"'
  | '\\' => some '\\'
  | '/' => some '/'
  | 'b' => some '\x08'
  | 'f' => some '\x0c'
  | 'n' => some '\n'
  | 'r' => some '\r'
  | 't' => some '\t'
  | _ => none

/-- Joins the two halves of a character beyond the first 65536. -/
def joinSurrogates (high low : Nat) : Char :=
  Char.ofNat (0x10000 + (high - 0xD800) * 0x400 + (low - 0xDC00))

/-- Whether a code unit is the first half of a pair. -/
def isHighSurrogate (n : Nat) : Bool := 0xD800 ≤ n && n < 0xDC00

/-- Whether a code unit is the second half of a pair. -/
def isLowSurrogate (n : Nat) : Bool := 0xDC00 ≤ n && n < 0xE000

/-- Reads the characters of a string up to its closing quote, and returns what follows. A control
character, an unknown escape and half of a pair are refused. -/
def unescape : List Char → Option (List Char × List Char)
  | '"' :: rest => some ([], rest)
  | '\\' :: 'u' :: a :: b :: c :: d :: '\\' :: 'u' :: e :: f :: g :: h :: rest => do
    let first ← hexFour? a b c d
    if isHighSurrogate first then
      let second ← hexFour? e f g h
      if isLowSurrogate second then
        let (text, after) ← unescape rest
        return (joinSurrogates first second :: text, after)
      else none
    else if isLowSurrogate first then none
    else
      let (text, after) ← unescape ('\\' :: 'u' :: e :: f :: g :: h :: rest)
      return (Char.ofNat first :: text, after)
  | '\\' :: 'u' :: a :: b :: c :: d :: rest => do
    let code ← hexFour? a b c d
    if isHighSurrogate code || isLowSurrogate code then none
    else
      let (text, after) ← unescape rest
      return (Char.ofNat code :: text, after)
  | '\\' :: c :: rest => do
    let decoded ← shortEscape? c
    let (text, after) ← unescape rest
    return (decoded :: text, after)
  | c :: rest =>
    if c.toNat < 0x20 then none
    else do
      let (text, after) ← unescape rest
      return (c :: text, after)
  | [] => none

/-! ### Numbers -/

/-- Whether a character can occur in a number. -/
def isNumberChar (c : Char) : Bool :=
  c.isDigit || c = '-' || c = '+' || c = '.' || c = 'e' || c = 'E'

/-- Whether a numeral is written as JSON wants it: digits on both sides of a point, no plus in
front, and no zero in front of other digits. -/
def isNumeral (text : List Char) : Bool :=
  let unsigned := if text.head? = some '-' then text.drop 1 else text
  let whole := unsigned.takeWhile Char.isDigit
  let rest := unsigned.dropWhile Char.isDigit
  let (fraction, exponent) :=
    if rest.head? = some '.' then
      ((rest.drop 1).takeWhile Char.isDigit, (rest.drop 1).dropWhile Char.isDigit)
    else (['0'], rest)
  let exponentOk :=
    match exponent with
    | [] => true
    | c :: digits => (c = 'e' || c = 'E') && (Integer.ofText? digits).isSome
  !whole.isEmpty && (whole.length = 1 || whole.head? ≠ some '0') && !fraction.isEmpty && exponentOk

/-- The value of a number. A whole number beyond 64 bits, and a zero with a minus, are kept as
written, like numbers with a point or an exponent. -/
def number? (text : List Char) : Option Json :=
  if isNumeral text then
    match Integer.ofText? text with
    | some n =>
      let fits : Bool := -(powerOfTwo 63 : Int) ≤ n ∧ n < powerOfTwo 64
      if fits ∧ ¬ (n = 0 ∧ text.head? = some '-') then some (integer n)
      else (Decimal.ofText? text).map float
    | none => (Decimal.ofText? text).map float
  else none

/-! ### Tokens -/

/-- Takes one token off the text `c :: rest`. -/
def takeToken? (c : Char) (rest : List Char) : Option (Token × List Char) :=
  match c with
  | '[' => some (.openArray, rest)
  | ']' => some (.closeArray, rest)
  | '\x7b' => some (.openObject, rest)
  | '\x7d' => some (.closeObject, rest)
  | ',' => some (.comma, rest)
  | ':' => some (.colon, rest)
  | '"' => (unescape rest).map fun (text, after) => (.string (String.ofList text), after)
  | c =>
    if c.isAlpha then
      let word := c :: rest.takeWhile Char.isAlpha
      let after := rest.dropWhile Char.isAlpha
      if word = ['t', 'r', 'u', 'e'] then some (.scalar (bool true), after)
      else if word = ['f', 'a', 'l', 's', 'e'] then some (.scalar (bool false), after)
      else if word = ['n', 'u', 'l', 'l'] then some (.scalar null, after)
      else none
    else
      (number? (c :: rest.takeWhile isNumberChar)).map fun value =>
        (.scalar value, rest.dropWhile isNumberChar)

/-- All tokens of a text. The measure `fuel` is at least the length of the text. -/
def tokensWithin : Nat → List Char → Option (List Token)
  | _, [] => some []
  | 0, _ => none
  | fuel + 1, c :: rest =>
    if isSpace c then tokensWithin fuel rest
    else do
      let (token, after) ← takeToken? c rest
      return token :: (← tokensWithin fuel after)

/-- All tokens of a text, or none if some part of it is no token. -/
def tokens? (text : List Char) : Option (List Token) :=
  tokensWithin text.length text

end FilterQuery.Json
