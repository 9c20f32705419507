import FilterQuery.Pattern

/-!
# Escapes in patterns

What may follow a backslash in a pattern: the marks of the language and most other marks stand for
themselves, some letters for controls, for classes of characters or for assertions, and `x`, `u` and
`U` for a character by its number. Back references do not exist, so digits are refused, and so are
`p` and `P`, since there is no table of Unicode properties here.

The flag `extended` is set where white space in the pattern means nothing.
-/

namespace FilterQuery.Pattern

/-- The meaning of an escape. -/
inductive Escaped where
  | char (c : Char)
  | set (s : CharSet)
  | assertion (a : Assertion)

/-- Drops white space and comments, which run from a `#` to the end of the line. -/
def dropSpace (inComment : Bool) : List Char → List Char
  | [] => []
  | c :: cs =>
    if inComment then dropSpace (c ≠ '\n') cs
    else if Unicode.isWhiteSpace c then dropSpace false cs
    else if c = '#' then dropSpace true cs
    else c :: cs

/-- Drops what means nothing. -/
def skip (extended : Bool) (cs : List Char) : List Char :=
  if extended then dropSpace false cs else cs

/-! ### Numbers of characters -/

/-- The value of a hexadecimal digit. -/
def hexValue? (c : Char) : Option Nat :=
  if c.isDigit then some (c.toNat - '0'.toNat)
  else if 'a' ≤ c.toLower ∧ c.toLower ≤ 'f' then some (c.toLower.toNat - 'a'.toNat + 10)
  else none

/-- The value of hexadecimal digits. -/
def hexNumber? (digits : List Char) : Option Nat :=
  digits.foldlM (fun n c => (hexValue? c).map (16 * n + ·)) 0

/-- The character of a number that is one. -/
def charOfNumber? (n : Nat) : Option Char :=
  if n.isValidChar then some (Char.ofNat n) else none

/-- Takes as many characters as are asked for. -/
def takeChars (extended : Bool) : Nat → List Char → Option (List Char × List Char)
  | 0, cs => some ([], cs)
  | count + 1, cs =>
    match skip extended cs with
    | [] => none
    | c :: rest => (takeChars extended count rest).map fun (taken, rest) => (c :: taken, rest)

/-- Reads a number between braces, or one of `width` digits. -/
def charByNumber? (extended : Bool) (width : Nat) (cs : List Char) : Option (Char × List Char) :=
  match skip extended cs with
  | '\x7b' :: body => do
    let digits := body.takeWhile (· ≠ '\x7d')
    let digits := if extended then digits.filter (fun c => !Unicode.isWhiteSpace c) else digits
    let c ← if digits = [] then none else charOfNumber? (← hexNumber? digits)
    match body.dropWhile (· ≠ '\x7d') with
    | _ :: rest => some (c, rest)
    | [] => none
  | cs => do
    let (digits, rest) ← takeChars extended width cs
    return (← charOfNumber? (← hexNumber? digits), rest)

/-! ### Word boundaries -/

/-- The names of the word boundaries with a name. -/
def namedBoundary? (name : List Char) : Option Assertion :=
  if name = "start".toList then some .wordStart
  else if name = "end".toList then some .wordEnd
  else if name = "start-half".toList then some .notAfterWord
  else if name = "end-half".toList then some .notBeforeWord
  else none

/-- Whether a character can occur in the name of a word boundary. -/
def isBoundaryNameChar (c : Char) : Bool :=
  c.isAlpha || c = '-'

/-- Reads a word boundary after its letter. A brace opens a name only if a letter or a hyphen
follows it, and a repetition otherwise. -/
def wordBoundary? (extended : Bool) (cs : List Char) : Option (Assertion × List Char) :=
  match cs with
  | '\x7b' :: body =>
    match skip extended body with
    | [] => none
    | c :: rest =>
      if isBoundaryNameChar c then do
        let name := (c :: rest).takeWhile isBoundaryNameChar
        match skip extended ((c :: rest).dropWhile isBoundaryNameChar) with
        | '\x7d' :: rest => return (← namedBoundary? name, rest)
        | _ => none
      else some (.wordBoundary, cs)
  | cs => some (.wordBoundary, cs)

/-! ### Escapes -/

/-- The marks of the language. In front of each a backslash takes its meaning away. -/
def marks : List Char :=
  ['\\', '.', '+', '*', '?', '(', ')', '|', '[', ']', '\x7b', '\x7d', '^', '$', '#', '&', '-', '~']

/-- Whether a character with a backslash stands for itself. Letters and digits do not, nor do the
angle brackets, and outside ASCII there is nothing to escape. -/
def isEscapable (c : Char) : Bool :=
  c ∈ marks || (c.toNat < 128 && !c.isAlphanum && c ≠ '<' && c ≠ '>')

/-- The letters that stand for a control, a class or an assertion. -/
def letterEscape? : Char → Option Escaped
  | 'a' => some (.char '\x07')
  | 'f' => some (.char '\x0c')
  | 't' => some (.char '\t')
  | 'n' => some (.char '\n')
  | 'r' => some (.char '\r')
  | 'v' => some (.char '\x0b')
  | 'd' => some (.set .digit)
  | 'D' => some (.set (.negate .digit))
  | 's' => some (.set .space)
  | 'S' => some (.set (.negate .space))
  | 'w' => some (.set .word)
  | 'W' => some (.set (.negate .word))
  | 'A' => some (.assertion .textStart)
  | 'z' => some (.assertion .textEnd)
  | 'B' => some (.assertion .notWordBoundary)
  | '<' => some (.assertion .wordStart)
  | '>' => some (.assertion .wordEnd)
  | _ => none

/-- Reads the character `c` after a backslash, and what belongs to it. -/
def escape? (extended : Bool) (c : Char) (cs : List Char) : Option (Escaped × List Char) :=
  if isEscapable c then some (.char c, cs)
  else if c = 'x' then (charByNumber? extended 2 cs).map fun (c, rest) => (.char c, rest)
  else if c = 'u' then (charByNumber? extended 4 cs).map fun (c, rest) => (.char c, rest)
  else if c = 'U' then (charByNumber? extended 8 cs).map fun (c, rest) => (.char c, rest)
  else if c = 'b' then (wordBoundary? extended cs).map fun (a, rest) => (.assertion a, rest)
  else (letterEscape? c).map (·, cs)

end FilterQuery.Pattern
