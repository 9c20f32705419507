import FilterQuery.Pattern.Escape

/-!
# Classes in patterns

Sets of characters between square brackets: characters, ranges, escapes, named ASCII classes and
nested sets, all united, then intersected with `&&`, less what follows `--`, or compared with `~~`.
A bracket or hyphens at the start of a set stand for themselves. Cases are evened out before the set
is negated.
-/

namespace FilterQuery.Pattern

/-- An operation between two sets. -/
inductive SetOperation where
  | intersection
  | difference
  | symmetricDifference

/-- A set that is being read. -/
structure OpenSet where
  negated : Bool
  /-- The union of what was read since the last operation. -/
  union : CharSet
  /-- What stands before the last operation. -/
  left : Option (CharSet × SetOperation)

namespace OpenSet

/-- Adds to the union. -/
def add (s : OpenSet) (more : CharSet) : OpenSet :=
  { s with union := .union s.union more }

/-- The set that was read so far, without the negation. -/
def value (ignoreCase : Bool) (s : OpenSet) : CharSet :=
  let fold := fun chars : CharSet => if ignoreCase then .caseless chars else chars
  match s.left with
  | none => fold s.union
  | some (left, .intersection) => .intersection (fold left) (fold s.union)
  | some (left, .difference) => .difference (fold left) (fold s.union)
  | some (left, .symmetricDifference) => .symmetricDifference (fold left) (fold s.union)

/-- Begins the right side of an operation. -/
def operate (ignoreCase : Bool) (operation : SetOperation) (s : OpenSet) : OpenSet :=
  { s with union := .none, left := some (s.value ignoreCase, operation) }

/-- The set when its bracket is closed. -/
def close (ignoreCase : Bool) (s : OpenSet) : CharSet :=
  let chars := if ignoreCase then .caseless (s.value ignoreCase) else s.value ignoreCase
  if s.negated then .negate chars else chars

end OpenSet

/-- The ASCII classes that have a name. -/
def namedSet? (name : List Char) : Option CharSet :=
  let lower := CharSet.range 'a' 'z'
  let upper := CharSet.range 'A' 'Z'
  let digits := CharSet.range '0' '9'
  let alpha := CharSet.union lower upper
  let graph := CharSet.range '!' '~'
  match String.ofList name with
  | "alnum" => some (.union alpha digits)
  | "alpha" => some alpha
  | "ascii" => some (.range '\x00' '\x7f')
  | "blank" => some (.union (.singleton ' ') (.singleton '\t'))
  | "cntrl" => some (.union (.range '\x00' '\x1f') (.singleton '\x7f'))
  | "digit" => some digits
  | "graph" => some graph
  | "lower" => some lower
  | "print" => some (.range ' ' '~')
  | "punct" => some (.difference graph (.union alpha digits))
  | "space" => some (.union (.singleton ' ') (.range '\t' '\r'))
  | "upper" => some upper
  | "word" => some (.union (.union alpha digits) (.singleton '_'))
  | "xdigit" => some (.union digits (.union (.range 'a' 'f') (.range 'A' 'F')))
  | _ => none

/-- Reads a named class after its first bracket. -/
def namedClass? (cs : List Char) : Option (CharSet × List Char) :=
  match cs with
  | ':' :: body =>
    let (negated, body) := match body with
      | '^' :: rest => (true, rest)
      | rest => (false, rest)
    match body.dropWhile (· ≠ ':') with
    | ':' :: ']' :: rest => do
      let chars ← namedSet? (body.takeWhile (· ≠ ':'))
      return (if negated then .negate chars else chars, rest)
    | _ => none
  | _ => none

/-- Opens a set after its bracket. Hyphens at the start stand for themselves, and so does a closing
bracket if there are none. -/
def openSet (extended : Bool) (cs : List Char) : OpenSet × List Char :=
  let cs := skip extended cs
  let (negated, cs) := match cs with
    | '^' :: rest => (true, skip extended rest)
    | cs => (false, cs)
  let isLeading := fun c : Char => c = '-' || (extended && Unicode.isWhiteSpace c)
  if '-' ∈ cs.takeWhile isLeading then (⟨negated, .singleton '-', none⟩, cs.dropWhile isLeading)
  else match cs with
    | ']' :: rest => (⟨negated, .singleton ']', none⟩, rest)
    | cs => (⟨negated, .none, none⟩, cs)

/-- Reads one character or escape of a set. -/
def setItem? (extended : Bool) : List Char → Option (Escaped × List Char)
  | '\\' :: c :: rest => escape? extended c rest
  | ['\\'] => none
  | c :: rest => some (.char c, rest)
  | [] => none

/-- The set of one item. Assertions are no characters. -/
def Escaped.toSet? : Escaped → Option CharSet
  | .char c => some (.singleton c)
  | .set s => some s
  | .assertion _ => none

/-- Reads an item of a set, or a range of characters. A hyphen before the closing bracket or before
another hyphen makes no range. -/
def setRange? (extended : Bool) (cs : List Char) : Option (CharSet × List Char) := do
  let (first, rest) ← setItem? extended cs
  match skip extended rest with
  | [] => none
  | '-' :: after =>
    let next := (skip extended after).head?
    if next = some ']' ∨ next = some '-' then return (← first.toSet?, '-' :: after)
    else
      let (last, rest) ← setItem? extended (skip extended after)
      match first, last with
      | .char first, .char last =>
        if first ≤ last then some (.range first last, rest) else none
      | _, _ => none
  | rest => return (← first.toSet?, rest)

/-- What reading one part of a set leads to. -/
inductive SetStep where
  | more (sets : List OpenSet) (rest : List Char)
  | done (chars : CharSet) (rest : List Char)

/-- Reads one part of the innermost open set. -/
def setStep? (extended ignoreCase : Bool) (s : OpenSet) (outer : List OpenSet) (cs : List Char) :
    Option SetStep :=
  match skip extended cs with
  | [] => none
  | '[' :: rest =>
    match namedClass? rest with
    | some (chars, rest) => some (.more (s.add chars :: outer) rest)
    | none =>
      let (inner, rest) := openSet extended rest
      some (.more (inner :: s :: outer) rest)
  | ']' :: rest =>
    match outer with
    | [] => some (.done (s.close ignoreCase) rest)
    | around :: outer => some (.more (around.add (s.close ignoreCase) :: outer) rest)
  | '&' :: '&' :: rest => some (.more (s.operate ignoreCase .intersection :: outer) rest)
  | '-' :: '-' :: rest => some (.more (s.operate ignoreCase .difference :: outer) rest)
  | '~' :: '~' :: rest => some (.more (s.operate ignoreCase .symmetricDifference :: outer) rest)
  | cs => (setRange? extended cs).map fun (chars, rest) => .more (s.add chars :: outer) rest

/-- Reads open sets, the innermost first, to the closing bracket of the last. Every step has to take
something off the text. -/
def readSet? (extended ignoreCase : Bool) (sets : List OpenSet) (cs : List Char) :
    Option (CharSet × List Char) :=
  match sets with
  | [] => none
  | s :: outer =>
    match setStep? extended ignoreCase s outer cs with
    | none => none
    | some (.done chars rest) => some (chars, rest)
    | some (.more sets rest) =>
      if rest.length < cs.length then readSet? extended ignoreCase sets rest else none
  termination_by cs.length

/-- Reads a set after its first bracket. -/
def class? (extended ignoreCase : Bool) (cs : List Char) : Option (CharSet × List Char) :=
  let (s, rest) := openSet extended cs
  readSet? extended ignoreCase [s] rest

end FilterQuery.Pattern
