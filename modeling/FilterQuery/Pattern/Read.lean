import FilterQuery.Number.Decimal
import FilterQuery.Pattern.Class
import FilterQuery.Pattern.Size

/-!
# Reading patterns

`Pattern.read?` reads a regular expression, and `Pattern.ofText?` one that is not too large. A
`Reading` holds the groups that are open, the innermost first. Each part of the text is read by
`Reading.step?`, which has to take something off the text, so that reading ends.

Groups keep what they match, unless they are for flags, and have numbers in the order in which they
are opened. The names of named groups may not be repeated. Nesting is limited to `maxPatternDepth`
levels, and the size to `maxPatternSize`.

Two things that the language has are refused here: classes of characters by a Unicode property, with
`\p` or `\P`, and matching bytes instead of characters, without the flag `u`.
-/

namespace FilterQuery.Pattern

/-- The deepest nesting that a pattern may have. -/
def maxPatternDepth : Nat := 250

/-- The greatest number of repetitions that can be written. -/
def maxRepetitions : Nat := powerOfTwo 32 - 1

/-- The settings that a pattern can change. -/
structure Flags where
  ignoreCase : Bool
  multiLine : Bool
  /-- A dot takes a line break too. -/
  dotAll : Bool
  crlf : Bool
  /-- White space means nothing. -/
  extended : Bool

/-- The settings at the start. -/
def Flags.standard : Flags := ⟨false, false, false, false, false⟩

/-- Changes one setting. Which of its matches a repetition prefers does not matter here. Characters
are always those of Unicode. -/
def Flags.put? (flags : Flags) (letter : Char) (value : Bool) : Option Flags :=
  match letter with
  | 'i' => some { flags with ignoreCase := value }
  | 'm' => some { flags with multiLine := value }
  | 's' => some { flags with dotAll := value }
  | 'R' => some { flags with crlf := value }
  | 'x' => some { flags with extended := value }
  | 'U' => some flags
  | 'u' => if value then some flags else none
  | _ => none

/-- A part of a pattern that has been read. -/
structure Term where
  pattern : Pattern
  /-- The levels of nesting in it. -/
  depth : Nat
  /-- Whether a repetition may follow. -/
  repeatable : Bool

namespace Term

/-- A part without parts. -/
def atom (pattern : Pattern) : Term := ⟨pattern, 0, true⟩

/-- One of several parts, or parts in a row, from a list with the last first. -/
def compose (build : List Pattern → Pattern) (terms : List Term) : Term :=
  let depth := terms.foldl (fun d t => max d t.depth) 0
  ⟨build (terms.reverse.map (·.pattern)), if terms.length ≤ 1 then depth else depth + 1, true⟩

end Term

/-- A group that is open, or the pattern itself. Both lists have the last part first. -/
structure Level where
  /-- The choices that are complete. -/
  choices : List Term
  /-- The parts of the choice that is being read. -/
  terms : List Term
  flags : Flags
  /-- The number of the group, if it keeps what it matches. -/
  number : Option Nat

/-- What a complete level stands for. -/
def Level.close (level : Level) : Term :=
  Term.compose choiceOf (Term.compose sequenceOf level.terms :: level.choices)

/-- A complete group as a part of the level around it. -/
def Level.closeGroup (level : Level) : Term :=
  let term := level.close
  let pattern := match level.number with
    | some number => .group number term.pattern
    | none => term.pattern
  { term with pattern, depth := term.depth + 1 }

/-- Adds a part to the choice that is being read. -/
def Level.add (level : Level) (term : Term) : Level :=
  { level with terms := term :: level.terms }

/-- A reader in the middle of a pattern. -/
structure Reading where
  level : Level
  /-- The levels around the open groups, the innermost first. -/
  outer : List Level
  /-- The names of groups so far. -/
  names : List (List Char)
  /-- The number of groups so far, apart from those for flags. -/
  groups : Nat

/-! ### Repetitions -/

/-- Reads a number with white space around it. -/
def number? (extended : Bool) (cs : List Char) : Option (Nat × List Char) :=
  let cs := cs.dropWhile Unicode.isWhiteSpace
  let isPart := fun c : Char => c.isDigit || (extended && Unicode.isWhiteSpace c)
  let digits := (cs.takeWhile isPart).filter Char.isDigit
  let rest := (cs.dropWhile isPart).dropWhile Unicode.isWhiteSpace
  match Numeral.digits? digits with
  | some n => if n ≤ maxRepetitions then some (n, skip extended rest) else none
  | none => none

/-- Reads the numbers of a counted repetition, after its brace. -/
def counts? (extended : Bool) (cs : List Char) : Option ((Nat × Option Nat) × List Char) := do
  let (least, rest) ← number? extended (skip extended cs)
  match rest with
  | '\x7d' :: rest => return ((least, some least), rest)
  | ',' :: rest =>
    match skip extended rest with
    | '\x7d' :: rest => return ((least, none), rest)
    | rest =>
      let (most, rest) ← number? extended rest
      match rest with
      | '\x7d' :: rest => if least ≤ most then return ((least, some most), rest) else none
      | _ => none
  | _ => none

/-- Drops the mark that makes a repetition prefer fewer repeats. -/
def dropLazy : List Char → List Char
  | '?' :: rest => rest
  | rest => rest

/-- Repeats the last part. -/
def Reading.repeat? (r : Reading) (least : Nat) (most : Option Nat) : Option Reading :=
  match r.level.terms with
  | [] => none
  | term :: terms =>
    if term.repeatable then
      let term := ⟨.repetition term.pattern least most, term.depth + 1, true⟩
      some { r with level := { r.level with terms := term :: terms } }
    else none

/-! ### Groups -/

/-- Reads the letters of flags up to the mark that ends them. No letter may come twice, and
something must follow a minus. -/
def flags? (flags : Flags) (value : Bool) (seen : List Char) :
    List Char → Option (Flags × List Char × Char × List Char)
  | [] => none
  | c :: cs =>
    if c = ':' ∨ c = ')' then
      if seen.head? = some '-' then none else some (flags, seen, c, cs)
    else if c ∈ seen then none
    else if c = '-' then flags? flags false ('-' :: seen) cs
    else do flags? (← flags.put? c value) value (c :: seen) cs

/-- The letters that may begin the name of a group. -/
def isGroupNameStart (c : Char) : Bool :=
  c = '_' || c.isAlpha || (c.toNat ≥ 128 && Unicode.isWord c && !Unicode.isDigit c)

/-- The characters that may continue the name of a group. -/
def isGroupNameChar (c : Char) : Bool :=
  isGroupNameStart c || c = '.' || c = '[' || c = ']' || Unicode.isDigit c

/-- Reads the name of a group up to its closing angle bracket. -/
def groupName? (cs : List Char) : Option (List Char × List Char) :=
  let name := cs.takeWhile (· ≠ '>')
  match cs.dropWhile (· ≠ '>') with
  | _ :: rest =>
    if (name.head?).any isGroupNameStart && name.all isGroupNameChar then some (name, rest)
    else none
  | [] => none

namespace Reading

/-- Opens a group for flags. -/
def openFlags (r : Reading) (flags : Flags) : Reading :=
  { r with level := ⟨[], [], flags, none⟩, outer := r.level :: r.outer }

/-- Opens a group that keeps what it matches. -/
def openGroup (r : Reading) : Reading :=
  { r with
    level := ⟨[], [], r.level.flags, some (r.groups + 1)⟩
    outer := r.level :: r.outer
    groups := r.groups + 1 }

/-- Opens a group with a name, which must be new. -/
def openNamed? (r : Reading) (cs : List Char) : Option (Reading × List Char) := do
  let (name, rest) ← groupName? cs
  if name ∈ r.names then none
  else return ({ r.openGroup with names := name :: r.names }, rest)

/-- Reads what follows an opening bracket: a condition on what lies ahead or behind, which there is
not, a name, flags, or nothing special. Flags without a group hold to the end of the group around
them. -/
def group? (r : Reading) (cs : List Char) : Option (Reading × List Char) :=
  match skip r.level.flags.extended cs with
  | '?' :: '=' :: _ => none
  | '?' :: '!' :: _ => none
  | '?' :: '<' :: '=' :: _ => none
  | '?' :: '<' :: '!' :: _ => none
  | '?' :: 'P' :: '<' :: rest => r.openNamed? rest
  | '?' :: '<' :: rest => r.openNamed? rest
  | '?' :: rest => do
    let (flags, letters, mark, rest) ← flags? r.level.flags true [] rest
    if mark = ':' then return (r.openFlags flags, rest)
    else if letters = [] then none
    else return ({ r with level := { r.level.add ⟨.empty, 0, false⟩ with flags } }, rest)
  | rest => some (r.openGroup, rest)

/-- Closes the innermost group. -/
def closeGroup? (r : Reading) : Option Reading :=
  match r.outer with
  | [] => none
  | level :: outer => some { r with level := level.add r.level.closeGroup, outer }

/-! ### The pattern -/

/-- Adds a part without parts. -/
def addAtom (r : Reading) (p : Pattern) : Reading :=
  { r with level := r.level.add (.atom p) }

/-- Adds a character as it stands. -/
def addChar (r : Reading) (c : Char) : Reading :=
  r.addAtom (.set (if r.level.flags.ignoreCase then .caseless (.singleton c) else .singleton c))

/-- The set of the dot: all characters but line breaks, or all. -/
def dot (flags : Flags) : CharSet :=
  if flags.dotAll then .all
  else if flags.crlf then .negate (.union (.singleton '\n') (.singleton '\r'))
  else .negate (.singleton '\n')

/-- Reads one part that begins with `c`. -/
def step? (r : Reading) (c : Char) (cs : List Char) : Option (Reading × List Char) :=
  let flags := r.level.flags
  match c with
  | '(' => r.group? cs
  | ')' => r.closeGroup?.map (·, cs)
  | '|' =>
    let choice := Term.compose sequenceOf r.level.terms
    let level := { r.level with choices := choice :: r.level.choices, terms := [] }
    some ({ r with level }, cs)
  | '?' => (r.repeat? 0 (some 1)).map (·, dropLazy cs)
  | '*' => (r.repeat? 0 none).map (·, dropLazy cs)
  | '+' => (r.repeat? 1 none).map (·, dropLazy cs)
  | '\x7b' => do
    let ((least, most), rest) ← counts? flags.extended cs
    return (← r.repeat? least most, dropLazy (skip flags.extended rest))
  | '[' => do
    let (chars, rest) ← class? flags.extended flags.ignoreCase cs
    return ({ r with level := r.level.add ⟨.set chars, 1, true⟩ }, rest)
  | '.' => some (r.addAtom (.set (dot flags)), cs)
  | '^' =>
    some (r.addAtom (.assert (if flags.multiLine then .lineStart flags.crlf else .textStart)), cs)
  | '$' =>
    some (r.addAtom (.assert (if flags.multiLine then .lineEnd flags.crlf else .textEnd)), cs)
  | '\\' =>
    match cs with
    | [] => none
    | c :: cs => do
      match ← escape? flags.extended c cs with
      | (.char c, rest) => return (r.addChar c, rest)
      | (.set s, rest) => return (r.addAtom (.set s), rest)
      | (.assertion a, rest) => return (r.addAtom (.assert a), rest)
  | c => some (r.addChar c, cs)

/-- The pattern at the end of the text, where no group may be open. -/
def finish? (r : Reading) : Option Pattern :=
  if r.outer.isEmpty then
    let term := r.level.close
    if term.depth ≤ maxPatternDepth then some term.pattern else none
  else none

/-- Reads to the end of the text. Every step has to take something off it. -/
def run? (r : Reading) (cs : List Char) : Option Pattern :=
  match skip r.level.flags.extended cs with
  | [] => r.finish?
  | c :: rest =>
    match r.step? c rest with
    | none => none
    | some (next, after) => if after.length < cs.length then run? next after else none
  termination_by cs.length

end Reading

/-- Reads a pattern of any size. -/
def read? (text : String) : Option Pattern :=
  Reading.run? ⟨⟨[], [], .standard, none⟩, [], [], 0⟩ text.toList

/-- Reads a pattern that is not too large. -/
def ofText? (text : String) : Option Pattern :=
  (read? text).filter fun p => decide (p.size ≤ maxPatternSize)

/-- A text as the pattern that matches nothing else. -/
def escapeText (text : List Char) : List Char :=
  text.flatMap fun c => if c ∈ marks then ['\\', c] else [c]

end FilterQuery.Pattern
