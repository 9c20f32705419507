import FilterQuery.Yaml.Token

/-!
# YAML scalars

How the text of a scalar is read, for each of the ways of writing one: plain, between single or
double quotes, or as a block of lines. Each function returns the text of the scalar and what follows
it. Line breaks inside a scalar are folded: one becomes a space, and of several all but the first
remain.
-/

namespace FilterQuery.Yaml

/-- White space inside a scalar that has not been joined to its text yet. -/
structure Gap where
  /-- Blanks before the first line break. -/
  blanks : List Char
  /-- The first line break. It is `some []` for one that is escaped. -/
  first : Option (List Char)
  /-- The other line breaks. -/
  others : List Char

namespace Gap

/-- No white space. -/
def empty : Gap := ⟨[], none, []⟩

/-- Adds a blank. After a line break blanks are indentation. -/
def addBlank (g : Gap) (c : Char) : Gap :=
  if g.first.isSome then g else { g with blanks := g.blanks ++ [c] }

/-- Adds a line break. -/
def addBreak (g : Gap) (c : Char) : Gap :=
  if g.first.isSome then { g with others := g.others ++ [c] }
  else { g with blanks := [], first := some [c] }

/-- The text that the white space stands for. -/
def fold (g : Gap) : List Char :=
  match g.first with
  | none => g.blanks
  | some ['\n'] => if g.others = [] then [' '] else g.others
  | some first => first ++ g.others

end Gap

/-! ### Plain scalars -/

/-- The marks that end a plain scalar inside brackets. -/
def isFlowMark (c : Char) : Bool :=
  c = ',' || c = '[' || c = ']' || c = '\x7b' || c = '\x7d'

/-- A plain scalar that has been read. -/
structure PlainScalar where
  text : List Char
  /-- Whether a line break follows the text. -/
  brokeLine : Bool
  rest : List Char

/-- Reads a plain scalar. It ends at a comment, at a mark of a document, at a colon before a blank,
inside brackets at their marks, and elsewhere at a line that is indented less than `indent`.
The flag `inWord` is set after a character of the scalar. -/
def plain? (flow : Bool) (indent : Int) (text : List Char) (gap : Gap) (column : Nat)
    (inWord : Bool) : List Char → Option PlainScalar
  | [] => some ⟨text, gap.first.isSome, []⟩
  | c :: cs =>
    if isBlank c then
      if gap.first.isSome ∧ (column : Int) < indent ∧ c = '\t' then none
      else plain? flow indent text (gap.addBlank c) (column + 1) false cs
    else if isBreak c then plain? flow indent text (gap.addBreak c) 0 false cs
    else
      let endsHere := !inWord && ((!flow && gap.first.isSome && (column : Int) < indent)
        || (column = 0 && atDocumentMark (c :: cs)) || c = '#')
      let isMisplaced := flow && c = ':' && (cs.head?).any (fun d => isFlowMark d || d = '?')
      if endsHere then some ⟨text, gap.first.isSome, c :: cs⟩
      else if isMisplaced then none
      else if (c = ':' && atBlankOrEnd cs) || (flow && isFlowMark c) then
        some ⟨text, gap.first.isSome, c :: cs⟩
      else plain? flow indent (text ++ gap.fold ++ [c]) .empty (column + 1) true cs

/-! ### Quoted scalars -/

/-- Reads a scalar after its single quote. -/
def singleQuoted? (text : List Char) (gap : Gap) (column : Nat) :
    List Char → Option (List Char × List Char)
  | [] => none
  | '\'' :: '\'' :: cs => singleQuoted? (text ++ gap.fold ++ ['\'']) .empty (column + 2) cs
  | c :: cs =>
    if c = '\'' then some (text ++ gap.fold, cs)
    else if isBlank c then singleQuoted? text (gap.addBlank c) (column + 1) cs
    else if isBreak c then singleQuoted? text (gap.addBreak c) 0 cs
    else if column = 0 ∧ atDocumentMark (c :: cs) then none
    else singleQuoted? (text ++ gap.fold ++ [c]) .empty (column + 1) cs

/-- The character of a one-letter escape. -/
def shortEscape? : Char → Option Char
  | '0' => some '\x00'
  | 'a' => some '\x07'
  | 'b' => some '\x08'
  | 't' => some '\t'
  | '\t' => some '\t'
  | 'n' => some '\n'
  | 'v' => some '\x0b'
  | 'f' => some '\x0c'
  | 'r' => some '\r'
  | 'e' => some '\x1b'
  | ' ' => some ' '
  | '"' => some '"'
  | '/' => some '/'
  | '\\' => some '\\'
  | 'N' => some (Char.ofNat 0x85)
  | '_' => some (Char.ofNat 0xA0)
  | 'L' => some (Char.ofNat 0x2028)
  | 'P' => some (Char.ofNat 0x2029)
  | _ => none

/-- The number of hexadecimal digits of a numbered escape. -/
def hexWidth? : Char → Option Nat
  | 'x' => some 2
  | 'u' => some 4
  | 'U' => some 8
  | _ => none

/-- The value of a hexadecimal digit. -/
def hexDigit? (c : Char) : Option Nat :=
  if c.isDigit then some (c.toNat - '0'.toNat)
  else if 'a' ≤ c.toLower ∧ c.toLower ≤ 'f' then some (c.toLower.toNat - 'a'.toNat + 10)
  else none

/-- Where a double-quoted scalar is read. -/
inductive QuoteState where
  | text
  /-- After a backslash. -/
  | escape
  /-- Inside a numbered escape: the digits that are left, and the number so far. -/
  | hex (left : Nat) (number : Nat)

/-- Reads a scalar after its double quote. -/
def doubleQuoted? (state : QuoteState) (text : List Char) (gap : Gap) (column : Nat) :
    List Char → Option (List Char × List Char)
  | [] => none
  | c :: cs =>
    match state with
    | .text =>
      if c = '"' then some (text ++ gap.fold, cs)
      else if isBlank c then doubleQuoted? .text text (gap.addBlank c) (column + 1) cs
      else if isBreak c then doubleQuoted? .text text (gap.addBreak c) 0 cs
      else if column = 0 ∧ atDocumentMark (c :: cs) then none
      else if c = '\\' then doubleQuoted? .escape (text ++ gap.fold) .empty (column + 1) cs
      else doubleQuoted? .text (text ++ gap.fold ++ [c]) .empty (column + 1) cs
    | .escape =>
      if isBreak c then doubleQuoted? .text text ⟨[], some [], []⟩ 0 cs
      else match shortEscape? c with
        | some decoded => doubleQuoted? .text (text ++ [decoded]) .empty (column + 1) cs
        | none =>
          match hexWidth? c with
          | some width => doubleQuoted? (.hex width 0) text .empty (column + 1) cs
          | none => none
    | .hex left number =>
      match hexDigit? c with
      | none => none
      | some digit =>
        let number := 16 * number + digit
        if left > 1 then doubleQuoted? (.hex (left - 1) number) text .empty (column + 1) cs
        else if number.isValidChar then
          doubleQuoted? .text (text ++ [Char.ofNat number]) .empty (column + 1) cs
        else none

/-! ### Block scalars -/

/-- What is kept of the line breaks at the end of a block. -/
inductive Chomping where
  | strip
  | clip
  | keep

/-- The header of a block: what to do with the last line breaks, and the indentation if given. -/
def blockHeader? : List Char → Option (Chomping × Nat × List Char)
  | cs =>
    let (chomping, cs) := takeChomping cs
    match cs with
    | c :: rest =>
      if c.isDigit then
        if c = '0' then none
        else
          let width := c.toNat - '0'.toNat
          match chomping with
          | some chomping => some (chomping, width, rest)
          | none =>
            let (chomping, rest) := takeChomping rest
            some (chomping.getD .clip, width, rest)
      else some (chomping.getD .clip, 0, cs)
    | [] => some (chomping.getD .clip, 0, [])
where
  takeChomping : List Char → Option Chomping × List Char
    | '+' :: rest => (some .keep, rest)
    | '-' :: rest => (some .strip, rest)
    | rest => (none, rest)

/-- Takes empty lines and the indentation of the line after them. An indentation of zero is unknown,
and any number of spaces is taken. Returns the line breaks, the last column, the greatest column and
the rest. -/
def blockBreaks? (indent : Nat) (breaks : List Char) (column greatest : Nat) :
    List Char → Option (List Char × Nat × Nat × List Char)
  | [] => some (breaks, column, max greatest column, [])
  | c :: cs =>
    if (indent = 0 ∨ column < indent) ∧ c = ' ' then
      blockBreaks? indent breaks (column + 1) greatest cs
    else if (indent = 0 ∨ column < indent) ∧ c = '\t' then none
    else if isBreak c then blockBreaks? indent (breaks ++ [c]) 0 (max greatest column) cs
    else some (breaks, column, max greatest column, c :: cs)

/-- Reads the lines of a block that stand at its indentation. The arguments are the text so far, the
line break after it, the empty lines after that, and whether the last line began with a blank. -/
def blockLines? (literal : Bool) (indent : Nat) (text first others : List Char) (afterBlank : Bool)
    (column : Nat) (cs : List Char) : Option (List Char × List Char × List Char × List Char) :=
  match cs.head? with
  | none => some (text, first, others, [])
  | some c =>
    if column ≠ indent then some (text, first, others, cs)
    else
      let isFolded := !literal && first = ['\n'] && !afterBlank && !isBlank c
      let joint := if isFolded then (if others = [] then [' '] else []) else first
      let line := cs.takeWhile (fun d => !isBreak d)
      let rest := cs.dropWhile (fun d => !isBreak d)
      let text := text ++ joint ++ others ++ line
      match blockBreaks? indent [] 0 0 (rest.drop 1) with
      | none => none
      | some (others, column, _, after) =>
        if after.length < cs.length then
          blockLines? literal indent text (rest.take 1) others (isBlank c) column after
        else none
  termination_by cs.length

/-- Reads a block after the mark of its kind. The block is indented more than `parent`. -/
def block? (literal : Bool) (parent : Int) (cs : List Char) :
    Option (List Char × List Char) := do
  let (chomping, width, rest) ← blockHeader? cs
  let rest := rest.dropWhile isBlank
  let rest := if rest.head? = some '#' then rest.dropWhile (fun c => !isBreak c) else rest
  if (rest.head?).any (fun c => !isBreak c) then none
  let given := if width = 0 then 0 else (max parent 0).toNat + width
  let (others, column, greatest, rest) ← blockBreaks? given [] 0 0 (rest.drop 1)
  let indent := if given = 0 then max greatest (max (parent + 1).toNat 1) else given
  let (text, first, others, rest) ← blockLines? literal indent [] [] others false column rest
  match chomping with
  | .strip => return (text, rest)
  | .clip => return (text ++ first, rest)
  | .keep => return (text ++ first ++ others, rest)

end FilterQuery.Yaml
