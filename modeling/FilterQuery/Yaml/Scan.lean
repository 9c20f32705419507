import FilterQuery.Yaml.Scalar

/-!
# Reading YAML tokens

`Scanner` reads a text token by token. It holds the indentations of the open blocks, and for each
level of brackets the place where a key may have begun: only a colon tells that a scalar was a key,
and then the `key` token is put in front of it.
-/

namespace FilterQuery.Yaml

/-- The place where a key may have begun. -/
structure KeyPlace where
  /-- Whether nothing but a key can stand there. -/
  required : Bool
  /-- The number of tokens before it. -/
  token : Nat
  line : Nat
  column : Nat
  /-- The number of characters that were left. -/
  left : Nat

/-- A reader in the middle of a text. -/
structure Scanner where
  rest : List Char
  line : Nat
  column : Nat
  /-- The indentation of the innermost block, or `-1`. -/
  indent : Int
  /-- The indentations of the blocks around it. -/
  indents : List Int
  /-- Whether a key may begin here. -/
  keyAllowed : Bool
  /-- The place of a possible key, for each level of brackets, the innermost first. -/
  keys : List (Option KeyPlace)
  tokens : Array Token

namespace Scanner

/-- A scanner at the start of a text. A mark of byte order at the start is skipped, but takes up a
column of the first line. -/
def ofText (text : List Char) : Scanner :=
  if text.head? = some (Char.ofNat 0xFEFF) then
    ⟨text.drop 1, 0, 1, -1, [], true, [none], #[]⟩
  else ⟨text, 0, 0, -1, [], true, [none], #[]⟩

/-- The number of brackets that are open. -/
def flowLevel (s : Scanner) : Nat :=
  s.keys.length - 1

/-- Whether the scanner is inside brackets. -/
def inFlow (s : Scanner) : Bool :=
  s.flowLevel ≠ 0

/-- Goes on to a place further in the text. -/
def goTo (s : Scanner) (rest : List Char) : Scanner :=
  let passed := s.rest.take (s.rest.length - rest.length)
  let (line, column) := passed.foldl
    (fun (line, column) c => if isBreak c then (line + 1, 0) else (line, column + 1))
    (s.line, s.column)
  { s with rest, line, column }

/-- Adds a token. -/
def push (s : Scanner) (t : Token) : Scanner :=
  { s with tokens := s.tokens.push t }

/-- Puts a token in front of those that follow the first `place` ones. -/
def insertAt (s : Scanner) (place : Nat) (t : Token) : Scanner :=
  { s with tokens := (s.tokens.take place).push t ++ s.tokens.drop place }

/-! ### Blocks -/

/-- Closes the blocks that are indented more than a column. -/
def closeBlocks (s : Scanner) (column : Int) : Scanner :=
  if s.inFlow then s
  else
    let indents := s.indent :: s.indents
    let closed := indents.takeWhile (column < ·)
    let left := indents.dropWhile (column < ·)
    { s with
      indent := left.headD (-1), indents := left.drop 1
      tokens := s.tokens ++ (closed.map fun _ => Token.blockEnd).toArray }

/-- Opens a block at a column, unless one is open there. -/
def openBlock (s : Scanner) (column place : Nat) (t : Token) : Scanner :=
  if s.inFlow ∨ (column : Int) ≤ s.indent then s
  else { s.insertAt place t with indent := column, indents := s.indent :: s.indents }

/-! ### Possible keys -/

/-- Gives up the possible key of this level. One that was required is an error. -/
def dropKey? (s : Scanner) : Option Scanner :=
  match s.keys with
  | some key :: outer => if key.required then none else some { s with keys := none :: outer }
  | _ => some s

/-- Notes that a key may begin here. -/
def noteKey? (s : Scanner) : Option Scanner :=
  if s.keyAllowed then do
    let s ← s.dropKey?
    let place : KeyPlace :=
      ⟨!s.inFlow && s.indent = (s.column : Int), s.tokens.size, s.line, s.column, s.rest.length⟩
    return { s with keys := some place :: s.keys.drop 1 }
  else some s

/-- The key that ends here. A key is on one line and at most 1024 characters long. -/
def currentKey? (s : Scanner) : Option (Option KeyPlace) :=
  match s.keys with
  | some key :: _ =>
    if key.line < s.line ∨ key.left > s.rest.length + 1024 then
      if key.required then none else some none
    else some (some key)
  | _ => some none

/-! ### White space -/

/-- Skips blanks, comments and line breaks. Returns what follows, and whether a key may begin there.
Tabs are no indentation. -/
def skipSpace (flow inComment keyAllowed : Bool) : List Char → List Char × Bool
  | [] => ([], keyAllowed)
  | c :: cs =>
    if isBreak c then skipSpace flow false (keyAllowed || !flow) cs
    else if inComment then skipSpace flow true keyAllowed cs
    else if c = ' ' || (c = '\t' && (flow || !keyAllowed)) then
      skipSpace flow false keyAllowed cs
    else if c = '#' then skipSpace flow true keyAllowed cs
    else (c :: cs, keyAllowed)

/-! ### Tokens -/

/-- Reads a directive after its mark. -/
def directive? (cs : List Char) : Option (Token × List Char) :=
  let name := cs.takeWhile isNameChar
  let body := (cs.dropWhile isNameChar).dropWhile isBlank
  let finish (t : Token) (rest : List Char) : Option (Token × List Char) :=
    let rest := rest.dropWhile isBlank
    let rest := if rest.head? = some '#' then rest.dropWhile (fun c => !isBreak c) else rest
    if (rest.head?).all isBreak then some (t, rest.drop 1) else none
  if name = "YAML".toList then
    let major := body.takeWhile Char.isDigit
    match body.dropWhile Char.isDigit with
    | '.' :: rest =>
      let minor := rest.takeWhile Char.isDigit
      if major = [] ∨ minor = [] ∨ major.length > 9 ∨ minor.length > 9 then none
      else
        let number := fun digits : List Char =>
          digits.foldl (fun n c => 10 * n + (c.toNat - '0'.toNat)) 0
        finish (.version (number major) (number minor)) (rest.dropWhile Char.isDigit)
    | _ => none
  else if name = "TAG".toList then
    let handle := body.takeWhile (fun c => !isBlank c && !isBreak c)
    let address := (body.dropWhile (fun c => !isBlank c && !isBreak c)).dropWhile isBlank
    let inner := (handle.drop 1).dropLast
    if handle.head? = some '!' ∧ handle.getLast? = some '!' ∧ inner.all isNameChar
        ∧ !atBlankOrEnd address then
      finish (.tagHandle (String.ofList handle))
        (address.dropWhile (fun c => !isBlank c && !isBreak c))
    else none
  else none

/-- The characters of the name of a tag. -/
def isTagChar (c : Char) : Bool :=
  isNameChar c || c ∈ [';', '/', '?', ':', '@', '&', '=', '+', '$', '.', '!', '~', '*', '\'', '(',
    ')', '%']

/-- Reads a tag after its mark. -/
def tag? (flow : Bool) (cs : List Char) : Option (Token × List Char) := do
  let (t, rest) ← match cs with
    | '<' :: body =>
      let isPart := fun c => isTagChar c || c = ',' || c = '[' || c = ']'
      match body.takeWhile isPart, body.dropWhile isPart with
      | c :: name, '>' :: rest => some (Token.tag "" (String.ofList (c :: name)), rest)
      | _, _ => none
    | cs =>
      match cs.dropWhile isNameChar with
      | '!' :: rest =>
        let suffix := rest.takeWhile isTagChar
        if suffix = [] then none
        else some (Token.tag (String.ofList ('!' :: cs.takeWhile isNameChar ++ ['!']))
          (String.ofList suffix), rest.dropWhile isTagChar)
      | _ => some (Token.tag "!" (String.ofList (cs.takeWhile isTagChar)), cs.dropWhile isTagChar)
  if atBlankOrEnd rest || (flow && rest.head? = some ',') then return (t, rest) else none

/-- Reads the name of an anchor or an alias after its mark. -/
def anchorName? (cs : List Char) : Option (String × List Char) :=
  let name := cs.takeWhile isNameChar
  let rest := cs.dropWhile isNameChar
  if name ≠ [] ∧ (atBlankOrEnd rest
      ∨ (rest.head?).any (· ∈ ['?', ':', ',', ']', '\x7d', '%', '@', Char.ofNat 0x60])) then
    some (String.ofList name, rest)
  else none

/-- Reads a token without parts, between keys. -/
def mark (s : Scanner) (t : Token) (keyAllowed : Bool) (rest : List Char) : Option Scanner := do
  let s ← s.dropKey?
  return { (s.push t).goTo rest with keyAllowed }

/-- Reads a token that may be, or begin, a key. -/
def node? (s : Scanner) (t : Token) (rest : List Char) : Option Scanner := do
  let s ← s.noteKey?
  return { (s.push t).goTo rest with keyAllowed := false }

/-- Opens a bracket. -/
def openFlow? (s : Scanner) (t : Token) (rest : List Char) : Option Scanner := do
  let s ← s.noteKey?
  return { (s.push t).goTo rest with keyAllowed := true, keys := none :: s.keys }

/-- Closes a bracket. -/
def closeFlow? (s : Scanner) (t : Token) (rest : List Char) : Option Scanner := do
  let s ← s.dropKey?
  let keys := if s.inFlow then s.keys.drop 1 else s.keys
  return { (s.push t).goTo rest with keyAllowed := false, keys }

/-- Reads the hyphen of an item. -/
def entry? (s : Scanner) (rest : List Char) : Option Scanner :=
  if s.inFlow then s.mark .blockEntry true rest
  else if s.keyAllowed then
    (s.openBlock s.column s.tokens.size .blockSequenceStart).mark .blockEntry true rest
  else none

/-- Reads the question mark of a key. -/
def explicitKey? (s : Scanner) (rest : List Char) : Option Scanner :=
  if s.inFlow then s.mark .key false rest
  else if s.keyAllowed then
    (s.openBlock s.column s.tokens.size .blockMappingStart).mark .key true rest
  else none

/-- Reads the colon of a value. What came before it on the line was a key, if it could be one. -/
def value? (s : Scanner) (rest : List Char) : Option Scanner := do
  match ← s.currentKey? with
  | some key =>
    let s := (s.insertAt key.token .key).openBlock key.column key.token .blockMappingStart
    return { (s.push .value).goTo rest with keyAllowed := false, keys := none :: s.keys.drop 1 }
  | none =>
    if s.inFlow then return { (s.push .value).goTo rest with keyAllowed := false }
    else if s.keyAllowed then
      let s := s.openBlock s.column s.tokens.size .blockMappingStart
      return { (s.push .value).goTo rest with keyAllowed := true }
    else none

/-- Reads a block scalar. -/
def blockScalar? (s : Scanner) (literal : Bool) (rest : List Char) : Option Scanner := do
  let (text, rest) ← block? literal s.indent rest
  s.mark (.scalar (String.ofList text) false) true rest

/-- Whether a plain scalar may begin with `c`. -/
def beginsPlain (flow : Bool) (c : Char) (cs : List Char) : Bool :=
  let marks := ['-', '?', ':', ',', '[', ']', '\x7b', '\x7d', '#', '&', '*', '!', '|', '>', '\'',
    '"', '%', '@', Char.ofNat 0x60]
  (c ∉ marks && !isBlank c) || (c = '-' && !(cs.head?).any isBlank)
    || (!flow && (c = '?' || c = ':') && !atBlankOrEnd cs)

/-- Reads a plain scalar. -/
def plainScalar? (s : Scanner) (cs : List Char) : Option Scanner := do
  let found ← plain? s.inFlow (s.indent + 1) [] .empty s.column false cs
  let next ← s.node? (.scalar (String.ofList found.text) true) found.rest
  return { next with keyAllowed := found.brokeLine }

/-- Reads the token that begins with `c`. -/
def token? (s : Scanner) (c : Char) (cs : List Char) : Option Scanner :=
  if s.column = 0 ∧ c = '%' then do
    let (t, rest) ← directive? cs
    (s.closeBlocks (-1)).mark t false rest
  else if s.column = 0 ∧ atDocumentMark (c :: cs) then
    (s.closeBlocks (-1)).mark (if c = '-' then .documentStart else .documentEnd) false (cs.drop 2)
  else if c = '[' then s.openFlow? .flowSequenceStart cs
  else if c = '\x7b' then s.openFlow? .flowMappingStart cs
  else if c = ']' then s.closeFlow? .flowSequenceEnd cs
  else if c = '\x7d' then s.closeFlow? .flowMappingEnd cs
  else if c = ',' then s.mark .flowEntry true cs
  else if c = '-' ∧ atBlankOrEnd cs then s.entry? cs
  else if c = '?' ∧ (s.inFlow ∨ atBlankOrEnd cs) then s.explicitKey? cs
  else if c = ':' ∧ (s.inFlow ∨ atBlankOrEnd cs) then s.value? cs
  else if c = '*' then do
    let (name, rest) ← anchorName? cs
    s.node? (.alias name) rest
  else if c = '&' then do
    let (name, rest) ← anchorName? cs
    s.node? (.anchor name) rest
  else if c = '!' then do
    let (t, rest) ← tag? s.inFlow cs
    s.node? t rest
  else if c = '|' ∧ !s.inFlow then s.blockScalar? true cs
  else if c = '>' ∧ !s.inFlow then s.blockScalar? false cs
  else if c = '\'' then do
    let (text, rest) ← singleQuoted? [] .empty (s.column + 1) cs
    s.node? (.scalar (String.ofList text) false) rest
  else if c = '"' then do
    let (text, rest) ← doubleQuoted? .text [] .empty (s.column + 1) cs
    s.node? (.scalar (String.ofList text) false) rest
  else if beginsPlain s.inFlow c cs then s.plainScalar? (c :: cs)
  else none

/-- Reads the end of the text. -/
def finish? (s : Scanner) : Option (Array Token) := do
  return (← (s.closeBlocks (-1)).dropKey?).tokens

/-- Skips white space and closes the blocks that end before what follows. -/
def advance (s : Scanner) : Scanner :=
  let (rest, keyAllowed) := skipSpace s.inFlow false s.keyAllowed s.rest
  let s := { s.goTo rest with keyAllowed }
  s.closeBlocks s.column

/-- Reads to the end of the text. Every token has to take something off it. -/
def run? (s : Scanner) : Option (Array Token) :=
  let here := s.advance
  match here.rest with
  | [] => here.finish?
  | c :: cs =>
    match here.token? c cs with
    | none => none
    | some next => if next.rest.length < s.rest.length then next.run? else none
  termination_by s.rest.length

end Scanner

/-- All tokens of a text, or none if it is not YAML. -/
def tokens? (text : String) : Option (List Token) :=
  if text.toList.all isAllowed then
    ((Scanner.ofText (normalizeBreaks text.toList)).run?).map Array.toList
  else none

end FilterQuery.Yaml
