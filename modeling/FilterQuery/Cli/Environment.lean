import FilterQuery.Unicode.Class

/-!
# The environment

The variables that a run sees: those that are set, and those of a file of assignments, one a line.
Of an assignment the part after `=` may be quoted, may have escapes, and may refer to variables that
are set. A line is dropped if it is empty or a comment, and reading stops at the first line that is
neither that nor an assignment.
-/

namespace FilterQuery.Cli

/-- The variables of a run, the first of a name counting. -/
abbrev Environment := List (String × String)

namespace Environment

/-- The value of a variable. -/
def get? (env : Environment) (name : String) : Option String :=
  env.lookup name

/-- Sets a variable unless it is set already. -/
def setDefault (env : Environment) (name value : String) : Environment :=
  if (env.get? name).isSome then env else env ++ [(name, value)]

end Environment

/-! ### Values -/

/-- Where the value of an assignment is read. -/
inductive ValueState where
  | bare
  | singleQuoted
  | doubleQuoted
  /-- After a backslash. The flag is set between double quotes. -/
  | escape (quoted : Bool)
  /-- In the name of a variable, which is kept last character first. -/
  | variable (quoted : Bool) (name : List Char)
  /-- In the name of a variable between braces. -/
  | braced (quoted : Bool) (name : List Char)
  /-- After a blank that ends the value. -/
  | ended

/-- The state after a character that stands for itself, or after a variable. -/
def ValueState.resume (quoted : Bool) : ValueState :=
  if quoted then .doubleQuoted else .bare

/-- The character of an escape. -/
def escaped? (c : Char) : Option Char :=
  if c ∈ ['\\', '\'', '"', '$', ' '] then some c
  else if c = 'n' then some '\n'
  else none

/-- Whether a character continues the name of a variable that is referred to. -/
def isReferenceChar (c : Char) : Bool :=
  c.isAlphanum || (c.toNat ≥ 128 && Unicode.isWord c)

/-- The value of a variable that is referred to, or nothing if it is not set. -/
def referenced (env : Environment) (name : List Char) : List Char :=
  ((env.get? (String.ofList name.reverse)).getD "").toList

/-- Reads a value. The mark that ends the name of a variable is taken as it is. -/
def value? (env : Environment) (state : ValueState) (text : List Char) :
    List Char → Option (List Char)
  | [] =>
    match state with
    | .bare | .escape false | .ended => some text
    | .variable false name => some (text ++ referenced env name)
    | _ => none
  | c :: cs =>
    match state with
    | .ended =>
      if c = ' ' ∨ c = '\t' then value? env .ended text cs
      else if c = '#' then some text
      else none
    | .escape quoted =>
      match escaped? c with
      | some c => value? env (.resume quoted) (text ++ [c]) cs
      | none => none
    | .singleQuoted =>
      if c = '\'' then value? env .bare text cs else value? env .singleQuoted (text ++ [c]) cs
    | .variable quoted name =>
      if isReferenceChar c then value? env (.variable quoted (c :: name)) text cs
      else if c = '\x7b' ∧ name = [] then value? env (.braced quoted []) text cs
      else
        let text := text ++ referenced env name
        if c = '$' then value? env (.variable quoted []) text cs
        else value? env (.resume quoted) (text ++ [c]) cs
    | .braced quoted name =>
      if c = '\x7d' then value? env (.resume quoted) (text ++ referenced env name) cs
      else value? env (.braced quoted (c :: name)) text cs
    | .doubleQuoted =>
      if c = '$' then value? env (.variable true []) text cs
      else if c = '"' then value? env .bare text cs
      else if c = '\\' then value? env (.escape true) text cs
      else value? env .doubleQuoted (text ++ [c]) cs
    | .bare =>
      if c = '$' then value? env (.variable false []) text cs
      else if c = '\'' then value? env .singleQuoted text cs
      else if c = '"' then value? env .doubleQuoted text cs
      else if c = '\\' then value? env (.escape false) text cs
      else if c = ' ' ∨ c = '\t' then value? env .ended text cs
      else value? env .bare (text ++ [c]) cs

/-! ### Assignments -/

/-- Drops white space from the front of a text. -/
def trimStart (cs : List Char) : List Char :=
  cs.dropWhile Unicode.isWhiteSpace

/-- Drops white space from the end of a text. -/
def trimEnd (cs : List Char) : List Char :=
  (trimStart cs.reverse).reverse

/-- Reads the name of a variable and the white space after it. -/
def name? (cs : List Char) : Option (String × List Char) :=
  match cs with
  | c :: _ =>
    if c.isAlpha || c = '_' then
      let isPart := fun c : Char => c.isAlphanum || c = '_' || c = '.'
      some (String.ofList (cs.takeWhile isPart), trimStart (cs.dropWhile isPart))
    else none
  | [] => none

/-- Reads the name in front of an assignment and the equals sign. The word `export` may come first,
and may be a name itself. -/
def target? (cs : List Char) : Option (String × List Char) := do
  match ← name? cs with
  | (name, '=' :: rest) => return (name, rest)
  | ("export", rest) =>
    match ← name? rest with
    | (name, '=' :: rest) => return (name, rest)
    | _ => none
  | _ => none

/-- What a line says. -/
inductive Line where
  | nothing
  | assignment (name value : String)

/-- Reads a line. -/
def line? (env : Environment) (line : List Char) : Option Line :=
  let cs := trimStart (trimEnd line)
  if cs = [] ∨ cs.head? = some '#' then some .nothing
  else do
    let (name, rest) ← target? cs
    let rest := trimStart rest
    if rest = [] ∨ rest.head? = some '#' then return .assignment name ""
    else return .assignment name (String.ofList (← value? env .bare [] rest))

/-- The lines of a text. A carriage return before the end of a line belongs to the end. -/
def linesOf (text : String) : List (List Char) :=
  (text.splitOn "\n").map fun line =>
    let chars := line.toList
    if chars.getLast? = some '\r' then chars.dropLast else chars

/-- Adds the assignments of some lines to the variables that are set, up to the first bad line. -/
def addLines (env : Environment) : List (List Char) → Environment
  | [] => env
  | line :: lines =>
    match line? env line with
    | none => env
    | some .nothing => addLines env lines
    | some (.assignment name value) => addLines (env.setDefault name value) lines

/-- Adds the assignments of a file to the variables that are set. -/
def Environment.addFile (env : Environment) (text : String) : Environment :=
  addLines env (linesOf text)

end FilterQuery.Cli
