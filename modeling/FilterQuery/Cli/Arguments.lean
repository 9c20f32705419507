import FilterQuery.Number.Decimal
import FilterQuery.Report

/-!
# Command lines

The arguments of a run, read from left to right. Options may stand before and after the query, short
ones in a row behind one hyphen, and a value may follow its option directly, after `=` or as the
next argument. After `--` everything is a query. An option may be given once, where the switch for
more output counts anew after the name of the command.
-/

namespace FilterQuery.Cli

/-- The options of `compile`. -/
structure CompileOptions where
  config : Option String
  format : Report.Format
  numbered : Bool
  offset : Option Nat
  deriving DecidableEq

/-- What a run is asked to do. -/
inductive Command where
  | lex (query : String)
  | parse (json : Bool) (query : String)
  | compile (options : CompileOptions) (query : String)
  deriving DecidableEq

/-- A command line that can be carried out. -/
structure Invocation where
  verbose : Bool
  command : Command
  deriving DecidableEq

/-- The meaning of a command line. -/
inductive Request where
  | run (invocation : Invocation)
  | version
  | help
  /-- The command line is not understood. -/
  | misuse
  deriving DecidableEq

/-- The commands by name. -/
inductive CommandName where
  | lex
  | parse
  | compile
  deriving DecidableEq

/-- The command of a name. -/
def CommandName.ofName? : String → Option CommandName
  | "lex" => some lex
  | "parse" => some parse
  | "compile" => some compile
  | _ => none

/-- The options by name. -/
inductive OptionName where
  | verbose
  | help
  | json
  | numbered
  | config
  | format
  | offset
  deriving DecidableEq

namespace OptionName

/-- Whether an option is followed by a value. -/
def takesValue : OptionName → Bool
  | config | format | offset => true
  | _ => false

/-- The option of a long name, for a command. -/
def ofLong? (command : CommandName) (name : String) : Option OptionName :=
  match command, name with
  | _, "verbose" => some verbose
  | _, "help" => some help
  | .parse, "json" => some json
  | .compile, "numbered" => some numbered
  | .compile, "config" => some config
  | .compile, "format" => some format
  | .compile, "offset" => some offset
  | _, _ => none

/-- The option of a letter, for a command. -/
def ofLetter? (command : CommandName) (letter : Char) : Option OptionName :=
  match command, letter with
  | _, 'v' => some verbose
  | _, 'h' => some help
  | .compile, 'c' => some config
  | _, _ => none

end OptionName

/-- What has been read of the arguments after the name of the command. -/
structure Draft where
  /-- The options so far, each with its value or without. -/
  options : List (OptionName × String)
  query : Option String

/-- Reads the number of values that are bound already. -/
def offset? (text : String) : Option Nat :=
  match Integer.ofText? text.toList with
  | some n => if text.toList.head? ≠ some '-' ∧ n < powerOfTwo 64 then some n.toNat else none
  | none => none

/-- Whether the value of an option can be read. -/
def acceptsValue (option : OptionName) (value : String) : Bool :=
  match option with
  | .config => value ≠ ""
  | .format => (Report.Format.ofName? value).isSome
  | .offset => (offset? value).isSome
  | _ => true

/-- Adds an option, which must not be there yet and must have a good value. -/
def Draft.add? (p : Draft) (option : OptionName) (value : String) : Option Draft :=
  if p.options.any (·.1 = option) || !acceptsValue option value then none
  else some { p with options := (option, value) :: p.options }

/-- The value of an option. -/
def Draft.value? (p : Draft) (option : OptionName) : Option String :=
  p.options.lookup option

/-- Whether an option is there. -/
def Draft.has (p : Draft) (option : OptionName) : Bool :=
  (p.value? option).isSome

/-- What an argument with options leads to. -/
inductive OptionStep where
  | done (p : Draft)
  /-- The value of an option is the next argument. -/
  | needsValue (p : Draft) (option : OptionName)
  | help
  | misuse

/-- Adds a switch. -/
def addSwitch (p : Draft) (option : OptionName) : OptionStep :=
  match p.add? option "" with
  | some p => .done p
  | none => .misuse

/-- Adds an option with a value. -/
def addValue (p : Draft) (option : OptionName) (value : String) : OptionStep :=
  match p.add? option value with
  | some p => .done p
  | none => .misuse

/-- Reads the letters behind one hyphen. The first option that takes a value takes what follows. -/
def readLetters (command : CommandName) (p : Draft) : List Char → OptionStep
  | [] => .done p
  | letter :: rest =>
    match OptionName.ofLetter? command letter with
    | none => .misuse
    | some .help => .help
    | some option =>
      if option.takesValue then
        match rest with
        | [] => .needsValue p option
        | '=' :: value => addValue p option (String.ofList value)
        | value => addValue p option (String.ofList value)
      else match p.add? option "" with
        | some p => readLetters command p rest
        | none => .misuse

/-- Reads what follows two hyphens. -/
def readLong (command : CommandName) (p : Draft) (text : List Char) : OptionStep :=
  let name := String.ofList (text.takeWhile (· ≠ '='))
  match OptionName.ofLong? command name, text.dropWhile (· ≠ '=') with
  | none, _ => .misuse
  | some .help, [] => .help
  | some option, [] => if option.takesValue then .needsValue p option else addSwitch p option
  | some option, _ :: value =>
    if option.takesValue then addValue p option (String.ofList value) else .misuse

/-- Adds the query. There is one. -/
def Draft.addQuery? (p : Draft) (query : String) : Option Draft :=
  match p.query with
  | none => some { p with query := some query }
  | some _ => none

/-- The command that has been read. -/
def Draft.finish (command : CommandName) (verbose : Bool) (p : Draft) : Request :=
  match p.query with
  | none => .misuse
  | some query =>
    let run (c : Command) : Request := .run ⟨verbose || p.has .verbose, c⟩
    match command with
    | .lex => run (.lex query)
    | .parse => run (.parse (p.has .json) query)
    | .compile =>
      if p.has .offset && !p.has .numbered then .misuse
      else
        run (.compile
          { config := p.value? .config
            format := ((p.value? .format).bind Report.Format.ofName?).getD .table
            numbered := p.has .numbered
            offset := (p.value? .offset).bind offset? } query)

/-- Whether an argument holds options. A lone hyphen does not. -/
def isOption (argument : List Char) : Bool :=
  argument.head? = some '-' && argument.length > 1

/-- Reads the arguments after the name of the command. The option that waits for its value is
`pending`, and `literal` is set after `--`. -/
def readArguments (command : CommandName) (verbose : Bool) (p : Draft)
    (pending : Option OptionName) (literal : Bool) : List String → Request
  | [] => if pending.isSome then .misuse else p.finish command verbose
  | argument :: rest =>
    let text := argument.toList
    if !literal && isOption text then
      if pending.isSome then .misuse
      else match text with
        | ['-', '-'] => readArguments command verbose p none true rest
        | _ =>
          let step := match text with
            | '-' :: '-' :: long => readLong command p long
            | _ => readLetters command p (text.drop 1)
          match step with
          | .done p => readArguments command verbose p none false rest
          | .needsValue p option => readArguments command verbose p (some option) false rest
          | .help => .help
          | .misuse => .misuse
    else match pending with
      | some option =>
        match p.add? option argument with
        | some p => readArguments command verbose p none literal rest
        | none => .misuse
      | none =>
        match p.addQuery? argument with
        | some p => readArguments command verbose p none literal rest
        | none => .misuse

/-- Reads the letters behind one hyphen in front of the name of the command. The result is the
switch for more output, or the request that ends the reading. -/
def readLeading (verbose : Bool) : List Char → Except Request Bool
  | [] => .ok verbose
  | letter :: rest =>
    if letter = 'v' then if verbose then .error .misuse else readLeading true rest
    else if letter = 'V' then .error .version
    else if letter = 'h' then .error .help
    else .error .misuse

/-- Reads all arguments of a run. -/
def readCommandLine (verbose : Bool) : List String → Request
  | [] => .misuse
  | argument :: rest =>
    match argument.toList with
    | '-' :: '-' :: long =>
      if long = "verbose".toList then
        if verbose then .misuse else readCommandLine true rest
      else if long = "version".toList then .version
      else if long = "help".toList then .help
      else .misuse
    | '-' :: letter :: letters =>
      match readLeading verbose (letter :: letters) with
      | .ok verbose => readCommandLine verbose rest
      | .error request => request
    | _ =>
      match CommandName.ofName? argument with
      | some command => readArguments command verbose ⟨[], none⟩ none false rest
      | none => if argument = "help" then .help else .misuse

end FilterQuery.Cli
