import FilterQuery.Cli.Arguments
import FilterQuery.Cli.Environment
import FilterQuery.Cli.Trace

/-!
# Runs

A run of the program from its arguments, its environment and the files it may read, to what it
writes and how it ends. Nothing here touches the world.
-/

namespace FilterQuery.Cli

/-- What is left of a run. -/
structure RunResult where
  exitCode : Nat
  output : String
  /-- What is written beside the output: logs and errors. -/
  diagnostics : String
  deriving DecidableEq

/-- The result of a command: its records and its output, or the message of its error. -/
structure Done where
  records : List Record
  outcome : Except String String

/-- Shows the tokens of a query. -/
def runLex (query : String) : Done :=
  ⟨[], .ok (Report.tokens (tokenize query))⟩

/-- Shows the tree of a query. -/
def runParse (json : Bool) (query : String) : Done :=
  let records := Trace.parsing query
  match parse query with
  | .error e => ⟨records, .error e.message⟩
  | .ok tree =>
    ⟨records ++ [⟨.debug, Trace.commandTarget, "Parsed " ++ toString tree.count ++ " comparisons"⟩],
      .ok (Report.tree tree json ++ "\n")⟩

/-- Compiles a query with a resolver. -/
def compileWith (r : Resolver) (options : CompileOptions) (query : String) : Done :=
  match parse query with
  | .error e => ⟨Trace.parsing query, .error (ResolveError.malformed e).message⟩
  | .ok tree =>
    let records := Trace.parsing query ++ Trace.compiling r tree
    match r.compile tree with
    | .error e => ⟨records, .error e.message⟩
    | .ok f =>
      let offset := if options.numbered then some (options.offset.getD 0) else none
      ⟨records, .ok (Report.fragment f options.format offset ++ "\n")⟩

/-- Compiles a query with the configuration that the options or the environment name. -/
def runCompile (read : FileReader) (env : Environment) (options : CompileOptions)
    (query : String) : Done :=
  match Config.path options.config (env.get? configVariable) with
  | .error e => ⟨[], .error e.message⟩
  | .ok path =>
    match Config.load read path with
    | .error e => ⟨[], .error (SetupError.load e).message⟩
    | .ok config =>
      let before := Trace.loaded path config :: Trace.settingUp config
      match Resolver.ofConfig config with
      | .error e => ⟨before, .error (SetupError.invalid e).message⟩
      | .ok r =>
        let done := compileWith r options query
        { done with records := before ++ done.records }

/-- Carries out a command. -/
def runCommand (read : FileReader) (env : Environment) : Command → Done
  | .lex query => runLex query
  | .parse json query => runParse json query
  | .compile options query => runCompile read env options query

/-- The variable of the environment that says what is shown of the log. -/
def logVariable : String := "RUST_LOG"

/-- What is shown of the log when the environment does not say. -/
def standardFilter (verbose : Bool) : String :=
  let level := if verbose then "debug" else "info"
  ",".intercalate ("warn" ::
    ["sieve", "sieve_cli", "query_parser", "sql_adaptor"].map (· ++ "=" ++ level))

/-- Carries out an invocation. -/
def runInvocation (read : FileReader) (env : Environment) (i : Invocation) : RunResult :=
  let (filter, warnings) := Filter.ofText ((env.get? logVariable).getD (standardFilter i.verbose))
  let done := runCommand read env i.command
  let log := String.join (warnings.map (· ++ "\n")) ++ filter.render done.records
  match done.outcome with
  | .ok output => ⟨0, output, log⟩
  | .error message => ⟨1, "", log ++ "Error: " ++ message ++ "\n"⟩

/-- How the program is used. -/
def usage : String :=
  "Compile filter queries into parameterized SQL\n\nUsage: sieve [OPTIONS] <COMMAND>\n\nCommands:\n"
    ++ "  lex      Print the tokens of a query\n"
    ++ "  parse    Print the parsed expression tree of a query\n"
    ++ "  compile  Compile a query into a SQL fragment and its bound values\n"

/-- The file of assignments that a run reads first. -/
def environmentFile : String := ".env"

/-- The environment of a run, with the assignments of its file. -/
def Environment.complete (read : FileReader) (env : Environment) : Environment :=
  match read environmentFile with
  | .ok text => env.addFile text
  | .error _ => env

/-- The file of the configuration that a run reads, if it reads one. -/
def configFile? (read : FileReader) (env : Environment) (arguments : List String) :
    Option String :=
  match readCommandLine false arguments with
  | .run ⟨_, .compile options _⟩ =>
    (Config.path options.config ((env.complete read).get? configVariable)).toOption
  | _ => none

/-- Runs the program. -/
def run (read : FileReader) (env : Environment) (arguments : List String) : RunResult :=
  match readCommandLine false arguments with
  | .run invocation => runInvocation read (env.complete read) invocation
  | .version => ⟨0, "sieve 0.1.0\n", ""⟩
  | .help => ⟨0, usage, ""⟩
  | .misuse => ⟨2, "", usage⟩

end FilterQuery.Cli
