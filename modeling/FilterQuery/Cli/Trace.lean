import FilterQuery.Cli.Log
import FilterQuery.Config.Load
import FilterQuery.Resolver.Query

/-!
# Records of work

What each part of the program has to tell about its work, in the order in which it is done. Work
that fails leaves the records of what was done before.
-/

namespace FilterQuery.Cli.Trace

/-- The targets of records. -/
def parserTarget : String := "query_parser::parser"
def resolverTarget : String := "sql_adaptor::adaptor"
def collectionTarget : String := "sql_adaptor::matchers"
def configTarget : String := "sieve_cli::config"
def commandTarget : String := "sieve::commands::parse"

/-! ### Parsing -/

/-- The record of a token that is looked at for the first time. -/
def scanned (t : Token) : Record :=
  ⟨.trace, parserTarget, "scanned " ++ t.kind.label ++ " '" ++ t.literal ++ "'"⟩

/-- The records of parsing a query. -/
def parsing (query : String) : List Record :=
  let parser := Parser.ofString query
  let outcome := parser.call .operation
  let read := parser.rest.take (parser.rest.length - outcome.rest.length)
  let looks := read.map (fun x => scanned (.lexeme x))
    ++ List.replicate outcome.ends (scanned .finish)
  match outcome.answer with
  | .error _ => looks
  | .ok tree => looks ++
    [⟨.debug, parserTarget, "parsed query with " ++ toString tree.count ++ " comparison(s)"⟩,
      ⟨.trace, parserTarget, "parsed tree: " ++ tree.display⟩]

/-! ### Setting up -/

/-- The records of adding declared fields, up to the first one that cannot be added. -/
def addingFields (r : Resolver) : List FieldDeclaration → List Record
  | [] => []
  | f :: fields =>
    match r.addDeclaration f with
    | .error _ => []
    | .ok next =>
      ⟨.trace, resolverTarget, "default field " ++ f.name ++ " -> " ++ f.column⟩
        :: addingFields next fields

/-- The records of making the resolver of a configuration. -/
def settingUp (config : Config) : List Record :=
  addingFields .empty config.fields ++
    match Resolver.ofConfig config with
    | .error _ => []
    | .ok r => [⟨.debug, resolverTarget, "adaptor ready: " ++ toString r.columns.length
        ++ " fields, " ++ toString r.rules.length ++ " matchers"⟩]

/-- The record of a configuration that has been read. -/
def loaded (path : String) (config : Config) : Record :=
  ⟨.debug, configTarget, "Loaded " ++ toString config.fields.length ++ " fields and "
    ++ toString config.collections.length ++ " key/value collections from " ++ path⟩

/-! ### Compiling -/

/-- The records of compiling a comparison. -/
def leaf (r : Resolver) (c : Comparison) : List Record :=
  match r.rule? c.field with
  | none => []
  | some rule =>
    ⟨.trace, resolverTarget, "field " ++ c.field ++ " matched custom pattern " ++ rule.source⟩ ::
      match rule.action with
      | .custom _ => []
      | .collection k =>
        match k.key? c.field with
        | none => []
        | some key =>
          [⟨.trace, collectionTarget, "key/value lookup on " ++ k.name ++ "[" ++ key ++ "]"⟩]

/-- The records of compiling a part of a condition, and whether nothing failed. -/
def operands (r : Resolver) : Tree → List Record × Bool
  | .comparison c => (leaf r c, (r.compileLeaf c).isOk)
  | .group inner => operands r inner
  | .join left _ right =>
    match operands r left with
    | (before, true) =>
      let (after, ok) := operands r right
      (before ++ after, ok)
    | (before, false) => (before, false)
  | .openGate left _ => ((operands r left).1, false)
  | .ungated left _ => ((operands r left).1, false)

/-- The records of compiling a condition. -/
def compiling (r : Resolver) (tree : Tree) : List Record :=
  (operands r tree).1 ++
    match r.compile tree with
    | .error _ => []
    | .ok f => [⟨.debug, resolverTarget, "compiled " ++ toString f.values.length
        ++ " placeholders into " ++ f.raw⟩]

end FilterQuery.Cli.Trace
