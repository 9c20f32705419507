import FilterQuery.Config
import FilterQuery.Pattern.Engine
import FilterQuery.Sql.Fragment
import FilterQuery.Sql.Identifier
import FilterQuery.SyntaxError
import FilterQuery.Text.Quoted

/-!
# Compiling conditions to SQL

A `Resolver` knows what the fields of a query stand for. A field is first held against the patterns
of the rules, in the order in which they were added, and then looked up among the declared fields by
its canonical name. `Resolver.compile` makes a condition into a fragment: a comparison becomes what
its field stands for, and an operation becomes its operands joined in brackets, so that the order of
evaluation does not depend on the precedence of SQL.

What a pattern is and where it occurs is up to the engine that a resolver is built with.
-/

namespace FilterQuery

/-- Why a resolver cannot be extended, or a query not be compiled. -/
inductive ResolveError where
  | malformed (e : SyntaxError)
  | unknownField (field : String)
  | invalidValue (field value reason : String)
  | invalidPattern (pattern : RefusedPattern)
  | invalidIdentifier (identifier : String)
  /-- The field has the canonical name of another one, or none at all. -/
  | duplicateField (field : String)
  deriving DecidableEq

/-- The message shown to users. -/
def ResolveError.message : ResolveError → String
  | malformed e => "query could not be parsed: " ++ e.message
  | unknownField field => "field '" ++ field ++ "' is not valid"
  | invalidValue field value reason =>
    "value '" ++ value ++ "' is not valid for field '" ++ field ++ "': " ++ reason
  | invalidPattern pattern => "invalid matcher pattern '" ++ pattern.text ++ "': " ++ pattern.reason
  | invalidIdentifier identifier => "'" ++ identifier ++ "' is not a valid SQL identifier"
  | duplicateField field => "field '" ++ field ++ "' is declared more than once"

/-! ### Collections -/

namespace Collection

/-- Every name that goes into a statement has to be an identifier, and the pattern has to be one. -/
def check (c : Collection) (engine : PatternEngine := .standard) : Except ResolveError Unit :=
  match c.identifiers.find? (fun name => !Sql.isIdentifier name) with
  | some name => .error (.invalidIdentifier name)
  | none =>
    match engine.compile c.patternText with
    | .error reason => .error (.invalidPattern ⟨c.patternText, reason⟩)
    | .ok _ => .ok ()

/-- The owners that have a pair with this key whose value compares as asked. -/
def lookup (c : Collection) (key : String) (comparator : Comparator) (value : String) :
    Sql.Fragment :=
  let found := Sql.Fragment.compare c.valueColumn comparator value
  let alive := match c.softDeleteColumn? with
    | some column => " AND " ++ column ++ " IS NULL"
    | none => ""
  ⟨c.ownerColumn ++ " IN (SELECT " ++ c.foreignKey ++ " FROM " ++ c.table ++ " WHERE "
      ++ c.keyColumn ++ "=? AND " ++ found.raw ++ alive ++ ")",
    key :: found.values⟩

/-- Compiles a comparison whose field belongs to the collection. -/
def compile (c : Collection) (leaf : Comparison) : Except ResolveError Sql.Fragment :=
  match c.key? leaf.field with
  | some key => .ok (c.lookup key leaf.comparator leaf.value)
  | none => .error (.unknownField leaf.field)

end Collection

/-! ### Resolvers -/

/-- What a field that matches the pattern of a rule stands for. -/
inductive Action where
  | collection (c : Collection)
  /-- Whatever the application makes of the comparison. -/
  | custom (compile : Comparison → Except ResolveError Sql.Fragment)

/-- Compiles a comparison. -/
def Action.compile : Action → Comparison → Except ResolveError Sql.Fragment
  | collection c => c.compile
  | custom compile => compile

/-- A pattern of fields, and what they stand for. -/
structure Rule where
  /-- The pattern as it was written. -/
  source : String
  /-- Whether the pattern occurs in the name of a field. -/
  occursIn : String → Bool
  action : Action

/-- What a declared field stands for. -/
structure Column where
  /-- The canonical name of the field. -/
  field : String
  column : String
  validator : Validator

/-- All that fields can stand for. -/
structure Resolver where
  rules : List Rule
  columns : List Column

namespace Resolver

/-- The resolver that knows no field. -/
def empty : Resolver := ⟨[], []⟩

/-- The column of a field, in any spelling. -/
def column? (r : Resolver) (field : String) : Option Column :=
  r.columns.find? (·.field = canonicalName field)

/-- Adds a declared field. Its column has to be an identifier, and its canonical name new. -/
def addField (r : Resolver) (name column : String) (validator : Validator) :
    Except ResolveError Resolver :=
  if !Sql.isIdentifier column then .error (.invalidIdentifier column)
  else if canonicalName name = "" ∨ (r.column? name).isSome then .error (.duplicateField name)
  else .ok { r with columns := r.columns ++ [⟨canonicalName name, column, validator⟩] }

/-- Adds a rule for the fields that match a pattern. -/
def addRule (r : Resolver) (source : String) (action : Action)
    (engine : PatternEngine := .standard) : Except ResolveError Resolver :=
  match engine.compile source with
  | .ok occursIn => .ok { r with rules := r.rules ++ [⟨source, occursIn, action⟩] }
  | .error reason => .error (.invalidPattern ⟨source, reason⟩)

/-- Adds a collection for the fields that match a pattern. -/
def addCollectionAt (r : Resolver) (source : String) (c : Collection)
    (engine : PatternEngine := .standard) : Except ResolveError Resolver := do
  c.check engine
  r.addRule source (.collection c) engine

/-- Adds a collection for the fields that belong to it. -/
def addCollection (r : Resolver) (c : Collection) (engine : PatternEngine := .standard) :
    Except ResolveError Resolver :=
  r.addCollectionAt c.patternText c engine

/-- Adds a field of a configuration. -/
def addDeclaration (r : Resolver) (f : FieldDeclaration) : Except ResolveError Resolver :=
  r.addField f.name f.column f.fieldType.validator

/-- The resolver of a list of declared fields. -/
def ofFields (fields : List FieldDeclaration) : Except ResolveError Resolver :=
  fields.foldlM addDeclaration empty

/-- The resolver of a configuration. -/
def ofConfig (config : Config) (engine : PatternEngine := .standard) :
    Except ResolveError Resolver := do
  config.collections.foldlM (fun r c => r.addCollection c engine) (← ofFields config.fields)

/-! ### Compiling -/

/-- The first rule whose pattern occurs in a field. -/
def rule? (r : Resolver) (field : String) : Option Rule :=
  r.rules.find? fun rule => rule.occursIn field

/-- Compiles a comparison of a declared field, whose value has to pass the check of the field. -/
def compileColumn (r : Resolver) (leaf : Comparison) : Except ResolveError Sql.Fragment :=
  match r.column? leaf.field with
  | none => .error (.unknownField leaf.field)
  | some c =>
    match c.validator leaf.value with
    | some reason => .error (.invalidValue leaf.field leaf.value reason)
    | none => .ok (.compare c.column leaf.comparator leaf.value)

/-- Compiles a comparison. The first rule that matches the field decides alone. -/
def compileLeaf (r : Resolver) (leaf : Comparison) : Except ResolveError Sql.Fragment :=
  match r.rule? leaf.field with
  | some rule => rule.action.compile leaf
  | none => r.compileColumn leaf

/-- Compiles a condition, the left operand first. -/
def compile (r : Resolver) : Tree → Except ResolveError Sql.Fragment
  | .comparison leaf => r.compileLeaf leaf
  | .group inner => return (← r.compile inner).group
  | .join left gate right => do
    let left ← r.compile left
    let right ← r.compile right
    return .join left gate right
  | .openGate left gate => do
    let _ ← r.compile left
    throw (.malformed (.noRightOperand gate))
  | .ungated left _ => do
    let _ ← r.compile left
    throw (.malformed .missingGate)

/-- The text that tells a reader what a resolver knows. The fields are sorted. -/
def display (r : Resolver) : String :=
  let fields := (r.columns.map (·.field)).mergeSort (fun a b => decide (a ≤ b))
  "SqlAdaptor \x7b matchers: " ++ Text.quotedList (r.rules.map (·.source))
    ++ ", default_fields: " ++ Text.quotedList fields ++ " \x7d"

end Resolver

end FilterQuery
