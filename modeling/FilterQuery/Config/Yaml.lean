import FilterQuery.Config.Record
import FilterQuery.Yaml.Node
import FilterQuery.Yaml.Scan

/-!
# Configurations in YAML

A record is a mapping of its members, and nothing else: not a sequence. A scalar is taken as it is
written where a text is wanted, whatever it would otherwise mean. Where nothing is written there is
an empty list or an empty record, and the null of YAML is the absence of an optional member.
-/

namespace FilterQuery.Config

/-- Why a YAML text is no configuration. -/
inductive YamlFault where
  | malformed
  | manyDocuments
  /-- A value of the wrong kind. -/
  | mismatch (expected : String)
  | missing (member : String)
  | duplicate (member : String)

/-- The message shown to users. -/
def YamlFault.message : YamlFault → String
  | malformed => "not a YAML document"
  | manyDocuments => "more than one document"
  | mismatch expected => "expected " ++ expected
  | missing member => "missing field `" ++ member ++ "`"
  | duplicate member => "duplicate field `" ++ member ++ "`"

/-- The plain scalars that stand for nothing. -/
def isNullWord (text : String) : Bool :=
  text = "~" || text = "null" || text = "Null" || text = "NULL"

/-- The tag of a scalar that stands for nothing. -/
def nullTag : String := "tag:yaml.org,2002:null"

/-- How texts and lists are read out of YAML. -/
def yamlSource : Source Yaml.Node YamlFault where
  text
    | .scalar text _ _ => .ok text
    | _ => .error (.mismatch "a string")
  textOrNull
    | .scalar text false _ => .ok (some text)
    | .scalar text true none => .ok (if text = "" ∨ isNullWord text then none else some text)
    | .scalar text true (some tag) =>
      if tag ≠ nullTag then .ok (some text)
      else if isNullWord text then .ok none
      else .error (.mismatch "null")
    | _ => .error (.mismatch "a string")
  list
    | .sequence items => .ok items
    | .scalar "" true _ => .ok []
    | _ => .error (.mismatch "a sequence")

/-- The entries of a mapping whose keys are scalars. -/
def namedEntries : List (Yaml.Node × Yaml.Node) → Except YamlFault (List (String × Yaml.Node))
  | [] => .ok []
  | (.scalar key _ _, value) :: rest => do return (key, value) :: (← namedEntries rest)
  | _ => .error (.mismatch "a string")

/-- The first name that occurs again after its first time. -/
def repeated? : List String → Option String
  | [] => none
  | name :: names => if name ∈ names then some name else repeated? names

/-- Reads a record from named values. -/
def readNamed {α : Type} (r : Record Yaml.Node YamlFault α) (values : List (String × Yaml.Node)) :
    Except YamlFault α := do
  let names := values.map (·.1)
  if let some name := repeated? (names.filter fun name => (r.member? name).isSome) then
    throw (.duplicate name)
  let a ← r.putAll values
  match r.missing? names with
  | some name => throw (.missing name)
  | none => return a

/-- Reads a record. -/
def readYamlRecord {α : Type} (r : Record Yaml.Node YamlFault α) :
    Yaml.Node → Except YamlFault α
  | .mapping entries => do readNamed r (← namedEntries entries)
  | .scalar "" true _ => readNamed r []
  | _ => .error (.mismatch ("struct " ++ r.name))

/-- The layout of a configuration in YAML. -/
def yamlRecord : Record Yaml.Node YamlFault Config :=
  configRecord yamlSource (readYamlRecord (declarationRecord yamlSource))
    (readYamlRecord (collectionRecord yamlSource))

/-- Reads a configuration from a YAML text, which may be empty. -/
def ofYaml (text : String) : Except YamlFault Config :=
  match (Yaml.tokens? text).map Yaml.contents with
  | some .nothing => readNamed yamlRecord []
  | some (.document root) => readYamlRecord yamlRecord root
  | some .many => .error .manyDocuments
  | some .malformed => .error .malformed
  | none => .error .malformed

end FilterQuery.Config
