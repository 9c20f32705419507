import FilterQuery.Config.Record
import FilterQuery.Json
import FilterQuery.Number.Shortest
import FilterQuery.Text.Quoted

/-!
# Configurations in JSON

A record is an object of its members, or an array of them in their order. Members at the end of an
array may be left out if the record does not require them. What is absent is not written, and
members that have a value of their own are always written.
-/

namespace FilterQuery.Config

/-- Why a JSON value is no configuration. -/
inductive JsonFault where
  /-- A required member is absent. -/
  | missing (member : String)
  /-- A value of the wrong kind. -/
  | mismatch (found : Json) (expected : String)
  /-- An array ends before the required member at an index. -/
  | tooShort (index : Nat) (record : String) (size : Nat)
  /-- An array goes on after the last member. -/
  | tooLong (length : Nat)

/-- A JSON value as messages call it. -/
def describeJson : Json → String
  | .null => "null"
  | .bool true => "boolean `true`"
  | .bool false => "boolean `false`"
  | .integer value => "integer `" ++ toString value ++ "`"
  | .float value => "floating point `" ++ value.shortest ++ "`"
  | .string value => "string " ++ Text.quoted value
  | .array _ => "sequence"
  | .object _ => "map"

/-- The message shown to users. -/
def JsonFault.message : JsonFault → String
  | missing member => "missing field `" ++ member ++ "`"
  | mismatch found expected =>
    "invalid type: " ++ describeJson found ++ ", expected " ++ expected
  | tooShort index record size =>
    "invalid length " ++ toString index ++ ", expected struct " ++ record ++ " with "
      ++ toString size ++ " elements"
  | tooLong length =>
    "invalid length " ++ toString length ++ ", expected fewer elements in array"

/-! ### Reading -/

/-- How texts and lists are read out of JSON. -/
def jsonSource : Source Json JsonFault where
  text
    | .string value => .ok value
    | found => .error (.mismatch found "a string")
  textOrNull
    | .null => .ok none
    | .string value => .ok (some value)
    | found => .error (.mismatch found "a string")
  list
    | .array items => .ok items
    | found => .error (.mismatch found "a sequence")

/-- Reads the items of an array as the members of a record, from the one at an index on. -/
def readItems {α : Type} (r : Record Json JsonFault α) (length : Nat) :
    Nat → List (Member Json JsonFault α) → List Json → α → Except JsonFault α
  | _, [], [], a => .ok a
  | _, [], _ :: _, _ => .error (.tooLong length)
  | index, m :: members, [], a =>
    if m.required then .error (.tooShort index r.name r.members.length)
    else readItems r length (index + 1) members [] a
  | index, m :: members, item :: items, a => do
    readItems r length (index + 1) members items (← m.put item a)

/-- Reads a record. -/
def readRecord {α : Type} (r : Record Json JsonFault α) : Json → Except JsonFault α
  | .object members => do
    let a ← r.putAll members
    match r.missing? (members.map (·.1)) with
    | some name => .error (.missing name)
    | none => .ok a
  | .array items => readItems r items.length 0 r.members items r.initial
  | found => .error (.mismatch found ("struct " ++ r.name))

/-- Reads a declared field. -/
def fieldOfJson : Json → Except JsonFault FieldDeclaration :=
  readRecord (declarationRecord jsonSource)

/-- Reads a list of declared fields. -/
def fieldsOfJson (value : Json) : Except JsonFault (List FieldDeclaration) := do
  (← jsonSource.list value).mapM fieldOfJson

/-- Reads a collection. -/
def collectionOfJson : Json → Except JsonFault Collection :=
  readRecord (collectionRecord jsonSource)

/-- Reads a configuration. -/
def ofJson : Json → Except JsonFault Config :=
  readRecord (configRecord jsonSource fieldOfJson collectionOfJson)

/-! ### Writing -/

/-- A member that is written only if it has a value. -/
def optionalMember (name : String) (value : Option String) : List (String × Json) :=
  value.toList.map fun text => (name, .string text)

/-- Writes a declared field. -/
def fieldToJson (f : FieldDeclaration) : Json :=
  .object ([("name", .string f.name), ("type", .string f.declaredType)]
    ++ optionalMember "column" f.column?)

/-- Writes a collection. -/
def collectionToJson (c : Collection) : Json :=
  .object ([("collection", .string c.name)] ++ optionalMember "table" c.table?
    ++ [("owner_column", .string c.ownerColumn), ("foreign_key", .string c.foreignKey),
      ("key_column", .string c.keyColumn), ("value_column", .string c.valueColumn)]
    ++ optionalMember "soft_delete_column" c.softDeleteColumn?)

/-- Writes a configuration. -/
def toJson (c : Config) : Json :=
  .object [("fields", .array (c.fields.map fieldToJson)),
    ("key_value", .array (c.collections.map collectionToJson))]

end FilterQuery.Config
