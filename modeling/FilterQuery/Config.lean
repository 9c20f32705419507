import FilterQuery.Field
import FilterQuery.Pattern.Read

/-!
# Configurations

What a user declares: the fields that queries may name, each with its column and its type, and the
collections of key/value pairs that belong to the rows.
-/

namespace FilterQuery

/-- A declared field. -/
structure FieldDeclaration where
  name : String
  /-- The type as it is declared. -/
  declaredType : String
  /-- The column, when it is not the name. -/
  column? : Option String
  deriving DecidableEq

namespace FieldDeclaration

/-- The column that comparisons with the field are made on. -/
def column (f : FieldDeclaration) : String :=
  f.column?.getD f.name

/-- The class of the declared type. -/
def fieldType (f : FieldDeclaration) : FieldType :=
  .ofDeclared f.declaredType

end FieldDeclaration

/-- A table of key/value pairs, each owned by a row of the table that is filtered. A query names the
value at a key `k` as `name[k]`. -/
structure Collection where
  /-- The name in queries. -/
  name : String
  /-- The table, when it is not the name. -/
  table? : Option String := none
  /-- The column that identifies the owner in its own table. -/
  ownerColumn : String := "id"
  /-- The column that identifies the owner in the table of the pairs. -/
  foreignKey : String
  keyColumn : String := "key"
  valueColumn : String := "value"
  /-- The column that marks a pair as deleted. -/
  softDeleteColumn? : Option String := none
  deriving DecidableEq

namespace Collection

/-- The table of the pairs. -/
def table (c : Collection) : String :=
  c.table?.getD c.name

/-- The pattern of the fields that belong to the collection. -/
def patternText (c : Collection) : String :=
  "^(?i:" ++ String.ofList (Pattern.escapeText c.name.toList) ++ ")\\[(.+)\\]$"

/-- All names that are written into statements, in the order in which they are checked. -/
def identifiers (c : Collection) : List String :=
  [c.table, c.ownerColumn, c.foreignKey, c.keyColumn, c.valueColumn] ++ c.softDeleteColumn?.toList

/-- The key in a field of the collection: what stands between the name, in any case, with an opening
bracket after it, and a closing bracket at the very end. A key is not empty and is on one line. In
every match of the pattern the first group keeps just this, so that no engine is asked for it. -/
def key? (c : Collection) (field : String) : Option String :=
  let name := c.name.toList
  let text := field.toList
  if (text.take name.length).map Unicode.caseFold = name.map Unicode.caseFold then
    match text.drop name.length with
    | '[' :: rest =>
      let key := rest.dropLast
      if rest.getLast? = some ']' ∧ key ≠ [] ∧ '\n' ∉ key then some (String.ofList key) else none
    | _ => none
  else none

end Collection

/-- All that is declared. -/
structure Config where
  fields : List FieldDeclaration := []
  collections : List Collection := []
  deriving DecidableEq

end FilterQuery
