import FilterQuery.Config

/-!
# Records of a configuration

How declarations are laid out in a document, whatever the format of the document. A `Record` lists
the members of a structure in their order, and says which of them have to be there. A `Source` reads
the values of members out of the values of a format.
-/

namespace FilterQuery.Config

/-- How to read simple values out of the values `σ` of a format, with errors `ε`. -/
structure Source (σ ε : Type) where
  text : σ → Except ε String
  /-- A text, or nothing where the format has a value that stands for nothing. -/
  textOrNull : σ → Except ε (Option String)
  list : σ → Except ε (List σ)

/-- A member of a record. -/
structure Member (σ ε α : Type) where
  name : String
  required : Bool
  /-- Puts a value into the structure. -/
  put : σ → α → Except ε α

/-- The layout of a structure. -/
structure Record (σ ε α : Type) where
  /-- The name by which messages call the structure. -/
  name : String
  /-- The structure with the values of absent members. -/
  initial : α
  members : List (Member σ ε α)

namespace Record

variable {σ ε α : Type}

/-- The member of a name. -/
def member? (r : Record σ ε α) (name : String) : Option (Member σ ε α) :=
  r.members.find? (·.name = name)

/-- Puts named values into the structure, in the order in which they stand. Unknown names do not
matter. -/
def putAll (r : Record σ ε α) (values : List (String × σ)) : Except ε α :=
  values.foldlM (fun a (name, value) =>
    match r.member? name with
    | some m => m.put value a
    | none => .ok a) r.initial

/-- The first required member without a value. -/
def missing? (r : Record σ ε α) (names : List String) : Option String :=
  (r.members.find? fun m => m.required && !(m.name ∈ names)).map (·.name)

end Record

variable {σ ε : Type}

/-- The layout of a declared field. -/
def declarationRecord (source : Source σ ε) : Record σ ε FieldDeclaration where
  name := "SchemaField"
  initial := ⟨"", "", none⟩
  members := [
    ⟨"name", true, fun v f => return { f with name := ← source.text v }⟩,
    ⟨"type", true, fun v f => return { f with declaredType := ← source.text v }⟩,
    ⟨"column", false, fun v f => return { f with column? := ← source.textOrNull v }⟩]

/-- The layout of a collection. -/
def collectionRecord (source : Source σ ε) : Record σ ε Collection where
  name := "KeyValueConfig"
  initial := { name := "", foreignKey := "" }
  members := [
    ⟨"collection", true, fun v c => return { c with name := ← source.text v }⟩,
    ⟨"table", false, fun v c => return { c with table? := ← source.textOrNull v }⟩,
    ⟨"owner_column", false, fun v c => return { c with ownerColumn := ← source.text v }⟩,
    ⟨"foreign_key", true, fun v c => return { c with foreignKey := ← source.text v }⟩,
    ⟨"key_column", false, fun v c => return { c with keyColumn := ← source.text v }⟩,
    ⟨"value_column", false, fun v c => return { c with valueColumn := ← source.text v }⟩,
    ⟨"soft_delete_column", false, fun v c =>
      return { c with softDeleteColumn? := ← source.textOrNull v }⟩]

/-- The layout of a configuration. Fields and collections are read by `field` and `collection`. -/
def configRecord (source : Source σ ε) (field : σ → Except ε FieldDeclaration)
    (collection : σ → Except ε Collection) : Record σ ε Config where
  name := "AdaptorConfig"
  initial := {}
  members := [
    ⟨"fields", false, fun v c => return { c with fields := ← (← source.list v).mapM field }⟩,
    ⟨"key_value", false, fun v c =>
      return { c with collections := ← (← source.list v).mapM collection }⟩]

end FilterQuery.Config
