import FilterQuery.Proofs.RecordLayout

/-!
# Spellings of configurations

A configuration may be spelled in JSON in many ways (`Spells`): each record as an object with its
members in any order, among others that are not read, or as an array that may end early; what is
absent as null or not at all; and what has its value anyway with or without it. What a member may be
given is one lemma for each kind of member (`holds_text_iff` and those behind it), and the layouts
of the records are made of these kinds. So a value is read as a configuration if it spells it
(`Spells.read`), and nothing else is (`spells_of_read`). What is written of a configuration is one
of its spellings (`spells_toJson`). The main statement is `ofJson_normalizes`.
-/

namespace FilterQuery

namespace Config

/-! ### Spellings -/

/-- What is given for an optional text: nothing and null both stand for its absence. -/
def SpellsOptional (given : Option Json) : Option String → Prop
  | none => given = none ∨ given = some .null
  | some text => given = some (.string text)

/-- What is given for a text that has a value of its own where nothing is given. -/
def SpellsDefault (absent : String) (given : Option Json) (text : String) : Prop :=
  (given = none ∧ text = absent) ∨ given = some (.string text)

/-- What is given for a list that is empty where nothing is given. -/
def SpellsList {β : Type} (Item : Json → β → Prop) (given : Option Json) (xs : List β) : Prop :=
  (given = none ∧ xs = []) ∨ ∃ items, given = some (.array items) ∧ List.Forall₂ Item items xs

/-- What is given to the members of a declared field. -/
structure GivenField (given : String → Option Json) (f : FieldDeclaration) : Prop where
  name : given "name" = some (.string f.name)
  declaredType : given "type" = some (.string f.declaredType)
  column? : SpellsOptional (given "column") f.column?

/-- What is given to the members of a collection. -/
structure GivenCollection (given : String → Option Json) (c : Collection) : Prop where
  name : given "collection" = some (.string c.name)
  table? : SpellsOptional (given "table") c.table?
  ownerColumn : SpellsDefault "id" (given "owner_column") c.ownerColumn
  foreignKey : given "foreign_key" = some (.string c.foreignKey)
  keyColumn : SpellsDefault "key" (given "key_column") c.keyColumn
  valueColumn : SpellsDefault "value" (given "value_column") c.valueColumn
  softDeleteColumn? : SpellsOptional (given "soft_delete_column") c.softDeleteColumn?

/-- What is given to the members of a configuration whose fields and collections are spelled in
these ways. -/
structure GivenConfig (Field : Json → FieldDeclaration → Prop) (Entry : Json → Collection → Prop)
    (given : String → Option Json) (c : Config) : Prop where
  fields : SpellsList Field (given "fields") c.fields
  collections : SpellsList Entry (given "key_value") c.collections

/-- A declared field is spelled by what gives its members to it. -/
def SpellsField (v : Json) (f : FieldDeclaration) : Prop :=
  ∃ given, Gives ["name", "type", "column"] v given ∧ GivenField given f

/-- A collection is spelled in the same way. -/
def SpellsCollection (v : Json) (c : Collection) : Prop :=
  ∃ given, Gives ["collection", "table", "owner_column", "foreign_key", "key_column",
    "value_column", "soft_delete_column"] v given ∧ GivenCollection given c

/-- A configuration is spelled by what gives it its lists, with all that is in them. -/
def Spells (v : Json) (c : Config) : Prop :=
  ∃ given, Gives ["fields", "key_value"] v given ∧
    GivenConfig SpellsField SpellsCollection given c

/-! ### Layouts -/

section Layouts

variable {σ ε : Type} (source : Source σ ε)

/-- Reads a list item by item. -/
def readList {β : Type} (item : σ → Except ε β) (v : σ) : Except ε (List β) := do
  (← source.list v).mapM item

/-- The parts of a declared field. -/
def declarationParts : List (Part σ ε FieldDeclaration) :=
  [⟨"name", true, String, source.text, (·.name), fun x f => { f with name := x }⟩,
    ⟨"type", true, String, source.text, (·.declaredType), fun x f => { f with declaredType := x }⟩,
    ⟨"column", false, Option String, source.textOrNull, (·.column?),
      fun x f => { f with column? := x }⟩]

/-- The parts of a collection. -/
def collectionParts : List (Part σ ε Collection) :=
  [⟨"collection", true, String, source.text, (·.name), fun x c => { c with name := x }⟩,
    ⟨"table", false, Option String, source.textOrNull, (·.table?),
      fun x c => { c with table? := x }⟩,
    ⟨"owner_column", false, String, source.text, (·.ownerColumn),
      fun x c => { c with ownerColumn := x }⟩,
    ⟨"foreign_key", true, String, source.text, (·.foreignKey),
      fun x c => { c with foreignKey := x }⟩,
    ⟨"key_column", false, String, source.text, (·.keyColumn),
      fun x c => { c with keyColumn := x }⟩,
    ⟨"value_column", false, String, source.text, (·.valueColumn),
      fun x c => { c with valueColumn := x }⟩,
    ⟨"soft_delete_column", false, Option String, source.textOrNull, (·.softDeleteColumn?),
      fun x c => { c with softDeleteColumn? := x }⟩]

variable (field : σ → Except ε FieldDeclaration) (collection : σ → Except ε Collection)

/-- The parts of a configuration. -/
def configParts : List (Part σ ε Config) :=
  [⟨"fields", false, List FieldDeclaration, readList source field, (·.fields),
      fun x c => { c with fields := x }⟩,
    ⟨"key_value", false, List Collection, readList source collection, (·.collections),
      fun x c => { c with collections := x }⟩]

theorem declarationRecord_hasParts :
    (declarationRecord source).HasParts (declarationParts source) where
  members_eq := rfl
  names_nodup := by simp [declarationParts]
  get_set := by simp [declarationParts]
  get_set_of_ne := by simp [declarationParts]
  ext := by
    rintro ⟨name, declaredType, column?⟩ ⟨name', declaredType', column?'⟩
    simp [declarationParts]

theorem collectionRecord_hasParts :
    (collectionRecord source).HasParts (collectionParts source) where
  members_eq := rfl
  names_nodup := by simp [collectionParts]
  get_set := by simp [collectionParts]
  get_set_of_ne := by simp [collectionParts]
  ext := by
    rintro ⟨⟩ ⟨⟩
    simp [collectionParts]

theorem configRecord_hasParts :
    (configRecord source field collection).HasParts (configParts source field collection) where
  members_eq := by
    simp [configRecord, configParts, Part.member, readList]
  names_nodup := by simp [configParts]
  get_set := by simp [configParts]
  get_set_of_ne := by simp [configParts]
  ext := by
    rintro ⟨fields, collections⟩ ⟨fields', collections'⟩
    simp [configParts]

end Layouts

/-! ### Members -/

section Members

variable {v : Json} {given : Option Json}

theorem text_eq_ok_iff {text : String} : jsonSource.text v = .ok text ↔ v = .string text := by
  cases v <;> simp [jsonSource]

theorem textOrNull_eq_ok_iff {text? : Option String} :
    jsonSource.textOrNull v = .ok text? ↔ SpellsOptional (some v) text? := by
  cases v <;> cases text? <;> simp [jsonSource, SpellsOptional]

theorem readList_eq_ok_iff {β : Type} {item : Json → Except JsonFault β} {xs : List β} :
    readList jsonSource item v = .ok xs ↔ SpellsList (fun w x => item w = .ok x) (some v) xs := by
  rw [readList, bind_eq_ok]
  cases v <;> simp [jsonSource, SpellsList, mapM_eq_ok_iff_forall₂]

variable {α : Type} {name : String} {a b : α}

/-- A text that has to be given. -/
theorem holds_text_iff {get : α → String} {set : String → α → α} :
    Part.Holds ⟨name, true, String, jsonSource.text, get, set⟩ b given a ↔
      given = some (.string (get a)) := by
  cases given <;> simp [Part.Holds, Part.Shows, text_eq_ok_iff]

/-- A text that has a value of its own. -/
theorem holds_default_iff {get : α → String} {set : String → α → α} :
    Part.Holds ⟨name, false, String, jsonSource.text, get, set⟩ b given a ↔
      SpellsDefault (get b) given (get a) := by
  cases given <;> simp [Part.Holds, Part.Shows, SpellsDefault, text_eq_ok_iff]

/-- A text that may be absent. -/
theorem holds_optional_iff {get : α → Option String} {set : Option String → α → α}
    (hb : get b = none) :
    Part.Holds ⟨name, false, Option String, jsonSource.textOrNull, get, set⟩ b given a ↔
      SpellsOptional given (get a) := by
  cases given with
  | none => cases h : get a <;> simp [Part.Holds, Part.Shows, SpellsOptional, hb, h]
  | some v => simp [Part.Holds, Part.Shows, textOrNull_eq_ok_iff]

/-- A list that may be absent. -/
theorem holds_list_iff {β : Type} {item : Json → Except JsonFault β} {get : α → List β}
    {set : List β → α → α} (hb : get b = []) :
    Part.Holds ⟨name, false, List β, readList jsonSource item, get, set⟩ b given a ↔
      SpellsList (fun w x => item w = .ok x) given (get a) := by
  cases given with
  | none => simp [Part.Holds, Part.Shows, SpellsList, hb]
  | some v => simp [Part.Holds, Part.Shows, readList_eq_ok_iff]

end Members

/-! ### Reading -/

section Reading

variable {v : Json} {given : String → Option Json}

theorem holds_declaration_iff {f : FieldDeclaration} :
    (∀ p ∈ declarationParts jsonSource,
      p.Holds (declarationRecord jsonSource).initial (given p.name) f) ↔ GivenField given f := by
  simp only [declarationParts, declarationRecord, List.forall_mem_cons, List.not_mem_nil,
    false_imp_iff, implies_true, and_true, holds_text_iff, holds_optional_iff]
  exact ⟨fun ⟨hname, htype, hcolumn⟩ => ⟨hname, htype, hcolumn⟩,
    fun h => ⟨h.name, h.declaredType, h.column?⟩⟩

theorem holds_collection_iff {c : Collection} :
    (∀ p ∈ collectionParts jsonSource,
      p.Holds (collectionRecord jsonSource).initial (given p.name) c) ↔
        GivenCollection given c := by
  simp only [collectionParts, collectionRecord, List.forall_mem_cons, List.not_mem_nil,
    false_imp_iff, implies_true, and_true, holds_text_iff, holds_optional_iff, holds_default_iff]
  exact ⟨fun ⟨hname, htable, howner, hforeign, hkey, hvalue, hdeleted⟩ =>
      ⟨hname, htable, howner, hforeign, hkey, hvalue, hdeleted⟩,
    fun h => ⟨h.name, h.table?, h.ownerColumn, h.foreignKey, h.keyColumn, h.valueColumn,
      h.softDeleteColumn?⟩⟩

theorem holds_config_iff {field : Json → Except JsonFault FieldDeclaration}
    {collection : Json → Except JsonFault Collection} {c : Config} :
    (∀ p ∈ configParts jsonSource field collection,
      p.Holds (configRecord jsonSource field collection).initial (given p.name) c) ↔
        GivenConfig (fun w f => field w = .ok f) (fun w c => collection w = .ok c) given c := by
  simp only [configParts, configRecord, List.forall_mem_cons, List.not_mem_nil, false_imp_iff,
    implies_true, and_true, holds_list_iff]
  exact ⟨fun ⟨hfields, hcollections⟩ => ⟨hfields, hcollections⟩,
    fun h => ⟨h.fields, h.collections⟩⟩

/-- **What spells a field is read as it.** -/
theorem SpellsField.read {f : FieldDeclaration} (h : SpellsField v f) : fieldOfJson v = .ok f := by
  obtain ⟨given, hgives, hfield⟩ := h
  exact ((declarationRecord_hasParts jsonSource).readRecord_of_gives hgives).mpr
    (holds_declaration_iff.mpr hfield)

theorem SpellsCollection.read {c : Collection} (h : SpellsCollection v c) :
    collectionOfJson v = .ok c := by
  obtain ⟨given, hgives, hcollection⟩ := h
  exact ((collectionRecord_hasParts jsonSource).readRecord_of_gives hgives).mpr
    (holds_collection_iff.mpr hcollection)

/-- Where items that are read in one way are read in the other, so are lists of them. -/
theorem SpellsList.imp {β : Type} {Item Item' : Json → β → Prop} {given : Option Json} {xs : List β}
    (h : ∀ items, given = some (.array items) → ∀ item ∈ items, ∀ x, Item item x → Item' item x)
    (hlist : SpellsList Item given xs) : SpellsList Item' given xs := by
  obtain habsent | ⟨items, hgiven, hitems⟩ := hlist
  · exact .inl habsent
  · have hboth := (List.forall₂_and_left items xs).mpr ⟨h items hgiven, hitems⟩
    exact .inr ⟨items, hgiven, hboth.imp fun item x ⟨himp, hx⟩ => himp x hx⟩

/-- **What spells a configuration is read as it.** -/
theorem Spells.read {c : Config} (h : Spells v c) : ofJson v = .ok c := by
  obtain ⟨given, hgives, hconfig⟩ := h
  refine ((configRecord_hasParts jsonSource _ _).readRecord_of_gives hgives).mpr
    (holds_config_iff.mpr ⟨?_, ?_⟩)
  · exact hconfig.fields.imp fun _ _ _ _ _ hfield => hfield.read
  · exact hconfig.collections.imp fun _ _ _ _ _ hcollection => hcollection.read

end Reading

/-! ### Nothing else is read -/

section DistinctKeys

variable {v : Json}

theorem spellsField_of_read (hd : v.DistinctKeys) {f : FieldDeclaration}
    (h : fieldOfJson v = .ok f) : SpellsField v f := by
  obtain ⟨given, hgives, hholds⟩ := (declarationRecord_hasParts jsonSource).exists_gives hd h
  exact ⟨given, hgives, holds_declaration_iff.mp hholds⟩

theorem spellsCollection_of_read (hd : v.DistinctKeys) {c : Collection}
    (h : collectionOfJson v = .ok c) : SpellsCollection v c := by
  obtain ⟨given, hgives, hholds⟩ := (collectionRecord_hasParts jsonSource).exists_gives hd h
  exact ⟨given, hgives, holds_collection_iff.mp hholds⟩

/-- **Whatever is read as a configuration spells it**, if keys are distinct. -/
theorem spells_of_read (hd : v.DistinctKeys) {c : Config} (h : ofJson v = .ok c) : Spells v c := by
  obtain ⟨given, hgives, hholds⟩ := (configRecord_hasParts jsonSource _ _).exists_gives hd h
  have hread := holds_config_iff.mp hholds
  have hitems : ∀ {name : String} {items : List Json}, given name = some (.array items) →
      ∀ item ∈ items, item.DistinctKeys :=
    fun hgiven => Json.distinctKeys_array_iff.mp (hgives.distinctKeys hd hgiven)
  refine ⟨given, hgives, hread.fields.imp ?_, hread.collections.imp ?_⟩
  · exact fun items hgiven item hitem f hf => spellsField_of_read (hitems hgiven item hitem) hf
  · exact fun items hgiven item hitem c hc => spellsCollection_of_read (hitems hgiven item hitem) hc

end DistinctKeys

/-! ### Writing -/

theorem spells_fieldToJson (f : FieldDeclaration) : SpellsField (fieldToJson f) f := by
  obtain ⟨name, declaredType, column?⟩ := f
  refine ⟨_, .object ?_, rfl, rfl, ?_⟩
  · cases column? <;> simp [optionalMember]
  · cases column? with
    | none => exact .inl rfl
    | some column => rfl

theorem spells_collectionToJson (c : Collection) : SpellsCollection (collectionToJson c) c := by
  obtain ⟨name, table?, ownerColumn, foreignKey, keyColumn, valueColumn, softDeleteColumn?⟩ := c
  refine ⟨_, .object ?_, rfl, ?_, .inr ?_, ?_, .inr ?_, .inr ?_, ?_⟩
  · cases table? <;> cases softDeleteColumn? <;> simp [optionalMember]
  · cases table? with
    | none => cases softDeleteColumn? <;> exact .inl rfl
    | some table => rfl
  · cases table? <;> rfl
  · cases table? <;> rfl
  · cases table? <;> rfl
  · cases table? <;> rfl
  · cases softDeleteColumn? with
    | none => cases table? <;> exact .inl rfl
    | some deleted => cases table? <;> rfl

/-- **What is written spells the configuration.** -/
theorem spells_toJson (c : Config) : Spells (toJson c) c := by
  refine ⟨_, .object (by simp), .inr ⟨_, rfl, ?_⟩, .inr ⟨_, rfl, ?_⟩⟩
  · exact List.forall₂_map_left_iff.mpr (List.forall₂_same.mpr fun f _ => spells_fieldToJson f)
  · exact List.forall₂_map_left_iff.mpr (List.forall₂_same.mpr fun c _ => spells_collectionToJson c)

/-- **All spellings of a configuration come to one.** What is written of a configuration is read as
it. Everything that spells a configuration is read as it, and where keys are distinct nothing else
is. What is read, however it was spelled, is still the same after it is written and read again, and
is written the same way then. -/
theorem ofJson_normalizes :
    (∀ c : Config, ofJson (toJson c) = .ok c) ∧
    (∀ (v : Json) (c : Config), Spells v c → ofJson v = .ok c) ∧
    (∀ (v : Json) (c : Config), v.DistinctKeys → ofJson v = .ok c → Spells v c) ∧
    ∀ (v : Json) (c : Config), ofJson v = .ok c →
      ofJson (toJson c) = .ok c ∧ (ofJson (toJson c)).map toJson = .ok (toJson c) := by
  have hwritten : ∀ c : Config, ofJson (toJson c) = .ok c := fun c => (spells_toJson c).read
  refine ⟨hwritten, fun v c h => h.read, fun v c hd h => spells_of_read hd h, fun v c _ => ?_⟩
  refine ⟨hwritten c, ?_⟩
  rw [hwritten c]
  rfl

/-- A configuration with its members out of order and one that is not read, and with arrays that end
early among its fields and its collections. -/
theorem ofJson_normalizes_array_of_collection :
    let v : Json := .object [
      ("key_value", .array [
        .array [.string "tags", .null, .string "id", .string "model_id"],
        .object [("foreign_key", .string "model"), ("note", .object []), ("table", .null),
          ("soft_delete_column", .string "gone"), ("collection", .string "labels")]]),
      ("version", .integer 2),
      ("fields", .array [
        .array [.string "age", .string "u32"],
        .object [("column", .null), ("type", .string "String"), ("name", .string "name")]])]
    let c : Config := ⟨[⟨"age", "u32", none⟩, ⟨"name", "String", none⟩],
      [{ name := "tags", foreignKey := "model_id" },
        { name := "labels", foreignKey := "model", softDeleteColumn? := some "gone" }]⟩
    v.DistinctKeys ∧ ofJson v = .ok c ∧ Spells v c ∧
      ofJson (toJson c) = .ok c ∧ (ofJson (toJson c)).map toJson = .ok (toJson c) := by
  intro v c
  obtain ⟨-, hreads, hspells, hagain⟩ := ofJson_normalizes
  have hd : v.DistinctKeys := by simp [v]
  have hread : ofJson v = .ok c := by rfl
  have hspelled : Spells v c := hspells v c hd hread
  exact ⟨hd, hreads v c hspelled, hspelled, hagain v c hread⟩

end Config

end FilterQuery
