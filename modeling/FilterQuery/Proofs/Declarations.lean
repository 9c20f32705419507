import FilterQuery.Proofs.ConfigFaults

/-!
# Resolvers as lists of declarations

An application starts with no fields, with a list of them or with a configuration, and then adds
fields, collections and rules, with any engine for their patterns (`Resolver.build`). Whatever it
adds in whatever order, the columns of the resolver are the fields that were declared, and no other
call has a part in them (`Resolver.Holds`): one lemma for a call, and the series of calls by
induction. So a name is found if it was declared, and then as what the one declaration with this
name says.

Two resolvers that find the same fields still do so after any call (`Resolver.Agree.add`). For this
reason a list of fields may be declared in any order: every condition compiles to the same. The main
statement is `Resolver.build_refines_declarations`.
-/

namespace FilterQuery

/-! ### Calls -/

/-- A field as it is declared, by a user or by the application. -/
structure DeclaredField where
  name : String
  column : String
  validator : Validator

/-- What the field stands for. -/
def DeclaredField.asColumn (d : DeclaredField) : Column :=
  ⟨canonicalName d.name, d.column, d.validator⟩

/-- A field of a configuration, with the check of its type. -/
def FieldDeclaration.declared (f : FieldDeclaration) : DeclaredField :=
  ⟨f.name, f.column, f.fieldType.validator⟩

/-- What is added to a resolver by one call. -/
inductive Addition where
  | field (d : DeclaredField)
  | collection (c : Collection)
  | rule (source : String) (action : Action)

/-- The field that a call declares. -/
def Addition.declared : Addition → List DeclaredField
  | field d => [d]
  | collection _ | rule .. => []

/-- What a resolver is made of at first. -/
inductive Origin where
  | empty
  | fields (fields : List FieldDeclaration)
  | config (config : Config)

namespace Origin

/-- The fields that are declared at first. -/
def declared : Origin → List DeclaredField
  | empty => []
  | fields fs => fs.map FieldDeclaration.declared
  | config c => c.fields.map FieldDeclaration.declared

/-- The same fields are declared in another order, and all else is the same. -/
inductive Reordered : Origin → Origin → Prop where
  /-- A list of fields. -/
  | fields {fs gs : List FieldDeclaration} : fs.Perm gs → Reordered (.fields fs) (.fields gs)
  /-- The fields of a configuration. The collections stay in their order. -/
  | config {fs gs : List FieldDeclaration} {collections : List Collection} : fs.Perm gs →
    Reordered (.config ⟨fs, collections⟩) (.config ⟨gs, collections⟩)

/-- The resolver at first. -/
def build (engine : PatternEngine) : Origin → Except ResolveError Resolver
  | empty => .ok .empty
  | fields fs => Resolver.ofFields fs
  | config c => Resolver.ofConfig c engine

end Origin

namespace Resolver

/-- One call. -/
def add (engine : PatternEngine) (r : Resolver) : Addition → Except ResolveError Resolver
  | .field d => r.addField d.name d.column d.validator
  | .collection c => r.addCollection c engine
  | .rule source action => r.addRule source action engine

/-- The resolver that a series of calls leads to. -/
def build (engine : PatternEngine) (origin : Origin) (additions : List Addition) :
    Except ResolveError Resolver := do
  additions.foldlM (add engine) (← origin.build engine)

/-- All fields that are declared, in order. -/
def declared (origin : Origin) (additions : List Addition) : List DeclaredField :=
  origin.declared ++ additions.flatMap Addition.declared

variable {engine : PatternEngine} {origin origin' : Origin} {additions : List Addition}
  {r r' next : Resolver}

/-! ### The fields of a resolver -/

/-- The columns of the resolver are these declarations, each with a name of its own and with an
identifier for a column. -/
structure Holds (ds : List DeclaredField) (r : Resolver) : Prop where
  columns : r.columns = ds.map DeclaredField.asColumn
  named : ∀ c ∈ r.columns, c.field ≠ ""
  distinct : (r.columns.map (·.field)).Nodup
  identifiers : ∀ c ∈ r.columns, Sql.IsIdentifier c.column

variable {ds : List DeclaredField}

theorem holds_empty : empty.Holds [] where
  columns := rfl
  named := by simp [empty]
  distinct := List.nodup_nil
  identifiers := by simp [empty]

theorem Holds.addField (h : r.Holds ds) {d : DeclaredField}
    (ha : r.addField d.name d.column d.validator = .ok next) : next.Holds (ds ++ [d]) := by
  have hdistinct := distinct_addField h.distinct ha
  have hids := forall_columns_addField h.identifiers ha Sql.isIdentifier_iff.mp
  obtain ⟨-, hne, -, rfl⟩ := addField_eq_ok.mp ha
  refine ⟨?_, ?_, hdistinct, hids⟩
  · rw [h.columns, List.map_append]
    rfl
  · exact List.forall_mem_append.mpr ⟨h.named, List.forall_mem_singleton.mpr hne⟩

/-- Rules have no part in the fields. -/
theorem Holds.of_columns_eq (h : r.Holds ds) (hcolumns : next.columns = r.columns) :
    next.Holds ds := by
  refine ⟨hcolumns.trans h.columns, ?_, ?_, ?_⟩ <;> rw [hcolumns]
  exacts [h.named, h.distinct, h.identifiers]

theorem Holds.addCollection (h : r.Holds ds) {c : Collection}
    (ha : r.addCollection c engine = .ok next) : next.Holds ds :=
  h.of_columns_eq (columns_addRule (addCollectionAt_eq_ok.mp ha).2)

/-- **One call** adds what it declares. -/
theorem Holds.add (h : r.Holds ds) {a : Addition} (ha : r.add engine a = .ok next) :
    next.Holds (ds ++ a.declared) := by
  cases a with
  | field d => exact h.addField ha
  | collection c =>
    rw [Addition.declared, List.append_nil]
    exact h.addCollection ha
  | rule source action =>
    rw [Addition.declared, List.append_nil]
    exact h.of_columns_eq (columns_addRule ha)

/-- **A series of calls** adds what they declare. -/
theorem Holds.add_all (h : r.Holds ds) (ha : additions.foldlM (Resolver.add engine) r = .ok next) :
    next.Holds (ds ++ additions.flatMap Addition.declared) :=
  foldlM_preserves_prefix (P := fun as r => r.Holds (ds ++ as.flatMap Addition.declared))
    (fun hb ha => by simpa using hb.add ha) [] (by simpa using h) ha

theorem addDeclaration_eq (engine : PatternEngine) (r : Resolver) (f : FieldDeclaration) :
    r.addDeclaration f = r.add engine (.field f.declared) := by
  rw [addDeclaration, add, FieldDeclaration.declared]

theorem holds_of_ofFields {fs : List FieldDeclaration} (h : ofFields fs = .ok r) :
    r.Holds (fs.map FieldDeclaration.declared) := by
  refine foldlM_preserves_prefix (P := fun fs r => r.Holds (fs.map FieldDeclaration.declared))
    (fun hr ha => ?_) [] holds_empty h
  rw [addDeclaration_eq .standard] at ha
  rw [List.map_append]
  exact hr.add ha

theorem holds_of_origin (h : origin.build engine = .ok r) : r.Holds origin.declared := by
  cases origin with
  | empty =>
    obtain rfl := Except.ok.inj h
    exact holds_empty
  | fields fs => exact holds_of_ofFields h
  | config c =>
    obtain ⟨base, hfields, hcollections⟩ := bind_eq_ok.mp h
    have hbase := holds_of_ofFields hfields
    exact foldlM_preserves (fun hb ha => hb.addCollection ha) hbase hcollections

/-- **The fields of a resolver** are those that were declared. -/
theorem holds_of_build (h : build engine origin additions = .ok r) :
    r.Holds (declared origin additions) := by
  obtain ⟨base, horigin, hadditions⟩ := bind_eq_ok.mp h
  exact (holds_of_origin horigin).add_all hadditions

/-- A name is found as what the one declaration with this name says. -/
theorem Holds.column?_eq_some (h : r.Holds ds) {d : DeclaredField} (hd : d ∈ ds) {name : String}
    (hname : canonicalName d.name = canonicalName name) : r.column? name = some d.asColumn := by
  rw [column?, find?_key_eq_some_iff h.distinct, h.columns]
  exact ⟨List.mem_map_of_mem hd, hname⟩

theorem Holds.column?_eq_none (h : r.Holds ds) {name : String}
    (hname : ∀ d ∈ ds, canonicalName d.name ≠ canonicalName name) : r.column? name = none := by
  rw [column?, h.columns, List.find?_eq_none]
  intro c hc
  obtain ⟨d, hd, rfl⟩ := List.mem_map.mp hc
  exact fun hfound => hname d hd (of_decide_eq_true hfound)

/-! ### The order of the fields -/

/-- The resolvers have the same rules and find the same fields. -/
structure Agree (r r' : Resolver) : Prop where
  rules : r'.rules = r.rules
  column? : ∀ name, r'.column? name = r.column? name

/-- A call that declares no field adds the same rules to every resolver. -/
theorem exists_rules_of_add {a : Addition} (hd : a.declared = [])
    (ha : r.add engine a = .ok next) : ∃ rules, next = { r with rules := r.rules ++ rules } ∧
      ∀ r' : Resolver, r'.add engine a = .ok { r' with rules := r'.rules ++ rules } := by
  cases a with
  | field d => exact absurd hd nofun
  | rule source action =>
    obtain ⟨occursIn, hp, rfl⟩ := addRule_eq_ok.mp ha
    exact ⟨_, rfl, fun r' => addRule_eq_ok.mpr ⟨occursIn, hp, rfl⟩⟩
  | collection c =>
    obtain ⟨hc, ha⟩ := addCollectionAt_eq_ok.mp ha
    obtain ⟨occursIn, hp, rfl⟩ := addRule_eq_ok.mp ha
    exact ⟨_, rfl, fun r' =>
      addCollectionAt_eq_ok.mpr ⟨hc, addRule_eq_ok.mpr ⟨occursIn, hp, rfl⟩⟩⟩

/-- A field that can be added to the one can be added to the other: its name is new where it is not
found. -/
theorem Agree.addField (h : r.Agree r') {d : DeclaredField}
    (ha : r.addField d.name d.column d.validator = .ok next) :
    ∃ next', r'.addField d.name d.column d.validator = .ok next' ∧ next.Agree next' := by
  obtain ⟨hid, hne, hnew, -⟩ := addField_eq_ok.mp ha
  have ha' : r'.addField d.name d.column d.validator = .ok _ :=
    addField_eq_ok.mpr ⟨hid, hne, (h.column? d.name).trans hnew, rfl⟩
  refine ⟨_, ha', ?_, fun name => ?_⟩
  · rw [rules_addField ha', rules_addField ha, h.rules]
  · rw [column?_addField ha', column?_addField ha, h.column?]

/-- **Resolvers that agree** still do so after one more call: what succeeds on the one succeeds on
the other. -/
theorem Agree.add (h : r.Agree r') {a : Addition} (ha : r.add engine a = .ok next) :
    ∃ next', r'.add engine a = .ok next' ∧ next.Agree next' := by
  cases a with
  | field d => exact h.addField ha
  | rule | collection =>
    obtain ⟨rules, rfl, ha'⟩ := exists_rules_of_add rfl ha
    exact ⟨_, ha' r', by rw [h.rules], h.column?⟩

/-- Resolvers that agree compile every condition to the same, errors included. -/
theorem Agree.compile (h : r.Agree r') (t : Tree) : r'.compile t = r.compile t :=
  compile_congr fun leaf _ => by
    simp only [compileLeaf, compileColumn, rule?, h.rules, h.column?]

theorem rules_of_ofFields {fs : List FieldDeclaration} (h : ofFields fs = .ok r) : r.rules = [] :=
  foldlM_preserves (P := fun r => r.rules = []) (fun hr ha => (rules_addField ha).trans hr) rfl h

/-- **Fields may be declared in any order.** -/
theorem agree_of_perm {fs gs : List FieldDeclaration} (hp : fs.Perm gs) (h : ofFields fs = .ok r) :
    ∃ r', ofFields gs = .ok r' ∧ r.Agree r' := by
  obtain ⟨hfields, hnames⟩ := exists_ofFields_ok_iff.mp ⟨r, h⟩
  obtain ⟨r', h'⟩ := exists_ofFields_ok_iff.mpr
    ⟨fun f hf => hfields f (hp.mem_iff.mpr hf), (hp.map _).nodup_iff.mp hnames⟩
  have hr := holds_of_ofFields h
  have hcolumns : r.columns.Perm r'.columns := by
    rw [hr.columns, (holds_of_ofFields h').columns]
    exact (hp.map _).map _
  exact ⟨r', h', (rules_of_ofFields h').trans (rules_of_ofFields h).symm,
    fun name => (find?_key_perm hcolumns hr.distinct _).symm⟩

theorem agree_of_origin_reordered (ho : origin.Reordered origin')
    (h : origin.build engine = .ok r) : ∃ r', origin'.build engine = .ok r' ∧ r.Agree r' := by
  cases ho with
  | fields hp => exact agree_of_perm hp h
  | config hp =>
    exact bind_foldlM_agree (fun hb => hb.add (a := .collection _)) (agree_of_perm hp) h

/-- The same calls lead to resolvers that agree, in whatever order the fields at first are. -/
theorem agree_of_reordered (ho : origin.Reordered origin')
    (h : build engine origin additions = .ok r) :
    ∃ r', build engine origin' additions = .ok r' ∧ r.Agree r' :=
  bind_foldlM_agree (fun hb => hb.add) (agree_of_origin_reordered ho) h

/-- **A resolver is the list of its declarations.** Take a resolver that a series of calls leads to,
with any engine for patterns, and the fields that are declared by them. The canonical names of the
fields are not empty and are all different, and only identifiers are stored for columns. A name is
found in any spelling: as the column and the check of the one declaration that has its canonical
name, and not at all without such a declaration, whatever else was added before or after it. In
whatever order the fields at first are declared, the calls lead to a resolver that compiles every
condition to the same. -/
theorem build_refines_declarations (h : build engine origin additions = .ok r) :
    ((∀ d ∈ declared origin additions, canonicalName d.name ≠ "") ∧
      ((declared origin additions).map fun d => canonicalName d.name).Nodup) ∧
    (r.columns = (declared origin additions).map DeclaredField.asColumn ∧
      ∀ c ∈ r.columns, Sql.IsIdentifier c.column) ∧
    (∀ name,
      (∀ d ∈ declared origin additions, canonicalName d.name = canonicalName name →
        r.column? name = some ⟨canonicalName name, d.column, d.validator⟩) ∧
      ((∀ d ∈ declared origin additions, canonicalName d.name ≠ canonicalName name) →
        r.column? name = none)) ∧
    ∀ origin', origin.Reordered origin' →
      ∃ r', build engine origin' additions = .ok r' ∧ ∀ t, r'.compile t = r.compile t := by
  have hr := holds_of_build h
  have hnamed := hr.named
  have hdistinct := hr.distinct
  rw [hr.columns, List.forall_mem_map] at hnamed
  rw [hr.columns, List.map_map] at hdistinct
  refine ⟨⟨hnamed, hdistinct⟩, ⟨hr.columns, hr.identifiers⟩, fun name => ⟨?_, hr.column?_eq_none⟩,
    fun origin' ho => ?_⟩
  · intro d hd hname
    rw [← hname]
    exact hr.column?_eq_some hd hname
  · obtain ⟨r', h', hagree⟩ := agree_of_reordered ho h
    exact ⟨r', h', hagree.compile⟩

/-- A configuration with two fields and a collection, a field of the application's own behind it,
and a rule that refuses all that it decides on. -/
theorem build_refines_declarations_of_ledger :
    let name : FieldDeclaration := ⟨"Full Name", "text", some "m.name"⟩
    let number : FieldDeclaration := ⟨"member_number", "int", none⟩
    let tags : Collection := { name := "tags", foreignKey := "member" }
    let additions : List Addition :=
      [.field ⟨"joined", "m.joined", .anything⟩,
        .rule "^secret" (.custom fun leaf => .error (.unknownField leaf.field))]
    ∃ r, build .standard (.config ⟨[name, number], [tags]⟩) additions = .ok r ∧
      r.column? "Member-Number" = some ⟨"membernumber", number.column, number.declared.validator⟩ ∧
      r.column? "number" = none ∧
      ∃ r', build .standard (.config ⟨[number, name], [tags]⟩) additions = .ok r' ∧
        ∀ t, r'.compile t = r.compile t := by
  intro name number tags additions
  have hbuilt : (build .standard (.config ⟨[name, number], [tags]⟩) additions).map (fun _ => ()) =
      .ok () := by decide +kernel
  cases h : build .standard (.config ⟨[name, number], [tags]⟩) additions with
  | error e => simp [h, Except.map] at hbuilt
  | ok r =>
    obtain ⟨-, -, hfinds, horder⟩ := build_refines_declarations h
    refine ⟨r, rfl, ?_, ?_, horder _ (.config (.swap ..))⟩
    · have hcanonical : canonicalName "Member-Number" = "membernumber" := by decide +kernel
      rw [← hcanonical]
      exact (hfinds "Member-Number").1 number.declared (.tail _ (.head _))
        (by decide +kernel)
    · exact (hfinds "number").2 (by decide +kernel)

end Resolver

end FilterQuery
