import FilterQuery.Proofs.CollectionPattern
import FilterQuery.Proofs.PlaceholderAlignment

/-!
# Resolvers of configurations

What a configuration accepts and why it refuses a comparison is said here by the declarations alone
(`Config.Accepts`, `Config.Refuses`). A resolver that is built from the configuration holds a column
for each field and a rule for each collection, in the order in which they are declared
(`Resolver.configured_of_ofConfig`), and decides the same: `Configured.compileLeaf_ok_iff` and
`Configured.refuses_of_compileLeaf`. No field is declared twice, so it does not matter that only the
first column with a name is asked.
-/

namespace FilterQuery

/-- What a declared field stands for. -/
def FieldDeclaration.asColumn (f : FieldDeclaration) : Column :=
  ⟨canonicalName f.name, f.column, f.fieldType.validator⟩

theorem FieldDeclaration.validator_asColumn (f : FieldDeclaration) :
    f.asColumn.validator = f.fieldType.validator := by
  rw [asColumn]

/-- The rule for the fields of a collection. -/
def Collection.rule (c : Collection) : Rule :=
  ⟨c.patternText, c.pattern.occursIn, .collection c⟩

/-- The test that the standard engine makes of the pattern of a collection. -/
theorem Collection.standard_eq_ok {c : Collection} {occursIn : String → Bool} :
    PatternEngine.standard.compile c.patternText = .ok occursIn ↔
      c.pattern.size ≤ maxPatternSize ∧ c.pattern.occursIn = occursIn := by
  rw [PatternEngine.standard_eq_ok, ofText?_patternText]
  simp only [Option.ite_none_right_eq_some, Option.some.injEq, and_assoc, exists_and_left,
    exists_eq_left']

namespace Config

/-- Whether the field matches the pattern of some collection. -/
def claims (config : Config) (field : String) : Bool :=
  config.collections.any fun c => (Pattern.ofText? c.patternText).any (·.occursIn field)

/-- The comparison belongs to a collection, or to a declared field that takes the value. -/
def Accepts (config : Config) (leaf : Comparison) : Prop :=
  config.claims leaf.field ∨ ∃ f ∈ config.fields,
    canonicalName f.name = canonicalName leaf.field ∧ f.fieldType.validator leaf.value = none

/-- Why a comparison that belongs to no collection is refused. -/
inductive Refuses (config : Config) (leaf : Comparison) : ResolveError → Prop where
  /-- No declared field has this name in any spelling. -/
  | unknown (hclaims : config.claims leaf.field = false)
    (hnone : ∀ f ∈ config.fields, canonicalName f.name ≠ canonicalName leaf.field) :
    Refuses config leaf (.unknownField leaf.field)
  /-- The declared field does not take the value. -/
  | invalid {f : FieldDeclaration} {reason : String} (hclaims : config.claims leaf.field = false)
    (hf : f ∈ config.fields) (hname : canonicalName f.name = canonicalName leaf.field)
    (hvalue : f.fieldType.validator leaf.value = some reason) :
    Refuses config leaf (.invalidValue leaf.field leaf.value reason)

end Config

namespace Resolver

/-! ### What is built -/

/-- The resolver holds what the configuration declares. -/
structure Configured (config : Config) (r : Resolver) : Prop where
  columns : r.columns = config.fields.map FieldDeclaration.asColumn
  rules : r.rules = config.collections.map Collection.rule
  /-- No two fields have the same canonical name. -/
  distinct : (r.columns.map (·.field)).Nodup
  /-- The patterns of all collections can be read. -/
  read : ∀ c ∈ config.collections, Pattern.ofText? c.patternText = some c.pattern

variable {config : Config} {r next : Resolver} {leaf : Comparison} {field : String}

theorem configured_empty : empty.Configured {} where
  columns := rfl
  rules := rfl
  distinct := List.nodup_nil
  read := by simp

/-- One more field adds its column, with a name that is new. -/
theorem Configured.addDeclaration {fields : List FieldDeclaration} {collections : List Collection}
    (h : r.Configured ⟨fields, collections⟩) {f : FieldDeclaration}
    (ha : r.addDeclaration f = .ok next) : next.Configured ⟨fields ++ [f], collections⟩ := by
  have hdistinct := distinct_addField h.distinct ha
  obtain ⟨-, -, -, rfl⟩ := addField_eq_ok.mp ha
  refine ⟨?_, h.rules, hdistinct, h.read⟩
  rw [h.columns, List.map_append]
  rfl

/-- One more collection adds its rule, with a pattern that can be read. -/
theorem Configured.addCollection {fields : List FieldDeclaration} {collections : List Collection}
    (h : r.Configured ⟨fields, collections⟩) {c : Collection}
    (ha : r.addCollection c = .ok next) : next.Configured ⟨fields, collections ++ [c]⟩ := by
  obtain ⟨-, ha⟩ := addCollectionAt_eq_ok.mp ha
  obtain ⟨occursIn, hp, rfl⟩ := addRule_eq_ok.mp ha
  obtain ⟨hsize, rfl⟩ := Collection.standard_eq_ok.mp hp
  have hread : Pattern.ofText? c.patternText = some c.pattern := by
    rw [Collection.ofText?_patternText, if_pos hsize]
  refine ⟨h.columns, ?_, h.distinct, ?_⟩
  · rw [h.rules, List.map_append]
    rfl
  · exact List.forall_mem_append.mpr ⟨h.read, List.forall_mem_singleton.mpr hread⟩

/-- **The resolver of a configuration** holds what is declared, in the same order. -/
theorem configured_of_ofConfig (h : ofConfig config = .ok r) : r.Configured config := by
  obtain ⟨base, hfields, hcollections⟩ := bind_eq_ok.mp h
  have hbase : base.Configured ⟨config.fields, []⟩ :=
    foldlM_preserves_prefix (P := fun fields r => r.Configured ⟨fields, []⟩)
      (fun hr ha => hr.addDeclaration ha) [] configured_empty hfields
  exact foldlM_preserves_prefix (P := fun cs r => r.Configured ⟨config.fields, cs⟩)
    (fun hr ha => hr.addCollection ha) [] hbase hcollections

namespace Configured

variable (h : r.Configured config)

include h

/-! ### Collections -/

theorem claims_iff :
    config.claims field ↔ ∃ c ∈ config.collections, c.pattern.occursIn field := by
  rw [Config.claims, List.any_eq_true]
  refine exists_congr fun c => and_congr_right fun hc => ?_
  rw [h.read c hc, Option.any_some]

/-- Without a claim, no rule decides. -/
theorem rule?_eq_none (hclaims : config.claims field = false) : r.rule? field = none := by
  rw [rule?, h.rules, List.find?_eq_none]
  intro rule hrule hoccurs
  obtain ⟨c, hc, rfl⟩ := List.mem_map.mp hrule
  have : config.claims field := h.claims_iff.mpr ⟨c, hc, hoccurs⟩
  simp [this] at hclaims

/-- The rule that decides a claimed field is for a collection that finds a key in it. -/
theorem rule?_eq_some (hclaims : config.claims field) : ∃ c key,
    r.rule? field = some (Collection.rule c) ∧ c.key? field = some key := by
  obtain ⟨c, hc, hoccurs⟩ := h.claims_iff.mp hclaims
  have hsome : (r.rule? field).isSome := by
    rw [rule?, h.rules, List.find?_isSome]
    exact ⟨c.rule, List.mem_map_of_mem hc, hoccurs⟩
  obtain ⟨rule, hrule⟩ := Option.isSome_iff_exists.mp hsome
  have hmem := List.mem_of_find?_eq_some hrule
  rw [h.rules] at hmem
  obtain ⟨c, -, rfl⟩ := List.mem_map.mp hmem
  have hoccurs : c.rule.occursIn field :=
    List.find?_some (p := fun rule : Rule => rule.occursIn field) hrule
  obtain ⟨key, hkey⟩ := Option.isSome_iff_exists.mp (Collection.occursIn_iff_isSome_key?.mp hoccurs)
  exact ⟨c, key, hrule, hkey⟩

/-- **A claimed comparison always compiles**, and has the key and the value for values. -/
theorem compileLeaf_of_claims (hclaims : config.claims leaf.field) :
    ∃ f, r.compileLeaf leaf = .ok f ∧ f.values.length = 2 := by
  obtain ⟨c, key, hrule, hkey⟩ := h.rule?_eq_some hclaims
  refine ⟨c.lookup key leaf.comparator leaf.value, ?_, Collection.length_values_lookup ..⟩
  simp [compileLeaf, hrule, Collection.rule, Action.compile, Collection.compile, hkey]

/-! ### Fields -/

/-- The column of a field is that of the one declaration with its name. -/
theorem column?_eq_some_iff {c : Column} : r.column? field = some c ↔
    ∃ f ∈ config.fields, canonicalName f.name = canonicalName field ∧ f.asColumn = c := by
  rw [column?, find?_key_eq_some_iff h.distinct, h.columns, List.mem_map]
  constructor
  · rintro ⟨⟨f, hf, rfl⟩, hname⟩
    exact ⟨f, hf, hname, rfl⟩
  · rintro ⟨f, hf, hname, rfl⟩
    exact ⟨⟨f, hf, rfl⟩, hname⟩

theorem column?_eq_none_iff : r.column? field = none ↔
    ∀ f ∈ config.fields, canonicalName f.name ≠ canonicalName field := by
  rw [Option.eq_none_iff_forall_ne_some]
  simp only [ne_eq, h.column?_eq_some_iff, not_exists, not_and]
  exact ⟨fun hn f hf hname => hn _ f hf hname rfl, fun hn _ f hf hname _ => hn f hf hname⟩

/-! ### Comparisons -/

theorem compileLeaf_of_not_claims (hclaims : config.claims leaf.field = false) :
    r.compileLeaf leaf = r.compileColumn leaf := by
  rw [compileLeaf, h.rule?_eq_none hclaims]

/-- **A comparison compiles** if the configuration accepts it. -/
theorem compileLeaf_ok_iff : (∃ f, r.compileLeaf leaf = .ok f) ↔ config.Accepts leaf := by
  cases hclaims : config.claims leaf.field with
  | true =>
    obtain ⟨f, hf, -⟩ := h.compileLeaf_of_claims hclaims
    exact ⟨fun _ => .inl hclaims, fun _ => ⟨f, hf⟩⟩
  | false =>
    rw [h.compileLeaf_of_not_claims hclaims]
    constructor
    · rintro ⟨fragment, hfragment⟩
      obtain ⟨c, hc, hvalue, -⟩ := compileColumn_eq_ok.mp hfragment
      obtain ⟨f, hf, hname, rfl⟩ := h.column?_eq_some_iff.mp hc
      rw [f.validator_asColumn] at hvalue
      exact .inr ⟨f, hf, hname, hvalue⟩
    · rintro (hclaimed | ⟨f, hf, hname, hvalue⟩)
      · simp [hclaimed] at hclaims
      · have hc := h.column?_eq_some_iff.mpr ⟨f, hf, hname, rfl⟩
        rw [← f.validator_asColumn] at hvalue
        exact ⟨_, compileColumn_eq_ok.mpr ⟨f.asColumn, hc, hvalue, rfl⟩⟩

/-- **A comparison that does not compile** is refused by the configuration, for the same reason. -/
theorem refuses_of_compileLeaf {e : ResolveError} (he : r.compileLeaf leaf = .error e) :
    config.Refuses leaf e := by
  cases hclaims : config.claims leaf.field with
  | true =>
    obtain ⟨f, hf, -⟩ := h.compileLeaf_of_claims hclaims
    simp [hf] at he
  | false =>
    rw [h.compileLeaf_of_not_claims hclaims] at he
    rcases compileColumn_eq_error.mp he with ⟨hc, rfl⟩ | ⟨c, reason, hc, hvalue, rfl⟩
    · exact .unknown hclaims (h.column?_eq_none_iff.mp hc)
    · obtain ⟨f, hf, hname, rfl⟩ := h.column?_eq_some_iff.mp hc
      rw [f.validator_asColumn] at hvalue
      exact .invalid hclaims hf hname hvalue

/-- A key and a value are bound in a collection, and a value alone to a column. -/
theorem length_values_compileLeaf {f : Sql.Fragment} (hf : r.compileLeaf leaf = .ok f) :
    f.values.length = if config.claims leaf.field then 2 else 1 := by
  cases hclaims : config.claims leaf.field with
  | true =>
    obtain ⟨g, hg, hvalues⟩ := h.compileLeaf_of_claims hclaims
    obtain rfl := Except.ok.inj (hf.symm.trans hg)
    exact hvalues
  | false =>
    rw [h.compileLeaf_of_not_claims hclaims] at hf
    obtain ⟨c, -, -, rfl⟩ := compileColumn_eq_ok.mp hf
    exact Sql.Fragment.length_values_compare ..

end Configured

end Resolver

end FilterQuery
