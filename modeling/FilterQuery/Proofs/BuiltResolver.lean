import FilterQuery.Proofs.Basics
import FilterQuery.Resolver

/-!
# Resolvers built from declarations

`Resolver.Built` are the resolvers that can be reached by declaring fields and collections, in any
order, and without rules of the application's own. Every name that they can write into a statement
is an identifier (`Resolver.Built.sound`), so a fragment of one leaf has one of two known forms
(`Resolver.Sound.compileLeaf`). `Resolver.Assembled` are those with rules of the application's own.

All of this holds with any engine for patterns. It matters only which texts it takes for patterns
and which test it makes of one (`Resolver.addRule_eq_ok`).
-/

namespace FilterQuery

/-- The rule is for a collection, and all names of the collection are identifiers. -/
def Rule.Sound (rule : Rule) : Prop :=
  ∃ c, rule.action = .collection c ∧ ∀ name ∈ c.identifiers, Sql.isIdentifier name

/-- The standard engine takes for patterns what can be read. -/
theorem PatternEngine.standard_eq_ok {source : String} {occursIn : String → Bool} :
    standard.compile source = .ok occursIn ↔
      ∃ p, Pattern.ofText? source = some p ∧ p.occursIn = occursIn := by
  simp only [standard]
  cases Pattern.ofText? source with
  | none => simp
  | some p => simp

/-- A collection passes its check if it has identifiers only and its pattern is one. -/
theorem Collection.check_eq_ok {c : Collection} {engine : PatternEngine} :
    c.check engine = .ok () ↔ (∀ name ∈ c.identifiers, Sql.isIdentifier name) ∧
      ∃ occursIn, engine.compile c.patternText = .ok occursIn := by
  have hfind : c.identifiers.find? (fun name => !Sql.isIdentifier name) = none ↔
      ∀ name ∈ c.identifiers, Sql.isIdentifier name := by simp
  rw [← hfind, check]
  cases c.identifiers.find? (fun name => !Sql.isIdentifier name) with
  | some name => simp
  | none => cases engine.compile c.patternText <;> simp

namespace Resolver

variable {engine : PatternEngine}

/-! ### What a declaration does -/

section Declarations

variable {r next : Resolver}

theorem addField_eq_ok {name column : String} {validator : Validator} :
    r.addField name column validator = .ok next ↔
      Sql.isIdentifier column ∧ canonicalName name ≠ "" ∧ r.column? name = none ∧
      next = { r with columns := r.columns ++ [⟨canonicalName name, column, validator⟩] } := by
  unfold addField
  split
  · next hid => simp_all
  · next hid =>
    split
    · next hname =>
      simp only [reduceCtorEq, false_iff]
      rintro ⟨-, hne, hnew, -⟩
      simp [hne, hnew] at hname
    · next hname =>
      rw [not_or, Option.not_isSome_iff_eq_none] at hname
      simp only [Except.ok.injEq]
      constructor
      · rintro rfl
        exact ⟨by simpa using hid, hname.1, hname.2, rfl⟩
      · rintro ⟨-, -, -, rfl⟩
        rfl

theorem addField_eq_error {name column : String} {validator : Validator} {e : ResolveError} :
    r.addField name column validator = .error e ↔
      (¬ Sql.isIdentifier column ∧ e = .invalidIdentifier column) ∨
      (Sql.isIdentifier column ∧ (canonicalName name = "" ∨ r.column? name ≠ none) ∧
        e = .duplicateField name) := by
  rw [← Option.isSome_iff_ne_none, addField]
  by_cases hid : Sql.isIdentifier column
  · by_cases hname : canonicalName name = "" ∨ (r.column? name).isSome
    · simp only [hid, hname, Bool.not_true, Bool.false_eq_true, if_false, if_true, not_true,
        false_and, false_or, true_and, Except.error.injEq]
      exact eq_comm
    · simp [hid, hname]
  · simp only [hid, Bool.not_false, if_true, not_false_iff, true_and, Bool.false_eq_true, false_and,
      or_false, Except.error.injEq]
    exact eq_comm

theorem addRule_eq_ok {source : String} {action : Action} :
    r.addRule source action engine = .ok next ↔ ∃ occursIn, engine.compile source = .ok occursIn ∧
      next = { r with rules := r.rules ++ [⟨source, occursIn, action⟩] } := by
  unfold addRule
  cases engine.compile source with
  | error reason => simp
  | ok occursIn =>
    simp only [Except.ok.injEq, exists_eq_left']
    exact eq_comm

theorem addCollectionAt_eq_ok {source : String} {c : Collection} :
    r.addCollectionAt source c engine = .ok next ↔
      c.check engine = .ok () ∧ r.addRule source (.collection c) engine = .ok next := by
  unfold addCollectionAt
  rw [bind_eq_ok]
  constructor
  · rintro ⟨⟨⟩, h⟩
    exact h
  · intro h
    exact ⟨(), h⟩

/-- What holds of all columns, and of an identifier, holds of all after a new field. -/
theorem forall_columns_addField {P : Column → Prop} {name column : String} {validator : Validator}
    (h : ∀ c ∈ r.columns, P c) (ha : r.addField name column validator = .ok next)
    (hnew : Sql.isIdentifier column → P ⟨canonicalName name, column, validator⟩) :
    ∀ c ∈ next.columns, P c := by
  obtain ⟨hid, -, -, rfl⟩ := addField_eq_ok.mp ha
  exact List.forall_mem_append.mpr ⟨h, List.forall_mem_singleton.mpr (hnew hid)⟩

/-- What holds of all rules, and of an action behind any test, holds of all after a new rule. -/
theorem forall_rules_addRule {P : Rule → Prop} {source : String} {action : Action}
    (h : ∀ rule ∈ r.rules, P rule) (ha : r.addRule source action engine = .ok next)
    (hnew : ∀ occursIn, P ⟨source, occursIn, action⟩) : ∀ rule ∈ next.rules, P rule := by
  obtain ⟨occursIn, -, rfl⟩ := addRule_eq_ok.mp ha
  exact List.forall_mem_append.mpr ⟨h, List.forall_mem_singleton.mpr (hnew occursIn)⟩

/-- Fields and rules are kept apart. -/
theorem rules_addField {name column : String} {validator : Validator}
    (ha : r.addField name column validator = .ok next) : next.rules = r.rules := by
  obtain ⟨-, -, -, rfl⟩ := addField_eq_ok.mp ha
  rfl

theorem columns_addRule {source : String} {action : Action}
    (ha : r.addRule source action engine = .ok next) : next.columns = r.columns := by
  obtain ⟨occursIn, -, rfl⟩ := addRule_eq_ok.mp ha
  rfl

/-- No two columns have the same name, after a new field as before. -/
theorem distinct_addField {name column : String} {validator : Validator}
    (h : (r.columns.map (·.field)).Nodup) (ha : r.addField name column validator = .ok next) :
    (next.columns.map (·.field)).Nodup := by
  obtain ⟨-, -, hnew, rfl⟩ := addField_eq_ok.mp ha
  have hfresh : canonicalName name ∉ r.columns.map (·.field) := by
    intro hold
    obtain ⟨c, hc, hname⟩ := List.mem_map.mp hold
    exact absurd hname (by simpa using List.find?_eq_none.mp hnew c hc)
  rw [List.map_append, List.map_singleton, ← List.concat_eq_append]
  exact h.concat hfresh

/-- A new field is found behind all that were found before. -/
theorem column?_addField {name column : String} {validator : Validator}
    (ha : r.addField name column validator = .ok next) (field : String) :
    next.column? field = (r.column? field).or
      (if canonicalName name = canonicalName field then some ⟨canonicalName name, column, validator⟩
        else none) := by
  obtain ⟨-, -, -, rfl⟩ := addField_eq_ok.mp ha
  simp only [column?, List.find?_append, List.find?_singleton, decide_eq_true_eq]

/-- A new rule decides on the fields on which none before it decides. -/
theorem rule?_addRule {source : String} {action : Action} {occursIn : String → Bool}
    (hp : engine.compile source = .ok occursIn) (ha : r.addRule source action engine = .ok next)
    (field : String) : next.rule? field = (r.rule? field).or
      (if occursIn field then some ⟨source, occursIn, action⟩ else none) := by
  obtain ⟨occursIn, hp', rfl⟩ := addRule_eq_ok.mp ha
  obtain rfl := Except.ok.inj (hp.symm.trans hp')
  simp only [rule?, List.find?_append, List.find?_singleton]

end Declarations

/-- The resolvers that declarations of fields and collections lead to, with an engine for their
patterns. -/
inductive Built (engine : PatternEngine) : Resolver → Prop where
  /-- From a list of fields. -/
  | fields {fields : List FieldDeclaration} {r : Resolver} : ofFields fields = .ok r →
    Built engine r
  /-- From a configuration. -/
  | config {config : Config} {r : Resolver} : ofConfig config engine = .ok r → Built engine r
  /-- One more field. -/
  | field {r next : Resolver} {name column : String} {validator : Validator} :
    Built engine r → r.addField name column validator = .ok next → Built engine next
  /-- One more collection. -/
  | collection {r next : Resolver} {c : Collection} :
    Built engine r → r.addCollection c engine = .ok next → Built engine next

/-- The resolvers that an application can put together, with rules of its own among them and with
any engine for their patterns. Of what such a rule makes of a comparison, no more than `known` is
known. -/
inductive Assembled (engine : PatternEngine)
    (known : (Comparison → Except ResolveError Sql.Fragment) → Prop) : Resolver → Prop where
  /-- From a list of fields. -/
  | fields {fields : List FieldDeclaration} {r : Resolver} : ofFields fields = .ok r →
    Assembled engine known r
  /-- From a configuration. -/
  | config {config : Config} {r : Resolver} : ofConfig config engine = .ok r →
    Assembled engine known r
  /-- One more field. -/
  | field {r next : Resolver} {name column : String} {validator : Validator} :
    Assembled engine known r → r.addField name column validator = .ok next →
    Assembled engine known next
  /-- One more collection, for the fields that match any pattern. -/
  | collection {r next : Resolver} {source : String} {c : Collection} :
    Assembled engine known r → r.addCollectionAt source c engine = .ok next →
    Assembled engine known next
  /-- One more rule of the application's own. -/
  | custom {r next : Resolver} {source : String}
    {compile : Comparison → Except ResolveError Sql.Fragment} : Assembled engine known r →
    known compile → r.addRule source (.custom compile) engine = .ok next →
    Assembled engine known next

/-- Only identifiers can be written into statements. -/
structure Sound (r : Resolver) : Prop where
  columns : ∀ c ∈ r.columns, Sql.isIdentifier c.column
  rules : ∀ rule ∈ r.rules, rule.Sound

variable {r next : Resolver}

theorem sound_empty : empty.Sound := ⟨by simp [empty], by simp [empty]⟩

theorem Sound.addField (h : r.Sound) {name column : String} {validator : Validator}
    (ha : r.addField name column validator = .ok next) : next.Sound where
  columns := forall_columns_addField h.columns ha id
  rules := rules_addField ha ▸ h.rules

theorem Sound.addCollection (h : r.Sound) {c : Collection}
    (ha : r.addCollection c engine = .ok next) : next.Sound := by
  obtain ⟨hc, ha⟩ := addCollectionAt_eq_ok.mp ha
  have hrule : ∀ occursIn, Rule.Sound ⟨c.patternText, occursIn, .collection c⟩ :=
    fun _ => ⟨c, rfl, (Collection.check_eq_ok.mp hc).1⟩
  exact ⟨columns_addRule ha ▸ h.columns, forall_rules_addRule h.rules ha hrule⟩

theorem Sound.ofFields {fields : List FieldDeclaration} (h : ofFields fields = .ok r) : r.Sound :=
  foldlM_preserves (fun hb ha => hb.addField ha) sound_empty h

theorem Sound.ofConfig {config : Config} (h : ofConfig config engine = .ok r) : r.Sound := by
  obtain ⟨base, hf, hc⟩ := bind_eq_ok.mp h
  exact foldlM_preserves (fun hb ha => hb.addCollection ha) (Sound.ofFields hf) hc

/-- **Only identifiers get into statements**, whatever was declared in whatever order. -/
theorem Built.sound (h : r.Built engine) : r.Sound := by
  induction h with
  | fields h => exact .ofFields h
  | config h => exact .ofConfig h
  | field _ h ih => exact ih.addField h
  | collection _ h ih => exact ih.addCollection h

/-! ### The fragments of leaves -/

section Columns

variable {leaf : Comparison}

/-- A value is compared with the column of its field if it passes the check. -/
theorem compileColumn_eq_ok {f : Sql.Fragment} : r.compileColumn leaf = .ok f ↔
    ∃ c, r.column? leaf.field = some c ∧ c.validator leaf.value = none ∧
      f = .compare c.column leaf.comparator leaf.value := by
  unfold compileColumn
  cases r.column? leaf.field with
  | none => simp
  | some c => cases hvalue : c.validator leaf.value <;> simp [hvalue, eq_comm]

theorem compileColumn_eq_error {e : ResolveError} : r.compileColumn leaf = .error e ↔
    (r.column? leaf.field = none ∧ e = .unknownField leaf.field) ∨
    ∃ c reason, r.column? leaf.field = some c ∧ c.validator leaf.value = some reason ∧
      e = .invalidValue leaf.field leaf.value reason := by
  unfold compileColumn
  cases r.column? leaf.field with
  | none => simp [eq_comm]
  | some c => cases hvalue : c.validator leaf.value <;> simp [hvalue, eq_comm]

end Columns

/-- A leaf is looked up in a collection, or compared with the column of its field. -/
theorem Sound.compileLeaf (h : r.Sound) {leaf : Comparison} {f : Sql.Fragment}
    (hf : r.compileLeaf leaf = .ok f) :
    (∃ rule c key, r.rule? leaf.field = some rule ∧ rule.action = .collection c ∧
      (∀ name ∈ c.identifiers, Sql.isIdentifier name) ∧ c.key? leaf.field = some key ∧
      f = c.lookup key leaf.comparator leaf.value) ∨
    (∃ c, r.rule? leaf.field = none ∧ r.column? leaf.field = some c ∧ Sql.isIdentifier c.column ∧
      f = .compare c.column leaf.comparator leaf.value) := by
  unfold Resolver.compileLeaf at hf
  cases hr : r.rule? leaf.field with
  | some rule =>
    obtain ⟨c, hc, hid⟩ := h.rules rule (List.mem_of_find?_eq_some hr)
    rw [hr] at hf
    simp only [hc, Action.compile, Collection.compile] at hf
    split at hf
    · next key hkey =>
      obtain rfl := Except.ok.inj hf
      exact .inl ⟨rule, c, key, rfl, hc, hid, hkey, rfl⟩
    · simp at hf
  | none =>
    rw [hr] at hf
    obtain ⟨c, hc, -, rfl⟩ := compileColumn_eq_ok.mp hf
    exact .inr ⟨c, rfl, hc, h.columns c (List.mem_of_find?_eq_some hc), rfl⟩

/-! ### The fragments of operations -/

variable {left right inner : Tree} {gate : Gate} {f : Sql.Fragment}

theorem compile_group_eq_ok :
    r.compile (.group inner) = .ok f ↔ ∃ g, r.compile inner = .ok g ∧ g.group = f := by
  simp only [compile, bind_eq_ok, pure_eq_ok]

theorem compile_join_eq_ok : r.compile (.join left gate right) = .ok f ↔
    ∃ g, r.compile left = .ok g ∧ ∃ g', r.compile right = .ok g' ∧ g.join gate g' = f := by
  simp only [compile, bind_eq_ok, pure_eq_ok]

/-- What lacks an operand or a gate does not compile. -/
theorem compile_openGate_ne_ok : r.compile (.openGate left gate) ≠ .ok f := by
  simp [compile, bind_eq_ok]

theorem compile_ungated_ne_ok : r.compile (.ungated left right) ≠ .ok f := by
  simp [compile, bind_eq_ok]

/-- What holds of the fragments of leaves, and of fragments in brackets and joined fragments if it
holds of their parts, holds of all that is compiled. -/
theorem forall_compile {P : Sql.Fragment → Prop}
    (hleaf : ∀ {leaf : Comparison} {f : Sql.Fragment}, r.compileLeaf leaf = .ok f → P f)
    (hgroup : ∀ {f : Sql.Fragment}, P f → P f.group)
    (hjoin : ∀ {f g : Sql.Fragment} (gate : Gate), P f → P g → P (f.join gate g)) {t : Tree}
    (hf : r.compile t = .ok f) : P f := by
  induction t generalizing f with
  | comparison leaf => exact hleaf hf
  | group inner ih =>
    obtain ⟨g, hg, rfl⟩ := compile_group_eq_ok.mp hf
    exact hgroup (ih hg)
  | join left gate right ihl ihr =>
    obtain ⟨g, hg, g', hg', rfl⟩ := compile_join_eq_ok.mp hf
    exact hjoin gate (ihl hg) (ihr hg')
  | openGate => exact absurd hf compile_openGate_ne_ok
  | ungated => exact absurd hf compile_ungated_ne_ok

/-- A condition is compiled by its leaves alone, errors included. -/
theorem compile_congr {t : Tree}
    (h : ∀ leaf ∈ t.leaves, next.compileLeaf leaf = r.compileLeaf leaf) :
    next.compile t = r.compile t := by
  induction t with
  | comparison leaf => exact h leaf (List.mem_singleton.mpr rfl)
  | group inner ih => simp only [compile, ih h]
  | openGate left gate ih => simp only [compile, ih h]
  | join left gate right ihl ihr | ungated left right ihl ihr =>
    obtain ⟨hl, hr⟩ := List.forall_mem_append.mp h
    simp only [compile, ihl hl, ihr hr]

/-- Where all leaves that compile do so elsewhere, a condition that compiles does. -/
theorem compile_mono {t : Tree}
    (h : ∀ leaf ∈ t.leaves, ∀ g, r.compileLeaf leaf = .ok g → next.compileLeaf leaf = .ok g)
    (hf : r.compile t = .ok f) : next.compile t = .ok f := by
  induction t generalizing f with
  | comparison leaf => exact h leaf (List.mem_singleton.mpr rfl) f hf
  | group inner ih =>
    obtain ⟨g, hg, rfl⟩ := compile_group_eq_ok.mp hf
    exact compile_group_eq_ok.mpr ⟨g, ih h hg, rfl⟩
  | join left gate right ihl ihr =>
    obtain ⟨hl, hr⟩ := List.forall_mem_append.mp h
    obtain ⟨g, hg, g', hg', rfl⟩ := compile_join_eq_ok.mp hf
    exact compile_join_eq_ok.mpr ⟨g, ihl hl hg, g', ihr hr hg', rfl⟩
  | openGate left gate _ => exact absurd hf compile_openGate_ne_ok
  | ungated left right _ _ => exact absurd hf compile_ungated_ne_ok

/-- **A condition compiles to the same** where the same rules decide on its leaves, and where the
columns that are found here are found too, by checks that take the values that pass here. -/
theorem compile_of_columns {t : Tree}
    (hrules : ∀ leaf ∈ t.leaves, next.rule? leaf.field = r.rule? leaf.field)
    (hcolumns : ∀ leaf ∈ t.leaves, ∀ c, r.column? leaf.field = some c →
      ∃ c', next.column? leaf.field = some c' ∧ c'.column = c.column ∧
        (c.validator leaf.value = none → c'.validator leaf.value = none))
    (hf : r.compile t = .ok f) : next.compile t = .ok f := by
  refine compile_mono (fun leaf hleaf g hg => ?_) hf
  rw [compileLeaf, hrules leaf hleaf]
  rw [compileLeaf] at hg
  split at hg
  · exact hg
  · obtain ⟨c, hc, hvalue, rfl⟩ := compileColumn_eq_ok.mp hg
    obtain ⟨c', hc', hcolumn, hpasses⟩ := hcolumns leaf hleaf c hc
    exact compileColumn_eq_ok.mpr ⟨c', hc', hpasses hvalue, by rw [hcolumn]⟩

end Resolver

end FilterQuery
