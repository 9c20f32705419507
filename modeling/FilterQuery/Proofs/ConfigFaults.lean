import FilterQuery.Proofs.ConfiguredResolver
import FilterQuery.Proofs.Identifier

/-!
# Faults of configurations

What is checked of a configuration, as a list in the order of the checks (`Config.checks`): the
fields one after the other, each against those before it, and then the collections. Building the
resolver of a configuration reports the first check that fails, and succeeds if none does. That one
step reports what is checked of one declaration needs to know of the resolver only that it holds
what was declared before (`Resolver.Configured`); the rest is how reports join
(`Reports.bind`). The main statement is `Resolver.ofConfig_reports_first_fault`.

The pattern of a collection is not among the checks. It can be read unless the name of the
collection is so long that the pattern is too large, and configurations with such names are left
out.
-/

namespace FilterQuery

/-! ### Checks -/

/-- A condition on declarations, and the error that is reported where it does not hold. -/
structure Check where
  passes : Prop
  error : ResolveError

/-- The first check that fails has this error. -/
inductive FirstFault : List Check → ResolveError → Prop where
  /-- The first check of all fails. -/
  | here {c : Check} {checks : List Check} : ¬ c.passes → FirstFault (c :: checks) c.error
  /-- The first check passes, and a later one is the first that fails. -/
  | later {c : Check} {checks : List Check} {e : ResolveError} : c.passes → FirstFault checks e →
    FirstFault (c :: checks) e

section Faults

variable {c : Check} {checks more : List Check} {e : ResolveError}

theorem not_firstFault_nil : ¬ FirstFault [] e := nofun

theorem firstFault_cons : FirstFault (c :: checks) e ↔
    (¬ c.passes ∧ e = c.error) ∨ (c.passes ∧ FirstFault checks e) := by
  constructor
  · intro h
    cases h with
    | here hc => exact .inl ⟨hc, rfl⟩
    | later hc h => exact .inr ⟨hc, h⟩
  · rintro (⟨hc, rfl⟩ | ⟨hc, h⟩)
    · exact .here hc
    · exact .later hc h

theorem firstFault_append : FirstFault (checks ++ more) e ↔
    FirstFault checks e ∨ ((∀ c ∈ checks, c.passes) ∧ FirstFault more e) := by
  induction checks with
  | nil => simp [not_firstFault_nil]
  | cons c checks ih =>
    rw [List.cons_append, firstFault_cons, firstFault_cons, ih, List.forall_mem_cons]
    tauto

/-- Some check is the first that fails, unless all pass. -/
theorem exists_firstFault_iff : (∃ e, FirstFault checks e) ↔ ¬ ∀ c ∈ checks, c.passes := by
  induction checks with
  | nil => simp [not_firstFault_nil]
  | cons c checks ih =>
    simp only [firstFault_cons, List.forall_mem_cons, exists_or, exists_and_left, exists_eq,
      and_true, ih]
    tauto

end Faults

/-- The outcome is an error exactly where a check fails, and then that of the first. -/
def Reports {α : Type} (outcome : Except ResolveError α) (checks : List Check) : Prop :=
  ∀ e, outcome = .error e ↔ FirstFault checks e

namespace Reports

variable {α β : Type} {x : Except ResolveError α} {f : α → Except ResolveError β}
  {checks more : List Check}

theorem ok (a : α) : Reports (.ok a) [] := fun _ => ⟨nofun, nofun⟩

/-- What passes all checks succeeds, and nothing else does. -/
theorem exists_ok_iff (h : Reports x checks) : (∃ a, x = .ok a) ↔ ∀ c ∈ checks, c.passes := by
  rw [← not_iff_not, ← exists_firstFault_iff]
  simp only [← h _]
  cases x <;> simp

/-- **Reports join**: the second checks are made of what passes the first. -/
theorem bind (h : Reports x checks) (hf : ∀ a, x = .ok a → Reports (f a) more) :
    Reports (x >>= f) (checks ++ more) := by
  intro e
  rw [bind_eq_error, firstFault_append, h e, ← h.exists_ok_iff]
  refine or_congr_right ⟨?_, ?_⟩
  · rintro ⟨a, ha, he⟩
    exact ⟨⟨a, ha⟩, (hf a ha e).mp he⟩
  · rintro ⟨⟨a, ha⟩, he⟩
    exact ⟨a, ha, (hf a ha e).mpr he⟩

end Reports

/-! ### What is checked -/

/-- What is checked of a field that is declared behind the `earlier` ones: that its column is an
identifier, and that its canonical name is not empty and is new. -/
def FieldDeclaration.checks (earlier : List FieldDeclaration) (f : FieldDeclaration) : List Check :=
  [⟨Sql.IsIdentifier f.column, .invalidIdentifier f.column⟩,
    ⟨canonicalName f.name ≠ "" ∧ ∀ g ∈ earlier, canonicalName g.name ≠ canonicalName f.name,
      .duplicateField f.name⟩]

/-- What is checked of the fields behind the `earlier` ones. -/
def fieldChecks (earlier : List FieldDeclaration) : List FieldDeclaration → List Check
  | [] => []
  | f :: fields => f.checks earlier ++ fieldChecks (earlier ++ [f]) fields

/-- What is checked of a collection: that its table, the column of the owner, the foreign key, the
columns of the key and the value, and the column that marks deleted pairs are identifiers. -/
def Collection.checks (c : Collection) : List Check :=
  c.identifiers.map fun name => ⟨Sql.IsIdentifier name, .invalidIdentifier name⟩

/-- All that is checked of a configuration, in order. -/
def Config.checks (config : Config) : List Check :=
  fieldChecks [] config.fields ++ config.collections.flatMap Collection.checks

/-- Fields pass all checks if each passes those that are about it alone, and no two names among them
and the earlier ones are the same. -/
theorem forall_fieldChecks_iff {earlier fields : List FieldDeclaration}
    (hd : (earlier.map fun f => canonicalName f.name).Nodup) :
    (∀ check ∈ fieldChecks earlier fields, check.passes) ↔
      (∀ f ∈ fields, Sql.IsIdentifier f.column ∧ canonicalName f.name ≠ "") ∧
      ((earlier ++ fields).map fun f => canonicalName f.name).Nodup := by
  induction fields generalizing earlier with
  | nil => simpa [fieldChecks] using hd
  | cons f fields ih =>
    have hnew : ((earlier ++ [f]).map fun f => canonicalName f.name).Nodup ↔
        ∀ g ∈ earlier, canonicalName g.name ≠ canonicalName f.name := by
      rw [List.map_append, List.nodup_append]
      simp [hd]
    have hchecks : (∀ check ∈ f.checks earlier, check.passes) ↔
        Sql.IsIdentifier f.column ∧ canonicalName f.name ≠ "" ∧
          ((earlier ++ [f]).map fun f => canonicalName f.name).Nodup := by
      rw [hnew]
      simp [FieldDeclaration.checks]
    rw [fieldChecks, List.forall_mem_append, hchecks, List.forall_mem_cons,
      List.append_cons earlier f fields]
    constructor
    · rintro ⟨⟨hid, hne, hnodup⟩, hrest⟩
      obtain ⟨hfields, hall⟩ := (ih hnodup).mp hrest
      exact ⟨⟨⟨hid, hne⟩, hfields⟩, hall⟩
    · rintro ⟨⟨⟨hid, hne⟩, hfields⟩, hall⟩
      have hnodup : ((earlier ++ [f]).map fun f => canonicalName f.name).Nodup := by
        rw [List.map_append] at hall
        exact hall.of_append_left
      exact ⟨⟨hid, hne, hnodup⟩, (ih hnodup).mpr ⟨hfields, hall⟩⟩

/-- The check of a collection finds the first name that is no identifier, if the pattern is one. -/
theorem Collection.check_reports {c : Collection} {engine : PatternEngine}
    {occursIn : String → Bool} (hp : engine.compile c.patternText = .ok occursIn) :
    Reports (c.check engine) c.checks := by
  simp only [check, checks, hp]
  induction c.identifiers with
  | nil => exact .ok ()
  | cons name names ih =>
    intro e
    rw [List.map_cons, firstFault_cons, ← ih e, List.find?_cons]
    cases hid : Sql.isIdentifier name with
    | true => simp [← Sql.isIdentifier_iff, hid]
    | false => simp [← Sql.isIdentifier_iff, hid, eq_comm]

/-! ### What is reported -/

namespace Resolver

variable {r : Resolver} {config : Config}

/-- One more field is checked against those that the resolver holds. -/
theorem Configured.addDeclaration_reports {earlier : List FieldDeclaration}
    {collections : List Collection} (h : r.Configured ⟨earlier, collections⟩)
    (f : FieldDeclaration) : Reports (r.addDeclaration f) (f.checks earlier) := by
  intro e
  have hnew : canonicalName f.name = "" ∨ r.column? f.name ≠ none ↔
      ¬ (canonicalName f.name ≠ "" ∧
        ∀ g ∈ earlier, canonicalName g.name ≠ canonicalName f.name) := by
    rw [ne_eq, h.column?_eq_none_iff]
    tauto
  rw [Resolver.addDeclaration, addField_eq_error, hnew, FieldDeclaration.checks, firstFault_cons,
    firstFault_cons, Sql.isIdentifier_iff]
  simp only [not_firstFault_nil, and_false, or_false]

/-- **The fields are reported on in order**, each against those before it. -/
theorem Configured.addDeclarations_report {earlier : List FieldDeclaration}
    (h : r.Configured ⟨earlier, []⟩) (fields : List FieldDeclaration) :
    Reports (fields.foldlM Resolver.addDeclaration r) (fieldChecks earlier fields) := by
  induction fields generalizing earlier r with
  | nil => exact .ok r
  | cons f fields ih =>
    rw [List.foldlM_cons, fieldChecks]
    exact (h.addDeclaration_reports f).bind fun next ha => ih (h.addDeclaration ha)

theorem ofFields_reports (fields : List FieldDeclaration) :
    Reports (ofFields fields) (fieldChecks [] fields) :=
  configured_empty.addDeclarations_report fields

/-- **Fields are accepted** if each has an identifier for a column and a canonical name, and no two
have the same one. -/
theorem exists_ofFields_ok_iff {fields : List FieldDeclaration} :
    (∃ r, ofFields fields = .ok r) ↔
      (∀ f ∈ fields, Sql.IsIdentifier f.column ∧ canonicalName f.name ≠ "") ∧
      (fields.map fun f => canonicalName f.name).Nodup := by
  have hnil : (([] : List FieldDeclaration).map fun f => canonicalName f.name).Nodup :=
    List.nodup_nil
  rw [(ofFields_reports fields).exists_ok_iff]
  exact forall_fieldChecks_iff hnil

/-- A collection whose pattern is one is reported on by its names alone. -/
theorem addCollection_reports (r : Resolver) {c : Collection} {engine : PatternEngine}
    {occursIn : String → Bool} (hp : engine.compile c.patternText = .ok occursIn) :
    Reports (r.addCollection c engine) c.checks := by
  have hrule : Reports (r.addRule c.patternText (.collection c) engine) [] := by
    rw [addRule, hp]
    exact .ok _
  have hboth := (Collection.check_reports hp).bind fun _ _ => hrule
  rwa [List.append_nil] at hboth

theorem addCollections_report (r : Resolver) {collections : List Collection}
    (hsize : ∀ c ∈ collections, c.pattern.size ≤ maxPatternSize) :
    Reports (collections.foldlM (fun r c => r.addCollection c) r)
      (collections.flatMap Collection.checks) := by
  induction collections generalizing r with
  | nil => exact .ok r
  | cons c collections ih =>
    obtain ⟨hc, hcollections⟩ := List.forall_mem_cons.mp hsize
    have hp := Collection.standard_eq_ok.mpr ⟨hc, rfl⟩
    rw [List.foldlM_cons, List.flatMap_cons]
    exact (r.addCollection_reports hp).bind fun next _ => ih next hcollections

/-- **The first fault of a configuration is reported.** Take a configuration whose collections have
patterns that are not too large. Its resolver is built exactly if all checks pass; otherwise the
error is that of the first check that fails. The resolver has a column for each field and a rule for
each collection, in the order in which they are declared. -/
theorem ofConfig_reports_first_fault
    (hsize : ∀ c ∈ config.collections, c.pattern.size ≤ maxPatternSize) :
    ((∃ r, ofConfig config = .ok r) ↔ ∀ check ∈ config.checks, check.passes) ∧
    (∀ e, ofConfig config = .error e ↔ FirstFault config.checks e) ∧
    ∀ r, ofConfig config = .ok r →
      r.columns = config.fields.map FieldDeclaration.asColumn ∧
      r.rules = config.collections.map Collection.rule := by
  have hreports : Reports (ofConfig config) config.checks :=
    (ofFields_reports config.fields).bind fun r _ => r.addCollections_report hsize
  refine ⟨hreports.exists_ok_iff, hreports, fun r hr => ?_⟩
  have hconfigured := configured_of_ofConfig hr
  exact ⟨hconfigured.columns, hconfigured.rules⟩

/-- A configuration whose second field is the first one again, in another spelling, before a table
that is no identifier; and the same configuration without these faults. -/
theorem ofConfig_reports_first_fault_of_respelling :
    let tags : Collection := { name := "tags", table? := some "tags;", foreignKey := "member" }
    let faulty : Config :=
      ⟨[⟨"member_number", "int", none⟩, ⟨"Member-Number", "text", some "m.number"⟩], [tags]⟩
    let sound : Config := ⟨[⟨"member_number", "int", none⟩], [{ tags with table? := none }]⟩
    ((∀ c ∈ faulty.collections, c.pattern.size ≤ maxPatternSize) ∧
      FirstFault faulty.checks (.duplicateField "Member-Number")) ∧
    ((∀ c ∈ sound.collections, c.pattern.size ≤ maxPatternSize) ∧
      (∀ check ∈ sound.checks, check.passes) ∧
      ∃ r, ofConfig sound = .ok r ∧
        r.columns = sound.fields.map FieldDeclaration.asColumn ∧
        r.rules = sound.collections.map Collection.rule) := by
  intro tags faulty sound
  have hsize : ∀ c ∈ faulty.collections, c.pattern.size ≤ maxPatternSize := by decide +kernel
  have hsize' : ∀ c ∈ sound.collections, c.pattern.size ≤ maxPatternSize := by decide +kernel
  obtain ⟨-, hfault, -⟩ := ofConfig_reports_first_fault hsize
  obtain ⟨hsuccess, -, hkeeps⟩ := ofConfig_reports_first_fault hsize'
  have hrejected : (ofConfig faulty).map (fun _ => ()) =
      .error (.duplicateField "Member-Number") := by decide +kernel
  have hbuilt : (ofConfig sound).map (fun _ => ()) = .ok () := by decide +kernel
  refine ⟨⟨hsize, (hfault _).mp ?_⟩, hsize', ?_⟩
  · cases h : ofConfig faulty with
    | ok r => simp [h, Except.map] at hrejected
    | error e => simpa [h, Except.map] using hrejected
  · cases h : ofConfig sound with
    | ok r => exact ⟨hsuccess.mp ⟨r, h⟩, r, rfl, hkeeps r h⟩
    | error e => simp [h, Except.map] at hbuilt

end Resolver

end FilterQuery
