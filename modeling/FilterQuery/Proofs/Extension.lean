import FilterQuery.Proofs.Declarations

/-!
# Extensions of resolvers

Whatever is added to a resolver, what it decides on stays decided. A field that matches a rule goes
on to match that rule first (`Resolver.rule?_add`), and a field that is found goes on to be found
(`Resolver.column?_add`). So an addition can change what becomes of a leaf only where nothing was
known of its field, or where a new pattern takes it from the declared fields. The patterns that take
no leaf of a condition are those that spare it (`Resolver.Spares`). Nothing is asked of the engine
that says where they occur.

From one leaf the statements go over to conditions by `Resolver.compile_congr` and
`Resolver.compile_of_columns`. The main statement is `Resolver.extension_conservative`, and
`Resolver.compile_of_additions` is about a series of calls.
-/

namespace FilterQuery

/-- A pattern takes no leaf of the condition from the declared fields: where it occurs in the field
of a leaf, so does the pattern of some rule. -/
def Resolver.Spares (engine : PatternEngine) (r : Resolver) (source : String) (t : Tree) : Prop :=
  ∀ occursIn ∈ (engine.compile source).toOption, ∀ leaf ∈ t.leaves,
    (∀ rule ∈ r.rules, ¬ rule.occursIn leaf.field) → ¬ occursIn leaf.field

instance {engine : PatternEngine} {r : Resolver} {source : String} {t : Tree} :
    Decidable (r.Spares engine source t) :=
  inferInstanceAs (Decidable (∀ occursIn ∈ (engine.compile source).toOption, ∀ leaf ∈ t.leaves,
    (∀ rule ∈ r.rules, ¬ rule.occursIn leaf.field) → ¬ occursIn leaf.field))

/-- What is added takes no leaf of the condition from the declared fields. -/
def Addition.Spares (engine : PatternEngine) (r : Resolver) (t : Tree) : Addition → Prop
  | field _ => True
  | collection c => r.Spares engine c.patternText t
  | rule source _ => r.Spares engine source t

namespace Resolver

variable {engine : PatternEngine} {r next : Resolver} {a : Addition} {additions : List Addition}
  {t : Tree}

/-! ### One leaf -/

theorem rule?_eq_none_iff {field : String} :
    r.rule? field = none ↔ ∀ rule ∈ r.rules, ¬ rule.occursIn field := by
  rw [rule?, List.find?_eq_none]

/-- **The first rule that matches a field stays the first**, whatever is added. -/
theorem rule?_add (ha : r.add engine a = .ok next) {field : String} {rule : Rule}
    (hrule : r.rule? field = some rule) : next.rule? field = some rule := by
  have hbehind : ∀ {source : String} {action : Action},
      r.addRule source action engine = .ok next → next.rule? field = some rule := by
    intro source action ha
    obtain ⟨occursIn, hp, -⟩ := addRule_eq_ok.mp ha
    rw [rule?_addRule hp ha, hrule, Option.some_or]
  cases a with
  | field d => rwa [rule?, rules_addField ha]
  | collection c => exact hbehind (addCollectionAt_eq_ok.mp ha).2
  | rule source action => exact hbehind ha

/-- **A field that is found goes on to be found**, whatever is added. -/
theorem column?_add (ha : r.add engine a = .ok next) {field : String} {c : Column}
    (hc : r.column? field = some c) : next.column? field = some c := by
  cases a with
  | field d => rw [column?_addField ha, hc, Option.some_or]
  | collection c => rwa [column?, columns_addRule (addCollectionAt_eq_ok.mp ha).2]
  | rule source action => rwa [column?, columns_addRule ha]

/-- A rule decides on the leaf as it did, also where it makes an error of it. -/
theorem compileLeaf_add (ha : r.add engine a = .ok next) {leaf : Comparison} {rule : Rule}
    (hrule : r.rule? leaf.field = some rule) :
    next.compileLeaf leaf = rule.action.compile leaf := by
  rw [compileLeaf, rule?_add ha hrule]

/-- A new rule whose pattern spares the condition matches no leaf first. -/
theorem rule?_addRule_of_spares {source : String} {action : Action}
    (ha : r.addRule source action engine = .ok next) (hs : r.Spares engine source t) :
    ∀ leaf ∈ t.leaves, next.rule? leaf.field = r.rule? leaf.field := by
  intro leaf hleaf
  obtain ⟨occursIn, hp, -⟩ := addRule_eq_ok.mp ha
  have hmem : occursIn ∈ (engine.compile source).toOption := by rw [hp]; rfl
  rw [rule?_addRule hp ha]
  cases hrule : r.rule? leaf.field with
  | some rule => rw [Option.some_or]
  | none => rw [Option.none_or, if_neg (hs occursIn hmem leaf hleaf (rule?_eq_none_iff.mp hrule))]

theorem rule?_add_of_spares (ha : r.add engine a = .ok next) (hs : a.Spares engine r t) :
    ∀ leaf ∈ t.leaves, next.rule? leaf.field = r.rule? leaf.field := by
  cases a with
  | field d =>
    intro leaf _
    rw [rule?, rule?, rules_addField ha]
  | collection c => exact rule?_addRule_of_spares (addCollectionAt_eq_ok.mp ha).2 hs
  | rule source action => exact rule?_addRule_of_spares ha hs

/-! ### Conditions -/

/-- The other resolver decides on the leaves of the condition by the same rules, and finds the
fields that are found here. -/
structure Keeps (t : Tree) (r next : Resolver) : Prop where
  rules : ∀ leaf ∈ t.leaves, next.rule? leaf.field = r.rule? leaf.field
  columns : ∀ {field : String} {c : Column}, r.column? field = some c → next.column? field = some c

theorem keeps_refl : Keeps t r r := ⟨fun _ _ => rfl, id⟩

theorem keeps_add (ha : r.add engine a = .ok next) (hs : a.Spares engine r t) : Keeps t r next :=
  ⟨rule?_add_of_spares ha hs, column?_add ha⟩

theorem Keeps.trans {last : Resolver} (h : Keeps t r next) (h' : Keeps t next last) :
    Keeps t r last where
  rules leaf hleaf := (h'.rules leaf hleaf).trans (h.rules leaf hleaf)
  columns hc := h'.columns (h.columns hc)

/-- What spares the condition still does so when the same rules decide on it. -/
theorem Keeps.spares (h : Keeps t r next) {source : String} (hs : r.Spares engine source t) :
    next.Spares engine source t := by
  intro occursIn hp leaf hleaf hnone
  rw [← rule?_eq_none_iff, h.rules leaf hleaf, rule?_eq_none_iff] at hnone
  exact hs occursIn hp leaf hleaf hnone

theorem Keeps.addition_spares (h : Keeps t r next) (hs : a.Spares engine r t) :
    a.Spares engine next t := by
  cases a with
  | field d => trivial
  | collection c => exact h.spares hs
  | rule source action => exact h.spares hs

/-- A condition that compiles does so where its leaves are decided on as here. -/
theorem Keeps.compile (h : Keeps t r next) {f : Sql.Fragment} (hf : r.compile t = .ok f) :
    next.compile t = .ok f :=
  compile_of_columns h.rules (fun _ _ c hc => ⟨c, h.columns hc, rfl, id⟩) hf

/-- **Whatever is added that spares a condition**, call after call, it compiles as before. -/
theorem compile_of_additions (ha : additions.foldlM (add engine) r = .ok next)
    (hs : ∀ a ∈ additions, a.Spares engine r t) {f : Sql.Fragment} (hf : r.compile t = .ok f) :
    next.compile t = .ok f := by
  have hkeeps := foldlM_preserves_prefix
    (P := fun done b => (∀ a ∈ done, a.Spares engine r t) → Keeps t r b)
    (fun hb ha hdone => by
      obtain ⟨hdone, hlast⟩ := List.forall_mem_append.mp hdone
      have hb := hb hdone
      exact hb.trans (keeps_add ha (hb.addition_spares (List.forall_mem_singleton.mp hlast))))
    [] (fun _ => keeps_refl) ha
  exact (hkeeps hs).compile hf

/-- A rule that spares a condition changes nothing about it, errors included. -/
theorem compile_addRule {source : String} {action : Action}
    (ha : r.addRule source action engine = .ok next) (hs : r.Spares engine source t) :
    next.compile t = r.compile t := by
  refine compile_congr fun leaf hleaf => ?_
  simp only [compileLeaf, compileColumn, column?, rule?_addRule_of_spares ha hs leaf hleaf,
    columns_addRule ha]

/-- **Extending a resolver is conservative**, with any engine for patterns. What compiles still
compiles to the same with one more field. A rule or a collection whose pattern takes no leaf of a
condition from the declared fields changes nothing about it, errors included. And whatever is added,
the rule that decides on a leaf goes on to do so, also where it makes an error of it. -/
theorem extension_conservative (engine : PatternEngine) (r : Resolver) (t : Tree) :
    (∀ name column validator next f, r.addField name column validator = .ok next →
      r.compile t = .ok f → next.compile t = .ok f) ∧
    (∀ source action next, r.addRule source action engine = .ok next → r.Spares engine source t →
      next.compile t = r.compile t) ∧
    (∀ c next, r.addCollection c engine = .ok next → r.Spares engine c.patternText t →
      next.compile t = r.compile t) ∧
    ∀ a next, r.add engine a = .ok next → ∀ leaf rule, r.rule? leaf.field = some rule →
      next.compile (.comparison leaf) = r.compile (.comparison leaf) ∧
      next.compile (.comparison leaf) = rule.action.compile leaf := by
  refine ⟨fun name column validator next f ha hf => ?_, fun source action next ha hs => ?_,
    fun c next ha hs => ?_, fun a next ha leaf rule hrule => ?_⟩
  · have hadd : r.add engine (.field ⟨name, column, validator⟩) = .ok next := ha
    exact (keeps_add hadd trivial).compile hf
  · exact compile_addRule ha hs
  · exact compile_addRule (addCollectionAt_eq_ok.mp ha).2 hs
  · have hleaf : r.compileLeaf leaf = rule.action.compile leaf := by rw [compileLeaf, hrule]
    exact ⟨(compileLeaf_add ha hrule).trans hleaf.symm, compileLeaf_add ha hrule⟩

/-- A resolver with one field, and a rule that makes an error of what it decides on. A second rule
would accept some of this, but it is behind the first one. -/
theorem extension_conservative_of_overlap :
    let refuse : Action := .custom fun leaf => .error (.unknownField leaf.field)
    let accept : Action := .custom fun _ => .ok ⟨"TRUE", []⟩
    let tags : Collection := { name := "tags", foreignKey := "member" }
    let known : Tree := .comparison ⟨"name", .equal, "x"⟩
    let hidden : Comparison := ⟨"secret_name", .equal, "x"⟩
    let t : Tree := .join known .or (.comparison hidden)
    ∃ r fielded ruled tagged f,
      build .standard (.fields [⟨"name", "text", none⟩]) [.rule "^secret" refuse] = .ok r ∧
      (r.addField "age" "m.age" .integer = .ok fielded ∧ r.compile known = .ok f ∧
        fielded.compile known = .ok f) ∧
      (r.addRule "_name$" accept = .ok ruled ∧ r.Spares .standard "_name$" t ∧
        ruled.compile t = r.compile t ∧ r.compile t = .error (.unknownField "secret_name")) ∧
      (r.addCollection tags = .ok tagged ∧ r.Spares .standard tags.patternText t ∧
        tagged.compile t = r.compile t) ∧
      ∃ rule, r.rule? hidden.field = some rule ∧
        ruled.compile (.comparison hidden) = rule.action.compile hidden := by
  intro refuse accept tags known hidden t
  have hrun : (do
      let r ← build .standard (.fields [⟨"name", "text", none⟩]) [.rule "^secret" refuse]
      let _ ← r.addField "age" "m.age" .integer
      let _ ← r.addRule "_name$" accept
      let _ ← r.addCollection tags
      let _ ← r.compile known
      pure (r.compile t, decide (r.Spares .standard "_name$" t),
        decide (r.Spares .standard tags.patternText t), (r.rule? hidden.field).isSome)) =
      .ok (.error (.unknownField "secret_name"), true, true, true) := by decide +kernel
  obtain ⟨r, hr, hrun⟩ := bind_eq_ok.mp hrun
  obtain ⟨fielded, hfielded, hrun⟩ := bind_eq_ok.mp hrun
  obtain ⟨ruled, hruled, hrun⟩ := bind_eq_ok.mp hrun
  obtain ⟨tagged, htagged, hrun⟩ := bind_eq_ok.mp hrun
  obtain ⟨f, hf, hrun⟩ := bind_eq_ok.mp hrun
  obtain ⟨herror, hrun⟩ := Prod.mk.inj (pure_eq_ok.mp hrun)
  obtain ⟨hspares, hrun⟩ := Prod.mk.inj hrun
  obtain ⟨hspares', hsome⟩ := Prod.mk.inj hrun
  obtain ⟨rule, hrule⟩ := Option.isSome_iff_exists.mp hsome
  have hs := of_decide_eq_true hspares
  have hs' := of_decide_eq_true hspares'
  obtain ⟨hfield, -⟩ := extension_conservative .standard r known
  obtain ⟨-, haddRule, haddCollection, hdecided⟩ := extension_conservative .standard r t
  exact ⟨r, fielded, ruled, tagged, f, hr, ⟨hfielded, hf, hfield _ _ _ _ _ hfielded hf⟩,
    ⟨hruled, hs, haddRule _ _ _ hruled hs, herror⟩,
    ⟨htagged, hs', haddCollection _ _ htagged hs'⟩,
    rule, hrule, (hdecided (.rule "_name$" accept) _ hruled hidden rule hrule).2⟩

end Resolver

end FilterQuery
