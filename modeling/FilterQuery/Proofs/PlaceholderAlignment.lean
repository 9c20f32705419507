import FilterQuery.Proofs.BuiltResolver
import FilterQuery.Proofs.Identifier

/-!
# Placeholders and values

Values are bound to placeholders by their position only, so a fragment must have as many of one as
of the other. Placeholders are counted in the final text; that none gets in with a column or a table
is because these are identifiers, whatever was declared in whatever order. Rules of the
application's own are taken at their word, and the engine for their patterns is any. The main
statement is `Resolver.Assembled.placeholders_align`.
-/

namespace FilterQuery

open Sql (Fragment)

/-! ### Counting -/

namespace Sql

/-- The number of placeholders in a text. -/
def placeholdersIn (text : String) : Nat := text.toList.count '?'

@[simp] theorem placeholdersIn_append (s t : String) :
    placeholdersIn (s ++ t) = placeholdersIn s + placeholdersIn t := by
  simp [placeholdersIn]

/-- No identifier has a placeholder in it. -/
theorem placeholdersIn_of_isIdentifier {name : String} (h : isIdentifier name) :
    placeholdersIn name = 0 := by
  refine List.count_eq_zero_of_not_mem fun hmem => ?_
  have hchar := isIdentifierChar_of_completes h '?' hmem
  exact absurd hchar (by decide)

namespace Fragment

/-- There are as many placeholders as values. -/
def Aligned (f : Fragment) : Prop := f.placeholders = f.values.length

theorem placeholders_eq (f : Fragment) : f.placeholders = placeholdersIn f.raw := rfl

variable {f g : Fragment}

theorem placeholders_compare {column : String} (h : isIdentifier column) (c : Comparator)
    (value : String) : (compare column c value).placeholders = 1 := by
  have hcolumn := placeholdersIn_of_isIdentifier h
  cases c <;> simp only [compare, placeholders_eq, placeholdersIn_append, hcolumn] <;> decide

theorem length_values_compare (column : String) (c : Comparator) (value : String) :
    (compare column c value).values.length = 1 := by
  cases c <;> rfl

theorem Aligned.group (h : f.Aligned) : f.group.Aligned := by
  have hraw : f.group.placeholders = f.placeholders := by
    simp only [Fragment.group, placeholders_eq, placeholdersIn_append]
    simp [placeholdersIn]
  exact hraw.trans h

theorem Aligned.join (hf : f.Aligned) (gate : Gate) (hg : g.Aligned) : (f.join gate g).Aligned := by
  have hraw : (f.join gate g).placeholders = f.placeholders + g.placeholders := by
    have hgate : placeholdersIn gate.symbol = 0 := by cases gate <;> decide
    simp only [Fragment.join, placeholders_eq, placeholdersIn_append, hgate]
    simp [placeholdersIn]
  rw [Aligned, hraw, hf, hg]
  exact List.length_append.symm

end Fragment

end Sql

namespace Collection

variable {c : Collection}

theorem length_values_lookup (key : String) (comparator : Comparator) (value : String) :
    (c.lookup key comparator value).values.length = 2 := by
  simp [lookup, Fragment.length_values_compare]

/-- A look-up has one placeholder for the key and one for the value. -/
theorem aligned_lookup (h : ∀ name ∈ c.identifiers, Sql.isIdentifier name) (key : String)
    (comparator : Comparator) (value : String) : (c.lookup key comparator value).Aligned := by
  have hnone : ∀ name ∈ c.identifiers, Sql.placeholdersIn name = 0 :=
    fun name hn => Sql.placeholdersIn_of_isIdentifier (h name hn)
  have hfound :=
    Fragment.placeholders_compare (h c.valueColumn (by simp [identifiers])) comparator value
  simp only [identifiers, List.forall_mem_append, List.forall_mem_cons] at hnone
  obtain ⟨⟨htable, howner, hforeign, hkey, -⟩, halive⟩ := hnone
  rw [Fragment.placeholders_eq] at hfound
  rw [Fragment.Aligned, length_values_lookup, Fragment.placeholders_eq]
  cases hc : c.softDeleteColumn? with
  | none =>
    simp only [lookup, hc, Sql.placeholdersIn_append, htable, howner, hforeign, hkey, hfound]
    decide
  | some column =>
    have hcolumn : Sql.placeholdersIn column = 0 := halive column (by simp [hc])
    simp only [lookup, hc, Sql.placeholdersIn_append, htable, howner, hforeign, hkey, hfound,
      hcolumn]
    decide

end Collection

/-! ### Leaves -/

/-- Whatever the action compiles is aligned. -/
def Action.Aligned (action : Action) : Prop :=
  ∀ leaf f, action.compile leaf = .ok f → f.Aligned

theorem Collection.aligned_action {c : Collection}
    (h : ∀ name ∈ c.identifiers, Sql.isIdentifier name) : (Action.collection c).Aligned := by
  intro leaf f hf
  simp only [Action.compile, Collection.compile] at hf
  split at hf
  · obtain rfl := Except.ok.inj hf
    exact aligned_lookup h _ _ _
  · simp at hf

namespace Resolver

/-- Columns are identifiers, and rules compile to aligned fragments. -/
structure Aligned (r : Resolver) : Prop where
  columns : ∀ c ∈ r.columns, Sql.isIdentifier c.column
  rules : ∀ rule ∈ r.rules, rule.action.Aligned

variable {engine : PatternEngine} {r next : Resolver}

theorem Aligned.addField (h : r.Aligned) {name column : String} {validator : Validator}
    (ha : r.addField name column validator = .ok next) : next.Aligned where
  columns := forall_columns_addField h.columns ha id
  rules := rules_addField ha ▸ h.rules

theorem Aligned.addRule (h : r.Aligned) {source : String} {action : Action} (hact : action.Aligned)
    (ha : r.addRule source action engine = .ok next) : next.Aligned where
  columns := columns_addRule ha ▸ h.columns
  rules := forall_rules_addRule h.rules ha fun _ => hact

theorem Sound.aligned (h : r.Sound) : r.Aligned := by
  refine ⟨h.columns, fun rule hr => ?_⟩
  obtain ⟨c, hc, hid⟩ := h.rules rule hr
  rw [hc]
  exact Collection.aligned_action hid

/-- What rules of the application's own are taken at their word for. -/
def KeepsAligned (compile : Comparison → Except ResolveError Fragment) : Prop :=
  ∀ leaf f, compile leaf = .ok f → f.placeholders = f.values.length

/-- **All assembled resolvers are aligned**, if the rules of the application's own are. -/
theorem Assembled.aligned (h : r.Assembled engine KeepsAligned) : r.Aligned := by
  induction h with
  | fields h => exact (Sound.ofFields h).aligned
  | config h => exact (Sound.ofConfig h).aligned
  | field _ h ih => exact ih.addField h
  | collection _ h ih =>
    obtain ⟨hc, h⟩ := addCollectionAt_eq_ok.mp h
    exact ih.addRule (Collection.aligned_action (Collection.check_eq_ok.mp hc).1) h
  | @custom r next source compile _ hk h ih =>
    have haction : (Action.custom compile).Aligned := hk
    exact ih.addRule haction h

theorem Aligned.compileLeaf (h : r.Aligned) {leaf : Comparison} {f : Fragment}
    (hf : r.compileLeaf leaf = .ok f) : f.Aligned := by
  unfold Resolver.compileLeaf at hf
  cases hr : r.rule? leaf.field with
  | some rule =>
    rw [hr] at hf
    exact h.rules rule (List.mem_of_find?_eq_some hr) leaf f hf
  | none =>
    rw [hr] at hf
    obtain ⟨c, hc, -, rfl⟩ := compileColumn_eq_ok.mp hf
    have hid := h.columns c (List.mem_of_find?_eq_some hc)
    rw [Fragment.Aligned, Fragment.placeholders_compare hid, Fragment.length_values_compare]

/-! ### Trees -/

theorem Aligned.compile (h : r.Aligned) {t : Tree} {f : Fragment} (hf : r.compile t = .ok f) :
    f.Aligned :=
  forall_compile h.compileLeaf Fragment.Aligned.group (fun gate hf hg => hf.join gate hg) hf

/-- The values are those of the leaves, from left to right. -/
theorem values_compile {t : Tree} {f : Fragment} (hf : r.compile t = .ok f) :
    ∃ fs, t.leaves.mapM (fun leaf => r.compile (.comparison leaf)) = .ok fs ∧
      f.values = fs.flatMap (·.values) := by
  induction t generalizing f with
  | comparison leaf =>
    refine ⟨[f], ?_, by simp⟩
    simp only [Tree.leaves, List.mapM_cons, List.mapM_nil, bind_eq_ok, pure_eq_ok]
    exact ⟨f, hf, [], rfl, rfl⟩
  | group inner ih =>
    obtain ⟨g, hg, rfl⟩ := compile_group_eq_ok.mp hf
    exact ih (f := g) hg
  | join left gate right ihl ihr =>
    obtain ⟨g, hg, g', hg', rfl⟩ := compile_join_eq_ok.mp hf
    obtain ⟨fs, hfs, hvalues⟩ := ihl hg
    obtain ⟨fs', hfs', hvalues'⟩ := ihr hg'
    refine ⟨fs ++ fs', ?_, ?_⟩
    · simp only [Tree.leaves, List.mapM_append, bind_eq_ok, pure_eq_ok]
      exact ⟨fs, hfs, fs', hfs', rfl⟩
    · rw [List.flatMap_append, ← hvalues, ← hvalues']
      rfl
  | openGate => exact absurd hf compile_openGate_ne_ok
  | ungated => exact absurd hf compile_ungated_ne_ok

/-- **Placeholders and values are aligned.** Whatever the engine takes for patterns, a compiled tree
has as many placeholders as values, and the values are those of its leaves compiled one by one, from
left to right. -/
theorem Assembled.placeholders_align (h : r.Assembled engine KeepsAligned) {t : Tree} {f : Fragment}
    (hf : r.compile t = .ok f) :
    f.placeholders = f.values.length ∧
    ∃ fs, t.leaves.mapM (fun leaf => r.compile (.comparison leaf)) = .ok fs ∧
      f.values = fs.flatMap (·.values) :=
  ⟨h.aligned.compile hf, values_compile hf⟩

/-- For example, of a column, a collection and a rule of the application's own. -/
theorem placeholders_align_between :
    let between : Comparison → Except ResolveError Fragment := fun leaf =>
      .ok ⟨"age BETWEEN ? AND ?", [leaf.value, leaf.value]⟩
    let t : Tree := .join (.comparison ⟨"years", .equal, "7"⟩) .or
      (.join (.group (.comparison ⟨"Name", .contains, "?"⟩)) .and
        (.comparison ⟨"tags[?]", .equal, "red"⟩))
    ∃ base r f,
      ofConfig ⟨[⟨"name", "text", none⟩], [{ name := "tags", foreignKey := "owner" }]⟩ = .ok base ∧
      KeepsAligned between ∧ base.addRule "^years$" (.custom between) = .ok r ∧
      r.compile t = .ok f ∧
      f.placeholders = f.values.length ∧
      ∃ fs, t.leaves.mapM (fun leaf => r.compile (.comparison leaf)) = .ok fs ∧
        f.values = fs.flatMap (·.values) := by
  intro between t
  have hrun : (do
      let base ← ofConfig ⟨[⟨"name", "text", none⟩], [{ name := "tags", foreignKey := "owner" }]⟩
      let r ← base.addRule "^years$" (.custom between)
      r.compile t) = .ok ⟨"(age BETWEEN ? AND ? OR ((name LIKE ?) AND "
        ++ "id IN (SELECT owner FROM tags WHERE key=? AND value=?)))",
        ["7", "7", "%?%", "?", "red"]⟩ := by decide +kernel
  obtain ⟨base, hbase, hrun⟩ := bind_eq_ok.mp hrun
  obtain ⟨r, hr, hf⟩ := bind_eq_ok.mp hrun
  have hkeeps : KeepsAligned between := by
    intro leaf f hf
    obtain rfl := Except.ok.inj hf
    have hcount : Sql.placeholdersIn "age BETWEEN ? AND ?" = 2 := by decide
    exact hcount
  have halign := Assembled.placeholders_align (.custom (.config hbase) hkeeps hr) hf
  exact ⟨base, r, _, hbase, hkeeps, hr, hf, halign⟩

end Resolver

end FilterQuery
