import FilterQuery.Proofs.ConfiguredResolver
import FilterQuery.Proofs.EvaluationOrder

/-!
# Outcomes of queries

What becomes of a query under a resolver that was built from a configuration. Parsing answers only
trees without an operand or a gate missing, so a tree compiles exactly if all its comparisons do
(`Resolver.compile_ok_iff`), and whatever goes wrong goes wrong at one of them
(`Resolver.exists_leaf_of_compile_error`). The fields of the comparisons stand in the query as they
are named in errors (`written_of_parse`). The main statement is
`Resolver.compileQuery_outcome`.
-/

namespace FilterQuery

/-! ### Fields in queries -/

/-- The comparisons of an operation are those of its terms. -/
theorem Tree.leaves_foldl (t : Tree) (links : List Link) :
    (links.foldl extend t).leaves = t.leaves ++ links.flatMap (·.tree.leaves) := by
  induction links generalizing t with
  | nil => simp
  | cons l links ih => simp [ih, extend, leaves]

/-- The field of every comparison is one of the lexemes. -/
theorem Derives.exists_text {n : Nat} {goal : Goal} {xs : List Lexeme} {t : Tree}
    (h : Derives n goal xs t) : ∀ leaf ∈ t.leaves, ∃ q, .text leaf.field q ∈ xs := by
  induction h with
  | @comparison _ field value c q q' _ =>
    intro leaf hleaf
    obtain rfl := List.mem_singleton.mp hleaf
    exact ⟨q, List.mem_cons_self ..⟩
  | @group _ xs t _ ih =>
    intro leaf hleaf
    obtain ⟨q, hq⟩ := ih leaf hleaf
    exact ⟨q, by simp [hq]⟩
  | @row n xs t links _ _ ih ih' =>
    intro leaf hleaf
    rw [Tree.leaves_foldl, List.mem_append] at hleaf
    rcases hleaf with hleaf | hleaf
    · obtain ⟨q, hq⟩ := ih leaf hleaf
      exact ⟨q, List.mem_append_left _ hq⟩
    · obtain ⟨l, hl, hleaf⟩ := List.mem_flatMap.mp hleaf
      obtain ⟨q, hq⟩ := ih' l hl leaf hleaf
      have hwritten : .text leaf.field q ∈ l.written := List.mem_cons_of_mem _ hq
      exact ⟨q, List.mem_append_right _ (List.mem_flatMap.mpr ⟨l, hl, hwritten⟩)⟩

/-- The field is written in the query, as a word or between quotes. -/
def Written (query field : String) : Prop :=
  (∃ q, .text field q ∈ lexemes query.toList) ∧ field.toList <:+: query.toList

/-- **The fields of a parsed query** are written in it. -/
theorem written_of_parse {query : String} {t : Tree} (h : parse query = .ok t) {leaf : Comparison}
    (hleaf : leaf ∈ t.leaves) : Written query leaf.field := by
  obtain ⟨hd, -⟩ := derives_of_parse h
  obtain ⟨q, hq⟩ := hd.exists_text leaf hleaf
  rw [significant_eq] at hq
  have hmem := (List.mem_filter.mp hq).1
  exact ⟨⟨q, hmem⟩, infix_of_mem_lexemes hmem⟩

namespace Resolver

/-! ### Trees -/

section Trees

variable {r : Resolver} {t : Tree} {e : ResolveError}

/-- **A tree compiles** if all its comparisons do. -/
theorem compile_ok_iff (hc : t.Complete) : (∃ f, r.compile t = .ok f) ↔
    ∀ leaf ∈ t.leaves, ∃ f, r.compileLeaf leaf = .ok f := by
  rw [compile_ok_iff_visits, Tree.visits_of_complete hc, List.forall_mem_map]
  simp only [Visit.error?, errorOf?_eq_none_iff, compile]

/-- **What goes wrong** goes wrong at a comparison. -/
theorem exists_leaf_of_compile_error (hc : t.Complete) (he : r.compile t = .error e) :
    ∃ leaf ∈ t.leaves, r.compileLeaf leaf = .error e := by
  obtain ⟨before, v, after, hvisits, hv, -⟩ := compile_error_iff_visits.mp he
  have hmem : v ∈ t.visits := by rw [hvisits]; simp
  rw [Tree.visits_of_complete hc] at hmem
  obtain ⟨leaf, hleaf, rfl⟩ := List.mem_map.mp hmem
  exact ⟨leaf, hleaf, errorOf?_eq_some_iff.mp hv⟩

end Trees

/-! ### Queries -/

variable {config : Config} {r : Resolver}

/-- One value for each comparison, and one more for each key. -/
theorem Configured.length_values_compile (h : r.Configured config) {t : Tree} {f : Sql.Fragment}
    (hf : r.compile t = .ok f) : f.values.length =
      t.leaves.countP (fun leaf => !config.claims leaf.field) +
      2 * t.leaves.countP (fun leaf => config.claims leaf.field) := by
  induction t generalizing f with
  | comparison leaf =>
    rw [h.length_values_compileLeaf hf, Tree.leaves]
    cases hclaims : config.claims leaf.field <;> simp [hclaims]
  | group inner ih =>
    obtain ⟨g, hg, rfl⟩ := compile_group_eq_ok.mp hf
    exact ih (f := g) hg
  | join left gate right ihl ihr =>
    obtain ⟨g, hg, g', hg', rfl⟩ := compile_join_eq_ok.mp hf
    have hl := ihl hg
    have hr := ihr hg'
    simp only [Sql.Fragment.join, List.length_append, Tree.leaves, List.countP_append]
    omega
  | openGate => exact absurd hf compile_openGate_ne_ok
  | ungated => exact absurd hf compile_ungated_ne_ok

/-- A query that is parsed and does not compile has a comparison that is refused. -/
theorem Configured.exists_refuses (h : r.Configured config) {query : String} {t : Tree}
    (ht : parse query = .ok t) {e : ResolveError} (he : r.compileQuery query = .error e) :
    ∃ leaf ∈ t.leaves, Written query leaf.field ∧ config.Refuses leaf e := by
  rw [compileQuery_of_parse_ok ht] at he
  obtain ⟨hd, -⟩ := derives_of_parse ht
  obtain ⟨leaf, hleaf, he⟩ := exists_leaf_of_compile_error hd.complete he
  exact ⟨leaf, hleaf, written_of_parse ht hleaf, h.refuses_of_compileLeaf he⟩

/-- Every error is one of the parser, or the refusal of a comparison. -/
theorem Configured.malformed_or_refuses (h : r.Configured config) {query : String}
    {e : ResolveError} (he : r.compileQuery query = .error e) :
    (∃ e', parse query = .error e' ∧ e = .malformed e') ∨ ∃ leaf, config.Refuses leaf e := by
  cases ht : parse query with
  | error e' =>
    rw [compileQuery_of_parse_error ht] at he
    exact .inl ⟨e', rfl, (Except.error.inj he).symm⟩
  | ok t =>
    obtain ⟨leaf, -, -, hrefuses⟩ := h.exists_refuses ht he
    exact .inr ⟨leaf, hrefuses⟩

/-- **What becomes of a query.** An error of the parser is passed on. A parsed query compiles if the
configuration accepts all its comparisons, with a value for each comparison and one more for each
key; otherwise one of them is refused, in the words of the query. A query finds no fault with what
was declared, and a comparison that belongs to a collection always compiles. -/
theorem compileQuery_outcome (h : ofConfig config = .ok r) (query : String) :
    (∀ e, r.compileQuery query = .error (.malformed e) ↔ parse query = .error e) ∧
    (∀ t, parse query = .ok t →
      ((∃ f, r.compileQuery query = .ok f) ↔ ∀ leaf ∈ t.leaves, config.Accepts leaf) ∧
      (∀ f, r.compileQuery query = .ok f → f.values.length =
        t.leaves.countP (fun leaf => !config.claims leaf.field) +
        2 * t.leaves.countP (fun leaf => config.claims leaf.field)) ∧
      (∀ e, r.compileQuery query = .error e →
        ∃ leaf ∈ t.leaves, Written query leaf.field ∧ config.Refuses leaf e)) ∧
    (∀ text, r.compileQuery query ≠ .error (.invalidPattern text) ∧
      r.compileQuery query ≠ .error (.invalidIdentifier text) ∧
      r.compileQuery query ≠ .error (.duplicateField text)) ∧
    (∀ leaf, config.claims leaf.field → ∃ f, r.compile (.comparison leaf) = .ok f) := by
  have hr := configured_of_ofConfig h
  refine ⟨fun e => ⟨fun he => ?_, compileQuery_of_parse_error⟩, fun t ht => ⟨?_, ?_, ?_⟩,
    fun text => ⟨fun he => ?_, fun he => ?_, fun he => ?_⟩, fun leaf hclaims => ?_⟩
  · obtain ⟨e', hparse, ⟨⟩⟩ | ⟨leaf, ⟨⟩⟩ := hr.malformed_or_refuses he
    exact hparse
  · obtain ⟨hd, -⟩ := derives_of_parse ht
    simp only [compileQuery_of_parse_ok ht, compile_ok_iff hd.complete, hr.compileLeaf_ok_iff]
  · intro f hf
    rw [compileQuery_of_parse_ok ht] at hf
    exact hr.length_values_compile hf
  · intro e he
    exact hr.exists_refuses ht he
  · obtain ⟨e', -, ⟨⟩⟩ | ⟨leaf, ⟨⟩⟩ := hr.malformed_or_refuses he
  · obtain ⟨e', -, ⟨⟩⟩ | ⟨leaf, ⟨⟩⟩ := hr.malformed_or_refuses he
  · obtain ⟨e', -, ⟨⟩⟩ | ⟨leaf, ⟨⟩⟩ := hr.malformed_or_refuses he
  · obtain ⟨f, hf, -⟩ := hr.compileLeaf_of_claims hclaims
    exact ⟨f, hf⟩

/-- For example, of a field and a collection: one query compiles and one is refused. -/
theorem compileQuery_outcome_of_members :
    let config : Config :=
      ⟨[⟨"Member-Age", "int", some "age"⟩], [{ name := "tags", foreignKey := "member" }]⟩
    let query := "member_age>=18 AND (\"TAGS[a b]\"=red OR memberAge<60)"
    let t : Tree := .join (.comparison ⟨"member_age", .greaterOrEqual, "18"⟩) .and
      (.join (.comparison ⟨"TAGS[a b]", .equal, "red"⟩) .or
        (.comparison ⟨"memberAge", .less, "60"⟩))
    let refused := "\"MEMBER AGE\"=old"
    let t' : Tree := .comparison ⟨"MEMBER AGE", .equal, "old"⟩
    ∃ r, ofConfig config = .ok r ∧
      (parse query = .ok t ∧ (∀ leaf ∈ t.leaves, config.Accepts leaf) ∧
        ∃ f, r.compileQuery query = .ok f ∧ f.values = ["18", "a b", "red", "60"] ∧
          f.values.length = t.leaves.countP (fun leaf => !config.claims leaf.field) +
            2 * t.leaves.countP (fun leaf => config.claims leaf.field)) ∧
      (parse refused = .ok t' ∧
        ∃ e, r.compileQuery refused = .error e ∧
          ∃ leaf ∈ t'.leaves, Written refused leaf.field ∧ config.Refuses leaf e) ∧
      config.claims "Tags[k]" ∧
      ∃ f, r.compile (.comparison ⟨"Tags[k]", .equal, "red"⟩) = .ok f := by
  intro config query t refused t'
  have hparse : parse query = .ok t := by decide +kernel
  have hparse' : parse refused = .ok t' := by decide +kernel
  have hclaims : config.claims "Tags[k]" := by decide +kernel
  have hrun : (do
      let r ← ofConfig config
      let f ← r.compileQuery query
      pure (f.values, r.compileQuery refused)) = .ok (["18", "a b", "red", "60"],
        .error (.invalidValue "MEMBER AGE" "old" "value 'old' is not an integer")) := by
    decide +kernel
  obtain ⟨r, hr, hrun⟩ := bind_eq_ok.mp hrun
  obtain ⟨f, hf, hrun⟩ := bind_eq_ok.mp hrun
  obtain ⟨hvalues, hrefused⟩ := Prod.mk.inj (pure_eq_ok.mp hrun)
  obtain ⟨-, hok, -, hcollection⟩ := compileQuery_outcome hr query
  obtain ⟨haccepts, hlength, -⟩ := hok t hparse
  obtain ⟨-, -, hrefuses⟩ := (compileQuery_outcome hr refused).2.1 t' hparse'
  exact ⟨r, hr, ⟨hparse, haccepts.mp ⟨f, hf⟩, f, hf, hvalues, hlength f hf⟩,
    ⟨hparse', _, hrefused, hrefuses _ hrefused⟩, hclaims, hcollection _ hclaims⟩

end Resolver

end FilterQuery
