import FilterQuery.Proofs.BuiltResolver
import FilterQuery.Proofs.Identifier

/-!
# Templates without what users write

The text of a fragment depends on a tree only through its gates, its comparators and what its fields
stand for. Values, keys in brackets and the spelling of fields can be anything: two runs on trees
that are alike in the rest give the same template. And a template is made of few characters, none of
which ends a statement, opens a quote or starts a comment. The main statement is
`Resolver.Built.template_safe`.
-/

namespace FilterQuery

namespace Sql

/-- The characters that templates are made of. -/
def isTemplateChar (c : Char) : Bool :=
  c.isAlphanum || c ∈ ['_', '.', '?', '(', ')', '=', '<', '>', '!', ' ']

/-- Only characters of templates are in the text. -/
def Plain (text : String) : Prop := ∀ c ∈ text.toList, isTemplateChar c

instance (text : String) : Decidable (Plain text) := List.decidableBAll ..

@[simp] theorem plain_append {s t : String} : Plain (s ++ t) ↔ Plain s ∧ Plain t := by
  simp only [Plain, String.toList_append, List.forall_mem_append]

theorem isTemplateChar_of_isIdentifierChar {c : Char} (h : isIdentifierChar c) : isTemplateChar c := by
  simp only [isIdentifierChar, isNameChar, Bool.or_eq_true, decide_eq_true_eq] at h
  rcases h with (h | rfl) | rfl
  · simp [isTemplateChar, h]
  · decide
  · decide

theorem plain_of_isIdentifier {name : String} (h : isIdentifier name) : Plain name :=
  fun c hc => isTemplateChar_of_isIdentifierChar (isIdentifierChar_of_completes h c hc)

namespace Fragment

theorem raw_compare (column : String) (c : Comparator) (v v' : String) :
    (compare column c v).raw = (compare column c v').raw := by
  cases c <;> rfl

theorem plain_compare {column : String} (h : isIdentifier column) (c : Comparator) (v : String) :
    Plain (compare column c v).raw := by
  have hcolumn := plain_of_isIdentifier h
  cases c <;> simp only [compare, plain_append, hcolumn, true_and] <;> decide

theorem plain_group {f : Fragment} (h : Plain f.raw) : Plain f.group.raw := by
  simp only [group, plain_append, h]
  decide

theorem plain_join {f g : Fragment} (hf : Plain f.raw) (gate : Gate) (hg : Plain g.raw) :
    Plain (f.join gate g).raw := by
  simp only [join, plain_append, hf, hg]
  cases gate <;> decide

end Fragment

end Sql

open Sql (Fragment Plain)

namespace Collection

variable {c : Collection}

theorem raw_lookup (comparator : Comparator) (key key' v v' : String) :
    (c.lookup key comparator v).raw = (c.lookup key' comparator v').raw := by
  simp only [lookup, Fragment.raw_compare c.valueColumn comparator v v']

theorem plain_lookup (h : ∀ name ∈ c.identifiers, Sql.isIdentifier name) (key : String)
    (comparator : Comparator) (v : String) : Plain (c.lookup key comparator v).raw := by
  have hplain : ∀ name ∈ c.identifiers, Plain name := fun name hn => Sql.plain_of_isIdentifier (h name hn)
  have hvalue := Fragment.plain_compare (h c.valueColumn (by simp [identifiers])) comparator v
  simp only [identifiers, List.forall_mem_append, List.forall_mem_cons] at hplain
  obtain ⟨⟨htable, howner, hforeign, hkey, -⟩, halive⟩ := hplain
  cases hc : c.softDeleteColumn? with
  | none =>
    simp only [lookup, hc, Sql.plain_append, htable, howner, hforeign, hkey, hvalue]
    decide
  | some column =>
    have hcolumn : Plain column := halive column (by simp [hc])
    simp only [lookup, hc, Sql.plain_append, htable, howner, hforeign, hkey, hvalue, hcolumn]
    decide

end Collection

/-! ### Trees that are alike -/

namespace Resolver

/-- What a field stands for: a rule, or else a declared field. -/
def target? (r : Resolver) (field : String) : Option (Rule ⊕ Column) :=
  match r.rule? field with
  | some rule => some (.inl rule)
  | none => (r.column? field).map .inr

/-- Trees of the same shape whose gates and comparators are equal, and whose fields stand for the
same. Values, keys and the spelling of fields may differ. -/
inductive Alike (r : Resolver) : Tree → Tree → Prop where
  | comparison {a b : Comparison} : a.comparator = b.comparator →
    r.target? a.field = r.target? b.field → Alike r (.comparison a) (.comparison b)
  | group {t u : Tree} : Alike r t u → Alike r (.group t) (.group u)
  | join {t t' u u' : Tree} {gate : Gate} : Alike r t u → Alike r t' u' →
    Alike r (.join t gate t') (.join u gate u')
  | openGate {t u : Tree} {gate : Gate} : Alike r t u →
    Alike r (.openGate t gate) (.openGate u gate)
  | ungated {t t' u u' : Tree} : Alike r t u → Alike r t' u' →
    Alike r (.ungated t t') (.ungated u u')

variable {r : Resolver}

/-- The template of a comparison depends on what its field stands for, and on the comparator. -/
theorem Sound.raw_compileLeaf (h : r.Sound) {a b : Comparison} {f g : Fragment}
    (hc : a.comparator = b.comparator) (ht : r.target? a.field = r.target? b.field)
    (hf : r.compileLeaf a = .ok f) (hg : r.compileLeaf b = .ok g) : f.raw = g.raw := by
  unfold target? at ht
  rcases h.compileLeaf hf with ⟨rule, c, key, hr, hact, -, -, rfl⟩ | ⟨c, hr, hcol, -, rfl⟩ <;>
    rcases h.compileLeaf hg with ⟨rule', c', key', hr', hact', -, -, rfl⟩ | ⟨c', hr', hcol', -, rfl⟩
  · obtain rfl : rule = rule' := by simpa [hr, hr'] using ht
    obtain rfl : c = c' := by simpa [hact] using hact'
    rw [hc]
    exact Collection.raw_lookup ..
  · simp [hr, hr', hcol'] at ht
  · simp [hr, hr', hcol] at ht
  · obtain rfl : c = c' := by simpa [hr, hr', hcol, hcol'] using ht
    rw [hc]
    exact Fragment.raw_compare ..

theorem Sound.plain_compileLeaf (h : r.Sound) {leaf : Comparison} {f : Fragment}
    (hf : r.compileLeaf leaf = .ok f) : Plain f.raw := by
  rcases h.compileLeaf hf with ⟨-, c, key, -, -, hid, -, rfl⟩ | ⟨c, -, -, hid, rfl⟩
  · exact Collection.plain_lookup hid key _ _
  · exact Fragment.plain_compare hid _ _

/-- Trees that are alike have the same template. -/
theorem Sound.raw_compile (h : r.Sound) {t u : Tree} {f g : Fragment} (ha : r.Alike t u)
    (hf : r.compile t = .ok f) (hg : r.compile u = .ok g) : f.raw = g.raw := by
  induction ha generalizing f g with
  | comparison hc ht => exact h.raw_compileLeaf hc ht hf hg
  | group _ ih =>
    obtain ⟨f', hf', rfl⟩ := compile_group_eq_ok.mp hf
    obtain ⟨g', hg', rfl⟩ := compile_group_eq_ok.mp hg
    simp only [Fragment.group, ih hf' hg']
  | join _ _ ihl ihr =>
    obtain ⟨fl, hfl, fr, hfr, rfl⟩ := compile_join_eq_ok.mp hf
    obtain ⟨gl, hgl, gr, hgr, rfl⟩ := compile_join_eq_ok.mp hg
    simp only [Fragment.join, ihl hfl hgl, ihr hfr hgr]
  | openGate => exact absurd hf compile_openGate_ne_ok
  | ungated => exact absurd hf compile_ungated_ne_ok

theorem Sound.plain_compile (h : r.Sound) {t : Tree} {f : Fragment} (hf : r.compile t = .ok f) :
    Plain f.raw :=
  forall_compile (P := fun f => Plain f.raw) h.plain_compileLeaf Fragment.plain_group
    (fun gate hf hg => Fragment.plain_join hf gate hg) hf

/-- **Templates hold nothing of what users write.** Two trees that are alike compile to the same
template, and all templates are made of the characters of templates. -/
theorem Built.template_safe {engine : PatternEngine} (hb : r.Built engine) :
    (∀ {t u : Tree} {f g : Fragment}, r.Alike t u → r.compile t = .ok f → r.compile u = .ok g →
      f.raw = g.raw) ∧
    ∀ {t : Tree} {f : Fragment}, r.compile t = .ok f → ∀ c ∈ f.raw.toList, Sql.isTemplateChar c :=
  ⟨fun ha hf hg => hb.sound.raw_compile ha hf hg, fun hf => hb.sound.plain_compile hf⟩

/-- For example, a key and a value that try to get out of the template do not. -/
theorem template_safe_of_hostile_key :
    ∃ r f g, ofConfig { collections := [{ name := "tags", foreignKey := "owner" }] } = .ok r ∧
      r.compile (.comparison ⟨"tags[colour]", .equal, "red"⟩) = .ok f ∧
      r.compile (.comparison ⟨"TAGS[a=?) --]", .equal, "1 OR 1=1"⟩) = .ok g ∧
      f.raw = g.raw ∧ ∀ c ∈ g.raw.toList, Sql.isTemplateChar c := by
  have hrun : (ofConfig { collections := [{ name := "tags", foreignKey := "owner" }] }).map (fun r =>
      (r.rules.length, r.rules.all (·.occursIn "tags[colour]"),
        r.rules.all (·.occursIn "TAGS[a=?) --]"),
        (r.compile (.comparison ⟨"tags[colour]", .equal, "red"⟩)).toBool,
        (r.compile (.comparison ⟨"TAGS[a=?) --]", .equal, "1 OR 1=1"⟩)).toBool))
      = .ok (1, true, true, true, true) := by decide +kernel
  cases hr : ofConfig { collections := [{ name := "tags", foreignKey := "owner" }] } with
  | error e => simp [hr, Except.map] at hrun
  | ok r =>
    simp only [hr, Except.map, Except.ok.injEq, Prod.mk.injEq] at hrun
    obtain ⟨hlength, hleft, hright, hf, hg⟩ := hrun
    obtain ⟨rule, hrule⟩ := List.length_eq_one_iff.mp hlength
    have ha : r.Alike (.comparison ⟨"tags[colour]", .equal, "red"⟩)
        (.comparison ⟨"TAGS[a=?) --]", .equal, "1 OR 1=1"⟩) := by
      rw [hrule] at hleft hright
      refine .comparison rfl ?_
      simp only [List.all_cons, List.all_nil, Bool.and_true] at hleft hright
      simp [target?, rule?, hrule, hleft, hright]
    cases hf' : r.compile (.comparison ⟨"tags[colour]", .equal, "red"⟩) with
    | error e => simp [hf', Except.toBool] at hf
    | ok f =>
      cases hg' : r.compile (.comparison ⟨"TAGS[a=?) --]", .equal, "1 OR 1=1"⟩) with
      | error e => simp [hg', Except.toBool] at hg
      | ok g =>
        obtain ⟨hsame, hplain⟩ := Built.template_safe (.config hr)
        exact ⟨r, f, g, rfl, hf', hg', hsame ha hf' hg', hplain hg'⟩

end Resolver

end FilterQuery
