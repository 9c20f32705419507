import FilterQuery.Proofs.BuiltResolver
import FilterQuery.Proofs.SqlSpelling

/-!
# The meaning of compiled conditions

What a database reads in a compiled condition is the condition that was compiled: the same gates in
the same nesting, although SQL lets `AND` bind tighter than `OR`, and at each leaf the comparison
with the column or the collection that its field stands for. The main statement is
`Resolver.compile_reads`.

A resolver may have been built from any declarations whose names are no keywords. Rules of the
application's own are left out, since they can put any text into a fragment.
-/

namespace FilterQuery

open Sql (Condition Fragment)

/-! ### What a tree says -/

/-- What a comparison with a column says. -/
def Sql.Condition.test (column : String) (comparator : Comparator) (value : String) : Condition :=
  match comparator with
  | .contains => .like column (Fragment.containing value)
  | c => .compare column c value

namespace Collection

/-- Adds that the pair is not deleted, if pairs can be. -/
def alive (c : Collection) (e : Condition) : Condition :=
  match c.softDeleteColumn? with
  | some column => .join e .and (.isNull column)
  | none => e

/-- What a comparison of the value at a key says. -/
def membership (c : Collection) (key : String) (comparator : Comparator) (value : String) :
    Condition :=
  .within c.ownerColumn c.foreignKey c.table
    (c.alive (.join (.compare c.keyColumn .equal key) .and (.test c.valueColumn comparator value)))

end Collection

/-- The names that an action writes into statements. -/
def Action.identifiers : Action → List String
  | .collection c => c.identifiers
  | .custom _ => []

namespace Resolver

/-- The names that a resolver writes into statements. -/
def identifiers (r : Resolver) : List String :=
  r.columns.map (·.column) ++ r.rules.flatMap (·.action.identifiers)

/-- What a comparison says, about the column or the collection that its field stands for. -/
def atom? (r : Resolver) (leaf : Comparison) : Option Condition :=
  match r.rule? leaf.field with
  | some ⟨_, _, .collection c⟩ =>
    (c.key? leaf.field).map fun key => c.membership key leaf.comparator leaf.value
  | some ⟨_, _, .custom _⟩ => none
  | none => (r.column? leaf.field).map fun c => .test c.column leaf.comparator leaf.value

/-- What a tree says. Brackets say nothing, and a tree that lacks an operand or a gate has no
meaning. -/
def condition? (r : Resolver) : Tree → Option Condition
  | .comparison leaf => r.atom? leaf
  | .group inner => r.condition? inner
  | .join left gate right => do return .join (← r.condition? left) gate (← r.condition? right)
  | .openGate .. => none
  | .ungated .. => none

end Resolver

/-- The truth of a tree, when that of its comparisons is given. -/
def Tree.holds? (truth : Comparison → Option Bool) : Tree → Option Bool
  | .comparison leaf => truth leaf
  | .group inner => inner.holds? truth
  | .join left gate right => do return gate.combine (← left.holds? truth) (← right.holds? truth)
  | .openGate .. => none
  | .ungated .. => none

/-! ### Fragments as operands -/

namespace Sql

/-- Wherever the fragment stands, it is one operand, and says the condition. -/
def Fragment.Says (f : Fragment) (e : Condition) : Prop :=
  ∃ ts, Spells f.raw.toList f.values ts ∧ Parses .primary ts e

namespace Fragment

variable {f g : Fragment} {a b : Condition}

theorem compare_of_ne {c : Comparator} (hc : c ≠ .contains) (column value : String) :
    compare column c value = ⟨column ++ c.symbol ++ "?", [value]⟩ := by
  cases c with
  | equal | less | greater | notEqual | lessOrEqual | greaterOrEqual => rfl
  | contains => exact absurd rfl hc

theorem test_of_ne {c : Comparator} (hc : c ≠ .contains) (column value : String) :
    Condition.test column c value = .compare column c value := by
  cases c with
  | equal | less | greater | notEqual | lessOrEqual | greaterOrEqual => rfl
  | contains => exact absurd rfl hc

theorem apart_symbol {c : Comparator} (hc : c ≠ .contains) (cs : List Char) :
    Apart (c.symbol.toList ++ cs) := by
  cases c with
  | equal | less | greater | notEqual | lessOrEqual | greaterOrEqual => exact apart_cons (by decide)
  | contains => exact absurd rfl hc

theorem says_compare {column : String} (h : IsName column) (c : Comparator) (value : String) :
    (compare column c value).Says (.test column c value) := by
  by_cases hc : c = .contains
  · have htext : (compare column .contains value).raw.toList
        = column.toList ++ ' ' :: ("LIKE".toList ++ [' ', '?']) := by simp [compare]
    rw [hc]
    refine ⟨_, ?_, .like⟩
    rw [htext]
    exact .name_space h <| .keyword_space (by decide) <| .value _ .nil
  · have htext : (column ++ c.symbol ++ "?").toList = column.toList ++ (c.symbol.toList ++ ['?']) := by
      simp
    rw [compare_of_ne hc, test_of_ne hc]
    refine ⟨_, ?_, .compare⟩
    rw [htext]
    exact .name h (apart_symbol hc _) <| .operator hc <| .value _ .nil

theorem Says.group (h : f.Says a) : f.group.Says a := by
  obtain ⟨ts, hs, hp⟩ := h
  refine ⟨_, ?_, hp.disjunction.brackets⟩
  have := (hs.append (Spells.closeBracket .nil)).openBracket
  simpa [Fragment.group] using this

theorem Says.join (h : f.Says a) (gate : Gate) (h' : g.Says b) :
    (f.join gate g).Says (.join a gate b) := by
  obtain ⟨ts, hs, hp⟩ := h
  obtain ⟨us, hs', hp'⟩ := h'
  refine ⟨_, ?_, (hp.join gate hp').brackets⟩
  have hgate : gate.symbol ∈ keywords := by cases gate <;> decide
  have hright := Spells.space <| .keyword_space hgate <| hs'.append (Spells.closeBracket .nil)
  have := (hs.append hright).openBracket
  simpa [Fragment.join, Token.ofGate] using this

/-- What says a condition wherever it stands, says it alone, and nothing else. -/
theorem Says.reads_iff (h : f.Says a) : f.Reads b ↔ b = a := by
  obtain ⟨ts, hs, hp⟩ := h
  have hf : f.Reads a := ⟨ts, by simpa [tokens?] using hs [] [], hp.disjunction⟩
  constructor
  · intro hb
    exact hb.unique hf
  · rintro rfl
    exact hf

end Fragment

end Sql

/-! ### Look-ups in collections -/

namespace Collection

open Sql

/-- The end of a look-up, behind the comparison of the value. -/
def ending (c : Collection) : List Char :=
  match c.softDeleteColumn? with
  | some column => ' ' :: ("AND".toList ++ ' ' :: (column.toList ++ ' ' :: ("IS".toList ++ ' ' ::
      ("NULL".toList ++ [')']))))
  | none => [')']

/-- The operands in the end of a look-up. -/
def endingOperands (c : Collection) : List Operand :=
  match c.softDeleteColumn? with
  | some column => [⟨[.name column, .keyword "IS", .keyword "NULL"], .isNull column⟩]
  | none => []

variable {c : Collection}

theorem toList_lookup (key : String) (comparator : Comparator) (value : String) :
    (c.lookup key comparator value).raw.toList
      = c.ownerColumn.toList ++ ' ' :: ("IN".toList ++ ' ' :: '(' :: ("SELECT".toList ++ ' ' ::
        (c.foreignKey.toList ++ ' ' :: ("FROM".toList ++ ' ' :: (c.table.toList ++ ' ' ::
        ("WHERE".toList ++ ' ' :: (c.keyColumn.toList ++ (Comparator.equal.symbol.toList ++ '?' ::
        ' ' :: ("AND".toList ++ ' ' ::
        ((Fragment.compare c.valueColumn comparator value).raw.toList ++ c.ending)))))))))) := by
  cases hc : c.softDeleteColumn? <;> simp [lookup, ending, hc, Comparator.symbol]

theorem spells_ending (h : ∀ name ∈ c.identifiers, IsName name) :
    Spells c.ending [] (c.endingOperands.flatMap (Operand.written .and) ++ [.closeBracket]) := by
  cases hc : c.softDeleteColumn? with
  | none => simpa [ending, endingOperands, hc] using Spells.closeBracket .nil
  | some column =>
    have hcolumn : IsName column := h column (by simp [identifiers, hc])
    simp only [ending, endingOperands, hc]
    exact .space <| .keyword_space (by decide) <| .name_space hcolumn <|
      .keyword_space (by decide) <| .keyword (by decide) (apart_cons (by decide)) <|
      .closeBracket .nil

theorem parses_endingOperands : ∀ o ∈ c.endingOperands, Parses .primary o.tokens o.condition := by
  cases hc : c.softDeleteColumn? with
  | none => simp [endingOperands, hc]
  | some column => simpa [endingOperands, hc] using .isNull

theorem foldl_endingOperands (e : Condition) :
    c.endingOperands.foldl (Condition.extend .and) e = c.alive e := by
  cases hc : c.softDeleteColumn? <;> simp [endingOperands, alive, hc, Condition.extend]

/-- A look-up says what its comparison says about the pairs. -/
theorem says_lookup (h : ∀ name ∈ c.identifiers, IsName name) (key : String)
    (comparator : Comparator) (value : String) :
    (c.lookup key comparator value).Says (c.membership key comparator value) := by
  have htable : IsName c.table := h _ (by simp [identifiers])
  have howner : IsName c.ownerColumn := h _ (by simp [identifiers])
  have hforeign : IsName c.foreignKey := h _ (by simp [identifiers])
  have hkey : IsName c.keyColumn := h _ (by simp [identifiers])
  have hvalue : IsName c.valueColumn := h _ (by simp [identifiers])
  obtain ⟨ts, htest, hparses⟩ := Fragment.says_compare hvalue comparator value
  -- the condition on the pairs is a row of `AND`s, with the test of the value as its second operand
  have hrow : Parses (.row .and)
      ([.name c.keyColumn, .operator .equal, .value key]
        ++ (⟨ts, .test c.valueColumn comparator value⟩ :: c.endingOperands).flatMap
          (Operand.written .and)) _ :=
    .row .compare fun o ho => by
      rcases List.mem_cons.mp ho with rfl | ho
      · exact hparses
      · exact parses_endingOperands o ho
  rw [List.foldl_cons, foldl_endingOperands] at hrow
  refine ⟨_, ?_, .within (.single (g := .or) hrow)⟩
  have hend := htest.append (spells_ending h)
  rw [List.append_nil] at hend
  rw [toList_lookup, List.flatMap_cons, Operand.written, List.append_assoc, List.append_assoc,
    List.cons_append, List.cons_append]
  exact .name_space howner <| .keyword_space (by decide) <| .openBracket <|
    .keyword_space (by decide) <| .name_space hforeign <|
    .keyword_space (by decide) <| .name_space htable <|
    .keyword_space (by decide) <| .name hkey (Fragment.apart_symbol (by decide) _) <|
    .operator (by decide) <| .value key <| .space <| .keyword_space (by decide) hend

end Collection

/-! ### Compiled trees -/

namespace Resolver

open Sql

variable {r : Resolver}

/-- A comparison that compiles has a meaning, and its fragment says it. -/
theorem Sound.says_compileLeaf (h : r.Sound) (hk : ∀ name ∈ r.identifiers, ¬isKeyword name)
    {leaf : Comparison} {f : Fragment} (hf : r.compileLeaf leaf = .ok f) :
    ∃ a, r.atom? leaf = some a ∧ f.Says a := by
  rcases h.compileLeaf hf with ⟨rule, c, key, hr, hc, hid, hkey, rfl⟩ | ⟨c, hr, hc, hid, rfl⟩
  · obtain ⟨source, pattern, action⟩ := rule
    simp only at hc
    subst hc
    have hmem : ∀ name ∈ c.identifiers, name ∈ r.identifiers := fun name hn =>
      List.mem_append_right _ (List.mem_flatMap.mpr ⟨_, List.mem_of_find?_eq_some hr, hn⟩)
    refine ⟨c.membership key leaf.comparator leaf.value, by simp [atom?, hr, hkey], ?_⟩
    exact Collection.says_lookup (fun name hn => ⟨hid name hn, hk name (hmem name hn)⟩) ..
  · have hmem : c.column ∈ r.identifiers :=
      List.mem_append_left _ (List.mem_map.mpr ⟨c, List.mem_of_find?_eq_some hc, rfl⟩)
    refine ⟨.test c.column leaf.comparator leaf.value, by simp [atom?, hr, hc], ?_⟩
    exact Fragment.says_compare ⟨hid, hk _ hmem⟩ ..

/-- A tree that compiles has a meaning, and its fragment says it. -/
theorem Sound.says_compile (h : r.Sound) (hk : ∀ name ∈ r.identifiers, ¬isKeyword name)
    {t : Tree} {f : Fragment} (hf : r.compile t = .ok f) :
    ∃ e, r.condition? t = some e ∧ f.Says e := by
  induction t generalizing f with
  | comparison leaf => exact h.says_compileLeaf hk hf
  | group inner ih =>
    obtain ⟨g, hi, rfl⟩ := compile_group_eq_ok.mp hf
    obtain ⟨e, he, hsays⟩ := ih hi
    exact ⟨e, he, hsays.group⟩
  | join left gate right ihl ihr =>
    obtain ⟨g, hl, g', hr, rfl⟩ := compile_join_eq_ok.mp hf
    obtain ⟨a, ha, hsays⟩ := ihl hl
    obtain ⟨b, hb, hsays'⟩ := ihr hr
    exact ⟨.join a gate b, by simp [condition?, ha, hb], hsays.join gate hsays'⟩
  | openGate => exact absurd hf compile_openGate_ne_ok
  | ungated => exact absurd hf compile_ungated_ne_ok

/-- What a comparison says is joined of nothing. -/
theorem holds_of_atom? {truth : Condition → Bool} {leaf : Comparison} {a : Condition}
    (h : r.atom? leaf = some a) : a.holds truth = truth a := by
  unfold atom? at h
  split at h
  · obtain ⟨key, -, rfl⟩ := Option.map_eq_some_iff.mp h
    rfl
  · simp at h
  · obtain ⟨c, -, rfl⟩ := Option.map_eq_some_iff.mp h
    unfold Condition.test
    split <;> rfl

/-- A tree is true when what it says is. -/
theorem holds?_of_condition? (truth : Condition → Bool) {t : Tree} {e : Condition}
    (h : r.condition? t = some e) :
    t.holds? (fun leaf => (r.atom? leaf).map truth) = some (e.holds truth) := by
  induction t generalizing e with
  | comparison leaf => simp [Tree.holds?, show r.atom? leaf = some e from h, holds_of_atom? h]
  | group inner ih => exact ih h
  | join left gate right ihl ihr =>
    simp only [condition?, Option.pure_def, Option.bind_eq_bind, Option.bind_eq_some_iff] at h
    obtain ⟨a, ha, b, hb, h⟩ := h
    obtain rfl := Option.some.inj h
    simp [Tree.holds?, ihl ha, ihr hb, Condition.holds]
  | openGate | ungated => simp [condition?] at h

/-- **Compiling keeps the meaning.** A fragment is read in exactly one way, as what the tree says,
and so it is true of the same rows, whatever the truth of the comparisons. -/
theorem compile_reads {engine : PatternEngine} (hb : r.Built engine)
    (hk : ∀ name ∈ r.identifiers, ¬isKeyword name) {t : Tree} {f : Fragment}
    (hf : r.compile t = .ok f) :
    ∃ e, r.condition? t = some e ∧ (∀ e', f.Reads e' ↔ e' = e) ∧
      ∀ truth, t.holds? (fun leaf => (r.atom? leaf).map truth) = some (e.holds truth) := by
  obtain ⟨e, he, hsays⟩ := hb.sound.says_compile hk hf
  exact ⟨e, he, fun _ => hsays.reads_iff, fun truth => holds?_of_condition? truth he⟩

/-- For example, of a column and a collection. -/
theorem compile_reads_collection :
    ∃ r f,
      ofConfig ⟨[⟨"age", "integer", none⟩], [{ name := "tags", foreignKey := "owner" }]⟩ = .ok r ∧
      r.compile (.join (.comparison ⟨"Age", .greater, "10"⟩) .or
        (.comparison ⟨"tags[colour]", .contains, "red"⟩)) = .ok f ∧
      ∀ e, f.Reads e ↔ e = .join (.compare "age" .greater "10") .or (.within "id" "owner" "tags"
        (.join (.compare "key" .equal "colour") .and (.like "value" "%red%"))) := by
  let c : Config := ⟨[⟨"age", "integer", none⟩], [{ name := "tags", foreignKey := "owner" }]⟩
  let t : Tree := .join (.comparison ⟨"Age", .greater, "10"⟩) .or
    (.comparison ⟨"tags[colour]", .contains, "red"⟩)
  have hrun : (ofConfig c).map (fun r => (r.identifiers, (r.compile t).toBool, r.condition? t))
      = .ok (["age", "tags", "id", "owner", "key", "value"], true,
        some (.join (.compare "age" .greater "10") .or (.within "id" "owner" "tags"
        (.join (.compare "key" .equal "colour") .and (.like "value" "%red%"))))) := by decide +kernel
  cases hr : ofConfig c with
  | error e => simp [hr, Except.map] at hrun
  | ok r =>
    simp only [hr, Except.map, Except.ok.injEq, Prod.mk.injEq] at hrun
    obtain ⟨hnames, hok, hmeaning⟩ := hrun
    cases hf : r.compile t with
    | error e => simp [hf, Except.toBool] at hok
    | ok f =>
      have hk : ∀ name ∈ r.identifiers, ¬isKeyword name := by
        rw [hnames]
        decide
      obtain ⟨e, he, hreads, -⟩ := compile_reads (.config hr) hk hf
      obtain rfl := Option.some.inj (he.symm.trans hmeaning)
      exact ⟨r, f, rfl, hf, hreads⟩

end Resolver

end FilterQuery
