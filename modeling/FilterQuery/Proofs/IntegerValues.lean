import FilterQuery.Proofs.Declarations
import FilterQuery.Proofs.NumericValues
import FilterQuery.Resolver.Query

/-!
# The values of integer fields

An integer field takes the texts that write an integer of 128 bits, with any number of zeros in
front. Every such text also writes a number that is finite in double precision, so a numeric field
takes whatever an integer field takes (`Validator.numeric_of_integer`).

Hence an integer field can be declared with a floating point type instead. Two resolvers that differ
in this find the same fields, and the one takes all values that the other takes
(`Resolver.Widens`). This outlasts any further call (`Resolver.Widens.add`), and what compiles with
the one compiles with the other to the same. The main statement is
`Validator.integer_exact_and_numeric`.
-/

namespace FilterQuery

namespace Validator

/-! ### Values -/

/-- An integer field takes what writes an integer of 128 bits. -/
theorem integer_eq_none_iff {value : String} : integer value = none ↔
    ∃ n, Integer.Writes value.toList n ∧ -2 ^ 127 ≤ n ∧ n ≤ 2 ^ 127 - 1 := by
  have hbounds (n : ℤ) : (-(powerOfTwo 127 : ℤ) ≤ n ∧ n < powerOfTwo 127) ↔
      -2 ^ 127 ≤ n ∧ n ≤ 2 ^ 127 - 1 := by
    rw [powerOfTwo_eq, Int.le_sub_one_iff]
    push_cast
    rfl
  have hinteger : isInteger value ↔
      ∃ n, Integer.ofText? value.toList = some n ∧ -2 ^ 127 ≤ n ∧ n ≤ 2 ^ 127 - 1 := by
    unfold isInteger
    cases Integer.ofText? value.toList <;> simp [hbounds]
  simp only [← Integer.ofText?_eq_some_iff, ← hinteger, integer]
  split <;> simp [*]

/-- The only reason to refuse a value. -/
theorem integer_of_ne_none {value : String} (h : integer value ≠ none) :
    integer value = some ("value '" ++ value ++ "' is not an integer") := by
  unfold integer at *
  split at h
  · exact absurd rfl h
  · next hinteger => rw [if_neg hinteger]

/-- **A numeric field takes what an integer field takes.** -/
theorem numeric_of_integer {value : String} (h : integer value = none) : numeric value = none := by
  obtain ⟨n, hn, hlow, hhigh⟩ := integer_eq_none_iff.mp h
  refine numeric_eq_none_iff.mpr ⟨n, .of_integer hn, ?_⟩
  have habs : |(n : ℚ)| ≤ 2 ^ 127 := by
    have hhigh' : n ≤ 2 ^ 127 := by omega
    exact abs_le.mpr ⟨by exact_mod_cast hlow, by exact_mod_cast hhigh'⟩
  refine lt_of_le_of_lt habs ?_
  rw [Double.limit_eq]
  calc (2 : ℚ) ^ 127 = 2 ^ (127 : ℤ) := rfl
    _ ≤ 2 ^ (971 : ℤ) := zpow_le_zpow_right₀ one_le_two (by omega)
    _ < (2 ^ 53 - 1 / 2) * 2 ^ (971 : ℤ) := lt_mul_left (zpow_pos two_pos _) (by norm_num)

end Validator

/-! ### Declarations -/

/-- The field is declared again, and if as something else, then no longer as an integer but as a
number. -/
inductive FieldDeclaration.Retyped : FieldDeclaration → FieldDeclaration → Prop where
  | kept (f : FieldDeclaration) : Retyped f f
  | widened {f : FieldDeclaration} {declaredType : String} (hfrom : f.fieldType = .integer)
    (hto : FieldType.ofDeclared declaredType = .numeric) :
    Retyped f { f with declaredType := declaredType }

/-- Fields are declared as numbers that were integers, and all else is the same. -/
inductive Origin.Retyped : Origin → Origin → Prop where
  /-- A list of fields. -/
  | fields {fs gs : List FieldDeclaration} : List.Forall₂ FieldDeclaration.Retyped fs gs →
    Retyped (.fields fs) (.fields gs)
  /-- The fields of a configuration. -/
  | config {fs gs : List FieldDeclaration} {collections : List Collection} :
    List.Forall₂ FieldDeclaration.Retyped fs gs →
    Retyped (.config ⟨fs, collections⟩) (.config ⟨gs, collections⟩)

/-- The other check takes all values that the one takes. -/
def Validator.Widens (v v' : Validator) : Prop :=
  ∀ value, v value = none → v' value = none

/-- The same column with a wider check. -/
structure Column.Widens (c c' : Column) : Prop where
  column : c'.column = c.column
  validator : c.validator.Widens c'.validator

/-- A field that is declared again has the same name and column, and takes at least the same
values. -/
theorem FieldDeclaration.Retyped.widens {f g : FieldDeclaration} (h : f.Retyped g) :
    g.name = f.name ∧ g.column = f.column ∧ f.fieldType.validator.Widens g.fieldType.validator := by
  cases h with
  | kept => exact ⟨rfl, rfl, fun _ => id⟩
  | widened hfrom hto =>
    refine ⟨rfl, rfl, ?_⟩
    rw [hfrom, fieldType, hto]
    exact fun _ => Validator.numeric_of_integer

namespace Resolver

/-- The resolvers have the same rules and find the same fields, with wider checks in the other
one. -/
structure Widens (r r' : Resolver) : Prop where
  rules : r'.rules = r.rules
  found : ∀ {name : String} {c : Column}, r.column? name = some c →
    ∃ c', r'.column? name = some c' ∧ c.Widens c'
  missing : ∀ {name : String}, r.column? name = none → r'.column? name = none

variable {engine : PatternEngine} {r r' next : Resolver} {origin origin' : Origin}
  {additions : List Addition}

theorem widens_refl (r : Resolver) : r.Widens r where
  rules := rfl
  found hc := ⟨_, hc, rfl, fun _ => id⟩
  missing := id

/-! ### Calls -/

/-- A field that can be added to the one can be added to the other, with a wider check. -/
theorem Widens.addField (h : r.Widens r') {name column : String} {v v' : Validator}
    (hv : v.Widens v') (ha : r.addField name column v = .ok next) :
    ∃ next', r'.addField name column v' = .ok next' ∧ next.Widens next' := by
  obtain ⟨hid, hne, hnew, -⟩ := addField_eq_ok.mp ha
  have ha' : r'.addField name column v' = .ok _ :=
    addField_eq_ok.mpr ⟨hid, hne, h.missing hnew, rfl⟩
  refine ⟨_, ha', ?_, fun {field c} hc => ?_, fun {field} hnone => ?_⟩
  · rw [rules_addField ha', rules_addField ha, h.rules]
  · rw [column?_addField ha, Option.or_eq_some_iff] at hc
    rw [column?_addField ha']
    rcases hc with hc | ⟨hnone, hc⟩
    · obtain ⟨c', hc', hwidens⟩ := h.found hc
      exact ⟨c', by rw [hc', Option.some_or], hwidens⟩
    · rw [Option.ite_none_right_eq_some, Option.some.injEq] at hc
      obtain ⟨hname, rfl⟩ := hc
      refine ⟨⟨canonicalName name, column, v'⟩, ?_, rfl, hv⟩
      rw [h.missing hnone, if_pos hname, Option.none_or]
  · rw [column?_addField ha, Option.or_eq_none_iff] at hnone
    rw [column?_addField ha', h.missing hnone.1, Option.none_or]
    simpa using hnone.2

/-- **Resolvers of which the one is wider** stay so after one more call: what succeeds on the one
succeeds on the other. -/
theorem Widens.add (h : r.Widens r') {a : Addition} (ha : r.add engine a = .ok next) :
    ∃ next', r'.add engine a = .ok next' ∧ next.Widens next' := by
  cases a with
  | field d => exact h.addField (fun _ => id) ha
  | rule | collection =>
    obtain ⟨rules, rfl, ha'⟩ := exists_rules_of_add rfl ha
    exact ⟨_, ha' r', by rw [h.rules], h.found, h.missing⟩

theorem widens_of_fields {fs gs : List FieldDeclaration}
    (hs : List.Forall₂ FieldDeclaration.Retyped fs gs) (h : ofFields fs = .ok r) :
    ∃ r', ofFields gs = .ok r' ∧ r.Widens r' := by
  refine foldlM_agree_forall₂ (fun {b c f g b'} hb hf ha => ?_) hs (widens_refl empty) h
  obtain ⟨hname, hcolumn, hv⟩ := hf.widens
  rw [addDeclaration] at ha ⊢
  rw [hname, hcolumn]
  exact hb.addField hv ha

theorem widens_of_origin (ho : origin.Retyped origin') (h : origin.build engine = .ok r) :
    ∃ r', origin'.build engine = .ok r' ∧ r.Widens r' := by
  cases ho with
  | fields hs => exact widens_of_fields hs h
  | config hs =>
    exact bind_foldlM_agree (fun hb => hb.add (a := .collection _)) (widens_of_fields hs) h

/-- The same calls lead to a wider resolver if integers are declared as numbers at first. -/
theorem widens_of_build (ho : origin.Retyped origin') (h : build engine origin additions = .ok r) :
    ∃ r', build engine origin' additions = .ok r' ∧ r.Widens r' :=
  bind_foldlM_agree (fun hb => hb.add) (widens_of_origin ho) h

/-! ### Queries -/

/-- What compiles with the one compiles with the wider one, to the same. -/
theorem Widens.compile (h : r.Widens r') {t : Tree} {f : Sql.Fragment} (hf : r.compile t = .ok f) :
    r'.compile t = .ok f := by
  refine compile_of_columns (fun leaf _ => ?_) (fun leaf _ c hc => ?_) hf
  · rw [rule?, rule?, h.rules]
  · obtain ⟨c', hc', hwidens⟩ := h.found hc
    exact ⟨c', hc', hwidens.column, hwidens.validator leaf.value⟩

theorem Widens.compileQuery (h : r.Widens r') {query : String} {f : Sql.Fragment}
    (hf : r.compileQuery query = .ok f) : r'.compileQuery query = .ok f := by
  unfold Resolver.compileQuery at *
  split at hf
  · exact absurd hf nofun
  · exact h.compile hf

end Resolver

/-- **An integer field takes exactly the integers of 128 bits, and a numeric field takes them too.**
An integer field takes a text if this writes an integer from `-2 ^ 127` to `2 ^ 127 - 1`; a text
writes one integer at most. Any other text is refused for the one reason that it is not an integer.
What an integer field takes, a numeric field takes. So, if fields with integer types are declared
with floating point types instead, the same calls lead to a resolver again, and every query that
compiled before compiles to the same. -/
theorem Validator.integer_exact_and_numeric :
    (∀ value,
      (integer value = none ↔
        ∃ n, Integer.Writes value.toList n ∧ -2 ^ 127 ≤ n ∧ n ≤ 2 ^ 127 - 1) ∧
      (∀ m n, Integer.Writes value.toList m → Integer.Writes value.toList n → m = n) ∧
      (integer value ≠ none →
        integer value = some ("value '" ++ value ++ "' is not an integer")) ∧
      (integer value = none → numeric value = none)) ∧
    ∀ (engine : PatternEngine) (origin origin' : Origin) (additions : List Addition) (r : Resolver),
      origin.Retyped origin' → Resolver.build engine origin additions = .ok r →
      ∃ r', Resolver.build engine origin' additions = .ok r' ∧
        ∀ query f, r.compileQuery query = .ok f → r'.compileQuery query = .ok f := by
  refine ⟨fun value => ⟨integer_eq_none_iff, fun m n => Integer.Writes.unique, integer_of_ne_none,
    numeric_of_integer⟩, fun engine origin origin' additions r ho hr => ?_⟩
  obtain ⟨r', hr', hwidens⟩ := Resolver.widens_of_build ho hr
  exact ⟨r', hr', fun query f hf => hwidens.compileQuery hf⟩

/-- The least integer with zeros in front, the one behind the greatest, and a field that is declared
again under a rule of the application's own. -/
theorem Validator.integer_exact_and_numeric_at_bounds :
    let least := "-00170141183460469231731687303715884105728"
    let beyond := "+170141183460469231731687303715884105728"
    let additions : List Addition := [.rule "^secret" (.custom fun _ => .ok ⟨"TRUE", []⟩)]
    let query := "secret=1 OR Age >= " ++ least
    (∃ n, Integer.Writes least.toList n ∧ -2 ^ 127 ≤ n ∧ n ≤ 2 ^ 127 - 1 ∧
      ∀ m, Integer.Writes least.toList m → m = n) ∧
    integer beyond = some ("value '" ++ beyond ++ "' is not an integer") ∧
    numeric least = none ∧
    ∃ r r' f, Resolver.build .standard (.fields [⟨"age", "int", none⟩]) additions = .ok r ∧
      Resolver.build .standard (.fields [⟨"age", " Double ", none⟩]) additions = .ok r' ∧
      r.compileQuery query = .ok f ∧ r'.compileQuery query = .ok f := by
  intro least beyond additions query
  obtain ⟨hvalues, hretyped⟩ := integer_exact_and_numeric
  have hleast : integer least = none := by decide +kernel
  obtain ⟨htakes, hunique, -, hnumeric⟩ := hvalues least
  obtain ⟨n, hn, hlow, hhigh⟩ := htakes.mp hleast
  refine ⟨⟨n, hn, hlow, hhigh, fun m hm => hunique m n hm hn⟩,
    (hvalues beyond).2.2.1 (by decide +kernel), hnumeric hleast, ?_⟩
  have hrun : (do
      let r ← Resolver.build .standard (.fields [⟨"age", "int", none⟩]) additions
      let _ ← r.compileQuery query) = .ok () := by decide +kernel
  obtain ⟨r, hr, hrun⟩ := bind_eq_ok.mp hrun
  obtain ⟨f, hf, -⟩ := bind_eq_ok.mp hrun
  have hfield : FieldDeclaration.Retyped ⟨"age", "int", none⟩ ⟨"age", " Double ", none⟩ :=
    .widened (by decide +kernel) (by decide +kernel)
  obtain ⟨r', hr', hcompiles⟩ := hretyped _ _ _ _ _ (.fields (.cons hfield .nil)) hr
  exact ⟨r, r', f, hr, hr', hf, hcompiles query f hf⟩

end FilterQuery
