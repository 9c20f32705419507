import FilterQuery.Proofs.DisplayRoundTrip

/-!
# What queries can express

Which trees the parser can answer at all. `AND` and `OR` bind equally and from the left, so a query
needs brackets only around a right operand that is an operation. `Tree.query` writes a tree with
these brackets and no others. Its lexemes derive the tree in as many nested brackets as
`Tree.bracketNeed` says (`Tree.derives_spelled`), and no derivation of the tree gets by with fewer
(`Derives.need_le`). The main statement is `exists_parse_eq_ok_iff`.
-/

namespace FilterQuery

namespace Tree

/-- Every operation has a gate and a right operand. -/
def Complete : Tree → Prop
  | comparison _ => True
  | join left _ right => left.Complete ∧ right.Complete
  | group _ => False
  | openGate _ _ => False
  | ungated _ _ => False

/-- How deep brackets have to be nested in a query for the tree. -/
def bracketNeed : Tree → Nat
  | comparison _ => 0
  | join left _ right =>
    max left.bracketNeed (if right.isComparison then 0 else 1 + right.bracketNeed)
  | group inner => 1 + inner.bracketNeed
  | openGate left _ => left.bracketNeed
  | ungated left right => max left.bracketNeed right.bracketNeed

/-- How deep brackets have to be nested in a term for the tree. -/
def operandNeed (t : Tree) : Nat :=
  if t.isComparison then 0 else 1 + t.bracketNeed

theorem bracketNeed_join (left : Tree) (gate : Gate) (right : Tree) :
    (join left gate right).bracketNeed = max left.bracketNeed right.operandNeed := rfl

theorem bracketNeed_le_operandNeed (t : Tree) : t.bracketNeed ≤ t.operandNeed := by
  cases t with
  | comparison c => exact Nat.le_refl _
  | join | group | openGate | ungated => exact Nat.le_add_left _ 1

/-- All fields have a name, and all fields and values are writable. -/
def LiteralsWritable (t : Tree) : Prop :=
  ∀ leaf ∈ t.leaves, leaf.field ≠ "" ∧ IsWritable leaf.field ∧ IsWritable leaf.value

variable {t left right : Tree} {gate : Gate} {n : Nat}

theorem literalsWritable_join : (join left gate right).LiteralsWritable ↔
    left.LiteralsWritable ∧ right.LiteralsWritable := by
  simp only [LiteralsWritable, leaves, List.forall_mem_append]

theorem Writable.literalsWritable (h : t.Writable) : t.LiteralsWritable := by
  induction t with
  | comparison c => simpa [LiteralsWritable, leaves, Writable] using h
  | join left gate right ihl ihr => exact literalsWritable_join.mpr ⟨ihl h.1, ihr h.2⟩
  | group inner ih => exact ih h
  | openGate | ungated => exact h.elim

/-! ### The fewest brackets -/

/-- The tree in the query language, with brackets around right operands that are operations. -/
def query : Tree → String
  | comparison c => c.display
  | join left gate right =>
    left.query ++ " " ++ gate.symbol ++ " "
      ++ if right.isComparison then right.query else "(" ++ right.query ++ ")"
  | group inner => "(" ++ inner.query ++ ")"
  | openGate left gate => left.query ++ " " ++ gate.symbol
  | ungated left right => left.query ++ " " ++ right.query

/-- The lexemes that this query is read as, blanks aside. -/
def spelled : Tree → List Lexeme
  | comparison c => [.ofLiteral c.field, .comparator c.comparator, .ofLiteral c.value]
  | join left gate right => left.spelled ++ .gate gate ::
    if right.isComparison then right.spelled else .openBracket :: (right.spelled ++ [.closeBracket])
  | group inner => .openBracket :: (inner.spelled ++ [.closeBracket])
  | openGate left gate => left.spelled ++ [.gate gate]
  | ungated left right => left.spelled ++ right.spelled

/-- The lexer finds these lexemes before whatever ends a word. -/
theorem visible_query (hc : t.Complete) (hw : t.LiteralsWritable) {rest : List Char}
    (hr : EndsWord rest) : visible (t.query.toList ++ rest) = t.spelled ++ visible rest := by
  induction t generalizing rest with
  | comparison c => exact visible_display (t := comparison c) (hw c (by simp [leaves])) hr
  | join left gate right ihl ihr =>
    obtain ⟨hwl, hwr⟩ := literalsWritable_join.mp hw
    cases hright : right.isComparison with
    | true =>
      have hl := ihl hc.1 hwl
        (endsWord_space (gate.symbol.toList ++ ' ' :: (right.query.toList ++ rest)))
      have hg := visible_gate gate (endsWord_space (right.query.toList ++ rest))
      simp only [visible_space, hg, ihr hc.2 hwr hr] at hl
      simpa [query, spelled, hright] using hl
    | false =>
      have hl := ihl hc.1 hwl
        (endsWord_space (gate.symbol.toList ++ ' ' :: '(' :: (right.query.toList ++ ')' :: rest)))
      have hg := visible_gate gate (endsWord_space ('(' :: (right.query.toList ++ ')' :: rest)))
      have hr := ihr hc.2 hwr (endsWord_closeBracket rest)
      simp only [visible_space, visible_openBracket, visible_closeBracket, hg, hr] at hl
      simpa [query, spelled, hright] using hl
  | group | openGate | ungated => exact hc.elim

theorem significant_query (hc : t.Complete) (hw : t.LiteralsWritable) :
    significant t.query = t.spelled := by
  have := visible_query hc hw endsWord_nil
  simpa [significant_eq_visible] using this

/-- A single comparison is a term. -/
theorem derives_term_of_isComparison (hw : t.LiteralsWritable) (ht : t.isComparison) :
    Derives n .term t.spelled t := by
  cases t with
  | comparison c => exact .comparison (hw c (by simp [leaves])).1
  | join | group | openGate | ungated => simp [isComparison] at ht

/-- The lexemes derive the tree. -/
theorem derives_spelled (hc : t.Complete) (hw : t.LiteralsWritable) (hn : t.bracketNeed ≤ n) :
    Derives n .operation t.spelled t := by
  induction t generalizing n with
  | comparison c => exact (derives_term_of_isComparison hw rfl).single
  | join left gate right ihl ihr =>
    obtain ⟨hwl, hwr⟩ := literalsWritable_join.mp hw
    rw [bracketNeed_join, Nat.max_le] at hn
    have hl := ihl hc.1 hwl hn.1
    cases hright : right.isComparison with
    | true =>
      have hterm := hl.link gate (derives_term_of_isComparison hwr hright)
      simpa [spelled, hright] using hterm
    | false =>
      have hneed : 1 + right.bracketNeed ≤ n := by simpa [operandNeed, hright] using hn.2
      obtain ⟨n, rfl⟩ : ∃ k, n = k + 1 := ⟨n - 1, by omega⟩
      have hterm := hl.link gate (.group (ihr (n := n) hc.2 hwr (by omega)))
      simpa [spelled, hright] using hterm
  | group | openGate | ungated => exact hc.elim

/-! ### No fewer brackets -/

theorem Complete.foldl {links : List Link} (ht : t.Complete) (hl : ∀ l ∈ links, l.tree.Complete) :
    (links.foldl extend t).Complete := by
  induction links generalizing t with
  | nil => exact ht
  | cons l links ih =>
    exact ih (t := t.extend l) ⟨ht, hl l (List.mem_cons_self ..)⟩
      fun l' h => hl l' (List.mem_cons_of_mem _ h)

theorem bracketNeed_foldl_le {links : List Link} (ht : t.bracketNeed ≤ n)
    (hl : ∀ l ∈ links, l.tree.operandNeed ≤ n) : (links.foldl extend t).bracketNeed ≤ n := by
  induction links generalizing t with
  | nil => exact ht
  | cons l links ih =>
    refine ih (t := t.extend l) ?_ fun l' h => hl l' (List.mem_cons_of_mem _ h)
    exact Nat.max_le.mpr ⟨ht, hl l (List.mem_cons_self ..)⟩

end Tree

/-- How deep brackets have to be nested for the tree, in a text from the goal. -/
def Goal.need : Goal → Tree → Nat
  | .operation => Tree.bracketNeed
  | .term => Tree.operandNeed

namespace Derives

variable {n : Nat} {goal : Goal} {xs : List Lexeme} {t : Tree}

theorem complete (h : Derives n goal xs t) : t.Complete := by
  induction h with
  | comparison => trivial
  | group _ ih => exact ih
  | row _ _ ih ih' => exact ih.foldl ih'

/-- **No derivation has fewer brackets than the tree needs.** -/
theorem need_le (h : Derives n goal xs t) : goal.need t ≤ n := by
  induction h with
  | comparison => exact Nat.zero_le _
  | @group n xs t _ ih =>
    have hle : t.operandNeed ≤ 1 + t.bracketNeed := by
      unfold Tree.operandNeed
      split <;> omega
    have hinner : t.bracketNeed ≤ n := ih
    exact Nat.le_trans hle (by omega)
  | @row n xs t links _ _ ih ih' =>
    exact Tree.bracketNeed_foldl_le (Nat.le_trans t.bracketNeed_le_operandNeed ih) ih'

end Derives

/-- **What queries can express.** A tree is the answer to some query exactly if every operation in
it has a gate and a right operand, every field has a name, every field and value is writable, and
the comparisons and the brackets that it needs are within the limits. -/
theorem exists_parse_eq_ok_iff (t : Tree) : (∃ query, parse query = .ok t) ↔
    t.Complete ∧
    (∀ leaf ∈ t.leaves, leaf.field ≠ "" ∧ IsWritable leaf.field ∧ IsWritable leaf.value) ∧
    t.count ≤ comparisonLimit ∧ t.bracketNeed ≤ nestingLimit := by
  constructor
  · rintro ⟨query, h⟩
    obtain ⟨hd, hl⟩ := derives_of_parse h
    have hw : t.Writable := hd.writable fun literal q hmem => by
      rw [significant_eq] at hmem
      exact writable_of_mem_lexemes (List.mem_filter.mp hmem).1
    exact ⟨hd.complete, hw.literalsWritable, hl, hd.need_le⟩
  · rintro ⟨hc, hw, hl, hn⟩
    refine ⟨t.query, parse_of_derives ?_ hl⟩
    rw [Tree.significant_query hc hw]
    exact Tree.derives_spelled hc hw hn

end FilterQuery
