import FilterQuery.Proofs.Lexing
import FilterQuery.Proofs.ParseGrammar

/-!
# Displayed trees as queries

`Tree.display` writes every operation in brackets, so the displayed text is one term. Its lexemes
are `Tree.written` (`visible_display`); they derive the tree without its groups, in as many nested
brackets as the tree has nested operations (`Tree.Writable.derives`). Within the nesting limit the
parser therefore gives the tree back, and beyond it the first bracket that is one too many is what
it stops at (`Tree.Writable.answer_tooDeep`). The main statement is `parse_display`.
-/

namespace FilterQuery

open Machine

namespace Tree

/-- The trees that can be written as queries: every operation has all its parts or is a group, and
the fields and values are writable. -/
def Writable : Tree → Prop
  | comparison c => c.field ≠ "" ∧ IsWritable c.field ∧ IsWritable c.value
  | join left _ right => left.Writable ∧ right.Writable
  | group inner => inner.Writable
  | openGate _ _ => False
  | ungated _ _ => False

instance decidableWritable : DecidablePred Writable
  | comparison _ => inferInstanceAs (Decidable (_ ∧ _ ∧ _))
  | join left _ right =>
    have := decidableWritable left
    have := decidableWritable right
    inferInstanceAs (Decidable (_ ∧ _))
  | group inner => decidableWritable inner
  | openGate _ _ => .isFalse id
  | ungated _ _ => .isFalse id

/-- The most operations on a way from the root to a leaf. -/
def nesting : Tree → Nat
  | comparison _ => 0
  | join left _ right => max left.nesting right.nesting + 1
  | group inner => inner.nesting + 1
  | openGate left _ => left.nesting + 1
  | ungated left right => max left.nesting right.nesting + 1

/-- The tree with its left child in place of every operation without a gate. -/
def ungroup : Tree → Tree
  | comparison c => comparison c
  | join left gate right => join left.ungroup gate right.ungroup
  | group inner => inner.ungroup
  | openGate left gate => openGate left.ungroup gate
  | ungated left _ => left.ungroup

/-- The lexemes that the displayed tree is read as, blanks aside. -/
def written : Tree → List Lexeme
  | comparison c => [.ofLiteral c.field, .comparator c.comparator, .ofLiteral c.value]
  | join left gate right =>
    .openBracket :: (left.written ++ .gate gate :: (right.written ++ [.closeBracket]))
  | group inner => .openBracket :: (inner.written ++ [.closeBracket])
  | openGate left gate => .openBracket :: (left.written ++ [.gate gate, .closeBracket])
  | ungated left _ => .openBracket :: (left.written ++ [.closeBracket])

variable {t : Tree} {n : Nat}

theorem Writable.count_ungroup (h : t.Writable) : t.ungroup.count = t.count := by
  induction t with
  | comparison c => rfl
  | join left gate right ihl ihr => simp only [ungroup, count, ihl h.1, ihr h.2]
  | group inner ih => exact ih h
  | openGate | ungated => exact h.elim

/-! ### Reading the displayed tree -/

/-- The lexer finds the lexemes of a displayed tree before whatever ends a word. -/
theorem visible_display (h : t.Writable) {rest : List Char} (hr : EndsWord rest) :
    visible (t.display.toList ++ rest) = t.written ++ visible rest := by
  induction t generalizing rest with
  | comparison c =>
    obtain ⟨-, hfield, hvalue⟩ := h
    have hf := visible_writeLiteral hfield (endsWord_space
      (c.comparator.symbol.toList ++ ' ' :: ((writeLiteral c.value).toList ++ rest)))
    have hv := visible_writeLiteral hvalue hr
    simp only [visible_space, visible_comparator, hv] at hf
    simpa [display, Comparison.display, written] using hf
  | join left gate right ihl ihr =>
    have hl := ihl h.1 (endsWord_space (gate.symbol.toList ++ ' ' :: (right.display.toList ++ ')' :: rest)))
    have hg := visible_gate gate (endsWord_space (right.display.toList ++ ')' :: rest))
    have hr := ihr h.2 (endsWord_closeBracket rest)
    simp only [visible_space, visible_closeBracket, hg, hr] at hl
    simpa [display, written] using hl
  | group inner ih =>
    have hi := ih h (endsWord_closeBracket rest)
    simpa [display, written] using hi
  | openGate | ungated => exact h.elim

theorem significant_display (h : t.Writable) : significant t.display = t.written := by
  have := visible_display h endsWord_nil
  simpa [significant_eq_visible] using this

/-- The lexemes derive the tree without its groups. -/
theorem Writable.derives (h : t.Writable) (hn : t.nesting ≤ n) :
    Derives n .term t.written t.ungroup := by
  induction t generalizing n with
  | comparison c => exact .comparison h.1
  | join left gate right ihl ihr =>
    obtain ⟨n, rfl⟩ : ∃ k, n = k + 1 := ⟨n - 1, by simp only [nesting] at hn; omega⟩
    simp only [nesting] at hn
    have hl := ihl (n := n) h.1 (by omega)
    have hr := ihr (n := n) h.2 (by omega)
    simpa [written, ungroup] using Derives.group (hl.single.link gate hr)
  | group inner ih =>
    obtain ⟨n, rfl⟩ : ∃ k, n = k + 1 := ⟨n - 1, by simp only [nesting] at hn; omega⟩
    simp only [nesting] at hn
    exact .group (ih (n := n) h (by omega)).single
  | openGate | ungated => exact h.elim

/-! ### Too many brackets -/

/-- The bracket that is one too many ends the run. -/
theorem answer_openBracket_tooDeep {m : Machine} (hf : m.focus = .none)
    (hm : m.current.admitOperand = .ok ()) (hd : ¬ m.depth < nestingLimit) (ys : List Lexeme) :
    (m.run .operation (.openBracket :: ys)).answer = .error .tooDeep := by
  have hstep : m.step .operation .openBracket = .reject .tooDeep m false := by
    have hopen : m.openGroup = .error .tooDeep := if_pos (Nat.le_of_not_lt hd)
    rw [step_between hf, stepBetween, openBracket, hm, hopen]
    rfl
  rw [Machine.run, hstep]

/-- A tree that is nested too deep for the brackets that are left is never read to its end. -/
theorem Writable.answer_tooDeep (h : t.Writable) {m : Machine} (hf : m.focus = .none)
    (hm : m.current.admitOperand = .ok ()) (hd : m.depth ≤ nestingLimit)
    (hn : nestingLimit < m.depth + t.nesting) (hl : m.comparisons + t.count ≤ comparisonLimit)
    (ys : List Lexeme) : (m.run .operation (t.written ++ ys)).answer = .error .tooDeep := by
  induction t generalizing m ys with
  | comparison c =>
    simp only [nesting] at hn
    omega
  | join left gate right ihl ihr =>
    simp only [nesting, count] at hn hl
    by_cases hlt : m.depth < nestingLimit
    · rw [written, List.cons_append, Machine.run, step_openBracket hf hm hlt]
      simp only [List.append_assoc, List.cons_append]
      by_cases hleft : nestingLimit < m.depth + 1 + left.nesting
      · exact ihl h.1 (m := m.opened) hf rfl hlt hleft (by simp only [opened]; omega) _
      -- the left operand and the gate are read, so it is the right operand that is too deep
      let m' := m.opened.withOperand (.complete left.ungroup) left.ungroup
      have hleads : m.opened.Leads .operation left.written m' :=
        (h.1.derives (Nat.le_refl _)).takes (m := m.opened) hf (by simp)
          (by simp only [opened]; omega) (by simp only [opened, h.1.count_ungroup]; omega) _ rfl
      have hgate : m'.step .operation (.gate gate) =
          .shift { m' with current := .gated left.ungroup gate } :=
        step_gate (m := m') hf (by simp) rfl gate
      rw [hleads.answer, Machine.run, hgate]
      refine ihr h.2 (m := { m' with current := .gated left.ungroup gate }) hf rfl hlt ?_ ?_ _
      · simp only [m', withOperand, opened]
        omega
      · simp only [m', withOperand, opened, h.1.count_ungroup]
        omega
    · exact answer_openBracket_tooDeep hf hm hlt _
  | group inner ih =>
    simp only [nesting] at hn
    by_cases hlt : m.depth < nestingLimit
    · have hi := ih (m := m.opened) h hf rfl (by simp only [opened]; omega)
        (by simp only [opened]; omega) hl (.closeBracket :: ys)
      rw [written, List.cons_append, Machine.run, step_openBracket hf hm hlt]
      simpa using hi
    · exact answer_openBracket_tooDeep hf hm hlt _
  | openGate | ungated => exact h.elim

theorem Writable.foldl {links : List Link} (ht : t.Writable) (hl : ∀ l ∈ links, l.tree.Writable) :
    (links.foldl extend t).Writable := by
  induction links generalizing t with
  | nil => exact ht
  | cons l links ih =>
    exact ih (t := t.extend l) ⟨ht, hl l (List.mem_cons_self ..)⟩
      fun l' h => hl l' (List.mem_cons_of_mem _ h)

end Tree

/-- A derivation from writable literals gives a writable tree. -/
theorem Derives.writable {n : Nat} {goal : Goal} {xs : List Lexeme} {t : Tree}
    (h : Derives n goal xs t) (hx : ∀ literal q, .text literal q ∈ xs → IsWritable literal) :
    t.Writable := by
  induction h with
  | @comparison _ field value c q q' hne =>
    exact ⟨hne, hx field q (by simp), hx value q' (by simp)⟩
  | group _ ih => exact ih fun literal q h => hx literal q (by simp [h])
  | @row _ xs t links _ _ ih ih' =>
    refine (ih fun literal q h => hx literal q (by simp [h])).foldl fun l hl => ?_
    refine ih' l hl fun literal q h => hx literal q ?_
    exact List.mem_append_right _ (List.mem_flatMap.mpr ⟨l, hl, List.mem_cons_of_mem _ h⟩)

/-- **Displayed trees are read back.** A writable tree with at most `comparisonLimit` comparisons is
what its display parses to, its groups aside, if its operations are nested at most `nestingLimit`
deep; otherwise its display is nested too deep. And every tree that the parser answers is such a
tree. -/
theorem parse_display :
    (∀ t : Tree, t.Writable → t.count ≤ comparisonLimit →
      (t.nesting ≤ nestingLimit → parse t.display = .ok t.ungroup) ∧
      (nestingLimit < t.nesting → ∃ e, parse t.display = .error e ∧
        e.reason = "brackets nested deeper than 128 levels")) ∧
    (∀ query t, parse query = .ok t → t.Writable ∧ t.count ≤ comparisonLimit) := by
  refine ⟨fun t h hl => ⟨fun hn => ?_, fun hn => ⟨.tooDeep, ?_, rfl⟩⟩, fun query t h => ?_⟩
  · refine parse_of_derives ?_ (h.count_ungroup ▸ hl)
    rw [Tree.significant_display h]
    exact (h.derives hn).single
  · have := h.answer_tooDeep (m := start) rfl rfl (Nat.zero_le _) (by simpa [start] using hn)
      (by simpa [start] using hl) []
    rw [parse_eq_run, Tree.significant_display h]
    simpa using this
  · obtain ⟨hd, hl⟩ := derives_of_parse h
    refine ⟨hd.writable fun literal q hmem => ?_, hl⟩
    rw [significant_eq] at hmem
    exact writable_of_mem_lexemes (List.mem_filter.mp hmem).1

/-- A tree with a group, a gate's name and a quote in it, and the same tree 128 groups deeper. -/
theorem parse_display_in_groups :
    let t : Tree := .join (.group (.comparison ⟨"and", .contains, "a\"b"⟩)) .or
      (.comparison ⟨"name", .equal, ""⟩)
    let deep := Nat.repeat Tree.group 128 t
    (t.Writable ∧ t.count ≤ comparisonLimit ∧ t.nesting ≤ nestingLimit ∧
      parse t.display = .ok t.ungroup) ∧
    (deep.Writable ∧ deep.count ≤ comparisonLimit ∧ nestingLimit < deep.nesting ∧
      ∃ e, parse deep.display = .error e ∧
        e.reason = "brackets nested deeper than 128 levels") ∧
    t.ungroup.Writable := by
  intro t deep
  have hparse := (parse_display.1 t (by decide) (by decide)).1 (by decide)
  refine ⟨⟨by decide, by decide, by decide, hparse⟩,
    ⟨by decide, by decide, by decide +kernel, ?_⟩, ?_⟩
  · exact (parse_display.1 deep (by decide) (by decide)).2 (by decide +kernel)
  · exact (parse_display.2 t.display t.ungroup hparse).1

end FilterQuery
