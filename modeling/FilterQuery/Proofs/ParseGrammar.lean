import FilterQuery.Proofs.Lookahead
import FilterQuery.Proofs.ParseRun

/-!
# The parser accepts the grammar

`parse_eq_ok_iff_derives` is the main statement: the answer to a query is a tree exactly if the
query derives with that tree within the two limits, and an error otherwise. That a derivation is
read is `Derives.takes`. The other direction is an invariant of the machine, `Machine.ReadFrom`: the
operations that are open, with the comparison that has been begun, always spell what has been read.
-/

namespace FilterQuery

open Machine

/-! ### What has been read -/

/-- The comparisons in an open operation. -/
def OpenOperation.count : OpenOperation → Nat
  | empty => 0
  | complete t => t.count
  | gated t _ => t.count

/-- The comparisons in the operations around the open brackets. -/
def OpenOperation.outerCount : List OpenOperation → Nat
  | [] => 0
  | o :: outer => o.count + outerCount outer

/-- What an open operation has been read from, its brackets nested at most `n` deep. -/
inductive OpenOperation.ReadFrom (n : Nat) : OpenOperation → List Lexeme → Prop where
  /-- Nothing has been read. -/
  | empty : ReadFrom n .empty []
  /-- A whole operation. -/
  | complete {t : Tree} {xs : List Lexeme} : Derives n .operation xs t → ReadFrom n (.complete t) xs
  /-- A whole operation and a gate. -/
  | gated {t : Tree} {g : Gate} {xs : List Lexeme} :
    Derives n .operation xs t → ReadFrom n (.gated t g) (xs ++ [.gate g])

/-- What the operations around the open brackets have been read from, each with its bracket. Inside
the innermost, `n` more brackets are allowed. -/
inductive OuterReadFrom : Nat → List OpenOperation → List Lexeme → Prop where
  /-- No bracket is open. -/
  | nil : OuterReadFrom nestingLimit [] []
  /-- An operation and an opening bracket. -/
  | cons {n : Nat} {o : OpenOperation} {outer : List OpenOperation} {xs ys : List Lexeme} :
    OuterReadFrom (n + 1) outer xs → o.ReadFrom (n + 1) ys →
    OuterReadFrom n (o :: outer) (xs ++ ys ++ [.openBracket])

theorem OuterReadFrom.length {n : Nat} {outer : List OpenOperation} {xs : List Lexeme}
    (h : OuterReadFrom n outer xs) : n + outer.length = nestingLimit := by
  induction h with
  | nil => rfl
  | cons _ _ ih =>
    rw [← ih, List.length_cons]
    omega

/-- What a comparison that has been begun has been read from. -/
inductive Focus.ReadFrom : Focus → List Lexeme → Prop where
  /-- No comparison has been begun. -/
  | none : ReadFrom .none []
  /-- The field. -/
  | field {field : String} (q : Bool) : field ≠ "" → ReadFrom (.field field) [.text field q]
  /-- The field and the comparator. -/
  | comparator {field : String} {c : Comparator} (q : Bool) : field ≠ "" →
    ReadFrom (.comparator field c) [.text field q, .comparator c]
  /-- All three parts. -/
  | value {leaf : Comparison} (q q' : Bool) : leaf.field ≠ "" →
    ReadFrom (.value leaf) [.text leaf.field q, .comparator leaf.comparator, .text leaf.value q']

/-- **The invariant of the machine**: it has been led to where it is by the lexemes `xs`. -/
structure Machine.ReadFrom (m : Machine) (xs : List Lexeme) : Prop where
  /-- All comparisons are in the open operations. -/
  count : m.comparisons = m.current.count + OpenOperation.outerCount m.outer
  limit : m.comparisons ≤ comparisonLimit
  /-- The open operations and the comparison spell the lexemes. -/
  parts : ∃ n before inner last, xs = before ++ inner ++ last ∧ m.depth + n = nestingLimit ∧
    OuterReadFrom n m.outer before ∧ m.current.ReadFrom n inner ∧ m.focus.ReadFrom last

namespace OpenOperation

variable {o c : OpenOperation} {n : Nat} {xs ys : List Lexeme} {t : Tree}

theorem count_addOperand (h : o.addOperand t = .ok c) : c.count = o.count + t.count := by
  cases o with
  | empty =>
    obtain rfl : .complete t = c := by simpa [addOperand] using h
    simp [count]
  | gated left g =>
    obtain rfl : .complete (.join left g t) = c := by simpa [addOperand] using h
    rfl
  | complete left => simp [addOperand] at h

/-- An operand joins what has been read. -/
theorem ReadFrom.addOperand (h : o.ReadFrom n xs) (h' : Derives n .term ys t)
    (hc : o.addOperand t = .ok c) : c.ReadFrom n (xs ++ ys) := by
  cases h with
  | empty =>
    obtain rfl : .complete t = c := by simpa [OpenOperation.addOperand] using hc
    exact .complete h'.single
  | @gated left g xs h =>
    obtain rfl : .complete (.join left g t) = c := by simpa [OpenOperation.addOperand] using hc
    have := h.link g h'
    exact .complete (by simpa using this)
  | complete h => simp [OpenOperation.addOperand] at hc

theorem addGate_eq_ok {g : Gate} (h : o.addGate g = .ok c) :
    ∃ t, o = .complete t ∧ c = .gated t g := by
  cases o with
  | complete t => exact ⟨t, rfl, by simpa [addGate] using h.symm⟩
  | empty | gated => simp [addGate] at h

end OpenOperation

namespace Machine.ReadFrom

variable {m next : Machine} {goal : Goal} {xs : List Lexeme} {x : Lexeme} {leaf : Comparison}
  {t : Tree}

/-- Settling a comparison reads nothing. -/
theorem settle (h : m.ReadFrom xs) (hf : m.focus = .value leaf) (hs : m.settle leaf = .ok next) :
    next.ReadFrom xs := by
  obtain ⟨hl, c, hc, rfl⟩ := settle_eq_ok_iff.mp hs
  obtain ⟨hcount, -, n, before, inner, last, rfl, hd, hout, hin, hlast⟩ := h
  refine ⟨?_, hl, n, before, inner ++ last, [], by simp, hd, hout, ?_, .none⟩
  · have := OpenOperation.count_addOperand hc
    simp only [complete, this, hcount, Tree.count]
    omega
  · rw [hf] at hlast
    cases hlast with
    | value q q' hn => exact hin.addOperand (.comparison hn) hc

theorem settleFor (h : m.ReadFrom xs) (hf : m.focus = .value leaf)
    (hs : m.settleFor goal leaf = .shift next) : next.ReadFrom xs := by
  obtain ⟨hterm, -⟩ := settleFor_eq_shift hs
  rw [settleFor_of_not_atTerm (m := m) hterm] at hs
  cases hm : m.settle leaf with
  | error e => simp [hm] at hs
  | ok settled =>
    rw [hm] at hs
    exact h.settle hf (hm.trans (congrArg Except.ok (Step.shift.inj hs)))

/-- A step between two comparisons. -/
theorem stepBetween (h : m.ReadFrom xs) (hf : m.focus = .none) (hx : x ≠ .blank)
    (hs : m.stepBetween goal x = .shift next) : next.ReadFrom (xs ++ [x]) := by
  obtain ⟨hcount, hl, n, before, inner, last, rfl, hd, hout, hin, hlast⟩ := h
  rw [hf] at hlast
  cases hlast
  rcases stepBetween_eq_shift hs with ⟨rfl, -⟩ | ⟨rfl, -, hlt, rfl⟩ | ⟨field, q, rfl, -, hn, rfl⟩ |
    ⟨around, outer, t, c, rfl, ho, hm, hc, -, rfl⟩ | ⟨g, c, rfl, -, hg, rfl⟩
  · exact absurd rfl hx
  · -- an opening bracket: the operation joins the outer ones
    obtain ⟨k, rfl⟩ : ∃ k, n = k + 1 := ⟨n - 1, by omega⟩
    have hout' : OuterReadFrom k m.opened.outer (before ++ inner ++ [.openBracket]) := .cons hout hin
    refine ⟨?_, hl, k, _, [], [], by simp, ?_, hout', .empty, ?_⟩
    · simp [opened, OpenOperation.count, OpenOperation.outerCount, hcount]
    · simp only [opened]; omega
    · simp only [opened, hf]; exact .none
  · exact ⟨hcount, hl, n, before, inner, _, by simp, hd, hout, hin, .field q hn⟩
  · -- a closing bracket: the group becomes an operand of the operation around it
    rw [ho] at hout
    rw [hm] at hin
    cases hout with
    | @cons _ _ _ ws vs hout hin' =>
      cases hin with
      | complete hin =>
        refine ⟨?_, hl, n + 1, ws, vs ++ .openBracket :: (inner ++ [.closeBracket]), [], by simp, ?_,
          hout, hin'.addOperand (.group hin) hc, ?_⟩
        · simp only [hcount, ho, hm, OpenOperation.count_addOperand hc, OpenOperation.outerCount]
          simp only [OpenOperation.count]
          omega
        · have := hout.length
          simp only
          omega
        · simp only [hf]; exact .none
  · -- a gate
    obtain ⟨t, hm, rfl⟩ := OpenOperation.addGate_eq_ok hg
    rw [hm] at hin
    cases hin with
    | complete hin =>
      refine ⟨by simpa [hm, OpenOperation.count] using hcount, hl, n, before, inner ++ [.gate g], [],
        by simp, hd, hout, .gated hin, ?_⟩
      simp only [hf]; exact .none

/-- **A step keeps the invariant.** -/
theorem step (h : m.ReadFrom xs) (hx : x ≠ .blank) (hs : m.step goal x = .shift next) :
    next.ReadFrom (xs ++ [x]) := by
  cases hf : m.focus with
  | none => exact h.stepBetween hf hx (step_between hf x ▸ hs)
  | field field =>
    obtain ⟨hcount, hl, n, before, inner, last, rfl, hd, hout, hin, hlast⟩ := h
    rw [hf] at hlast
    cases hlast with
    | field q hn =>
      cases x with
      | comparator c =>
        obtain rfl : { m with focus := .comparator field c } = next := by
          simpa [Machine.step, hf] using hs
        exact ⟨hcount, hl, n, before, inner, _, by simp, hd, hout, hin, .comparator q hn⟩
      | blank => exact absurd rfl hx
      | gate | openBracket | closeBracket | bang | text => simp [Machine.step, hf] at hs
  | comparator field c =>
    obtain ⟨hcount, hl, n, before, inner, last, rfl, hd, hout, hin, hlast⟩ := h
    rw [hf] at hlast
    cases hlast with
    | comparator q hn =>
      cases x with
      | text value q' =>
        obtain rfl : { m with focus := .value ⟨field, c, value⟩ } = next := by
          simpa [Machine.step, hf] using hs
        exact ⟨hcount, hl, n, before, inner, _, by simp, hd, hout, hin, .value q q' hn⟩
      | blank => exact absurd rfl hx
      | gate | openBracket | closeBracket | bang | comparator => simp [Machine.step, hf] at hs
  | value leaf =>
    rw [step_of_value hf] at hs
    cases hm : m.settleFor goal leaf with
    | shift settled =>
      rw [hm] at hs
      obtain ⟨-, c, -, rfl⟩ := settleFor_eq_shift hm
      exact (h.settleFor hf hm).stepBetween rfl hx hs
    | accept | reject => simp [hm] at hs

/-- At the end of the text nothing but a whole operation gives an answer. -/
theorem finishBetween (h : m.ReadFrom xs) (hf : m.focus = .none)
    (ht : m.finishBetween .operation = .ok t) :
    Derives nestingLimit .operation xs t ∧ t.count ≤ comparisonLimit := by
  obtain ⟨-, ho, hm⟩ := finishBetween_eq_ok.mp ht
  obtain ⟨hcount, hl, n, before, inner, last, rfl, hd, hout, hin, hlast⟩ := h
  rw [hf] at hlast
  rw [ho] at hout
  rw [hm] at hin
  cases hlast
  cases hout
  cases hin with
  | complete hin =>
    have hcount' : m.comparisons = t.count := by
      simpa [ho, hm, OpenOperation.count, OpenOperation.outerCount] using hcount
    exact ⟨by simpa using hin, hcount' ▸ hl⟩

theorem finish (h : m.ReadFrom xs) (ht : (m.finish .operation).answer = .ok t) :
    Derives nestingLimit .operation xs t ∧ t.count ≤ comparisonLimit := by
  cases hf : m.focus with
  | none => exact h.finishBetween hf (finish_between hf ▸ ht)
  | field | comparator => simp [Machine.finish, hf] at ht
  | value leaf =>
    rw [finish_value hf] at ht
    cases hm : m.settle leaf with
    | error e => simp [hm] at ht
    | ok settled =>
      rw [hm] at ht
      obtain ⟨-, c, -, rfl⟩ := settle_eq_ok_iff.mp hm
      exact (h.settle hf hm).finishBetween rfl ht

/-- **A run that answers has read a derivation.** -/
theorem run {ys : List Lexeme} (h : m.ReadFrom xs) (hy : .blank ∉ ys)
    (ht : (m.run .operation ys).answer = .ok t) :
    Derives nestingLimit .operation (xs ++ ys) t ∧ t.count ≤ comparisonLimit := by
  induction ys generalizing m xs with
  | nil =>
    rw [List.append_nil]
    exact h.finish ht
  | cons y ys ih =>
    obtain ⟨hne, hy⟩ := List.ne_and_not_mem_of_not_mem_cons hy
    rw [Machine.run] at ht
    cases hs : m.step .operation y with
    | shift next =>
      rw [hs] at ht
      simpa using ih (h.step hne.symm hs) hy ht
    | accept u next back => exact absurd hs (step_ne_accept _ _ _ _ _)
    | reject e next back => simp [hs] at ht

end Machine.ReadFrom

/-! ### Whole queries -/

/-- The machine before a query is read. -/
def Machine.start : Machine := ⟨.empty, [], .none, 0, 0⟩

theorem Machine.readFrom_start : start.ReadFrom [] :=
  ⟨rfl, Nat.zero_le _, nestingLimit, [], [], [], rfl, Nat.zero_add _, .nil, .empty, .none⟩

theorem parse_eq_run (query : String) :
    parse query = (start.run .operation (significant query)).answer := by
  have hcall := Parser.call_eq (Parser.settled_ofString query) .operation
  rw [significant_eq]
  exact (congrArg Outcome.answer hcall).trans
    (congrArg Prod.fst (view_run_significant start .operation (lexemes query.toList)))

/-- A derivation within the limits is what the parser answers. -/
theorem parse_of_derives {query : String} {t : Tree}
    (h : Derives nestingLimit .operation (significant query) t) (hl : t.count ≤ comparisonLimit) :
    parse query = .ok t := by
  have hleads : start.Leads .operation (significant query) (start.withOperand (.complete t) t) :=
    h.takes rfl (by simp) (Nat.le_of_eq (Nat.zero_add _)) (by simpa [start] using hl) rfl
  have hrun := hleads.answer []
  rw [List.append_nil] at hrun
  rw [parse_eq_run, hrun]
  rfl

/-- What the parser answers derives within the limits. -/
theorem derives_of_parse {query : String} {t : Tree} (h : parse query = .ok t) :
    Derives nestingLimit .operation (significant query) t ∧ t.count ≤ comparisonLimit := by
  have hblank : .blank ∉ significant query := by
    rw [significant_eq]
    simp
  rw [parse_eq_run] at h
  exact readFrom_start.run hblank h

/-- **The parser accepts the grammar.** The answer is a tree exactly if the lexemes of the query,
blanks aside, derive from an operation with that tree, nested at most `nestingLimit` deep and with
at most `comparisonLimit` comparisons. Every other query is an error. -/
theorem parse_eq_ok_iff_derives (query : String) :
    (∀ t, parse query = .ok t ↔
      Derives nestingLimit .operation (significant query) t ∧ t.count ≤ comparisonLimit) ∧
    ((∃ e, parse query = .error e) ↔ ¬ ∃ t,
      Derives nestingLimit .operation (significant query) t ∧ t.count ≤ comparisonLimit) := by
  have accepts (t : Tree) : parse query = .ok t ↔
      Derives nestingLimit .operation (significant query) t ∧ t.count ≤ comparisonLimit :=
    ⟨derives_of_parse, fun h => parse_of_derives h.1 h.2⟩
  refine ⟨accepts, ?_⟩
  simp only [← accepts]
  cases parse query <;> simp

end FilterQuery
