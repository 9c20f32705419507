import FilterQuery.Proofs.ComparisonBudget
import FilterQuery.Proofs.Lexing
import Mathlib.Logic.Basic

/-!
# Queries that can still be completed

A query that does not parse has either ended too soon or gone wrong. In the first case it is the
beginning of a query that parses: what is missing is at most the rest of one operand and a bracket
for each that is open (`Machine.completion`). In the second case every query that begins like it is
wrong in the same way, since a machine that rejects a lexeme never looks at what comes behind
(`Machine.rejects_or_reads`). So the parser raises an error at the first lexeme that leaves no hope,
neither before nor after. The main statement is `completable_xor_hopeless`.

The limit on comparisons is the one thing that a query can be out of without being told: with all
`comparisonLimit` comparisons behind it, an open gate can not be satisfied any more. Such queries
are left out.
-/

namespace FilterQuery

/-- An operand that may begin can be added, and completes the operation. -/
theorem OpenOperation.exists_addOperand {o : OpenOperation} (h : o.admitOperand = .ok ())
    (t : Tree) : ∃ u, o.addOperand t = .ok (.complete u) := by
  cases o with
  | empty => exact ⟨t, rfl⟩
  | gated left g => exact ⟨.join left g t, rfl⟩
  | complete left => simp [admitOperand] at h

namespace Machine

variable {m next : Machine} {goal : Goal} {x : Lexeme} {leaf : Comparison}

/-! ### Places for operands -/

/-- Whatever is being read will find its place: the group of each open bracket in the operation
around it, and a comparison that has been begun in the innermost operation. -/
structure HasPlaces (m : Machine) : Prop where
  outer : ∀ o ∈ m.outer, o.admitOperand = .ok ()
  current : m.focus ≠ .none → m.current.admitOperand = .ok ()

theorem HasPlaces.stepBetween (h : m.HasPlaces) (hf : m.focus = .none)
    (hs : m.stepBetween goal x = .shift next) : next.HasPlaces := by
  rcases stepBetween_eq_shift hs with ⟨-, rfl⟩ | ⟨-, hm, -, rfl⟩ | ⟨_, _, -, hm, -, rfl⟩ |
    ⟨_, _, _, _, -, ho, -, -, -, rfl⟩ | ⟨_, _, -, -, -, rfl⟩
  · exact h
  · exact ⟨List.forall_mem_cons.mpr ⟨hm, h.outer⟩, fun hfocus => absurd hf hfocus⟩
  · exact ⟨h.outer, fun _ => hm⟩
  · have houter := h.outer
    rw [ho] at houter
    exact ⟨(List.forall_mem_cons.mp houter).2, fun hfocus => absurd hf hfocus⟩
  · exact ⟨h.outer, fun hfocus => absurd hf hfocus⟩

/-- **A step keeps the places.** -/
theorem HasPlaces.step (h : m.HasPlaces) (hs : m.step goal x = .shift next) : next.HasPlaces := by
  cases hf : m.focus with
  | none => exact h.stepBetween hf (step_between hf x ▸ hs)
  | field | comparator =>
    have hcurrent := h.current (by simp [hf])
    simp only [Machine.step, hf] at hs
    split at hs
    · exact Step.shift.inj hs ▸ h
    · obtain rfl := Step.shift.inj hs
      exact ⟨h.outer, fun _ => hcurrent⟩
    · simp at hs
  | value leaf =>
    rw [step_of_value hf] at hs
    cases hm : m.settleFor goal leaf with
    | shift settled =>
      rw [hm] at hs
      obtain ⟨-, c, -, rfl⟩ := settleFor_eq_shift hm
      have hsettled : ({ m.complete with current := c } : Machine).HasPlaces :=
        ⟨h.outer, fun hfocus => absurd rfl hfocus⟩
      exact hsettled.stepBetween rfl hs
    | accept | reject => simp [hm] at hs

/-- **What is rejected stays rejected.** A call for an operation fails at some lexeme of `xs`,
whatever follows them, or reads them all and goes on. -/
theorem rejects_or_reads (h : m.HasPlaces) (xs : List Lexeme) :
    (∃ e, ∀ ys, (m.run .operation (xs ++ ys)).answer = .error e) ∨
    ∃ next : Machine, next.HasPlaces ∧
      ∀ ys, m.run .operation (xs ++ ys) = next.run .operation ys := by
  induction xs generalizing m with
  | nil => exact .inr ⟨m, h, fun _ => rfl⟩
  | cons x xs ih =>
    cases hs : m.step .operation x with
    | shift next =>
      have hrun (ys : List Lexeme) :
          m.run .operation (x :: xs ++ ys) = next.run .operation (xs ++ ys) := by
        rw [List.cons_append, run, hs]
      simp only [hrun]
      exact ih (h.step hs)
    | accept t next back => exact absurd hs (step_ne_accept m x t next back)
    | reject e next back =>
      refine .inl ⟨e, fun ys => ?_⟩
      rw [List.cons_append, run, hs]

/-! ### What is missing -/

/-- What is missing of the last operand. -/
def operandRest (m : Machine) : List Lexeme :=
  match m.focus, m.current with
  | .none, .complete _ => []
  | .none, _ => [.text "x" false, .comparator .equal, .text "x" false]
  | .field _, _ => [.comparator .equal, .text "x" false]
  | .comparator _ _, _ => [.text "x" false]
  | .value _, _ => []

/-- What is missing of the query: the rest of the last operand, and the closing brackets. -/
def completion (m : Machine) : List Lexeme :=
  m.operandRest ++ List.replicate m.outer.length .closeBracket

/-- All that is missing can be written. -/
theorem readable_of_mem_completion (hx : x ∈ m.completion) : x ≠ .blank ∧ x.Readable := by
  have hword : Lexeme.Readable (.text "x" false) := by
    refine ⟨['x'], rfl, by decide, by decide, ?_, List.forall_mem_singleton.mpr (by decide)⟩
    intro g
    cases g <;> decide
  have hequal : Lexeme.Readable (.comparator .equal) := ⟨['='], rfl⟩
  have hclose : Lexeme.Readable .closeBracket := ⟨[')'], rfl⟩
  rcases List.mem_append.mp hx with hx | hx
  · unfold operandRest at hx
    split at hx <;> simp only [List.mem_cons, List.not_mem_nil, or_false] at hx
    · rcases hx with rfl | rfl | rfl <;> simp [hword, hequal]
    · rcases hx with rfl | rfl <;> simp [hword, hequal]
    · simp [hx, hword]
  · obtain rfl := List.eq_of_mem_replicate hx
    exact ⟨nofun, hclose⟩

/-- The machine behind an operand that completes the innermost operation. -/
def behind (m : Machine) (t : Tree) (comparisons : Nat) : Machine :=
  { m with current := .complete t, focus := .none, comparisons }

/-- A comparison that is complete but for the next lexeme. -/
theorem leads_value (hm : m.current.admitOperand = .ok ()) (hl : m.comparisons < comparisonLimit)
    (hf : m.focus = .value leaf) : ∃ t k, m.Leads .operation [] (m.behind t k) := by
  obtain ⟨t, ht⟩ := OpenOperation.exists_addOperand hm (.comparison leaf)
  have hs : m.settle leaf = .ok (m.behind t (m.comparisons + 1)) :=
    settle_eq_ok_iff.mpr ⟨hl, .complete t, ht, rfl⟩
  refine ⟨t, m.comparisons + 1, fun ys => ?_⟩
  rw [List.nil_append, view_run_value hf, settleFor_operation, hs]

/-- A comparison that lacks its value. -/
theorem leads_comparator (hm : m.current.admitOperand = .ok ())
    (hl : m.comparisons < comparisonLimit) {field : String} {c : Comparator}
    (hf : m.focus = .comparator field c) (value : String) (q : Bool) :
    ∃ t k, m.Leads .operation [.text value q] (m.behind t k) := by
  have hstep : m.step .operation (.text value q) =
      .shift { m with focus := .value ⟨field, c, value⟩ } := by simp [step, hf]
  obtain ⟨t, k, hleads⟩ :=
    leads_value (m := { m with focus := .value ⟨field, c, value⟩ }) hm hl rfl
  exact ⟨t, k, Leads.cons hstep hleads⟩

/-- A comparison that lacks its comparator and its value. -/
theorem leads_field (hm : m.current.admitOperand = .ok ()) (hl : m.comparisons < comparisonLimit)
    {field : String} (hf : m.focus = .field field) (c : Comparator) (value : String) (q : Bool) :
    ∃ t k, m.Leads .operation [.comparator c, .text value q] (m.behind t k) := by
  have hstep : m.step .operation (.comparator c) =
      .shift { m with focus := .comparator field c } := by simp [step, hf]
  obtain ⟨t, k, hleads⟩ :=
    leads_comparator (m := { m with focus := .comparator field c }) hm hl rfl value q
  exact ⟨t, k, Leads.cons hstep hleads⟩

/-- **The last operand can be read to its end**, if one more comparison is allowed. -/
theorem HasPlaces.leads_operandRest (h : m.HasPlaces) (hl : m.comparisons < comparisonLimit) :
    ∃ t k, m.Leads .operation m.operandRest (m.behind t k) := by
  unfold operandRest
  split
  · next t hf hm =>
    have hbehind : m.behind t m.comparisons = m := by rw [behind, ← hf, ← hm]
    exact ⟨t, m.comparisons, hbehind ▸ Leads.refl .operation m⟩
  · next hf hm =>
    have hadmit : m.current.admitOperand = .ok () := by
      cases hc : m.current with
      | complete t => exact absurd hc (hm t)
      | empty | gated => rfl
    have hstep : m.step .operation (.text "x" false) = .shift { m with focus := .field "x" } :=
      step_field hf hadmit (by decide) false
    obtain ⟨t, k, hleads⟩ :=
      leads_field (m := { m with focus := .field "x" }) hadmit hl rfl .equal "x" false
    exact ⟨t, k, Leads.cons hstep hleads⟩
  · next field hf => exact leads_field (h.current (by simp [hf])) hl hf .equal "x" false
  · next field c hf => exact leads_comparator (h.current (by simp [hf])) hl hf "x" false
  · next leaf hf => exact leads_value (h.current (by simp [hf])) hl hf

/-- **Closing brackets close what is open**, each group becoming an operand of the operation around
it, and the call for an operation can end. -/
theorem answer_closing {t : Tree} (ho : ∀ o ∈ m.outer, o.admitOperand = .ok ())
    (hf : m.focus = .none) (hm : m.current = .complete t) :
    ∃ u, (m.run .operation (List.replicate m.outer.length .closeBracket)).answer = .ok u := by
  induction houter : m.outer generalizing m t with
  | nil =>
    refine ⟨t, ?_⟩
    rw [List.length_nil, List.replicate_zero, run, finish_between hf]
    exact finishBetween_eq_ok.mpr ⟨rfl, houter, hm⟩
  | cons around outer ih =>
    rw [houter] at ho
    obtain ⟨haround, ho⟩ := List.forall_mem_cons.mp ho
    obtain ⟨u, hu⟩ := OpenOperation.exists_addOperand haround t
    have hstep : m.step .operation .closeBracket =
        .shift { m with current := .complete u, outer, depth := m.depth - 1 } :=
      step_closeBracket hf houter hm hu (by simp)
    rw [List.length_cons, List.replicate_succ, run, hstep]
    exact ih (m := { m with current := .complete u, outer, depth := m.depth - 1 }) ho hf rfl rfl

/-- **What is missing can be supplied**, if one more comparison is allowed. -/
theorem HasPlaces.answer_completion (h : m.HasPlaces) (hl : m.comparisons < comparisonLimit) :
    ∃ t, (m.run .operation m.completion).answer = .ok t := by
  obtain ⟨t, k, hleads⟩ := h.leads_operandRest hl
  rw [completion, hleads.answer]
  exact answer_closing (m := m.behind t k) h.outer rfl rfl

end Machine

open Machine

/-! ### Queries -/

/-- The comparisons of a query count alike with its blanks and without. -/
theorem Parser.length_completions_query (query : String) :
    ((Parser.ofString query).completions .query).length =
      (start.run .operation (significant query)).machine.comparisons := by
  have hview := view_run_significant start .operation (lexemes query.toList)
  rw [← significant_eq] at hview
  have hmachine : (start.run .operation (lexemes query.toList)).machine =
      (start.run .operation (significant query)).machine := congrArg (·.2.1) hview
  have hcount := comparisons_run start .operation (lexemes query.toList)
  rw [hmachine] at hcount
  rw [completions_eq (settled_ofString query)]
  exact (hcount.trans (Nat.zero_add _)).symm

/-- The tokens of the longer query begin with those of the other, blanks aside. -/
def Extends (query longer : String) : Prop := significant query <+: significant longer

/-- Some query that goes on from this one parses. -/
def Completable (query : String) : Prop := ∃ longer t, Extends query longer ∧ parse longer = .ok t

/-- Every query that goes on from this one fails with the same error. -/
def Hopeless (query : String) (e : SyntaxError) : Prop :=
  ∀ longer, Extends query longer → parse longer = .error e

theorem Extends.refl (query : String) : Extends query query := List.prefix_refl _

theorem Hopeless.not_completable {query : String} {e : SyntaxError} (h : Hopeless query e) :
    ¬ Completable query := by
  rintro ⟨longer, t, hextends, hparse⟩
  simp [h longer hextends] at hparse

/-- **An error is raised at the first token that leaves no hope.** Take a query that fails, and in
which the parser completes fewer than `comparisonLimit` comparisons before it does. Either some
query that goes on from it parses, or all that do fail with the same error, and not both. -/
theorem completable_xor_hopeless {query : String} {e : SyntaxError} (h : parse query = .error e)
    (hl : ((Parser.ofString query).completions .query).length < comparisonLimit) :
    Xor (Completable query) (Hopeless query e) := by
  have hplaces : start.HasPlaces := ⟨by simp [start], fun hf => absurd rfl hf⟩
  rcases rejects_or_reads hplaces (significant query) with ⟨e', hrejects⟩ | ⟨next, hnext, hreads⟩
  · -- an error inside the query is there whatever follows, so also where nothing does
    have hfails : Hopeless query e' := by
      rintro longer ⟨rest, hrest⟩
      rw [parse_eq_run, ← hrest, hrejects]
    obtain rfl : e' = e := Except.error.inj ((hfails query (.refl query)).symm.trans h)
    exact .inr ⟨hfails, hfails.not_completable⟩
  · have hrun := hreads []
    rw [List.append_nil] at hrun
    have hcount : next.comparisons < comparisonLimit := by
      rw [Parser.length_completions_query, hrun] at hl
      have := next.comparisons_finish .operation
      exact Nat.lt_of_le_of_lt (this ▸ Nat.le_add_right ..) hl
    obtain ⟨t, ht⟩ := hnext.answer_completion hcount
    obtain ⟨longer, hlonger⟩ :
        ∃ longer, significant longer = significant query ++ next.completion :=
      exists_significant_eq fun x hx => (List.mem_append.mp hx).elim readable_of_mem_significant
        readable_of_mem_completion
    have hcompletable : Completable query := by
      refine ⟨longer, t, ⟨next.completion, hlonger.symm⟩, ?_⟩
      rw [parse_eq_run, hlonger, hreads, ht]
    exact .inl ⟨hcompletable, fun hfails => hfails.not_completable hcompletable⟩

/-- One query lacks a value and a bracket, and one has a bracket in the place of an operand. -/
theorem completable_xor_hopeless_of_two_endings :
    (parse "a=b AND (c>" = .error (.noValue "c" .greater) ∧
      ((Parser.ofString "a=b AND (c>").completions .query).length < comparisonLimit ∧
      Xor (Completable "a=b AND (c>") (Hopeless "a=b AND (c>" (.noValue "c" .greater))) ∧
    (parse "(a=b OR) AND c=d" = .error (.openGate .or (.comparison ⟨"a", .equal, "b"⟩)) ∧
      ((Parser.ofString "(a=b OR) AND c=d").completions .query).length < comparisonLimit ∧
      Xor (Completable "(a=b OR) AND c=d")
        (Hopeless "(a=b OR) AND c=d" (.openGate .or (.comparison ⟨"a", .equal, "b"⟩)))) := by
  have hends : parse "a=b AND (c>" = .error (.noValue "c" .greater) := by decide +kernel
  have hfails : parse "(a=b OR) AND c=d" =
      .error (.openGate .or (.comparison ⟨"a", .equal, "b"⟩)) := by decide +kernel
  have hl : ((Parser.ofString "a=b AND (c>").completions .query).length < comparisonLimit := by
    decide +kernel
  have hl' : ((Parser.ofString "(a=b OR) AND c=d").completions .query).length <
      comparisonLimit := by decide +kernel
  exact ⟨⟨hends, hl, completable_xor_hopeless hends hl⟩,
    ⟨hfails, hl', completable_xor_hopeless hfails hl'⟩⟩

end FilterQuery
