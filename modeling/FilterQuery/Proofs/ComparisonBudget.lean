import FilterQuery.Proofs.ParserCalls
import Mathlib.Algebra.Ring.Nat

/-!
# How many comparisons a parser reads

A parser counts the comparisons that it completes, over all its calls and whatever becomes of them.
`Input.completions` lists those of one call, each with the verdict of the turn that completed it,
and `Parser.allCompletions` those of a series of calls. On a settled stack they are what a run of
steps completes (`Parser.completions_eq`), and are followed there, lexeme by lexeme. The verdict
depends on nothing but the number of completions before (`Parser.map_accepted_allCompletions`), and
a completion that is refused is what its call fails with. What is accepted ends in the trees: the
leaves of an answer are what its call completed (`Parser.leaves_of_make`), so all answers together
keep within the limit. The main statement is `Parser.comparison_budget`.
-/

namespace FilterQuery

/-! ### Completions -/

/-- A comparison that was completed. -/
structure Completion where
  comparison : Comparison
  /-- Whether the call went on, rather than fail for having too many comparisons. -/
  accepted : Bool

/-- The verdicts on `count` comparisons that are completed after `before` others. -/
def verdicts (before count : Nat) : List Bool :=
  (List.range' before count).map fun i => i < comparisonLimit

theorem verdicts_add (before j k : Nat) :
    verdicts before (j + k) = verdicts before j ++ verdicts (before + j) k := by
  simp [verdicts, ← List.map_append]

/-- The error that a turn ends the call with. -/
def Turn.error? : Turn → Option SyntaxError
  | goOn _ _ _ => none
  | accept _ _ _ => none
  | reject e _ _ => some e

/-- What a turn completes: where a term has all of a comparison, the comparison. -/
def Machine.completedBy (part : Goal) (m : Machine) (turn : Turn) : List Completion :=
  match part, m.focus with
  | .term, .value leaf => [⟨leaf, turn.error? ≠ some .tooManyComparisons⟩]
  | _, _ => []

/-- The comparisons that a call completes, in order. -/
def Input.completions (goal part : Goal) (m : Machine) (input : Input) : List Completion :=
  m.completedBy part (m.turn goal part input.scan.1) ++
    match _ : m.turn goal part input.scan.1 with
    | .goOn part next back => (input.scan.2.pass input.scan.1 back).completions goal part next
    | .accept _ _ _ => []
    | .reject _ _ _ => []
  termination_by 3 * input.size + m.returns part
  decreasing_by exact measure_lt_of_turn ‹_›

/-! The same of steps and runs. -/

/-- The error that a step ends the call with. -/
def Step.error? : Step → Option SyntaxError
  | shift _ => none
  | accept _ _ _ => none
  | reject e _ _ => some e

/-- The error that a run ends with. -/
def Ending.error? (o : Ending) : Option SyntaxError :=
  match o.answer with
  | .ok _ => none
  | .error e => some e

theorem Ending.error?_eq_some_iff {o : Ending} {e : SyntaxError} :
    o.error? = some e ↔ o.answer = .error e := by
  unfold error?
  cases o.answer <;> simp

namespace Machine

/-- The comparison that the machine holds in full, which the next step completes. -/
def pending (m : Machine) : List Comparison :=
  match m.focus with
  | .value leaf => [leaf]
  | _ => []

/-- What is completed where the call ends with the error, or goes on. -/
def completed (m : Machine) (error? : Option SyntaxError) : List Completion :=
  m.pending.map fun leaf => ⟨leaf, error? ≠ some .tooManyComparisons⟩

/-- The comparisons that a run completes, in order. -/
def completions (goal : Goal) (m : Machine) : List Lexeme → List Completion
  | [] => m.completed (m.finish goal).error?
  | x :: xs => m.completed (m.step goal x).error? ++
    match m.step goal x with
    | .shift next => next.completions goal xs
    | .accept _ _ _ => []
    | .reject _ _ _ => []

@[simp] theorem length_completed (m : Machine) (error? : Option SyntaxError) :
    (m.completed error?).length = m.pending.length :=
  List.length_map _

@[simp] theorem map_comparison_completed (m : Machine) (error? : Option SyntaxError) :
    (m.completed error?).map Completion.comparison = m.pending := by
  simp [completed, Function.comp_def]

variable {m : Machine}

/-! What a step does to the count. -/

theorem comparisons_stepBetween (m : Machine) (goal : Goal) (x : Lexeme) :
    (m.stepBetween goal x).machine.comparisons = m.comparisons := by
  cases hs : m.stepBetween goal x with
  | shift next =>
    rcases stepBetween_eq_shift hs with ⟨-, rfl⟩ | ⟨-, -, -, rfl⟩ | ⟨_, _, -, -, -, rfl⟩ |
      ⟨_, _, _, _, -, -, -, -, -, rfl⟩ | ⟨_, _, -, -, -, rfl⟩ <;> rfl
  | accept t next back =>
    obtain ⟨-, -, -, _, -, -, rfl⟩ := stepBetween_eq_accept hs
    rfl
  | reject e next back =>
    obtain ⟨rfl, -⟩ := stepBetween_eq_reject hs
    rfl

theorem error?_stepBetween_ne (m : Machine) (goal : Goal) (x : Lexeme) :
    (m.stepBetween goal x).error? ≠ some .tooManyComparisons := by
  cases hs : m.stepBetween goal x with
  | shift | accept => simp [Step.error?]
  | reject e next back => simpa [Step.error?] using (stepBetween_eq_reject hs).2.2

theorem comparisons_settleFor (m : Machine) (goal : Goal) (leaf : Comparison) :
    (m.settleFor goal leaf).machine.comparisons = m.comparisons + 1 := by
  obtain ⟨c, hc⟩ := m.settleFor_machine goal leaf
  rw [hc]
  rfl

/-- A comparison is refused for the limit exactly if the limit is reached before it. -/
theorem error?_settleFor (m : Machine) (goal : Goal) (leaf : Comparison) :
    (m.settleFor goal leaf).error? = some .tooManyComparisons ↔
      comparisonLimit ≤ m.comparisons := by
  unfold settleFor
  split
  · simp only [Step.error?, true_iff]
    omega
  split
  · simp only [Step.error?, reduceCtorEq, false_iff]
    omega
  split
  next e he =>
    have hne : e ≠ .tooManyComparisons := by
      rintro rfl
      exact OpenOperation.addOperand_ne_tooMany _ _ he
    simp only [Step.error?, Option.some.injEq, hne, false_iff]
    omega
  · simp only [Step.error?, reduceCtorEq, false_iff]
    omega

/-- **A step counts what it completes.** -/
theorem comparisons_step (m : Machine) (goal : Goal) (x : Lexeme) :
    (m.step goal x).machine.comparisons = m.comparisons + m.pending.length := by
  cases hf : m.focus with
  | none =>
    rw [step_between hf, comparisons_stepBetween]
    simp [pending, hf]
  | field | comparator =>
    simp only [step, pending, hf]
    split <;> rfl
  | value leaf =>
    have hsettled := m.comparisons_settleFor goal leaf
    simp only [step_of_value hf, pending, hf, List.length_singleton]
    cases hs : m.settleFor goal leaf with
    | shift next =>
      rw [hs] at hsettled
      exact (comparisons_stepBetween next goal x).trans hsettled
    | accept | reject =>
      rw [hs] at hsettled
      exact hsettled

theorem comparisons_finish (m : Machine) (goal : Goal) :
    (m.finish goal).machine.comparisons = m.comparisons + m.pending.length := by
  cases hf : m.focus with
  | none | field | comparator => simp [finish, pending, hf]
  | value leaf =>
    have hsettled := m.comparisons_settleFor goal leaf
    simp only [finish_of_value hf, pending, hf, List.length_singleton]
    cases hs : m.settleFor goal leaf with
    | shift | accept | reject =>
      rw [hs] at hsettled
      exact hsettled

/-- **A step fails for the limit** exactly if it completes a comparison beyond it. -/
theorem error?_step (m : Machine) (goal : Goal) (x : Lexeme) :
    (m.step goal x).error? = some .tooManyComparisons ↔
      m.pending ≠ [] ∧ comparisonLimit ≤ m.comparisons := by
  cases hf : m.focus with
  | none =>
    rw [step_between hf]
    simp [pending, hf, error?_stepBetween_ne]
  | field | comparator =>
    simp only [step, pending, hf]
    split <;> simp [Step.error?]
  | value leaf =>
    have hsettled := m.error?_settleFor goal leaf
    simp only [step_of_value hf, pending, hf, ne_eq, List.cons_ne_self, not_false_iff, true_and]
    cases hs : m.settleFor goal leaf with
    | shift next =>
      rw [hs] at hsettled
      exact (iff_false_left (error?_stepBetween_ne next goal x)).mpr
        (hsettled.not.mp (by simp [Step.error?]))
    | accept | reject =>
      rw [hs] at hsettled
      exact hsettled

theorem error?_finishBetween_ne (m : Machine) (goal : Goal) (ends : Nat) :
    (Ending.mk (m.finishBetween goal) none [] ends m).error? ≠ some .tooManyComparisons := by
  have := m.finishBetween_ne_tooMany goal
  cases ha : m.finishBetween goal <;> simp_all [Ending.error?]

theorem error?_finish (m : Machine) (goal : Goal) :
    (m.finish goal).error? = some .tooManyComparisons ↔
      m.pending ≠ [] ∧ comparisonLimit ≤ m.comparisons := by
  cases hf : m.focus with
  | none =>
    simp only [finish, pending, hf, ne_eq, not_true, false_and, iff_false]
    exact error?_finishBetween_ne m goal 1
  | field | comparator => simp [finish, pending, hf, Ending.error?]
  | value leaf =>
    have hsettled := m.error?_settleFor goal leaf
    simp only [finish_of_value hf, pending, hf, ne_eq, List.cons_ne_self, not_false_iff, true_and]
    cases hs : m.settleFor goal leaf with
    | shift next =>
      rw [hs] at hsettled
      exact (iff_false_left (error?_finishBetween_ne next goal 2)).mpr
        (hsettled.not.mp (by simp [Step.error?]))
    | accept | reject =>
      rw [hs] at hsettled
      exact hsettled

/-! Calls complete what runs complete. -/

theorem completedBy_none (hf : m.focus = .none) (part : Goal) (turn : Turn) :
    m.completedBy part turn = [] := by
  cases part <;> simp [completedBy, hf]

theorem completedBy_part (m : Machine) (goal : Goal) (turn : Turn) :
    m.completedBy (m.part goal) turn = m.completed turn.error? := by
  cases hf : m.focus with
  | none => simp [completedBy_none hf, completed, pending, hf]
  | field | comparator | value => simp [part_focus (m := m), completedBy, completed, pending, hf]

theorem completed_of_ne {error? : Option SyntaxError} (h : error? ≠ some .tooManyComparisons) :
    m.completed error? = m.completed none := by
  simp [completed, h]

end Machine

namespace Input

variable {m next : Machine} {goal part part' : Goal} {input : Input} {back : Bool}

theorem completions_goOn (h : m.turn goal part input.scan.1 = .goOn part' next back) :
    input.completions goal part m = m.completedBy part (.goOn part' next back) ++
      (input.scan.2.pass input.scan.1 back).completions goal part' next := by
  rw [completions]
  split <;> simp_all

theorem completions_of_ends {turn : Turn} (h : m.turn goal part input.scan.1 = turn)
    (hends : ∀ part' next back, turn ≠ .goOn part' next back) :
    input.completions goal part m = m.completedBy part turn := by
  subst h
  rw [completions]
  split
  next part' next back hturn => exact absurd hturn (hends part' next back)
  · exact List.append_nil _
  · exact List.append_nil _

theorem completions_given_back (goal part : Goal) (m : Machine) (x : Lexeme) (xs : List Lexeme)
    (ends : Nat) : (⟨[.lexeme x], xs, ends⟩ : Input).completions goal part m =
      (⟨[], x :: xs, ends⟩ : Input).completions goal part m := by
  rw [completions]
  conv_rhs => rw [completions]
  rfl

theorem completions_nil_between (hm : m.Balanced) (hf : m.focus = .none) (goal : Goal)
    (ends : Nat) : (⟨[], [], ends⟩ : Input).completions goal (m.part goal) m = [] := by
  rw [completions_of_ends (Machine.turn_finish_between hm hf) (m.answer_ne_goOn _),
    Machine.completedBy_none hf]

theorem completions_nil (hm : m.Balanced) (goal : Goal) (ends : Nat) :
    (⟨[], [], ends⟩ : Input).completions goal (m.part goal) m = m.completions goal [] := by
  rw [Machine.completions]
  cases hf : m.focus with
  | none => simp [completions_nil_between hm hf, Machine.completed, Machine.pending, hf]
  | field | comparator =>
    have hturn : m.turn goal (m.part goal) .finish = _ :=
      Machine.turn_finish_inside (by simp [hf]) (by simp [hf])
    rw [completions_of_ends hturn (m.answer_ne_goOn _), Machine.completedBy_part]
    simp [Machine.completed, Machine.pending, hf]
  | value leaf =>
    have hturn : m.turn goal (m.part goal) .finish = _ := Machine.turn_finish_value hf
    rw [Machine.finish_of_value hf]
    cases hs : m.settleFor goal leaf with
    | accept | reject =>
      rw [hs] at hturn
      rw [completions_of_ends hturn (by simp), Machine.completedBy_part]
      rfl
    | shift next =>
      rw [hs] at hturn
      have hnext := Machine.settled_balanced hm hs
      have hagain := completions_nil_between hnext (Machine.settled_focus hs).1 goal (ends + 1)
      rw [Machine.settled_part hs] at hagain
      rw [Machine.completed_of_ne (next.error?_finishBetween_ne goal 2), completions_goOn hturn,
        Machine.completedBy_part]
      exact (congrArg (m.completed none ++ ·) hagain).trans (List.append_nil _)

/-- **A call completes what a run completes**, if nothing has been given back before it. -/
theorem completions_eq_of_nil (hm : m.Ready goal) (xs : List Lexeme) (ends : Nat) :
    (⟨[], xs, ends⟩ : Input).completions goal (m.part goal) m = m.completions goal xs := by
  induction xs generalizing m with
  | nil => exact completions_nil hm.balanced goal ends
  | cons x xs ih =>
    have htaken {m : Machine} {part : Goal} (hm : m.Ready goal)
        (h : m.turn goal part (.lexeme x) = (m.step goal x).turn goal)
        (hpart : part = m.part goal ∨ m.focus = .none) :
        (⟨[], x :: xs, ends⟩ : Input).completions goal part m = m.completions goal (x :: xs) := by
      have hdone (turn : Turn) : m.completedBy part turn = m.completed turn.error? := by
        rw [← m.completedBy_part goal turn]
        rcases hpart with rfl | hf
        · rfl
        · rw [m.completedBy_none hf, m.completedBy_none hf]
      rw [Machine.completions]
      cases hs : m.step goal x with
      | shift next =>
        rw [hs] at h
        rw [completions_goOn h, hdone]
        exact congrArg (m.completed none ++ ·) (ih (hm.step hs))
      | accept t next back | reject e next back =>
        rw [hs] at h
        rw [completions_of_ends h (by simp [Step.turn]), hdone, List.append_nil]
        rfl
    have hback {m next : Machine} {part part' : Goal}
        (h : m.turn goal part (.lexeme x) = .goOn part' next true) :
        (⟨[], x :: xs, ends⟩ : Input).completions goal part m =
          m.completedBy part (.goOn part' next true) ++
            (⟨[], x :: xs, ends⟩ : Input).completions goal part' next := by
      rw [completions_goOn h, ← completions_given_back]
      rfl
    induction Machine.taking hm x with
    | once h => exact htaken hm h (.inl rfl)
    | begins hf hgiven h =>
      rw [hback hgiven, Machine.completedBy_none hf, List.nil_append]
      exact htaken hm h (.inr hf)
    | @behind m next leaf hf hsettle hgiven _ hnext =>
      have hfocus := (Machine.settled_focus hsettle).1
      have hne : (next.step goal x).error? ≠ some .tooManyComparisons := by
        rw [Machine.step_between hfocus]
        exact next.error?_stepBetween_ne goal x
      have hnone (error? : Option SyntaxError) : next.completed error? = [] := by
        simp [Machine.completed, Machine.pending, hfocus]
      rw [hback hgiven, hnext (Machine.settled_ready hm.balanced hsettle),
        Machine.completedBy_part, Machine.completions, Machine.completions,
        Machine.step_of_settled hf hsettle, hnone, List.nil_append, m.completed_of_ne hne]
      rfl

/-- **A call on a settled input completes what a run completes.** -/
theorem completions_eq (h : input.Settled) (hm : m.Ready goal) :
    input.completions goal (m.part goal) m = m.completions goal input.stream := by
  obtain ⟨pushed, rest, ends⟩ := input
  rcases h.cases with hpushed | ⟨x, -, hpushed⟩ <;> obtain rfl : pushed = _ := hpushed
  · exact completions_eq_of_nil hm rest ends
  · exact (completions_given_back goal _ m x rest ends).trans
      (completions_eq_of_nil hm (x :: rest) ends)

end Input

namespace Machine

variable {m : Machine}

/-! Runs, by induction on the lexemes. -/

/-- **A run counts what it completes.** -/
theorem comparisons_run (m : Machine) (goal : Goal) (xs : List Lexeme) :
    (m.run goal xs).machine.comparisons = m.comparisons + (m.completions goal xs).length := by
  induction xs generalizing m with
  | nil => simpa [completions, run] using m.comparisons_finish goal
  | cons x xs ih =>
    have hstep := m.comparisons_step goal x
    rw [run, completions]
    cases hs : m.step goal x with
    | shift next =>
      rw [hs] at hstep
      have hnext : next.comparisons = m.comparisons + m.pending.length := hstep
      simp only [ih, List.length_append, length_completed, hnext, Nat.add_assoc]
    | accept | reject =>
      rw [hs] at hstep
      rw [List.append_nil, length_completed]
      exact hstep

theorem map_accepted_completed {error? : Option SyntaxError}
    (h : error? = some .tooManyComparisons ↔ m.pending ≠ [] ∧ comparisonLimit ≤ m.comparisons) :
    (m.completed error?).map Completion.accepted = verdicts m.comparisons m.pending.length := by
  cases hf : m.focus with
  | none | field | comparator => simp [completed, pending, hf, verdicts]
  | value leaf =>
    have : error? = some .tooManyComparisons ↔ comparisonLimit ≤ m.comparisons := by
      simpa [pending, hf] using h
    simp [completed, pending, hf, verdicts, this]

/-- **The verdict on a completion** is a matter of how many there were before. -/
theorem map_accepted_completions (m : Machine) (goal : Goal) (xs : List Lexeme) :
    (m.completions goal xs).map Completion.accepted =
      verdicts m.comparisons (m.completions goal xs).length := by
  induction xs generalizing m with
  | nil => simpa [completions] using map_accepted_completed (m.error?_finish goal)
  | cons x xs ih =>
    have hstep := m.comparisons_step goal x
    have hverdict := map_accepted_completed (m.error?_step goal x)
    rw [completions]
    cases hs : m.step goal x with
    | shift next =>
      rw [hs] at hstep hverdict
      have hnext : next.comparisons = m.comparisons + m.pending.length := hstep
      rw [List.map_append, hverdict, ih, List.length_append, verdicts_add, length_completed, hnext]
    | accept | reject =>
      rw [hs] at hverdict
      simpa using hverdict

theorem exists_refused_completed {error? : Option SyntaxError}
    (h : error? = some .tooManyComparisons → m.pending ≠ []) :
    (∃ done ∈ m.completed error?, done.accepted = false) ↔ error? = some .tooManyComparisons := by
  cases hf : m.focus with
  | none | field | comparator =>
    have : error? ≠ some .tooManyComparisons := fun he => h he (by simp [pending, hf])
    simp [completed, pending, hf, this]
  | value leaf => simp [completed, pending, hf]

/-- **A run fails for the limit** exactly if it has a completion refused. -/
theorem exists_refused_completions (m : Machine) (goal : Goal) (xs : List Lexeme) :
    (∃ done ∈ m.completions goal xs, done.accepted = false) ↔
      (m.run goal xs).error? = some .tooManyComparisons := by
  induction xs generalizing m with
  | nil => exact exists_refused_completed fun he => ((m.error?_finish goal).mp he).1
  | cons x xs ih =>
    have hstep := exists_refused_completed fun he => ((m.error?_step goal x).mp he).1
    rw [completions, run]
    cases hs : m.step goal x with
    | shift next =>
      rw [hs] at hstep
      have hnone : ¬ ∃ done ∈ m.completed none, done.accepted = false :=
        hstep.not.mpr (by simp [Step.error?])
      simp only [List.mem_append, or_and_right, exists_or]
      exact (or_iff_right hnone).trans (ih next)
    | accept | reject =>
      rw [hs] at hstep
      rw [List.append_nil]
      exact hstep

end Machine

/-! ### Answers -/

/-- The comparisons in an open operation. -/
def OpenOperation.leaves : OpenOperation → List Comparison
  | empty => []
  | complete t => t.leaves
  | gated t _ => t.leaves

/-- The comparisons in the operations around the open brackets, the outermost first. -/
def OpenOperation.outerLeaves : List OpenOperation → List Comparison
  | [] => []
  | o :: outer => outerLeaves outer ++ o.leaves

theorem OpenOperation.leaves_addOperand {o c : OpenOperation} {t : Tree}
    (h : o.addOperand t = .ok c) : c.leaves = o.leaves ++ t.leaves := by
  cases o with
  | empty =>
    obtain rfl : .complete t = c := by simpa [addOperand] using h
    rfl
  | gated left g =>
    obtain rfl : .complete (.join left g t) = c := by simpa [addOperand] using h
    rfl
  | complete left => simp [addOperand] at h

/-- The outermost of an operation and those around it. -/
def OpenOperation.outermost (o : OpenOperation) : List OpenOperation → OpenOperation
  | [] => o
  | around :: outer => around.outermost outer

theorem OpenOperation.outermost_of_ne_nil {outer : List OpenOperation} (h : outer ≠ [])
    (o o' : OpenOperation) : o.outermost outer = o'.outermost outer := by
  cases outer with
  | nil => exact absurd rfl h
  | cons around outer => rfl

namespace Machine

/-- **What has been completed is in the open operations.** In a call for a term the outermost is
empty, since the call ends with its first operand. -/
structure Holds (goal : Goal) (m : Machine) (done : List Comparison) : Prop where
  leaves : OpenOperation.outerLeaves m.outer ++ m.current.leaves = done
  outermost : goal = .term → m.current.outermost m.outer = .empty

namespace Holds

variable {m next : Machine} {goal : Goal} {x : Lexeme} {done : List Comparison} {leaf : Comparison}
  {t : Tree} {back : Bool}

theorem stepBetween_shift (h : m.Holds goal done) (hs : m.stepBetween goal x = .shift next) :
    next.Holds goal done := by
  obtain ⟨hleaves, hout⟩ := h
  rcases stepBetween_eq_shift hs with ⟨-, rfl⟩ | ⟨-, -, -, rfl⟩ | ⟨_, _, -, -, -, rfl⟩ |
    ⟨around, outer, t, c, -, ho, hm, hc, hterm, rfl⟩ | ⟨g, c, -, hterm, hg, rfl⟩
  · exact ⟨hleaves, hout⟩
  · exact ⟨(List.append_nil _).trans hleaves, hout⟩
  · exact ⟨hleaves, hout⟩
  · rw [ho, hm] at hleaves
    rw [ho] at hout
    refine ⟨?_, fun hgoal => ?_⟩
    · rw [OpenOperation.leaves_addOperand hc, ← List.append_assoc]
      exact hleaves
    · rw [OpenOperation.outermost_of_ne_nil (hterm hgoal) c around]
      exact hout hgoal
  · obtain ⟨t, hm, rfl⟩ := OpenOperation.addGate_eq_ok hg
    rw [hm] at hleaves hout
    refine ⟨hleaves, fun hgoal => ?_⟩
    rw [OpenOperation.outermost_of_ne_nil (hterm hgoal) _ (.complete t)]
    exact hout hgoal

theorem stepBetween_accept (h : m.Holds goal done)
    (hs : m.stepBetween goal x = .accept t next back) : t.leaves = done := by
  obtain ⟨hgoal, -, -, around, ho, hm, -⟩ := stepBetween_eq_accept hs
  have hleaves := h.leaves
  have haround : around = .empty := by simpa [ho, OpenOperation.outermost] using h.outermost hgoal
  simpa [ho, hm, haround, OpenOperation.outerLeaves, OpenOperation.leaves] using hleaves

/-- A comparison that is settled joins what is held. -/
theorem settleFor_shift (h : m.Holds goal done) (hs : m.settleFor goal leaf = .shift next) :
    next.Holds goal (done ++ [leaf]) := by
  obtain ⟨hterm, c, hc, rfl⟩ := settleFor_eq_shift hs
  refine ⟨?_, fun hgoal => ?_⟩
  · rw [OpenOperation.leaves_addOperand hc, ← List.append_assoc, ← h.leaves]
    rfl
  · rw [← h.outermost hgoal]
    have houter : m.outer ≠ [] := fun ho => hterm (atTerm_iff.mpr ⟨hgoal, ho⟩)
    exact OpenOperation.outermost_of_ne_nil houter c m.current

/-- A comparison that is the answer joins nothing. -/
theorem settleFor_accept (h : m.Holds goal done)
    (hs : m.settleFor goal leaf = .accept t next back) : t.leaves = done ++ [leaf] := by
  obtain ⟨-, hterm, rfl, -, -⟩ := settleFor_eq_accept_iff.mp hs
  obtain ⟨hgoal, ho⟩ := atTerm_iff.mp hterm
  have ho : m.outer = [] := ho
  have hm : m.current = .empty := by simpa [ho, OpenOperation.outermost] using h.outermost hgoal
  rw [← h.leaves, ho, hm]
  rfl

/-- **A step adds what it completes** to what is held. -/
theorem step_shift (h : m.Holds goal done) (hs : m.step goal x = .shift next) :
    next.Holds goal (done ++ m.pending) := by
  cases hf : m.focus with
  | none =>
    rw [step_between hf] at hs
    simpa [pending, hf] using h.stepBetween_shift hs
  | field | comparator =>
    simp only [step, hf] at hs
    have hpending : m.pending = [] := by simp [pending, hf]
    rw [hpending, List.append_nil]
    split at hs
    · exact Step.shift.inj hs ▸ h
    · obtain rfl := Step.shift.inj hs
      exact ⟨h.leaves, h.outermost⟩
    · simp at hs
  | value leaf =>
    rw [step_of_value hf] at hs
    simp only [pending, hf]
    cases hm : m.settleFor goal leaf with
    | shift settled =>
      rw [hm] at hs
      exact (h.settleFor_shift hm).stepBetween_shift hs
    | accept | reject => simp [hm] at hs

theorem step_accept (h : m.Holds goal done) (hs : m.step goal x = .accept t next back) :
    t.leaves = done ++ m.pending := by
  cases hf : m.focus with
  | none =>
    rw [step_between hf] at hs
    simpa [pending, hf] using h.stepBetween_accept hs
  | field | comparator =>
    simp only [step, hf] at hs
    split at hs <;> simp at hs
  | value leaf =>
    rw [step_of_value hf] at hs
    simp only [pending, hf]
    cases hm : m.settleFor goal leaf with
    | shift settled =>
      rw [hm] at hs
      exact (h.settleFor_shift hm).stepBetween_accept hs
    | accept u settled b =>
      rw [hm] at hs
      obtain ⟨rfl, -, -⟩ := Step.accept.inj hs
      exact h.settleFor_accept hm
    | reject => simp [hm] at hs

theorem finishBetween (h : m.Holds goal done) (ht : m.finishBetween goal = .ok t) :
    t.leaves = done := by
  obtain ⟨-, ho, hm⟩ := finishBetween_eq_ok.mp ht
  rw [← h.leaves, ho, hm]
  rfl

theorem finish (h : m.Holds goal done) (ht : (m.finish goal).answer = .ok t) :
    t.leaves = done ++ m.pending := by
  cases hf : m.focus with
  | none =>
    rw [finish_between hf] at ht
    simpa [pending, hf] using h.finishBetween ht
  | field | comparator => simp [Machine.finish, hf] at ht
  | value leaf =>
    rw [finish_of_value hf] at ht
    simp only [pending, hf]
    cases hm : m.settleFor goal leaf with
    | shift settled =>
      rw [hm] at ht
      exact (h.settleFor_shift hm).finishBetween ht
    | accept u settled b =>
      rw [hm] at ht
      obtain rfl := Except.ok.inj ht
      exact h.settleFor_accept hm
    | reject => simp [hm] at ht

/-- **An answer holds what its run completed**, nothing else, and in order. -/
theorem run {xs : List Lexeme} (h : m.Holds goal done) (ht : (m.run goal xs).answer = .ok t) :
    t.leaves = done ++ (m.completions goal xs).map Completion.comparison := by
  induction xs generalizing m done with
  | nil => simpa [completions] using h.finish ht
  | cons x xs ih =>
    rw [Machine.run] at ht
    rw [completions]
    cases hs : m.step goal x with
    | shift next =>
      rw [hs] at ht
      simpa [List.append_assoc] using ih (h.step_shift hs) ht
    | accept u next back =>
      rw [hs] at ht
      obtain rfl := Except.ok.inj ht
      simpa using h.step_accept hs
    | reject => simp [hs] at ht

end Holds

end Machine

/-! ### Series of calls -/

namespace Parser

variable {p : Parser} {c : Call} {t : Tree}

/-- The comparisons that a call completes, in order. -/
def completions (p : Parser) (c : Call) : List Completion :=
  p.toInput.completions c.goal c.goal p.begin

/-- The comparisons that a series of calls completes, in order. -/
def allCompletions (p : Parser) : List Call → List Completion
  | [] => []
  | c :: calls => p.completions c ++ (p.make c).2.allCompletions calls

theorem completions_eq (h : p.Settled) (c : Call) :
    p.completions c = p.begin.completions c.goal p.stream := by
  have hcompletions := Input.completions_eq h.toSettled (begin_ready h.depth_eq c.goal)
  rwa [part_begin] at hcompletions

theorem comparisons_make (h : p.Settled) (c : Call) :
    (p.make c).2.comparisons = p.comparisons + (p.completions c).length := by
  rw [make_eq, call_eq h, completions_eq h]
  exact p.begin.comparisons_run c.goal p.stream

theorem map_accepted_completions (h : p.Settled) (c : Call) :
    (p.completions c).map Completion.accepted =
      verdicts p.comparisons (p.completions c).length := by
  rw [completions_eq h]
  exact p.begin.map_accepted_completions c.goal p.stream

theorem exists_refused (h : p.Settled) (c : Call) :
    (∃ done ∈ p.completions c, done.accepted = false) ↔
      (p.make c).1 = .error .tooManyComparisons := by
  rw [make_eq, call_eq h, completions_eq h]
  exact (p.begin.exists_refused_completions c.goal p.stream).trans Ending.error?_eq_some_iff

/-- **An answer holds what its call completed.** -/
theorem leaves_of_make (h : p.Settled) (ht : (p.make c).1 = .ok t) :
    t.leaves = (p.completions c).map Completion.comparison := by
  have hbegin : p.begin.Holds c.goal [] := ⟨rfl, fun _ => rfl⟩
  rw [make_eq, call_eq h] at ht
  rw [completions_eq h]
  exact hbegin.run ht

theorem count_of_make (h : p.Settled) (ht : (p.make c).1 = .ok t) :
    t.count = (p.completions c).length := by
  rw [← t.length_leaves, leaves_of_make h ht, List.length_map]

/-- A call that succeeds stays within the limit. -/
theorem comparisons_add_count_le (h : p.Settled) (ht : (p.make c).1 = .ok t) :
    p.comparisons + t.count ≤ comparisonLimit := by
  have hpos : 0 < t.count := t.count_pos
  -- the verdict on the last completion
  have hlast : decide (p.comparisons + (t.count - 1) < comparisonLimit) ∈
      (p.completions c).map Completion.accepted := by
    rw [map_accepted_completions h, ← count_of_make h ht]
    exact List.mem_map.mpr ⟨_, by rw [List.mem_range'_1]; omega, rfl⟩
  obtain ⟨done, hdone, hverdict⟩ := List.mem_map.mp hlast
  have haccepted : done.accepted ≠ false := fun hrefused => by
    have := (exists_refused h c).mp ⟨done, hdone, hrefused⟩
    simp [ht] at this
  have : p.comparisons + (t.count - 1) < comparisonLimit := by simpa [hverdict] using haccepted
  omega

/-! What holds of each call, with the count that it begins with, holds of the series. -/

theorem comparisons_afterAll (h : p.Settled) (calls : List Call) :
    (p.afterAll calls).comparisons = p.comparisons + (p.allCompletions calls).length := by
  induction calls generalizing p with
  | nil => rfl
  | cons c calls ih =>
    rw [afterAll, ih (settled_make h c), comparisons_make h, allCompletions, List.length_append,
      Nat.add_assoc]

/-- **The verdict on a completion** depends on how many there were before, in whatever call. -/
theorem map_accepted_allCompletions (h : p.Settled) (calls : List Call) :
    (p.allCompletions calls).map Completion.accepted =
      verdicts p.comparisons (p.allCompletions calls).length := by
  induction calls generalizing p with
  | nil => rfl
  | cons c calls ih =>
    rw [allCompletions, List.map_append, map_accepted_completions h, ih (settled_make h c),
      comparisons_make h, List.length_append, verdicts_add]

theorem accepted_getElem (h : p.Settled) {calls : List Call} {i : Nat}
    (hi : i < (p.allCompletions calls).length) :
    (p.allCompletions calls)[i].accepted ↔ p.comparisons + i < comparisonLimit := by
  have hverdicts := congrArg (·[i]?) (map_accepted_allCompletions h calls)
  have : (p.allCompletions calls)[i].accepted = decide (p.comparisons + i < comparisonLimit) := by
    simpa [verdicts, hi] using hverdicts
  rw [this, decide_eq_true_iff]

/-- The comparisons in an answer. -/
def answerCount : Except SyntaxError Tree → Nat
  | .ok t => t.count
  | .error _ => 0

theorem sum_answerCount_le (h : p.Settled) (calls : List Call) :
    ((p.answers calls).map fun a => answerCount a.2).sum ≤ comparisonLimit - p.comparisons := by
  induction calls generalizing p with
  | nil => exact Nat.zero_le _
  | cons c calls ih =>
    have hrest := ih (settled_make h c)
    rw [comparisons_make h] at hrest
    rw [answers, List.map_cons, List.sum_cons]
    cases ha : (p.make c).1 with
    | error e =>
      rw [answerCount]
      omega
    | ok t =>
      have hle := comparisons_add_count_le h ha
      rw [← count_of_make h ha] at hrest
      rw [answerCount]
      omega

/-- **How many comparisons a parser reads.** Take any series of calls on a query. The first
`comparisonLimit` comparisons that they complete are accepted and no other is, whatever calls they
are in and whatever becomes of the calls; and a call fails for the limit exactly if one of its
comparisons is not accepted. All answers together have no more comparisons than that, and after the
first call, if it succeeds, the count is that of its tree. -/
theorem comparison_budget (query : String) (calls : List Call) :
    let p := ofString query
    (∀ i (h : i < (p.allCompletions calls).length),
      (p.allCompletions calls)[i].accepted ↔ i < comparisonLimit) ∧
    (∀ earlier c later, calls = earlier ++ c :: later →
      ((∃ done ∈ (p.afterAll earlier).completions c, done.accepted = false) ↔
        ((p.afterAll earlier).make c).1 = .error .tooManyComparisons)) ∧
    SyntaxError.tooManyComparisons.reason = "query has more than 1024 comparisons" ∧
    (p.afterAll calls).comparisons = (p.allCompletions calls).length ∧
    ((p.answers calls).map fun a => answerCount a.2).sum ≤ comparisonLimit ∧
    ∀ c t, (p.make c).1 = .ok t → (p.make c).2.comparisons = t.count := by
  intro p
  have hp : p.Settled := settled_ofString query
  refine ⟨fun i h => ?_, fun earlier c _ _ => exists_refused (settled_afterAll hp earlier) c, rfl,
    ?_, ?_, fun c t ht => ?_⟩
  · rw [accepted_getElem hp h]
    exact iff_of_eq (congrArg (· < comparisonLimit) (Nat.zero_add i))
  · rw [comparisons_afterAll hp]
    exact Nat.zero_add _
  · exact sum_answerCount_le hp calls
  · rw [comparisons_make hp, count_of_make hp ht]
    exact Nat.zero_add _

end Parser

end FilterQuery
