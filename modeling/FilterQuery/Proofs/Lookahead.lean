import FilterQuery.Proofs.Steps
import FilterQuery.Proofs.TokenStack

/-!
# Calls as runs

A lexeme is taken for good at once, or it is given back and taken by what looks at it next: a text
goes from an operation to the term that it begins, and what is found behind a comparison goes from
the term to the operation around it (`Machine.Taking`). Either way the turns come to one step of the
machine, so a call on an input with a settled stack is a run over the lexemes that are to be read.
The main statement is `Input.read_eq_run`.
-/

namespace FilterQuery

namespace Machine

/-- As part of what the machine looks at its next token. -/
def part (goal : Goal) (m : Machine) : Goal :=
  if m.focus = .none ∧ ¬ m.atTerm goal then .operation else .term

/-- All open brackets were opened in this call, and where the term that was asked for begins, an
operand may. -/
structure Ready (goal : Goal) (m : Machine) : Prop where
  balanced : m.Balanced
  admits : m.atTerm goal → m.current.admitOperand = .ok ()

end Machine

/-- The turn that takes the lexeme for good. -/
def Step.turn (goal : Goal) : Step → Turn
  | shift m => .goOn (m.part goal) m false
  | accept tree m back => .accept tree m back
  | reject e m back => .reject e m back

namespace Machine

variable {m next : Machine} {leaf : Comparison} {goal : Goal} {x : Lexeme}

theorem part_operation (hf : m.focus = .none) (hterm : ¬ m.atTerm goal) :
    m.part goal = .operation :=
  if_pos ⟨hf, hterm⟩

theorem part_atTerm (hterm : m.atTerm goal) : m.part goal = .term :=
  if_neg fun h => h.2 hterm

theorem part_focus (hf : m.focus ≠ .none) : m.part goal = .term :=
  if_neg fun h => hf h.1

/-! ### Turns that take a lexeme for good -/

theorem turn_shiftIf {result : Except SyntaxError Machine}
    (h : ∀ next, result = .ok next → next.part goal = .operation) :
    (m.shiftIf false result).turn goal = m.goOnIf result := by
  cases result with
  | error e => rfl
  | ok next => simp [shiftIf, goOnIf, Step.turn, h]

theorem part_of_openGroup (hf : m.focus = .none) (h : m.openGroup = .ok next) :
    next.part goal = .operation := by
  obtain ⟨-, rfl⟩ := openGroup_eq_ok.mp h
  exact part_operation hf (by simp [atTerm, opened])

theorem turn_closeBracket (hm : m.Balanced) (hf : m.focus = .none) :
    (m.closeBracket goal).turn goal = m.closeGroup goal := by
  unfold Balanced at hm
  unfold closeBracket closeGroup
  cases ho : m.outer with
  | nil =>
    have hdepth : m.depth = 0 := by rw [hm, ho, List.length_nil]
    rw [if_pos hdepth, Step.turn]
  | cons around outer =>
    have hdepth : m.depth ≠ 0 := by simp [hm, ho]
    rw [if_neg hdepth]
    cases m.current.close .emptyGroup with
    | error e => rfl
    | ok tree =>
      dsimp only
      split
      · rfl
      next hterm =>
        refine turn_shiftIf fun next h => ?_
        obtain ⟨c, -, h⟩ := bind_eq_ok.mp h
        exact pure_eq_ok.mp h ▸ part_operation hf hterm

/-- An operation takes every lexeme but a text. -/
theorem turn_operation (hm : m.Balanced) (hf : m.focus = .none) (hterm : ¬ m.atTerm goal)
    (hx : ∀ literal quoted, x ≠ .text literal quoted) :
    m.turn goal .operation (.lexeme x) = (m.stepBetween goal x).turn goal := by
  cases x with
  | text literal quoted => exact absurd rfl (hx literal quoted)
  | blank => simp [turn, operationTurn, stepBetween, Step.turn, part_operation hf hterm]
  | openBracket =>
    refine (turn_shiftIf fun next h => ?_).symm
    obtain ⟨-, -, h⟩ := bind_eq_ok.mp h
    exact part_of_openGroup hf h
  | closeBracket => simp [turn, operationTurn, stepBetween, hterm, turn_closeBracket hm hf]
  | gate g =>
    rw [stepBetween_gate, if_neg hterm]
    refine (turn_shiftIf fun next h => ?_).symm
    obtain ⟨c, -, h⟩ := bind_eq_ok.mp h
    exact pure_eq_ok.mp h ▸ part_operation hf hterm
  | comparator c | bang => simp [turn, operationTurn, stepBetween, hterm, Step.turn]

/-- A term takes the field of its comparison. -/
theorem termTurn_text (hf : m.focus = .none) (hm : m.current.admitOperand = .ok ())
    (literal : String) (quoted : Bool) : m.termTurn goal (.lexeme (.text literal quoted)) =
      (m.stepBetween goal (.text literal quoted)).turn goal := by
  have hbegin : m.beginField literal =
      if literal = "" then .error .emptyField else .ok { m with focus := .field literal } := by
    rw [beginField, hm]
    by_cases h : literal = "" <;> simp only [h, if_true, if_false] <;> rfl
  rw [termTurn, stepBetween, hbegin, hf]
  by_cases h : literal = ""
  · simp [h, shiftIf, Step.turn]
  · simp [h, shiftIf, Step.turn, part_focus]

/-- The term that was asked for takes whatever it begins with. -/
theorem termTurn_atTerm (hf : m.focus = .none) (hterm : m.atTerm goal) (hm : m.Ready goal)
    (x : Lexeme) : m.termTurn goal (.lexeme x) = (m.stepBetween goal x).turn goal := by
  cases x with
  | text literal quoted => exact termTurn_text hf (hm.admits hterm) literal quoted
  | blank => simp [termTurn, hf, stepBetween, Step.turn, part_atTerm hterm]
  | openBracket =>
    have hopen : m.openBracket = m.openGroup := by
      rw [openBracket, hm.admits hterm]
      rfl
    rw [termTurn, hf, stepBetween, hopen]
    exact (turn_shiftIf fun next => part_of_openGroup hf).symm
  | closeBracket | gate | comparator | bang =>
    simp [termTurn, hf, stepBetween, hterm, Step.turn]

/-- A term takes whatever stands behind its field or its comparator. -/
theorem termTurn_inside (hnone : m.focus ≠ .none) (hvalue : ∀ leaf, m.focus ≠ .value leaf)
    (x : Lexeme) : m.termTurn goal (.lexeme x) = (m.step goal x).turn goal := by
  cases hf : m.focus with
  | none => exact absurd hf hnone
  | value leaf => exact absurd hf (hvalue leaf)
  | field | comparator => cases x <;> simp [termTurn, step, hf, Step.turn, part_focus]

/-! ### Turns that give a lexeme back -/

theorem termTurn_value (hf : m.focus = .value leaf) (t : Token) :
    m.termTurn goal t = m.endComparison goal leaf (t ≠ .finish ∧ t ≠ .lexeme .blank) := by
  simp [termTurn, hf]

/-- The token behind a comparison has no part in how it ends. -/
theorem endComparison_eq (m : Machine) (goal : Goal) (leaf : Comparison) (back : Bool) :
    m.endComparison goal leaf back = match m.settleFor goal leaf with
      | .shift next => .goOn .operation next back
      | .accept t next _ => .accept t next back
      | .reject e next _ => .reject e next back := by
  unfold endComparison settleFor
  by_cases hl : m.comparisons + 1 > comparisonLimit
  · simp [complete, hl]
  by_cases ht : m.complete.atTerm goal
  · simp only [complete] at ht
    simp [complete, hl, ht]
  · simp only [complete] at ht
    simp only [complete, hl, ht]
    cases m.current.addOperand (.comparison leaf) <;> rfl

/-- The ways to take the lexeme `x`. -/
inductive Taking (goal : Goal) (x : Lexeme) : Machine → Prop where
  /-- It is taken at once. -/
  | once {m : Machine} (h : m.turn goal (m.part goal) (.lexeme x) = (m.step goal x).turn goal) :
    Taking goal x m
  /-- An operation gives it back to a term. -/
  | begins {m : Machine} (hf : m.focus = .none)
      (hback : m.turn goal (m.part goal) (.lexeme x) = .goOn .term m true)
      (h : m.turn goal .term (.lexeme x) = (m.step goal x).turn goal) : Taking goal x m
  /-- A term gives it back to the operation around it. -/
  | behind {m next : Machine} {leaf : Comparison} (hf : m.focus = .value leaf)
      (hsettle : m.settleFor goal leaf = .shift next)
      (hback : m.turn goal (m.part goal) (.lexeme x) = .goOn (next.part goal) next true)
      (hnext : Taking goal x next) : Taking goal x m

theorem taking_between (hm : m.Ready goal) (hf : m.focus = .none) (x : Lexeme) :
    Taking goal x m := by
  by_cases hterm : m.atTerm goal
  · refine .once ?_
    rw [part_atTerm hterm, step_between hf]
    exact termTurn_atTerm hf hterm hm x
  have hpart : m.part goal = .operation := part_operation hf hterm
  cases x with
  | text literal quoted =>
    cases hadmit : m.current.admitOperand with
    | error e =>
      refine .once ?_
      rw [hpart, step_between hf]
      simp [turn, operationTurn, hadmit, stepBetween, beginField, shiftIf, Step.turn, bind,
        Except.bind]
    | ok =>
      refine .begins hf ?_ (step_between hf _ ▸ termTurn_text hf hadmit literal quoted)
      rw [hpart]
      simp [turn, operationTurn, hadmit, ← hf]
  | _ =>
    refine .once ?_
    rw [hpart, step_between hf]
    exact turn_operation hm.balanced hf hterm fun _ _ => by simp

theorem settled_focus (h : m.settleFor goal leaf = .shift next) :
    next.focus = .none ∧ ¬ next.atTerm goal := by
  obtain ⟨hterm, c, -, rfl⟩ := settleFor_eq_shift h
  exact ⟨rfl, hterm⟩

theorem settled_part (h : m.settleFor goal leaf = .shift next) : next.part goal = .operation :=
  part_operation (settled_focus h).1 (settled_focus h).2

theorem settled_balanced (hm : m.Balanced) (h : m.settleFor goal leaf = .shift next) :
    next.Balanced := by
  have := hm.settleFor goal leaf
  rwa [h] at this

theorem settled_ready (hm : m.Balanced) (h : m.settleFor goal leaf = .shift next) :
    next.Ready goal :=
  ⟨settled_balanced hm h, fun hterm => absurd hterm (settled_focus h).2⟩

/-- Settling a comparison is no part of the step that takes the lexeme behind it. -/
theorem step_of_settled (hf : m.focus = .value leaf) (h : m.settleFor goal leaf = .shift next)
    (x : Lexeme) : m.step goal x = next.step goal x := by
  rw [step_of_value hf, h, step_between (settled_focus h).1]

/-- **However a lexeme is taken, it comes to one step.** -/
theorem taking (hm : m.Ready goal) (x : Lexeme) : Taking goal x m := by
  cases hf : m.focus with
  | none => exact taking_between hm hf x
  | field | comparator =>
    refine .once ?_
    rw [part_focus (by simp [hf])]
    exact termTurn_inside (by simp [hf]) (by simp [hf]) x
  | value leaf =>
    have hturn : m.turn goal (m.part goal) (.lexeme x) =
        m.endComparison goal leaf (x ≠ .blank) := by
      rw [part_focus (by simp [hf]), turn, termTurn_value hf]
      simp
    rw [endComparison_eq] at hturn
    have hstep := step_of_value hf goal x
    cases hs : m.settleFor goal leaf with
    | accept | reject =>
      rw [hs] at hturn hstep
      exact .once (by rw [hturn, hstep, Step.turn])
    | shift next =>
      rw [hs] at hturn hstep
      by_cases hx : x = .blank
      · refine .once ?_
        rw [hturn, hstep, hx]
        simp [stepBetween, Step.turn, settled_part hs]
      · have hready := settled_ready hm.balanced hs
        refine .behind hf hs ?_ (taking_between hready (settled_focus hs).1 x)
        simpa [hx, settled_part hs] using hturn

theorem Ready.stepBetween (hm : m.Ready goal) (hs : m.stepBetween goal x = .shift next) :
    next.Ready goal := by
  have hbalanced := hm.balanced.stepBetween goal x
  rw [hs] at hbalanced
  refine ⟨hbalanced, ?_⟩
  rcases stepBetween_eq_shift hs with ⟨-, rfl⟩ | ⟨-, -, -, rfl⟩ | ⟨_, _, -, -, -, rfl⟩ |
    ⟨_, outer, _, _, -, -, -, -, hterm, rfl⟩ | ⟨_, _, -, hterm, -, rfl⟩
  · exact hm.admits
  · intro h
    simp [atTerm, opened] at h
  · exact hm.admits
  · intro h
    obtain ⟨hgoal, ho⟩ := atTerm_iff.mp h
    exact absurd ho (hterm hgoal)
  · intro h
    obtain ⟨hgoal, ho⟩ := atTerm_iff.mp h
    exact absurd ho (hterm hgoal)

/-- A step leaves the machine ready. -/
theorem Ready.step (hm : m.Ready goal) (hs : m.step goal x = .shift next) : next.Ready goal := by
  cases hf : m.focus with
  | none => exact hm.stepBetween (step_between hf x ▸ hs)
  | field | comparator =>
    simp only [Machine.step, hf] at hs
    split at hs
    · exact Step.shift.inj hs ▸ hm
    · exact Step.shift.inj hs ▸ ⟨hm.balanced, hm.admits⟩
    · simp at hs
  | value leaf =>
    rw [step_of_value hf] at hs
    cases hsettle : m.settleFor goal leaf with
    | shift settled =>
      rw [hsettle] at hs
      exact (settled_ready hm.balanced hsettle).stepBetween hs
    | accept | reject => simp [hsettle] at hs

/-! ### Turns at the end of the text -/

theorem turn_finish_between (hm : m.Balanced) (hf : m.focus = .none) :
    m.turn goal (m.part goal) .finish = m.answer (m.finishBetween goal) := by
  unfold Balanced at hm
  unfold finishBetween
  by_cases hterm : m.atTerm goal
  · simp [part_atTerm hterm, turn, termTurn, hf, hterm, answer]
  · have hfinish : m.finishOperation =
        if m.outer.isEmpty then m.current.close .emptyQuery else .error .unclosedBracket := by
      cases ho : m.outer <;> simp [finishOperation, hm, ho]
    simp [part_operation hf hterm, turn, operationTurn, hterm, hfinish]

theorem turn_finish_inside (hnone : m.focus ≠ .none) (hvalue : ∀ leaf, m.focus ≠ .value leaf) :
    m.turn goal (m.part goal) .finish = m.answer (m.finish goal).answer := by
  rw [part_focus hnone]
  cases hf : m.focus with
  | none => exact absurd hf hnone
  | value leaf => exact absurd hf (hvalue leaf)
  | field | comparator => simp [turn, termTurn, finish, hf, answer]

theorem turn_finish_value (hf : m.focus = .value leaf) :
    m.turn goal (m.part goal) .finish = match m.settleFor goal leaf with
      | .shift next => .goOn .operation next false
      | .accept t next _ => .accept t next false
      | .reject e next _ => .reject e next false := by
  rw [part_focus (by simp [hf]), turn, termTurn_value hf, endComparison_eq]
  simp

end Machine

/-! ### Calls -/

/-- The lexemes that are still to be read. -/
def Input.stream (input : Input) : List Lexeme :=
  input.pushed.filterMap (fun t => match t with
    | .lexeme x => some x
    | .finish => none) ++ input.rest

/-- The end of the run as the end of a call, with an input that has seen the end of the text `ends`
times before. -/
def Ending.outcome (o : Ending) (ends : Nat) : Outcome where
  pushed := o.pushed.toList.map .lexeme
  rest := o.rest
  ends := ends + o.ends
  answer := o.answer
  machine := o.machine

theorem Ending.stream_outcome (o : Ending) (ends : Nat) : (o.outcome ends).stream = o.stream := by
  cases h : o.pushed <;> simp [Input.stream, Ending.outcome, Ending.stream, h]

namespace Input

variable {m next : Machine} {goal part part' : Goal} {input : Input} {back : Bool}

theorem read_goOn (h : m.turn goal part input.scan.1 = .goOn part' next back) :
    input.read goal part m = (input.scan.2.pass input.scan.1 back).read goal part' next := by
  rw [read]
  split <;> simp_all

theorem read_accept {t : Tree} (h : m.turn goal part input.scan.1 = .accept t next back) :
    input.read goal part m =
      { input.scan.2.pass input.scan.1 back with answer := .ok t, machine := next } := by
  rw [read]
  split <;> simp_all

theorem read_reject {e : SyntaxError} (h : m.turn goal part input.scan.1 = .reject e next back) :
    input.read goal part m =
      { input.scan.2.pass input.scan.1 back with answer := .error e, machine := next } := by
  rw [read]
  split <;> simp_all

theorem read_given_back (goal part : Goal) (m : Machine) (x : Lexeme) (xs : List Lexeme)
    (ends : Nat) : (⟨[.lexeme x], xs, ends⟩ : Input).read goal part m =
      (⟨[], x :: xs, ends⟩ : Input).read goal part m := by
  rw [read]
  conv_rhs => rw [read]
  rfl

theorem read_answer {answer : Except SyntaxError Tree}
    (h : m.turn goal part input.scan.1 = m.answer answer) :
    input.read goal part m = { input.scan.2 with answer, machine := m } := by
  cases answer with
  | ok t => exact read_accept h
  | error e => exact read_reject h

/-! At the end of the text. -/

theorem read_nil_between (hm : m.Balanced) (hf : m.focus = .none) (goal : Goal) (ends : Nat) :
    (⟨[], [], ends⟩ : Input).read goal (m.part goal) m =
      Ending.outcome ⟨m.finishBetween goal, none, [], 1, m⟩ ends := by
  rw [read_answer (Machine.turn_finish_between hm hf)]
  rfl

theorem read_nil (hm : m.Balanced) (goal : Goal) (ends : Nat) :
    (⟨[], [], ends⟩ : Input).read goal (m.part goal) m = (m.finish goal).outcome ends := by
  cases hf : m.focus with
  | none => rw [read_nil_between hm hf, Machine.finish, hf]
  | field | comparator =>
    rw [read_answer (Machine.turn_finish_inside (by simp [hf]) (by simp [hf])), Machine.finish, hf]
    rfl
  | value leaf =>
    have hturn : m.turn goal (m.part goal) .finish = _ := Machine.turn_finish_value hf
    rw [Machine.finish_of_value hf]
    cases hs : m.settleFor goal leaf with
    | accept t next back =>
      rw [hs] at hturn
      rw [read_accept hturn]
      rfl
    | reject e next back =>
      rw [hs] at hturn
      rw [read_reject hturn]
      rfl
    | shift next =>
      rw [hs] at hturn
      have hnext := Machine.settled_balanced hm hs
      have hagain := read_nil_between hnext (Machine.settled_focus hs).1 goal (ends + 1)
      rw [Machine.settled_part hs] at hagain
      rw [read_goOn hturn]
      exact hagain.trans (by simp [Ending.outcome, Nat.add_assoc])

/-- **A call is a run**, if nothing has been given back before it. -/
theorem read_eq_run_of_nil (hm : m.Ready goal) (xs : List Lexeme) (ends : Nat) :
    (⟨[], xs, ends⟩ : Input).read goal (m.part goal) m = (m.run goal xs).outcome ends := by
  induction xs generalizing m with
  | nil => exact read_nil hm.balanced goal ends
  | cons x xs ih =>
    have htaken {m : Machine} {part : Goal} (hm : m.Ready goal)
        (h : m.turn goal part (.lexeme x) = (m.step goal x).turn goal) :
        (⟨[], x :: xs, ends⟩ : Input).read goal part m = (m.run goal (x :: xs)).outcome ends := by
      rw [Machine.run]
      cases hs : m.step goal x with
      | shift next =>
        rw [hs] at h
        rw [read_goOn h]
        exact ih (hm.step hs)
      | accept t next back =>
        rw [hs] at h
        rw [read_accept h]
        cases back <;> rfl
      | reject e next back =>
        rw [hs] at h
        rw [read_reject h]
        cases back <;> rfl
    -- a lexeme that is given back is read as if it had not been taken
    have hback {m next : Machine} {part part' : Goal}
        (h : m.turn goal part (.lexeme x) = .goOn part' next true) :
        (⟨[], x :: xs, ends⟩ : Input).read goal part m =
          (⟨[], x :: xs, ends⟩ : Input).read goal part' next :=
      (read_goOn h).trans (read_given_back goal part' next x xs ends)
    induction Machine.taking hm x with
    | once h => exact htaken hm h
    | begins _ hgiven h => exact (hback hgiven).trans (htaken hm h)
    | @behind m next leaf hf hsettle hgiven _ hnext =>
      have hrun : m.run goal (x :: xs) = next.run goal (x :: xs) := by
        rw [Machine.run, Machine.run, Machine.step_of_settled hf hsettle]
      rw [hback hgiven, hrun]
      exact hnext (Machine.settled_ready hm.balanced hsettle)

/-- **A call on a settled input is a run** over the lexemes that are to be read. -/
theorem read_eq_run (h : input.Settled) (hm : m.Ready goal) :
    input.read goal (m.part goal) m = (m.run goal input.stream).outcome input.ends := by
  obtain ⟨pushed, rest, ends⟩ := input
  rcases h.cases with hpushed | ⟨x, -, hpushed⟩ <;> obtain rfl : pushed = _ := hpushed
  · exact read_eq_run_of_nil hm rest ends
  · exact (read_given_back goal _ m x rest ends).trans (read_eq_run_of_nil hm (x :: rest) ends)

end Input

namespace Parser

/-- **The invariant of a parser between calls**: the stack is settled, and no bracket is open. -/
structure Settled (p : Parser) : Prop extends p.toInput.Settled where
  depth_eq : p.depth = 0

variable {p : Parser}

theorem settled_ofString (query : String) : (ofString query).Settled := ⟨.of_nil rfl, rfl⟩

theorem part_begin (p : Parser) (goal : Goal) : p.begin.part goal = goal := by
  cases goal <;> rfl

theorem begin_ready (h : p.depth = 0) (goal : Goal) : p.begin.Ready goal := ⟨h, fun _ => rfl⟩

theorem call_eq (h : p.Settled) (goal : Goal) :
    p.call goal = (p.begin.run goal p.stream).outcome p.ends := by
  rw [← Input.read_eq_run h.toSettled (begin_ready h.depth_eq goal), part_begin, call]

end Parser

end FilterQuery
