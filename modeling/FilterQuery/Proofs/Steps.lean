import FilterQuery.Parse
import FilterQuery.Proofs.Basics

/-!
# Steps of the parser

A token that is given back is looked at again at once, unless the call ends. What a machine makes of
a lexeme in the end, however often it is given back in between, is one step (`Machine.step`): the
lexeme is taken for good, or the call ends. A run of steps over lexemes (`Machine.run`) needs no
stack, since a lexeme is given back at its end only. Here is what a step can do, and that it keeps
the depth and the list of the operations around the open brackets in step (`Machine.Balanced.step`).
-/

namespace FilterQuery

/-! ### Steps and runs -/

/-- What a machine does with a lexeme in the end. The flag of the last two tells whether the lexeme
is given back, to be read again by the next call. -/
inductive Step where
  | shift (m : Machine)
  | accept (tree : Tree) (m : Machine) (back : Bool)
  | reject (e : SyntaxError) (m : Machine) (back : Bool)

/-- The machine after a step. -/
def Step.machine : Step → Machine
  | shift m => m
  | accept _ m _ => m
  | reject _ m _ => m

/-- The end of a run. -/
structure Ending where
  answer : Except SyntaxError Tree
  /-- The lexeme that is given back. -/
  pushed : Option Lexeme
  /-- The lexemes that were not looked at. -/
  rest : List Lexeme
  /-- The number of times that the end of the text was looked at. -/
  ends : Nat
  /-- The machine at the end, its brackets still open. -/
  machine : Machine

namespace Machine

/-- Goes on with what `result` makes of the machine, or rejects. -/
def shiftIf (m : Machine) (back : Bool) (result : Except SyntaxError Machine) : Step :=
  match result with
  | .ok next => .shift next
  | .error e => .reject e m back

/-- Opens a bracket where an operand may begin. -/
def openBracket (m : Machine) : Except SyntaxError Machine := do
  m.current.admitOperand
  m.openGroup

/-- Begins a comparison. -/
def beginField (m : Machine) (field : String) : Except SyntaxError Machine := do
  m.current.admitOperand
  if field = "" then throw .emptyField
  return { m with focus := .field field }

/-- Closes the innermost bracket. -/
def closeBracket (goal : Goal) (m : Machine) : Step :=
  match m.outer with
  | [] => .reject .unmatchedBracket m false
  | around :: outer =>
    match m.current.close .emptyGroup with
    | .error e => .reject e m false
    | .ok tree =>
      let next := { m with current := around, outer, depth := m.depth - 1 }
      if next.atTerm goal then .accept tree next false
      else shiftIf m false do return { next with current := ← around.addOperand tree }

/-- Reads a lexeme between two comparisons. -/
def stepBetween (goal : Goal) (m : Machine) : Lexeme → Step
  | .blank => .shift m
  | .openBracket => shiftIf m false m.openBracket
  | .text literal _ => shiftIf m false (m.beginField literal)
  | x =>
    if m.atTerm goal then .reject (.expectedField x.kind) m false
    else match x with
      | .closeBracket => m.closeBracket goal
      | .gate g => shiftIf m false do return { m with current := ← m.current.addGate g }
      | x => .reject (.unexpected x) m false

/-- Counts the comparison `leaf` and lets it be the term that was asked for, or adds it to the
innermost operation. The next lexeme is not read: if the call ends here it is given back, unless it
is a blank. -/
def settleFor (goal : Goal) (m : Machine) (leaf : Comparison) : Step :=
  if m.comparisons + 1 > comparisonLimit then .reject .tooManyComparisons m.complete true
  else if m.complete.atTerm goal then .accept (.comparison leaf) m.complete true
  else match m.current.addOperand (.comparison leaf) with
    | .error e => .reject e m.complete true
    | .ok current => .shift { m.complete with current }

/-- Reads one lexeme. -/
def step (goal : Goal) (m : Machine) (x : Lexeme) : Step :=
  match m.focus with
  | .none => m.stepBetween goal x
  | .field field =>
    match x with
    | .blank => .shift m
    | .comparator c => .shift { m with focus := .comparator field c }
    | x => .reject (.expectedComparator field x.kind) m false
  | .comparator field comparator =>
    match x with
    | .blank => .shift m
    | .text value _ => .shift { m with focus := .value ⟨field, comparator, value⟩ }
    | x => .reject (.expectedValue x.kind) m false
  | .value leaf =>
    match m.settleFor goal leaf with
    | .shift next => next.stepBetween goal x
    | .accept t next _ => .accept t next (x ≠ .blank)
    | .reject e next _ => .reject e next (x ≠ .blank)

/-- The answer at the end of the text, where no comparison has been begun. -/
def finishBetween (goal : Goal) (m : Machine) : Except SyntaxError Tree :=
  if m.atTerm goal then .error .noField
  else if m.outer.isEmpty then m.current.close .emptyQuery
  else .error .unclosedBracket

/-- The end of the text. An operation looks at it a second time after a last comparison. -/
def finish (goal : Goal) (m : Machine) : Ending :=
  match m.focus with
  | .none => ⟨m.finishBetween goal, none, [], 1, m⟩
  | .field field => ⟨.error (.noComparator field), none, [], 1, m⟩
  | .comparator field comparator => ⟨.error (.noValue field comparator), none, [], 1, m⟩
  | .value leaf =>
    match m.settleFor goal leaf with
    | .shift next => ⟨next.finishBetween goal, none, [], 2, next⟩
    | .accept t next _ => ⟨.ok t, none, [], 1, next⟩
    | .reject e next _ => ⟨.error e, none, [], 1, next⟩

/-- Reads lexemes until the call ends. -/
def run (goal : Goal) (m : Machine) : List Lexeme → Ending
  | [] => m.finish goal
  | x :: xs =>
    match m.step goal x with
    | .shift next => next.run goal xs
    | .accept tree next back => ⟨.ok tree, if back then some x else none, xs, 0, next⟩
    | .reject e next back => ⟨.error e, if back then some x else none, xs, 0, next⟩

end Machine

/-- What a run leaves to be read: the lexeme that it gives back and those not looked at. -/
def Ending.stream (o : Ending) : List Lexeme := o.pushed.toList ++ o.rest

/-! The number of comparisons is no reason to refuse an operand or a gate, or not to close. -/

namespace OpenOperation

theorem admitOperand_ne_tooMany (o : OpenOperation) :
    o.admitOperand ≠ .error .tooManyComparisons := by
  cases o <;> nofun

theorem addOperand_ne_tooMany (o : OpenOperation) (t : Tree) :
    o.addOperand t ≠ .error .tooManyComparisons := by
  cases o <;> nofun

theorem addGate_ne_tooMany (o : OpenOperation) (g : Gate) :
    o.addGate g ≠ .error .tooManyComparisons := by
  cases o <;> nofun

theorem close_ne_tooMany (o : OpenOperation) :
    o.close .emptyGroup ≠ .error .tooManyComparisons := by
  cases o <;> nofun

end OpenOperation

/-! ### What a step can do -/

namespace Machine

variable {m next : Machine} {leaf : Comparison} {goal : Goal} {x : Lexeme}

@[simp] theorem atTerm_operation (m : Machine) : m.atTerm .operation = false := rfl

/-- Counts the comparison `leaf` and adds it to the innermost operation. -/
def settle (m : Machine) (leaf : Comparison) : Except SyntaxError Machine :=
  if m.comparisons + 1 > comparisonLimit then .error .tooManyComparisons
  else do return { m.complete with current := ← m.current.addOperand (.comparison leaf) }

theorem settle_eq_ok_iff : m.settle leaf = .ok next ↔ m.comparisons + 1 ≤ comparisonLimit ∧
    ∃ c, m.current.addOperand (.comparison leaf) = .ok c ∧
      next = { m.complete with current := c } := by
  unfold settle
  split
  · simp only [reduceCtorEq, false_iff]
    omega
  · simp only [bind_eq_ok, pure_eq_ok]
    constructor
    · rintro ⟨c, hc, rfl⟩
      exact ⟨by omega, c, hc, rfl⟩
    · rintro ⟨-, c, hc, rfl⟩
      exact ⟨c, hc, rfl⟩

theorem settleFor_eq_shift (h : m.settleFor goal leaf = .shift next) :
    ¬ m.complete.atTerm goal ∧ ∃ c, m.current.addOperand (.comparison leaf) = .ok c ∧
      next = { m.complete with current := c } := by
  unfold settleFor at h
  split at h
  · simp at h
  split at h
  · simp at h
  next hterm =>
    split at h
    · simp at h
    next c hc => exact ⟨hterm, c, hc, (Step.shift.inj h).symm⟩

theorem settleFor_eq_accept_iff {goal : Goal} {t : Tree} {back : Bool} :
    m.settleFor goal leaf = .accept t next back ↔ m.comparisons + 1 ≤ comparisonLimit ∧
      m.complete.atTerm goal ∧ t = .comparison leaf ∧ next = m.complete ∧ back = true := by
  unfold settleFor
  split
  · simp only [reduceCtorEq, false_iff]
    omega
  next hl =>
    have hl : m.comparisons + 1 ≤ comparisonLimit := Nat.le_of_not_lt hl
    split
    next hterm => simp [hl, hterm, eq_comm]
    next hterm =>
      split <;> simp [hterm]

/-- A complete comparison is settled before the next lexeme is read. -/
theorem step_of_value (h : m.focus = .value leaf) (goal : Goal) (x : Lexeme) :
    m.step goal x = match m.settleFor goal leaf with
      | .shift next => next.stepBetween goal x
      | .accept t next _ => .accept t next (x ≠ .blank)
      | .reject e next _ => .reject e next (x ≠ .blank) := by
  rw [step, h]

/-- A complete comparison is settled before the end. -/
theorem finish_of_value (h : m.focus = .value leaf) (goal : Goal) :
    m.finish goal = match m.settleFor goal leaf with
      | .shift next => ⟨next.finishBetween goal, none, [], 2, next⟩
      | .accept t next _ => ⟨.ok t, none, [], 1, next⟩
      | .reject e next _ => ⟨.error e, none, [], 1, next⟩ := by
  rw [finish, h]

/-- Where the call does not end with it, a comparison can only become an operand. -/
theorem settleFor_of_not_atTerm {goal : Goal} (h : ¬ m.atTerm goal) (leaf : Comparison) :
    m.settleFor goal leaf = match m.settle leaf with
      | .ok next => .shift next
      | .error e => .reject e m.complete true := by
  have hterm : m.complete.atTerm goal = false := Bool.not_eq_true _ ▸ h
  rw [settleFor, settle, hterm]
  split
  · rfl
  · cases m.current.addOperand (.comparison leaf) <;> rfl

theorem settleFor_operation (m : Machine) (leaf : Comparison) :
    m.settleFor .operation leaf = match m.settle leaf with
      | .ok next => .shift next
      | .error e => .reject e m.complete true :=
  settleFor_of_not_atTerm (by simp) leaf

theorem step_value (h : m.focus = .value leaf) (x : Lexeme) :
    m.step .operation x = match m.settle leaf with
      | .ok next => next.stepBetween .operation x
      | .error e => .reject e m.complete (x ≠ .blank) := by
  rw [step_of_value h, settleFor_operation]
  cases m.settle leaf <;> rfl

theorem finish_value (h : m.focus = .value leaf) :
    (m.finish .operation).answer = match m.settle leaf with
      | .ok next => next.finishBetween .operation
      | .error e => .error e := by
  rw [finish_of_value h, settleFor_operation]
  cases m.settle leaf <;> rfl

theorem step_between {goal : Goal} (h : m.focus = .none) (x : Lexeme) :
    m.step goal x = m.stepBetween goal x := by
  simp [step, h]

theorem finish_between {goal : Goal} (h : m.focus = .none) :
    (m.finish goal).answer = m.finishBetween goal := by
  simp [finish, h]

/-- At the end of the text only a whole operation is an answer. -/
theorem finishBetween_eq_ok {t : Tree} : m.finishBetween goal = .ok t ↔
    goal = .operation ∧ m.outer = [] ∧ m.current = .complete t := by
  unfold finishBetween atTerm
  cases goal <;> cases m.outer <;> cases m.current <;> simp [OpenOperation.close]

theorem finishBetween_ne_tooMany (m : Machine) (goal : Goal) :
    m.finishBetween goal ≠ .error .tooManyComparisons := by
  unfold finishBetween atTerm
  cases goal <;> cases m.outer <;> cases m.current <;> simp [OpenOperation.close]

/-- The machine after an opening bracket. -/
def opened (m : Machine) : Machine :=
  { m with current := .empty, outer := m.current :: m.outer, depth := m.depth + 1 }

theorem shiftIf_eq_shift {back : Bool} {result : Except SyntaxError Machine} :
    m.shiftIf back result = .shift next ↔ result = .ok next := by
  cases result <;> simp [shiftIf]

theorem openGroup_eq_ok : m.openGroup = .ok next ↔ m.depth < nestingLimit ∧ next = m.opened := by
  unfold openGroup
  split
  · simp only [reduceCtorEq, false_iff]
    omega
  next h => simp [Nat.lt_of_not_ge h, opened, eq_comm]

/-- A bracket opens where an operand may begin, until the limit is reached. -/
theorem openBracket_eq_ok : m.openBracket = .ok next ↔
    m.current.admitOperand = .ok () ∧ m.depth < nestingLimit ∧ next = m.opened := by
  simp only [openBracket, bind_eq_ok, openGroup_eq_ok]
  constructor
  · rintro ⟨_, hm, hd, rfl⟩
    exact ⟨hm, hd, rfl⟩
  · rintro ⟨hm, hd, rfl⟩
    exact ⟨(), hm, hd, rfl⟩

/-- A comparison begins where an operand may, with a field that has a name. -/
theorem beginField_eq_ok {field : String} : m.beginField field = .ok next ↔
    m.current.admitOperand = .ok () ∧ field ≠ "" ∧ next = { m with focus := .field field } := by
  simp only [beginField, bind_eq_ok, check_eq_ok, pure_eq_ok]
  constructor
  · rintro ⟨_, hm, hn, rfl⟩
    exact ⟨hm, hn, rfl⟩
  · rintro ⟨hm, hn, rfl⟩
    exact ⟨(), hm, hn, rfl⟩

theorem atTerm_iff : m.atTerm goal ↔ goal = .term ∧ m.outer = [] := by
  simp [atTerm]

/-! What a step between two comparisons does with the lexemes that no term begins with. -/

theorem stepBetween_closeBracket (m : Machine) (goal : Goal) : m.stepBetween goal .closeBracket =
    if m.atTerm goal then .reject (.expectedField .closeBracket) m false else m.closeBracket goal :=
  rfl

theorem stepBetween_gate (m : Machine) (goal : Goal) (g : Gate) : m.stepBetween goal (.gate g) =
    if m.atTerm goal then .reject (.expectedField (.gate g)) m false
    else m.shiftIf false do return { m with current := ← m.current.addGate g } :=
  rfl

theorem stepBetween_comparator (m : Machine) (goal : Goal) (c : Comparator) :
    m.stepBetween goal (.comparator c) =
      if m.atTerm goal then .reject (.expectedField (.comparator c)) m false
      else .reject (.unexpected (.comparator c)) m false :=
  rfl

theorem stepBetween_bang (m : Machine) (goal : Goal) : m.stepBetween goal .bang =
    if m.atTerm goal then .reject (.expectedField .other) m false
    else .reject (.unexpected .bang) m false :=
  rfl

theorem shiftIf_ne_accept (m : Machine) (back : Bool) (r : Except SyntaxError Machine) (t : Tree)
    (next : Machine) (b : Bool) : m.shiftIf back r ≠ .accept t next b := by
  cases r <;> simp [shiftIf]

/-- Between two comparisons a shift is one of five moves. -/
theorem stepBetween_eq_shift {goal : Goal} (h : m.stepBetween goal x = .shift next) :
    (x = .blank ∧ next = m) ∨
    (x = .openBracket ∧ m.current.admitOperand = .ok () ∧ m.depth < nestingLimit ∧
      next = m.opened) ∨
    (∃ field q, x = .text field q ∧ m.current.admitOperand = .ok () ∧ field ≠ "" ∧
      next = { m with focus := .field field }) ∨
    (∃ around outer t c, x = .closeBracket ∧ m.outer = around :: outer ∧ m.current = .complete t ∧
      around.addOperand t = .ok c ∧ (goal = .term → outer ≠ []) ∧
      next = { m with current := c, outer := outer, depth := m.depth - 1 }) ∨
    (∃ g c, x = .gate g ∧ (goal = .term → m.outer ≠ []) ∧ m.current.addGate g = .ok c ∧
      next = { m with current := c }) := by
  cases x with
  | blank =>
    simp only [stepBetween, Step.shift.injEq] at h
    exact .inl ⟨rfl, h.symm⟩
  | openBracket =>
    exact .inr (.inl ⟨rfl, openBracket_eq_ok.mp (shiftIf_eq_shift.mp h)⟩)
  | text field q =>
    exact .inr (.inr (.inl ⟨field, q, rfl, beginField_eq_ok.mp (shiftIf_eq_shift.mp h)⟩))
  | closeBracket =>
    rw [stepBetween_closeBracket] at h
    split at h
    · simp at h
    rw [closeBracket] at h
    cases ho : m.outer with
    | nil => simp [ho] at h
    | cons around outer =>
      cases hm : m.current with
      | empty | gated => simp [ho, hm, OpenOperation.close] at h
      | complete t =>
        simp only [ho, hm, OpenOperation.close] at h
        split at h
        · simp at h
        next hterm =>
          rw [atTerm_iff, not_and] at hterm
          obtain ⟨c, hc, hnext⟩ := bind_eq_ok.mp (shiftIf_eq_shift.mp h)
          exact .inr (.inr (.inr (.inl ⟨around, outer, t, c, rfl, rfl, rfl, hc, hterm,
            (pure_eq_ok.mp hnext).symm⟩)))
  | gate g =>
    rw [stepBetween_gate] at h
    split at h
    · simp at h
    next hterm =>
      rw [atTerm_iff, not_and] at hterm
      obtain ⟨c, hg, hnext⟩ := bind_eq_ok.mp (shiftIf_eq_shift.mp h)
      exact .inr (.inr (.inr (.inr ⟨g, c, rfl, hterm, hg, (pure_eq_ok.mp hnext).symm⟩)))
  | comparator c =>
    rw [stepBetween_comparator] at h
    split at h <;> simp at h
  | bang =>
    rw [stepBetween_bang] at h
    split at h <;> simp at h

/-- Between two comparisons a call ends well only with the bracket that closes its term. -/
theorem stepBetween_eq_accept {goal : Goal} {t : Tree} {back : Bool}
    (h : m.stepBetween goal x = .accept t next back) :
    goal = .term ∧ x = .closeBracket ∧ back = false ∧
      ∃ around, m.outer = [around] ∧ m.current = .complete t ∧
        next = { m with current := around, outer := [], depth := m.depth - 1 } := by
  cases x with
  | openBracket | text => exact absurd h (shiftIf_ne_accept _ _ _ _ _ _)
  | gate =>
    rw [stepBetween_gate] at h
    split at h
    · simp at h
    · exact absurd h (shiftIf_ne_accept _ _ _ _ _ _)
  | closeBracket =>
    rw [stepBetween_closeBracket] at h
    split at h
    · simp at h
    rw [closeBracket] at h
    cases ho : m.outer with
    | nil => simp [ho] at h
    | cons around outer =>
      cases hm : m.current with
      | empty | gated => simp [ho, hm, OpenOperation.close] at h
      | complete u =>
        simp only [ho, hm, OpenOperation.close] at h
        split at h
        next hterm =>
          obtain ⟨rfl, rfl⟩ := atTerm_iff.mp hterm
          obtain ⟨rfl, rfl, rfl⟩ := Step.accept.inj h
          exact ⟨rfl, rfl, rfl, around, rfl, rfl, rfl⟩
        · exact absurd h (shiftIf_ne_accept _ _ _ _ _ _)
  | blank => simp [stepBetween] at h
  | comparator c =>
    rw [stepBetween_comparator] at h
    split at h <;> simp at h
  | bang =>
    rw [stepBetween_bang] at h
    split at h <;> simp at h

theorem shiftIf_eq_reject {back b : Bool} {r : Except SyntaxError Machine} {e : SyntaxError} :
    m.shiftIf back r = .reject e next b ↔ r = .error e ∧ next = m ∧ b = back := by
  cases r <;> simp [shiftIf, eq_comm]

/-- Between two comparisons a failing call keeps its machine and gives nothing back. The number of
comparisons is no reason to fail. -/
theorem stepBetween_eq_reject {goal : Goal} {e : SyntaxError} {back : Bool}
    (h : m.stepBetween goal x = .reject e next back) :
    next = m ∧ back = false ∧ e ≠ .tooManyComparisons := by
  have rejected {e' : SyntaxError} (h : Step.reject e' m false = .reject e next back)
      (he : e' ≠ .tooManyComparisons) :
      next = m ∧ back = false ∧ e ≠ .tooManyComparisons := by
    obtain ⟨rfl, rfl, rfl⟩ := Step.reject.inj h
    exact ⟨rfl, rfl, he⟩
  have shifted {r : Except SyntaxError Machine} (hr : r ≠ .error .tooManyComparisons)
      (h : m.shiftIf false r = .reject e next back) :
      next = m ∧ back = false ∧ e ≠ .tooManyComparisons := by
    obtain ⟨he, rfl, rfl⟩ := shiftIf_eq_reject.mp h
    exact ⟨rfl, rfl, fun htoo => hr (htoo ▸ he)⟩
  cases x with
  | blank => simp [stepBetween] at h
  | openBracket =>
    refine shifted (fun he => ?_) h
    rcases bind_eq_error.mp he with he | ⟨_, -, he⟩
    · exact OpenOperation.admitOperand_ne_tooMany _ he
    · unfold openGroup at he
      split at he <;> cases he
  | text field q =>
    refine shifted (fun he => ?_) h
    rcases bind_eq_error.mp he with he | ⟨_, -, he⟩
    · exact OpenOperation.admitOperand_ne_tooMany _ he
    · split at he <;> cases he
  | closeBracket =>
    rw [stepBetween_closeBracket] at h
    split at h
    · exact rejected h (by simp)
    rw [closeBracket] at h
    split at h
    · exact rejected h (by simp)
    split at h
    next he => exact rejected h fun htoo => OpenOperation.close_ne_tooMany _ (htoo ▸ he)
    dsimp only at h
    split at h
    · simp at h
    · refine shifted (fun he => ?_) h
      rcases bind_eq_error.mp he with he | ⟨_, -, he⟩
      · exact OpenOperation.addOperand_ne_tooMany _ _ he
      · exact absurd he pure_ne_error
  | gate g =>
    rw [stepBetween_gate] at h
    split at h
    · exact rejected h (by simp)
    · refine shifted (fun he => ?_) h
      rcases bind_eq_error.mp he with he | ⟨_, -, he⟩
      · exact OpenOperation.addGate_ne_tooMany _ _ he
      · exact absurd he pure_ne_error
  | comparator c =>
    rw [stepBetween_comparator] at h
    split at h <;> exact rejected h (by simp)
  | bang =>
    rw [stepBetween_bang] at h
    split at h <;> exact rejected h (by simp)

theorem stepBetween_ne_accept (m : Machine) (x : Lexeme) (t : Tree) (next : Machine) (b : Bool) :
    m.stepBetween .operation x ≠ .accept t next b := by
  intro h
  exact absurd (stepBetween_eq_accept h).1 nofun

/-- An operation does not end before the text does. -/
theorem step_ne_accept (m : Machine) (x : Lexeme) (t : Tree) (next : Machine) (b : Bool) :
    m.step .operation x ≠ .accept t next b := by
  cases hf : m.focus with
  | none => exact step_between hf x ▸ stepBetween_ne_accept _ _ _ _ _
  | field | comparator => cases x <;> simp [step, hf]
  | value leaf =>
    rw [step_value hf]
    cases m.settle leaf with
    | error e => simp
    | ok next => exact stepBetween_ne_accept _ _ _ _ _

/-! ### The depth -/

/-- All brackets that are open were opened in this call. -/
def Balanced (m : Machine) : Prop := m.depth = m.outer.length

theorem Balanced.stepBetween (h : m.Balanced) (goal : Goal) (x : Lexeme) :
    (m.stepBetween goal x).machine.Balanced := by
  -- a closing bracket leaves the depth and the list of outer operations at once
  have hclosed {around c : OpenOperation} {outer : List OpenOperation}
      (ho : m.outer = around :: outer) :
      ({ m with current := c, outer, depth := m.depth - 1 } : Machine).Balanced := by
    simp only [Balanced, ho, List.length_cons] at h ⊢
    omega
  cases hs : m.stepBetween goal x with
  | shift next =>
    rcases stepBetween_eq_shift hs with ⟨-, rfl⟩ | ⟨-, -, -, rfl⟩ | ⟨_, _, -, -, -, rfl⟩ |
      ⟨_, _, _, _, -, ho, -, -, -, rfl⟩ | ⟨_, _, -, -, -, rfl⟩
    · exact h
    · simp only [Step.machine, Balanced, opened, List.length_cons] at h ⊢
      omega
    · exact h
    · exact hclosed ho
    · exact h
  | accept t next back =>
    obtain ⟨-, -, -, around, ho, -, rfl⟩ := stepBetween_eq_accept hs
    exact hclosed ho
  | reject e next back =>
    obtain ⟨rfl, -⟩ := stepBetween_eq_reject hs
    exact h

/-- Settling a comparison counts it and leaves the brackets as they are. -/
theorem settleFor_machine (m : Machine) (goal : Goal) (leaf : Comparison) :
    ∃ c, (m.settleFor goal leaf).machine = { m.complete with current := c } := by
  unfold settleFor
  split
  · exact ⟨_, rfl⟩
  split
  · exact ⟨_, rfl⟩
  split <;> exact ⟨_, rfl⟩

theorem Balanced.settleFor (h : m.Balanced) (goal : Goal) (leaf : Comparison) :
    (m.settleFor goal leaf).machine.Balanced := by
  obtain ⟨c, hc⟩ := m.settleFor_machine goal leaf
  rw [hc]
  exact h

/-- **A step keeps the balance**, also one that ends the call. -/
theorem Balanced.step (h : m.Balanced) (goal : Goal) (x : Lexeme) :
    (m.step goal x).machine.Balanced := by
  cases hf : m.focus with
  | none => exact step_between hf x ▸ h.stepBetween goal x
  | field | comparator =>
    unfold Machine.step
    simp only [hf]
    split <;> exact h
  | value leaf =>
    have hsettled := h.settleFor goal leaf
    rw [step_of_value hf]
    cases hs : m.settleFor goal leaf with
    | shift next =>
      rw [hs] at hsettled
      exact Balanced.stepBetween hsettled goal x
    | accept | reject =>
      rw [hs] at hsettled
      exact hsettled

theorem Balanced.finish (h : m.Balanced) (goal : Goal) : (m.finish goal).machine.Balanced := by
  cases hf : m.focus with
  | none | field | comparator =>
    unfold Machine.finish
    simp only [hf]
    exact h
  | value leaf =>
    have hsettled := h.settleFor goal leaf
    rw [finish_of_value hf]
    cases hs : m.settleFor goal leaf with
    | shift | accept | reject =>
      rw [hs] at hsettled
      exact hsettled

end Machine

end FilterQuery
