import FilterQuery.Parse.OpenOperation

/-!
# Turns of the parser

A `Machine` holds the operations in all open brackets and the comparison that has been begun. It
looks at a token as part of an operation or as part of a term, and goes on, accepts or rejects
(`Machine.turn`). Where an operation finds the text with which a comparison begins, it gives it back
to the term that starts there. A term ends behind a comparison, which is known to be complete only
at the token after it: a blank there is dropped, and anything else is given back. No token is given
back more than twice before one is taken for good (`Machine.returns_lt_of_turn`).
-/

namespace FilterQuery

/-- The two parts of a query, one of which a call of the parser asks for. -/
inductive Goal where
  /-- Everything up to the end of the text, or up to the bracket that closes the group. -/
  | operation
  /-- One comparison, or one pair of brackets. -/
  | term
  deriving DecidableEq

/-- The part of a comparison that has been read. -/
inductive Focus where
  | none
  | field (field : String)
  | comparator (field : String) (comparator : Comparator)
  /-- All three parts. Only the next token tells that the comparison is complete. -/
  | value (comparison : Comparison)
  deriving DecidableEq

/-- A parser in the middle of a call. -/
structure Machine where
  /-- The innermost operation that is open. -/
  current : OpenOperation
  /-- The operations around the open brackets, the innermost first. -/
  outer : List OpenOperation
  focus : Focus
  /-- The number of open brackets. -/
  depth : Nat
  /-- The number of comparisons completed so far, in this call and in earlier ones. -/
  comparisons : Nat
  deriving DecidableEq

/-- What a machine does with a token. The flag tells whether the token is given back. -/
inductive Turn where
  /-- The next token is looked at as part of an operation or of a term. -/
  | goOn (part : Goal) (m : Machine) (back : Bool)
  | accept (tree : Tree) (m : Machine) (back : Bool)
  | reject (e : SyntaxError) (m : Machine) (back : Bool)

namespace Machine

/-- Whether the machine stands where the one term that was asked for begins or ends. -/
def atTerm (goal : Goal) (m : Machine) : Bool :=
  goal = .term && m.outer.isEmpty

/-- Goes on in an operation with what `result` makes of the machine, or rejects. -/
def goOnIf (m : Machine) (result : Except SyntaxError Machine) : Turn :=
  match result with
  | .ok next => .goOn .operation next false
  | .error e => .reject e m false

/-- Ends the call with an answer. -/
def answer (m : Machine) (result : Except SyntaxError Tree) : Turn :=
  match result with
  | .ok tree => .accept tree m false
  | .error e => .reject e m false

/-- Opens a bracket. -/
def openGroup (m : Machine) : Except SyntaxError Machine :=
  if m.depth ≥ nestingLimit then .error .tooDeep
  else .ok { m with current := .empty, outer := m.current :: m.outer, depth := m.depth + 1 }

/-- Closes the innermost bracket. The group has the tree of its operation and leaves no other
trace. It is the answer or an operand of the operation around it. If no bracket was opened in this
call, the operation that was asked for ends. -/
def closeGroup (goal : Goal) (m : Machine) : Turn :=
  if m.depth = 0 then .reject .unmatchedBracket m false
  else match m.current.close .emptyGroup with
    | .error e => .reject e m false
    | .ok tree =>
      match m.outer with
      | [] => .accept tree m false
      | around :: outer =>
        let next := { m with current := around, outer, depth := m.depth - 1 }
        if next.atTerm goal then .accept tree next false
        else goOnIf m do return { next with current := ← around.addOperand tree }

/-- The answer of an operation at the end of the text. -/
def finishOperation (m : Machine) : Except SyntaxError Tree :=
  if m.depth > 0 then .error .unclosedBracket else m.current.close .emptyQuery

/-- Looks at a token as part of an operation. A text is given back, to be the first token of a
term. -/
def operationTurn (goal : Goal) (m : Machine) : Token → Turn
  | .finish => m.answer m.finishOperation
  | .lexeme .blank => .goOn .operation m false
  | .lexeme .openBracket => goOnIf m do m.current.admitOperand; m.openGroup
  | .lexeme (.text _ _) =>
    match m.current.admitOperand with
    | .ok () => .goOn .term { m with focus := .none } true
    | .error e => .reject e m false
  | .lexeme .closeBracket => m.closeGroup goal
  | .lexeme (.gate g) => goOnIf m do return { m with current := ← m.current.addGate g }
  | .lexeme x => .reject (.unexpected x) m false

/-- Counts a completed comparison. -/
def complete (m : Machine) : Machine :=
  { m with focus := .none, comparisons := m.comparisons + 1 }

/-- Completes a comparison, which is the answer or an operand of the innermost operation. -/
def endComparison (goal : Goal) (m : Machine) (comparison : Comparison) (back : Bool) : Turn :=
  let next := m.complete
  if next.comparisons > comparisonLimit then .reject .tooManyComparisons next back
  else if next.atTerm goal then .accept (.comparison comparison) next back
  else match next.current.addOperand (.comparison comparison) with
    | .ok current => .goOn .operation { next with current } back
    | .error e => .reject e next back

/-- Looks at a token as part of a term. The token behind a comparison is given back, unless it is a
blank or the end of the text. -/
def termTurn (goal : Goal) (m : Machine) (t : Token) : Turn :=
  match m.focus with
  | .none =>
    match t with
    | .finish => .reject .noField m false
    | .lexeme .blank => .goOn .term m false
    | .lexeme .openBracket => goOnIf m m.openGroup
    | .lexeme (.text literal _) =>
      if literal = "" then .reject .emptyField m false
      else .goOn .term { m with focus := .field literal } false
    | .lexeme x => .reject (.expectedField x.kind) m false
  | .field field =>
    match t with
    | .finish => .reject (.noComparator field) m false
    | .lexeme .blank => .goOn .term m false
    | .lexeme (.comparator c) => .goOn .term { m with focus := .comparator field c } false
    | .lexeme x => .reject (.expectedComparator field x.kind) m false
  | .comparator field comparator =>
    match t with
    | .finish => .reject (.noValue field comparator) m false
    | .lexeme .blank => .goOn .term m false
    | .lexeme (.text value _) =>
      .goOn .term { m with focus := .value ⟨field, comparator, value⟩ } false
    | .lexeme x => .reject (.expectedValue x.kind) m false
  | .value comparison =>
    m.endComparison goal comparison (t ≠ .finish ∧ t ≠ .lexeme .blank)

/-- Looks at a token as part of an operation or of a term. -/
def turn (goal part : Goal) (m : Machine) (t : Token) : Turn :=
  match part with
  | .operation => m.operationTurn goal t
  | .term => m.termTurn goal t

/-- How often a token may be given back before one is taken for good: from behind a comparison to
the operation, and from the operation to the next term. -/
def returns (part : Goal) (m : Machine) : Nat :=
  match part, m.focus with
  | .operation, _ => 1
  | .term, .value _ => 2
  | .term, _ => 0

theorem answer_ne_goOn (m : Machine) (result : Except SyntaxError Tree) (part : Goal)
    (next : Machine) (back : Bool) : m.answer result ≠ .goOn part next back := by
  cases result <;> simp [answer]

theorem goOnIf_eq_goOn {m next : Machine} {part : Goal} {back : Bool}
    {result : Except SyntaxError Machine} : m.goOnIf result = .goOn part next back ↔
      part = .operation ∧ back = false ∧ result = .ok next := by
  cases result <;> grind [goOnIf]

theorem closeGroup_goOn {goal part : Goal} {m next : Machine} {back : Bool}
    (h : m.closeGroup goal = .goOn part next back) : back = false := by
  unfold closeGroup at h
  split at h
  · simp at h
  split at h
  · simp at h
  split at h
  · simp at h
  dsimp only at h
  split at h
  · simp at h
  · exact (goOnIf_eq_goOn.mp h).2.1

/-- An operation goes on behind its token, or lets a term begin with it. -/
theorem operationTurn_goOn {goal part : Goal} {m next : Machine} {t : Token} {back : Bool}
    (h : m.operationTurn goal t = .goOn part next back) :
    t ≠ .finish ∧ (back → part = .term ∧ next.focus = .none) := by
  unfold operationTurn at h
  split at h
  · exact absurd h (answer_ne_goOn _ _ _ _ _)
  · simp_all
  · simp [(goOnIf_eq_goOn.mp h).2.1]
  · split at h
    · obtain ⟨rfl, rfl, rfl⟩ := Turn.goOn.inj h
      simp
    · simp at h
  · simp [closeGroup_goOn h]
  · simp [(goOnIf_eq_goOn.mp h).2.1]
  · simp at h

/-- A term goes on behind its token, or a comparison ends with it. -/
theorem termTurn_goOn {goal part : Goal} {m next : Machine} {t : Token} {back : Bool}
    (h : m.termTurn goal t = .goOn part next back) :
    (t ≠ .finish ∧ back = false) ∨
    (∃ leaf, m.focus = .value leaf) ∧ part = .operation ∧ (back → t ≠ .finish) := by
  unfold termTurn at h
  split at h
  · split at h
    · simp at h
    · simp_all
    · simp [(goOnIf_eq_goOn.mp h).2.1]
    · split at h <;> simp_all
    · simp at h
  · split at h <;> simp_all
  · split at h <;> simp_all
  next leaf hf =>
    refine .inr ⟨⟨leaf, hf⟩, ?_⟩
    unfold endComparison at h
    dsimp only at h
    split at h
    · simp at h
    split at h
    · simp at h
    split at h
    · obtain ⟨rfl, -, rfl⟩ := Turn.goOn.inj h
      simp +contextual
    · simp at h

/-- A machine that goes on has taken a token of the text for good, or fewer returns are left. -/
theorem returns_lt_of_turn {goal part part' : Goal} {m next : Machine} {t : Token} {back : Bool}
    (h : m.turn goal part t = .goOn part' next back) :
    (back → t ≠ .finish) ∧ (back ∨ t = .finish → next.returns part' < m.returns part) := by
  cases part with
  | operation =>
    obtain ⟨ht, hback⟩ := operationTurn_goOn h
    refine ⟨fun _ => ht, ?_⟩
    rintro (hb | rfl)
    · obtain ⟨rfl, hf⟩ := hback hb
      simp [returns, hf]
    · exact absurd rfl ht
  | term =>
    rcases termTurn_goOn h with ⟨ht, rfl⟩ | ⟨⟨leaf, hf⟩, rfl, hback⟩
    · simp [ht]
    · exact ⟨hback, fun _ => by simp [returns, hf]⟩

theorem returns_le (part : Goal) (m : Machine) : m.returns part ≤ 2 := by
  unfold returns
  split <;> omega

end Machine

end FilterQuery
