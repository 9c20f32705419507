import FilterQuery.Parse

/-!
# The stack of tokens

A parser may give back any number of tokens, of any kind. One that begins with an empty stack never
has more than one token on it, and neither a blank nor the end of the text (`Input.Settled`): before
a token is given back it has been taken, from the stack if anything was there, and those two are
never given back (`Machine.back_turn`). A turn keeps this (`Input.Settled.turn`), and so does a call
(`Input.Settled.read`).
-/

namespace FilterQuery

/-- Whether the turn gives its token back. -/
def Turn.back : Turn → Bool
  | goOn _ _ back => back
  | accept _ _ back => back
  | reject _ _ back => back

namespace Machine

variable {m : Machine} {goal part : Goal} {t : Token}

theorem back_goOnIf (m : Machine) (result : Except SyntaxError Machine) :
    (m.goOnIf result).back = false := by
  cases result <;> rfl

theorem back_answer (m : Machine) (result : Except SyntaxError Tree) :
    (m.answer result).back = false := by
  cases result <;> rfl

theorem back_closeGroup (m : Machine) (goal : Goal) : (m.closeGroup goal).back = false := by
  unfold closeGroup
  split
  · rfl
  split
  · rfl
  split
  · rfl
  dsimp only
  split
  · rfl
  · exact back_goOnIf _ _

/-- An operation gives back no more than the text that a term begins with. -/
theorem back_operationTurn (h : (m.operationTurn goal t).back) :
    ∃ literal quoted, t = .lexeme (.text literal quoted) := by
  unfold operationTurn at h
  split at h
  · simp [back_answer] at h
  · simp [Turn.back] at h
  · simp [back_goOnIf] at h
  · exact ⟨_, _, rfl⟩
  · simp [back_closeGroup] at h
  · simp [back_goOnIf] at h
  · simp [Turn.back] at h

theorem back_endComparison (m : Machine) (goal : Goal) (leaf : Comparison) (back : Bool) :
    (m.endComparison goal leaf back).back = back := by
  unfold endComparison
  dsimp only
  split
  · rfl
  split
  · rfl
  split <;> rfl

/-- **Neither a blank nor the end of the text is given back.** -/
theorem back_turn (h : (m.turn goal part t).back) : t ≠ .finish ∧ t ≠ .lexeme .blank := by
  cases part with
  | operation =>
    obtain ⟨literal, quoted, rfl⟩ := back_operationTurn h
    simp
  | term =>
    simp only [turn, termTurn] at h
    split at h
    · split at h
      · simp [Turn.back] at h
      · simp [Turn.back] at h
      · simp [back_goOnIf] at h
      · split at h <;> simp [Turn.back] at h
      · simp [Turn.back] at h
    · split at h <;> simp [Turn.back] at h
    · split at h <;> simp [Turn.back] at h
    · simpa [back_endComparison] using h

end Machine

namespace Input

/-- **The invariant of the stack.** -/
structure Settled (input : Input) : Prop where
  length_le : input.pushed.length ≤ 1
  ne : ∀ t ∈ input.pushed, t ≠ .finish ∧ t ≠ .lexeme .blank

variable {input : Input} {goal part : Goal} {m : Machine} {t : Token} {back : Bool}

theorem Settled.of_nil (h : input.pushed = []) : input.Settled :=
  ⟨by simp [h], by simp [h]⟩

/-- There is no token on the stack, or one lexeme that is no blank. -/
theorem Settled.cases (h : input.Settled) :
    input.pushed = [] ∨ ∃ x, x ≠ .blank ∧ input.pushed = [.lexeme x] := by
  obtain ⟨hlength, hne⟩ := h
  match hpushed : input.pushed with
  | [] => exact .inl rfl
  | [.finish] => simp [hpushed] at hne
  | [.lexeme x] => exact .inr ⟨x, by simpa [hpushed] using hne, rfl⟩
  | _ :: _ :: _ => simp [hpushed] at hlength

/-- The stack is empty while a token is looked at. -/
theorem Settled.pushed_scan (h : input.Settled) : input.scan.2.pushed = [] := by
  obtain ⟨pushed, rest, ends⟩ := input
  rcases h.cases with hpushed | ⟨x, -, hpushed⟩ <;> obtain rfl : pushed = _ := hpushed
  · cases rest <;> rfl
  · rfl

theorem settled_pass (h : input.pushed = [])
    (hback : back → t ≠ .finish ∧ t ≠ .lexeme .blank) : (input.pass t back).Settled := by
  cases back with
  | false => exact .of_nil h
  | true =>
    have hpushed : (input.pass t true).pushed = [t] := congrArg (t :: ·) h
    exact ⟨by simp [hpushed], by simpa [hpushed] using hback rfl⟩

/-- **A turn keeps the invariant**, whatever machine makes it. -/
theorem Settled.turn (h : input.Settled) (goal part : Goal) (m : Machine) :
    (input.scan.2.pass input.scan.1 (m.turn goal part input.scan.1).back).Settled :=
  settled_pass h.pushed_scan Machine.back_turn

/-- **A call keeps the invariant**, whether it succeeds or fails. -/
theorem Settled.read (h : input.Settled) (goal part : Goal) (m : Machine) :
    (input.read goal part m).Settled := by
  fun_induction Input.read goal part m input with
  | case1 part m input part' next back hturn ih =>
    have := h.turn goal part m
    rw [hturn] at this
    exact ih this
  | case2 part m input tree next back hturn | case3 part m input e next back hturn =>
    have := h.turn goal part m
    rw [hturn] at this
    exact this

end Input

end FilterQuery
