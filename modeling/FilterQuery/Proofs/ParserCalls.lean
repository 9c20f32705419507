import FilterQuery.Proofs.ParseGrammar

/-!
# Series of calls

A parser may be called again and again, whatever became of the calls before. A call may end at any
depth, and perhaps with a token given back; the next call goes on from there. What a call keeps
(`Parser.Settled`) is known of one turn or one step first, and then of a run by induction: that at
most one token is given back (`Input.Settled.read`), and that the depth is the number of brackets
that are open in the call, all of which it leaves (`Machine.Balanced.run`). What is left of the
input is its end (`Machine.run_stream_suffix`). A series follows by induction on the calls
(`Parser.settled_afterAll`). The main statement is `Parser.series_state`.
-/

namespace FilterQuery

/-! ### Steps -/

/-- Whether the step ends the call and gives its lexeme back. -/
def Step.givesBack : Step → Bool
  | shift _ => false
  | accept _ _ back => back
  | reject _ _ back => back

namespace Machine

variable {m : Machine} {goal : Goal} {x : Lexeme} {xs : List Lexeme}

theorem givesBack_stepBetween (m : Machine) (goal : Goal) (x : Lexeme) :
    (m.stepBetween goal x).givesBack = false := by
  cases hs : m.stepBetween goal x with
  | shift next => rfl
  | accept t next back => exact (stepBetween_eq_accept hs).2.2.1
  | reject e next back => exact (stepBetween_eq_reject hs).2.1

/-- Only behind a whole comparison a lexeme is given back. -/
theorem givesBack_step (h : (m.step goal x).givesBack) : ∃ leaf, m.focus = .value leaf := by
  cases hf : m.focus with
  | none => simp [step_between hf, givesBack_stepBetween] at h
  | field | comparator =>
    simp only [step, hf] at h
    split at h <;> simp [Step.givesBack] at h
  | value leaf => exact ⟨leaf, rfl⟩

/-! ### Runs -/

theorem stream_finish (m : Machine) (goal : Goal) : (m.finish goal).stream = [] := by
  unfold finish
  split
  · rfl
  · rfl
  · rfl
  · split <;> rfl

/-- A call goes on with the rest, or ends with it, and perhaps gives its lexeme back. -/
theorem run_cons (m : Machine) (goal : Goal) (x : Lexeme) (xs : List Lexeme) :
    (∃ next, m.step goal x = .shift next ∧ m.run goal (x :: xs) = next.run goal xs) ∨
    ((m.run goal (x :: xs)).machine = (m.step goal x).machine ∧
      (m.run goal (x :: xs)).pushed = (if (m.step goal x).givesBack then some x else none) ∧
      (m.run goal (x :: xs)).rest = xs) := by
  rw [run]
  cases hs : m.step goal x with
  | shift next => exact .inl ⟨next, rfl, rfl⟩
  | accept t next back => exact .inr ⟨rfl, rfl, rfl⟩
  | reject e next back => exact .inr ⟨rfl, rfl, rfl⟩

/-- **A call keeps the balance**, whether it succeeds or fails. -/
theorem Balanced.run (h : m.Balanced) (goal : Goal) (xs : List Lexeme) :
    (m.run goal xs).machine.Balanced := by
  induction xs generalizing m with
  | nil => exact h.finish goal
  | cons x xs ih =>
    have hstep := h.step goal x
    rcases run_cons m goal x xs with ⟨next, hs, hrun⟩ | ⟨hmachine, -, -⟩
    · rw [hs] at hstep
      exact hrun ▸ ih hstep
    · exact hmachine ▸ hstep

/-- **What a call leaves is the end of what it was given.** -/
theorem run_stream_suffix (m : Machine) (goal : Goal) (xs : List Lexeme) :
    (m.run goal xs).stream <:+ xs := by
  induction xs generalizing m with
  | nil =>
    have hnone : (m.run goal []).stream = [] := by rw [run, stream_finish]
    exact List.suffix_nil.mpr hnone
  | cons x xs ih =>
    rcases run_cons m goal x xs with ⟨next, -, hrun⟩ | ⟨-, hpushed, hrest⟩
    · exact hrun ▸ (ih next).trans (List.suffix_cons x xs)
    · rw [Ending.stream, hpushed, hrest]
      split
      · exact List.suffix_refl _
      · exact List.suffix_cons x xs

/-- A call that does not begin behind a comparison takes at least one lexeme. -/
theorem run_stream_length_lt (h : ∀ leaf, m.focus ≠ .value leaf) (hxs : xs ≠ []) :
    (m.run goal xs).stream.length < xs.length := by
  cases xs with
  | nil => exact absurd rfl hxs
  | cons x xs =>
    rcases run_cons m goal x xs with ⟨next, -, hrun⟩ | ⟨-, hpushed, hrest⟩
    · have := (run_stream_suffix next goal xs).length_le
      rw [hrun, List.length_cons]
      omega
    · have hback : (m.step goal x).givesBack = false := by
        by_contra hback
        obtain ⟨leaf, hleaf⟩ := givesBack_step (by simpa using hback)
        exact h leaf hleaf
      simp [Ending.stream, hpushed, hrest, hback]

/-- An operation that succeeds has read everything. -/
theorem stream_run_operation {t : Tree} (h : (m.run .operation xs).answer = .ok t) :
    (m.run .operation xs).stream = [] := by
  induction xs generalizing m with
  | nil => exact stream_finish m .operation
  | cons x xs ih =>
    rw [run] at h ⊢
    cases hs : m.step .operation x with
    | shift next =>
      rw [hs] at h
      exact ih h
    | accept t next back => exact absurd hs (step_ne_accept m x t next back)
    | reject e next back => simp [hs] at h

end Machine

/-! ### Series of calls -/

/-- A call of the parser. -/
inductive Call where
  /-- For the condition of a query. -/
  | query
  /-- For an operation, up to the end of the text. A query is one. -/
  | operation
  /-- For one term. -/
  | term
  deriving DecidableEq

/-- What the call asks for. -/
def Call.goal : Call → Goal
  | query => .operation
  | operation => .operation
  | term => .term

namespace Parser

variable {p : Parser} {query : String}

/-- Makes a call. -/
def make (p : Parser) : Call → Except SyntaxError Tree × Parser
  | .query => p.operation
  | .operation => p.operation
  | .term => p.term

theorem make_eq (p : Parser) (c : Call) :
    p.make c = ((p.call c.goal).answer, after (p.call c.goal)) := by
  cases c <;> rfl

/-- The parser after a series of calls. -/
def afterAll (p : Parser) : List Call → Parser
  | [] => p
  | c :: calls => (p.make c).2.afterAll calls

/-- The calls of a series with their answers. -/
def answers (p : Parser) : List Call → List (Call × Except SyntaxError Tree)
  | [] => []
  | c :: calls => (c, (p.make c).1) :: (p.make c).2.answers calls

/-- All tokens that are still to be read: those given back, then those that the lexer finds. -/
def tokens (p : Parser) : List Token := p.pushed ++ (p.rest.map .lexeme ++ [.finish])

theorem tokens_eq (h : p.Settled) : p.tokens = p.stream.map .lexeme ++ [.finish] := by
  rcases h.cases with hpushed | ⟨x, -, hpushed⟩ <;> simp [tokens, Input.stream, hpushed]

theorem tokens_ofString (query : String) : (ofString query).tokens = tokenize query := rfl

/-- **A call keeps the invariant**: it gives back no more than it has taken, and leaves all brackets
that it has opened. -/
theorem settled_make (h : p.Settled) (c : Call) : (p.make c).2.Settled := by
  rw [make_eq]
  refine ⟨h.toSettled.read c.goal c.goal p.begin, ?_⟩
  have hbegin : p.begin.Balanced := h.depth_eq
  have hrun := hbegin.run c.goal p.stream
  simp only [Machine.Balanced] at hrun
  simp only [call_eq h, after, Ending.outcome, hrun, Nat.sub_self]

theorem settled_afterAll (h : p.Settled) (calls : List Call) : (p.afterAll calls).Settled := by
  induction calls generalizing p with
  | nil => exact h
  | cons c calls ih => exact ih (settled_make h c)

/-! What a call does to the input, it does as a run. -/

theorem stream_make (h : p.Settled) (c : Call) :
    (p.make c).2.stream = (p.begin.run c.goal p.stream).stream := by
  rw [make_eq, call_eq h]
  exact Ending.stream_outcome _ _

theorem stream_make_suffix (h : p.Settled) (c : Call) : (p.make c).2.stream <:+ p.stream := by
  rw [stream_make h]
  exact Machine.run_stream_suffix _ _ _

theorem stream_make_length_lt (h : p.Settled) (hstream : p.stream ≠ []) (c : Call) :
    (p.make c).2.stream.length < p.stream.length := by
  rw [stream_make h]
  exact Machine.run_stream_length_lt (fun leaf => by simp [begin]) hstream

/-- At the end of the text every call fails. -/
theorem make_of_stream_eq_nil (h : p.Settled) (hstream : p.stream = []) (c : Call) :
    ∃ e, (p.make c).1 = .error e := by
  rw [make_eq, call_eq h, hstream]
  cases c with
  | query | operation => exact ⟨.emptyQuery, rfl⟩
  | term => exact ⟨.noField, rfl⟩

/-- An operation that succeeds leaves nothing to be read. -/
theorem stream_make_of_ok {c : Call} {t : Tree} (h : p.Settled) (hc : c ≠ .term)
    (ht : (p.make c).1 = .ok t) : (p.make c).2.stream = [] := by
  rw [stream_make h]
  rw [make_eq, call_eq h] at ht
  cases c with
  | query | operation => exact Machine.stream_run_operation ht
  | term => exact absurd rfl hc

/-! What a call keeps, a series of calls keeps. -/

theorem stream_afterAll_suffix (h : p.Settled) (calls : List Call) :
    (p.afterAll calls).stream <:+ p.stream := by
  induction calls generalizing p with
  | nil => exact List.suffix_refl _
  | cons c calls ih => exact (ih (settled_make h c)).trans (stream_make_suffix h c)

/-- At the end of the text every series of calls fails. -/
theorem answers_of_stream_eq_nil (h : p.Settled) (hstream : p.stream = []) (calls : List Call) :
    ∀ a ∈ p.answers calls, ∃ e, a.2 = .error e := by
  induction calls generalizing p with
  | nil => simp [answers]
  | cons c calls ih =>
    have hnext : (p.make c).2.stream = [] :=
      List.suffix_nil.mp (hstream ▸ stream_make_suffix h c)
    intro a ha
    rcases List.mem_cons.mp ha with rfl | ha
    · exact make_of_stream_eq_nil h hstream c
    · exact ih (settled_make h c) hnext a ha

/-- Behind an operation that succeeds there are only errors. -/
theorem answers_pairwise (h : p.Settled) (calls : List Call) :
    (p.answers calls).Pairwise fun a b =>
      a.1 ≠ .term → (∃ t, a.2 = .ok t) → ∃ e, b.2 = .error e := by
  induction calls generalizing p with
  | nil => exact List.Pairwise.nil
  | cons c calls ih =>
    have hnext := settled_make h c
    refine List.pairwise_cons.mpr ⟨fun b hb hc ⟨t, ht⟩ => ?_, ih hnext⟩
    exact answers_of_stream_eq_nil hnext (stream_make_of_ok h hc ht) calls b hb

/-- **The parser between calls.** Take any series of calls on a query, and one more. After it no
bracket is open, and there is at most one token on the stack of those that were given back, which is
neither a blank nor the end of the text. The tokens to be read are the end of those of the query,
and fewer than before the call unless only the end of the text was left. Of all calls for an
operation at most one succeeds, and behind it no call of any kind does. -/
theorem series_state (query : String) (calls : List Call) (c : Call) :
    let before := (ofString query).afterAll calls
    let after := (before.make c).2
    after.depth = 0 ∧
    after.pushed.length ≤ 1 ∧
    (∀ t ∈ after.pushed, t ≠ .finish ∧ t ≠ .lexeme .blank) ∧
    after.tokens <:+ tokenize query ∧
    (before.tokens = [.finish] ∨ after.tokens.length < before.tokens.length) ∧
    ((ofString query).answers calls).Pairwise fun a b =>
      a.1 ≠ .term → (∃ t, a.2 = .ok t) → ∃ e, b.2 = .error e := by
  intro before after
  have hstart := settled_ofString query
  have hbefore : before.Settled := settled_afterAll hstart calls
  have hafter : after.Settled := settled_make hbefore c
  refine ⟨hafter.depth_eq, hafter.length_le, hafter.ne, ?_, ?_, answers_pairwise hstart _⟩
  · obtain ⟨read, hread⟩ :=
      (stream_make_suffix hbefore c).trans (stream_afterAll_suffix hstart calls)
    rw [tokens_eq hafter, ← tokens_ofString, tokens_eq hstart, ← hread]
    exact ⟨read.map .lexeme, by simp [after]⟩
  · by_cases hs : before.stream = []
    · exact .inl (by simp [tokens_eq hbefore, hs])
    · refine .inr ?_
      have := stream_make_length_lt hbefore hs c
      simpa [tokens_eq hbefore, tokens_eq hafter] using this

/-- The stack may hold a token: the gate that tells a call for a term that it is at its end. -/
example : ((ofString "a = \"1\"OR b").make .term).2.pushed = [.lexeme (.gate .or)] := by
  decide +kernel

end Parser

end FilterQuery
