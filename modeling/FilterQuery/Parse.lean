import FilterQuery.Parse.Input
import FilterQuery.Parse.Turn

/-!
# Parsing

A query is a row of terms with gates between them, and a term is a comparison or such a row in
brackets:

    operation := term (GATE term)*
    term      := '(' operation ')' | FIELD COMPARATOR VALUE

`Input.read` takes tokens from the input, and gives back those that the machine does not want yet,
until the machine accepts or rejects. A `Parser` answers a series of calls on one text. It remembers
what is left of the input, the tokens that were given back included, and the number of comparisons
so far, which is limited over all calls.
-/

namespace FilterQuery

/-- The end of a call: its answer, and the input that it leaves. -/
structure Outcome extends Input where
  answer : Except SyntaxError Tree
  /-- The machine at the end, its brackets still open. -/
  machine : Machine

namespace Input

/-- A call ends: with each turn there is less to be read, or there are fewer returns. -/
theorem measure_lt_of_turn {goal part part' : Goal} {m next : Machine} {input : Input} {back : Bool}
    (h : m.turn goal part input.scan.1 = .goOn part' next back) :
    3 * (input.scan.2.pass input.scan.1 back).size + next.returns part' <
      3 * input.size + m.returns part := by
  obtain ⟨hback, hreturns⟩ := Machine.returns_lt_of_turn h
  have hle := next.returns_le part'
  by_cases ht : input.scan.1 = .finish
  · have hb : back = false := by simpa [ht] using hback
    have := hreturns (.inr ht)
    have := input.size_scan_le
    simp only [pass, hb, Bool.false_eq_true, if_false]
    omega
  · have hsize := size_scan_lt ht
    cases back with
    | false =>
      simp only [pass, Bool.false_eq_true, if_false]
      omega
    | true =>
      have := hreturns (.inl rfl)
      simp only [pass, if_true, unscan, size, List.length_cons] at hsize ⊢
      omega

/-- Reads tokens until the call ends. -/
def read (goal part : Goal) (m : Machine) (input : Input) : Outcome :=
  match _ : m.turn goal part input.scan.1 with
  | .goOn part next back => (input.scan.2.pass input.scan.1 back).read goal part next
  | .accept tree next back =>
    { input.scan.2.pass input.scan.1 back with answer := .ok tree, machine := next }
  | .reject e next back =>
    { input.scan.2.pass input.scan.1 back with answer := .error e, machine := next }
  termination_by 3 * input.size + m.returns part
  decreasing_by exact measure_lt_of_turn ‹_›

end Input

/-- A parser between two calls. -/
structure Parser extends Input where
  /-- The number of open brackets. -/
  depth : Nat
  /-- The number of comparisons completed so far. -/
  comparisons : Nat
  deriving DecidableEq

namespace Parser

/-- A parser at the start of a query. -/
def ofString (query : String) : Parser where
  pushed := []
  rest := lexemes query.toList
  ends := 0
  depth := 0
  comparisons := 0

/-- The machine at the start of a call. -/
def begin (p : Parser) : Machine :=
  ⟨.empty, [], .none, p.depth, p.comparisons⟩

/-- Runs one call to its end. -/
def call (goal : Goal) (p : Parser) : Outcome :=
  p.toInput.read goal goal p.begin

/-- The parser after a call. Each bracket that is still open is left. -/
def after (outcome : Outcome) : Parser where
  toInput := outcome.toInput
  depth := outcome.machine.depth - outcome.machine.outer.length
  comparisons := outcome.machine.comparisons

/-- Reads an operation, up to the end of the text. -/
def operation (p : Parser) : Except SyntaxError Tree × Parser :=
  let outcome := p.call .operation
  (outcome.answer, after outcome)

/-- Reads one term. -/
def term (p : Parser) : Except SyntaxError Tree × Parser :=
  let outcome := p.call .term
  (outcome.answer, after outcome)

end Parser

/-- The condition that a query stands for. -/
def parse (query : String) : Except SyntaxError Tree :=
  (Parser.ofString query).operation.1

end FilterQuery
