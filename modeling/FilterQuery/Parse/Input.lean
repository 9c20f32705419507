import FilterQuery.Token.Scan

/-!
# Tokens to be read

Tokens are taken from an `Input` one at a time, and may be given back. Those that were given back
are a stack, and the next token is taken from there first.
-/

namespace FilterQuery

/-- The tokens that are still to be read. -/
structure Input where
  /-- The tokens that were given back, the last one first. -/
  pushed : List Token
  /-- The lexemes that have not been looked at. -/
  rest : List Lexeme
  /-- The number of times that the end of the text has been looked at. -/
  ends : Nat
  deriving DecidableEq

namespace Input

/-- Takes a token: the last one that was given back, or else the next one of the text. At the end of
the text it is the end token, however often it is asked. -/
def scan : Input → Token × Input
  | ⟨t :: pushed, rest, ends⟩ => (t, ⟨pushed, rest, ends⟩)
  | ⟨[], x :: rest, ends⟩ => (.lexeme x, ⟨[], rest, ends⟩)
  | ⟨[], [], ends⟩ => (.finish, ⟨[], [], ends + 1⟩)

/-- Gives a token back. -/
def unscan (input : Input) (t : Token) : Input :=
  { input with pushed := t :: input.pushed }

/-- Goes on behind the token `t`, or gives it back first. -/
def pass (input : Input) (t : Token) (back : Bool) : Input :=
  if back then input.unscan t else input

/-- The number of tokens before the end of the text. -/
def size (input : Input) : Nat := input.pushed.length + input.rest.length

theorem size_scan_le (input : Input) : input.scan.2.size ≤ input.size := by
  unfold scan
  split <;> simp [size]

theorem size_scan_lt {input : Input} (h : input.scan.1 ≠ .finish) :
    input.scan.2.size < input.size := by
  unfold scan at h ⊢
  split <;> simp_all [size]

end Input

end FilterQuery
