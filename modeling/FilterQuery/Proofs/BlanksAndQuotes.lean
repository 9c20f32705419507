import FilterQuery.Proofs.ParserCalls

/-!
# Blanks and quotes

Blanks separate words and quotes keep them together; once the lexer is done, neither means anything.
A call on plain lexemes, without either, ends as it does on the others and leaves what is plainly
the same (`Machine.view_run_plain`). It does not leave the same lexemes: behind a comparison a blank
is dropped, where any other lexeme is given back. But two parsers with plainly the same lexemes to
read can not be told apart by any series of calls. The main statement is
`Parser.answers_eq_of_significantParts_eq`.
-/

namespace FilterQuery

/-! ### Queries that look alike -/

/-- The kinds and literals of a query's tokens, without the blanks. -/
def significantParts (query : String) : List (Kind × String) :=
  ((tokenize query).filter (·.kind ≠ .blank)).map fun x => (x.kind, x.literal)

theorem significantParts_eq (query : String) : significantParts query =
    ((lexemes query.toList).filter (· ≠ .blank)).map (fun x => (x.kind, x.literal)) ++
      [(.finish, "")] := by
  have hkind (x : Lexeme) : x.kind = .blank ↔ x = .blank := by
    cases x <;> simp [Lexeme.kind]
  simp [significantParts, tokenize, List.filter_map, Function.comp_def, Token.kind, Token.literal,
    hkind]

/-- Kind and literal make up a lexeme, quotes aside. -/
theorem Lexeme.unquoted_eq_of_parts {x y : Lexeme} (hkind : x.kind = y.kind)
    (hliteral : x.literal = y.literal) : x.unquoted = y.unquoted := by
  cases x <;> cases y <;> simp_all [kind, literal, unquoted]

theorem plain_eq_of_significantParts_eq {query query' : String}
    (h : significantParts query = significantParts query') :
    plain (lexemes query.toList) = plain (lexemes query'.toList) := by
  rw [significantParts_eq, significantParts_eq] at h
  have hparts := List.append_cancel_right h
  rw [← List.forall₂_eq_eq_eq, List.forall₂_map_left_iff, List.forall₂_map_right_iff] at hparts
  rw [plain, plain, ← List.forall₂_eq_eq_eq, List.forall₂_map_left_iff,
    List.forall₂_map_right_iff]
  refine hparts.imp fun x y hxy => ?_
  obtain ⟨hkind, hliteral⟩ := Prod.mk.inj hxy
  exact Lexeme.unquoted_eq_of_parts hkind hliteral

/-! ### Series of calls -/

namespace Parser

variable {p p' : Parser}

/-- All that can be told of a parser by its calls. -/
def view (p : Parser) : List Lexeme × Nat × Nat := (plain p.stream, p.depth, p.comparisons)

/-- Parsers that look the same answer a call alike, and look the same after it. -/
theorem make_eq_of_view_eq (hp : p.Settled) (hp' : p'.Settled) (h : p.view = p'.view) (c : Call) :
    (p.make c).1 = (p'.make c).1 ∧ (p.make c).2.view = (p'.make c).2.view := by
  simp only [view, Prod.mk.injEq] at h
  obtain ⟨hstream, hdepth, hcomparisons⟩ := h
  have hbegin : p.begin = p'.begin := by rw [begin, begin, hdepth, hcomparisons]
  have hrun : (p.begin.run c.goal p.stream).view = (p'.begin.run c.goal p'.stream).view := by
    rw [← Machine.view_run_plain, hstream, hbegin, Machine.view_run_plain]
  simp only [Ending.view, Prod.mk.injEq] at hrun
  obtain ⟨hanswer, hmachine, hleft⟩ := hrun
  refine ⟨by rw [make_eq, make_eq, call_eq hp, call_eq hp']; exact hanswer, ?_⟩
  rw [view, view, stream_make hp, stream_make hp', hleft, make_eq, make_eq, call_eq hp, call_eq hp']
  simp only [after, Ending.outcome, hmachine]

/-- Parsers that look the same answer every series of calls alike. -/
theorem answers_eq_of_view_eq (hp : p.Settled) (hp' : p'.Settled) (h : p.view = p'.view)
    (calls : List Call) : p.answers calls = p'.answers calls := by
  induction calls generalizing p p' with
  | nil => rfl
  | cons c calls ih =>
    obtain ⟨hanswer, hview⟩ := make_eq_of_view_eq hp hp' h c
    rw [answers, answers, hanswer, ih (settled_make hp c) (settled_make hp' c) hview]

/-- **Blanks and quotes never change an answer.** Take two queries whose tokens, blanks aside, have
the same kinds and literals in the same order. A parser of the one and a parser of the other answer
any series of calls alike, each with the same tree or with the same error. -/
theorem answers_eq_of_significantParts_eq {query query' : String}
    (h : significantParts query = significantParts query') (calls : List Call) :
    (ofString query).answers calls = (ofString query').answers calls := by
  refine answers_eq_of_view_eq (settled_ofString _) (settled_ofString _) ?_ calls
  simp [view, Input.stream, ofString, plain_eq_of_significantParts_eq h]

/-- Two spellings of three comparisons without gates. A call for a term reads the first, one for a
query stops at the name of the third, and one more for a term finds no name where it goes on. -/
theorem answers_eq_of_two_spellings :
    significantParts "a = b \"c d\"=e f<1" =
      significantParts "\"a\"=\"b\"\"c d\" = e\t\"f\"<1" ∧
    (ofString "a = b \"c d\"=e f<1").answers [.term, .query, .term] =
      (ofString "\"a\"=\"b\"\"c d\" = e\t\"f\"<1").answers [.term, .query, .term] := by
  have h : significantParts "a = b \"c d\"=e f<1" =
      significantParts "\"a\"=\"b\"\"c d\" = e\t\"f\"<1" := by
    decide +kernel
  exact ⟨h, answers_eq_of_significantParts_eq h [.term, .query, .term]⟩

end Parser

end FilterQuery
