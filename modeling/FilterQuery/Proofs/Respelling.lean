import FilterQuery.Proofs.Lexing

/-!
# Queries in canonical spelling

`respell` writes the tokens of a query down again, one directly behind the other. They do not run
into each other: what could be misread if it stood there (a `=` behind a `>`, a word behind a word,
a blank behind a blank) the lexer never finds there, and a piece begins with `=` after it is spelled
again only if it did before (`Piece.Respells.head?_eq`). So the pieces of the new text are those of
the old one, each spelled again (`IsPartition.respelled`), and as a text has only one partition, the
lexer finds the same tokens in it. The main statement is `tokenize_respell`.
-/

namespace FilterQuery

/-- A token in its canonical spelling. The end of the text is not written. -/
def Token.spelling : Token → List Char
  | .lexeme x => x.spelling
  | .finish => []

/-- The tokens of a query in their canonical spelling, without anything between them. -/
def respell (query : String) : String :=
  String.ofList ((tokenize query).flatMap Token.spelling)

/-- The piece in its canonical spelling. -/
def Piece.respelled (p : Piece) : Piece :=
  ⟨p.lexeme, p.lexeme.spelling⟩

/-- All that may become of a piece. -/
inductive Piece.Respells : Piece → List Char → Prop where
  /-- A run of blanks shrinks to a space. -/
  | shrunk (span : List Char) : Respells ⟨.blank, span⟩ [' ']
  /-- A gate is put in upper case. -/
  | raised (g : Gate) (span : List Char) : Respells ⟨.gate g, span⟩ g.symbol.toList
  /-- The missing quote is put behind a quoted text. -/
  | closed (literal : String) :
    Respells ⟨.text literal true, '"' :: literal.toList⟩ ('"' :: (literal.toList ++ ['"']))
  /-- All else stays as it is. -/
  | kept (p : Piece) : Respells p p.span

/-! ### Pieces -/

theorem Piece.respells_spelling {p : Piece} (h : p.lexeme.HasSpan p.span) :
    p.Respells p.respelled.span := by
  obtain ⟨x, span⟩ := p
  dsimp only at h
  cases x with
  | comparator | openBracket | closeBracket | bang =>
    obtain rfl : span = _ := h
    exact .kept _
  | gate g => exact .raised g span
  | blank => exact .shrunk span
  | text literal quoted =>
    cases quoted with
    | false =>
      obtain ⟨rfl, -⟩ := h
      exact .kept _
    | true =>
      obtain ⟨-, rfl | rfl⟩ := h
      · exact .kept ⟨.text literal true, _⟩
      · exact .closed literal

/-- No piece comes to begin with a `=`. -/
theorem Piece.Respells.head?_eq {p : Piece} {span : List Char} (h : p.Respells span)
    (hspan : span.head? = some '=') : p.span.head? = some '=' := by
  cases h with
  | shrunk | closed => simp at hspan
  | raised g => cases g <;> simp [Gate.symbol] at hspan
  | kept => exact hspan

/-- In canonical spelling a quoted text has both its quotes. -/
theorem Piece.closed_respelled {p : Piece} (h : p.lexeme.quoted) : p.respelled.Closed := by
  obtain ⟨x, span⟩ := p
  cases x with
  | text literal quoted =>
    obtain rfl : quoted = true := h
    rfl
  | comparator | openBracket | closeBracket | bang | gate | blank => exact absurd h nofun

/-- What may come behind a piece may do so after both are spelled again. -/
theorem Piece.Meets.respelled {p next : Piece} (hnext : next.lexeme.HasSpan next.span)
    (h : p.Meets next) : p.respelled.Meets next.respelled where
  blank := h.blank
  mark hmark hhead := h.mark hmark ((Piece.respells_spelling hnext).head?_eq hhead)
  word := h.word
  quoted := Piece.closed_respelled

/-! ### Texts -/

variable {text : List Char} {pieces : List Piece}

/-- **The pieces that are spelled again** partition the text that they make up. -/
theorem IsPartition.respelled (h : IsPartition text pieces) :
    IsPartition (pieces.flatMap fun p => p.lexeme.spelling) (pieces.map Piece.respelled) where
  joined := List.flatMap_map ..
  spans := by
    rw [List.forall_mem_map]
    intro p hp
    exact Lexeme.Readable.spelling ⟨p.span, h.spans p hp⟩
  seams := by
    rw [List.isChain_map]
    exact h.seams.imp_of_mem_imp fun p next _ hnext hmeets => hmeets.respelled (h.spans next hnext)

/-- The lexemes of a text are those of its pieces. -/
theorem IsPartition.lexemes_eq (h : IsPartition text pieces) :
    lexemes text = pieces.map Piece.lexeme := by
  obtain ⟨found, hfound, hpartition⟩ := exists_isPartition text
  rw [← hfound, h.unique hpartition]

theorem toList_respell (query : String) :
    (respell query).toList = (lexemes query.toList).flatMap Lexeme.spelling := by
  have hlexeme : Token.spelling ∘ Token.lexeme = Lexeme.spelling := rfl
  rw [respell, String.toList_ofList, tokenize, List.flatMap_append, List.flatMap_map,
    List.flatMap_singleton, Token.spelling, List.append_nil]
  rfl

/-- **A query in canonical spelling has the same tokens**, and is not changed by being spelled
again. The pieces of the query are those of the new text, each spelled again, and nothing becomes of
them but that runs of blanks shrink, gates are in upper case and a quoted text is closed. -/
theorem tokenize_respell (query : String) :
    tokenize (respell query) = tokenize query ∧ respell (respell query) = respell query ∧
    ∃ pieces : List Piece, IsPartition query.toList pieces ∧
      IsPartition (respell query).toList (pieces.map Piece.respelled) ∧
      ∀ p ∈ pieces, p.Respells p.respelled.span := by
  obtain ⟨pieces, hlexemes, hpieces⟩ := exists_isPartition query.toList
  have hrespelled : IsPartition (respell query).toList (pieces.map Piece.respelled) := by
    rw [toList_respell, ← hlexemes, List.flatMap_map]
    exact hpieces.respelled
  have htokens : tokenize (respell query) = tokenize query := by
    have hfound : lexemes (respell query).toList = lexemes query.toList := by
      rw [hrespelled.lexemes_eq, ← hlexemes, List.map_map]
      rfl
    rw [tokenize, tokenize, hfound]
  refine ⟨htokens, ?_, pieces, hpieces, hrespelled, fun p hp => ?_⟩
  · rw [respell, htokens, ← respell]
  · exact Piece.respells_spelling (hpieces.spans p hp)

end FilterQuery
