import FilterQuery.Proofs.Grammar
import FilterQuery.Proofs.TokenSpans
import FilterQuery.Tree.Display

/-!
# Lexemes of written text

What the lexer makes of text that is put together from known pieces. `visible` is all that the
parser sees of a text, its lexemes without the blanks; there is one lemma for each piece that a
query can be written with. A literal comes back from what `writeLiteral` makes of it if it is
writable (`visible_writeLiteral`), and every literal that the lexer finds is writable
(`writable_of_mem_lexemes`). Any lexemes that can be read at all make up a query
(`exists_significant_eq`).
-/

namespace FilterQuery

/-! ### What the parser sees -/

/-- The lexemes of a text without the blanks. -/
def visible (cs : List Char) : List Lexeme :=
  (lexemes cs).filter (· ≠ .blank)

theorem significant_eq_visible (query : String) : significant query = visible query.toList :=
  significant_eq query

@[simp] theorem visible_nil : visible [] = [] := by simp [visible, lexemes]

theorem visible_cons_of_scan {c : Char} {cs rest : List Char} {x : Lexeme}
    (h : Lexeme.scan c cs = (x, rest)) (hx : x ≠ .blank) :
    visible (c :: cs) = x :: visible rest := by
  rw [visible, lexemes_cons, h, List.filter_cons_of_pos (by simpa using hx)]
  rfl

@[simp] theorem visible_openBracket (cs : List Char) :
    visible ('(' :: cs) = .openBracket :: visible cs :=
  visible_cons_of_scan (by simp [Lexeme.scan]) (by simp)

@[simp] theorem visible_closeBracket (cs : List Char) :
    visible (')' :: cs) = .closeBracket :: visible cs :=
  visible_cons_of_scan (by simp [Lexeme.scan]) (by simp)

theorem visible_dropWhile (cs : List Char) : visible (cs.dropWhile isBlank) = visible cs := by
  cases cs with
  | nil => rfl
  | cons c cs =>
    cases h : isBlank c with
    | false => rw [List.dropWhile_cons_of_neg (by simp [h])]
    | true =>
      rw [List.dropWhile_cons_of_pos h, visible, visible, lexemes_cons, scan_blank h]
      simp

/-- A blank is not seen, whether the lexer joins it to a longer run or not. -/
@[simp] theorem visible_space (cs : List Char) : visible (' ' :: cs) = visible cs := by
  rw [← visible_dropWhile (' ' :: cs), List.dropWhile_cons_of_pos (by decide), visible_dropWhile]

/-- A comparator with a space after it. -/
@[simp] theorem visible_comparator (c : Comparator) (cs : List Char) :
    visible (c.symbol.toList ++ ' ' :: cs) = .comparator c :: visible cs := by
  have hread : visible (c.symbol.toList ++ ' ' :: cs) = .comparator c :: visible (' ' :: cs) := by
    cases c <;> simp only [Comparator.symbol, String.reduceToList, List.cons_append, List.nil_append] <;>
      exact visible_cons_of_scan (by simp [Lexeme.scan, Lexeme.ordering]) (by simp)
  rw [hread, visible_space]

/-! ### Words -/

theorem endsWord_space (cs : List Char) : EndsWord (' ' :: cs) := by simp [EndsWord]; decide

theorem endsWord_closeBracket (cs : List Char) : EndsWord (')' :: cs) := by simp [EndsWord]; decide

/-- A bare word is read up to its end. -/
theorem visible_word {word rest : List Char} (hne : word ≠ []) (hw : ∀ c ∈ word, isWordChar c)
    (hq : word.head? ≠ some '"') (hr : EndsWord rest) :
    visible (word ++ rest) = Lexeme.ofWord word :: visible rest := by
  obtain ⟨c, cs, hcons, hscan⟩ := scan_bareWord hne hw hq hr
  rw [hcons]
  refine visible_cons_of_scan hscan ?_
  unfold Lexeme.ofWord
  split <;> simp

/-- The word of a gate is read up to its end, in whatever case it is. -/
theorem visible_spelled {g : Gate} {word rest : List Char} (h : g.Spells word)
    (hr : EndsWord rest) : visible (word ++ rest) = .gate g :: visible rest := by
  obtain ⟨hne, hq, hw⟩ := h.bare
  rw [visible_word hne hw hq hr, Lexeme.ofWord, Gate.ofWord?_eq_some_iff.mpr h]

theorem visible_gate (g : Gate) {rest : List Char} (hr : EndsWord rest) :
    visible (g.symbol.toList ++ rest) = .gate g :: visible rest :=
  visible_spelled rfl hr

/-! ### Literals -/

/-- The literals of the language: those without quotes, which may stand between two of them, and
those that stand for themselves as bare words. -/
def IsWritable (literal : String) : Prop :=
  '"' ∉ literal.toList ∨
    (literal.toList.head? ≠ some '"' ∧ ∀ c ∈ literal.toList, isWordChar c)

instance (literal : String) : Decidable (IsWritable literal) :=
  decidable_of_iff
    ('"' ∉ literal.toList ∨ literal.toList.head? ≠ some '"' ∧ literal.toList.all isWordChar)
    (by simp [IsWritable])

/-- Whatever needs quotes has none in it. -/
theorem IsWritable.not_mem {literal : String} (h : IsWritable literal)
    (hq : needsQuotes literal.toList) : '"' ∉ literal.toList := by
  rcases h with h | ⟨hhead, hword⟩
  · exact h
  intro hmem
  simp only [needsQuotes, Bool.or_eq_true, decide_eq_true_eq, List.any_eq_true] at hq
  rcases hq with ((hempty | hgate) | hquote) | ⟨c, hc, hstop⟩
  · rw [List.isEmpty_iff.mp hempty] at hmem
    simp at hmem
  · -- a gate is spelled without quotes
    obtain ⟨g, hg⟩ := Option.isSome_iff_exists.mp hgate
    have := (Gate.ofWord?_eq_some_iff.mp hg).toLower_mem hmem
    revert this
    decide
  · exact hhead hquote
  · have := hword c hc
    simp only [isWordChar, Bool.not_eq_true', Bool.or_eq_false_iff] at this
    simp [this] at hstop

/-- What needs no quotes stands for itself. -/
theorem bare_of_not_needsQuotes {word : List Char} (h : needsQuotes word = false) :
    word ≠ [] ∧ Gate.ofWord? word = none ∧ word.head? ≠ some '"' ∧ ∀ c ∈ word, isWordChar c := by
  simp only [needsQuotes, Bool.or_eq_false_iff, decide_eq_false_iff_not, List.any_eq_false] at h
  obtain ⟨⟨⟨hempty, hgate⟩, hhead⟩, hstop⟩ := h
  refine ⟨by simpa using hempty, by simpa using hgate, hhead, fun c hc => ?_⟩
  simpa [isWordChar] using hstop c hc

/-- The lexeme of a written literal. -/
def Lexeme.ofLiteral (literal : String) : Lexeme :=
  .text literal (needsQuotes literal.toList)

/-- **A writable literal is read back**, with quotes or without. -/
theorem visible_writeLiteral {literal : String} (h : IsWritable literal) {rest : List Char}
    (hr : EndsWord rest) :
    visible ((writeLiteral literal).toList ++ rest) = .ofLiteral literal :: visible rest := by
  rw [writeLiteral, Lexeme.ofLiteral]
  cases hq : needsQuotes literal.toList with
  | true =>
    have hscan := scan_quoted (h.not_mem hq) rest
    have := visible_cons_of_scan hscan (by simp)
    simpa using this
  | false =>
    obtain ⟨hne, hgate, hhead, hword⟩ := bare_of_not_needsQuotes hq
    have := visible_word hne hword hhead hr
    simpa [Lexeme.ofWord, hgate] using this

/-- **Every literal that the lexer finds is writable.** -/
theorem writable_of_mem_lexemes {cs : List Char} {literal : String} {q : Bool}
    (h : .text literal q ∈ lexemes cs) : IsWritable literal := by
  obtain ⟨span, hspan, -⟩ := exists_span_of_mem_lexemes h
  cases q with
  | false =>
    obtain ⟨rfl, -, hq, -, hw⟩ := hspan
    exact .inr ⟨hq, fun c hc => isWordChar_iff.mpr (hw c hc)⟩
  | true => exact .inl hspan.1

/-- **Every literal that the lexer finds** is spelled the same in the text. -/
theorem infix_of_mem_lexemes {cs : List Char} {literal : String} {q : Bool}
    (h : .text literal q ∈ lexemes cs) : literal.toList <:+: cs := by
  obtain ⟨span, hspan, hinfix⟩ := exists_span_of_mem_lexemes h
  cases q with
  | false =>
    obtain ⟨rfl, -⟩ := hspan
    exact hinfix
  | true =>
    obtain ⟨-, rfl | rfl⟩ := hspan
    · exact List.IsInfix.trans ⟨['"'], ['"'], by simp⟩ hinfix
    · exact (List.suffix_cons '"' literal.toList).isInfix.trans hinfix

/-! ### Spelled lexemes -/

/-- A piece is seen as its lexeme, unless it is a blank. -/
theorem Piece.visible_append {p : Piece} {rest : List Char} (hspan : p.lexeme.HasSpan p.span)
    (hstop : p.StopsAt rest) :
    visible (p.span ++ rest) = [p.lexeme].filter (· ≠ .blank) ++ visible rest := by
  obtain ⟨c, cs, hcons, hscan⟩ := Piece.scan hspan hstop
  rw [hcons, visible, lexemes_cons, hscan, visible, ← List.filter_append]
  rfl

/-- A lexeme in its canonical spelling: a gate in upper case, a text that was quoted between two
quotes again, and a run of blanks as one space. -/
def Lexeme.spelling : Lexeme → List Char
  | .blank => [' ']
  | .text literal true => '"' :: (literal.toList ++ ['"'])
  | x => x.literal.toList

/-- The lexeme can be read from some text. -/
def Lexeme.Readable (x : Lexeme) : Prop := ∃ span, x.HasSpan span

theorem readable_of_mem_lexemes {cs : List Char} {x : Lexeme} (h : x ∈ lexemes cs) :
    x.Readable := by
  obtain ⟨span, hspan, -⟩ := exists_span_of_mem_lexemes h
  exact ⟨span, hspan⟩

/-- What can be read at all can be read from its canonical spelling. -/
theorem Lexeme.Readable.spelling {x : Lexeme} (h : x.Readable) : x.HasSpan x.spelling := by
  obtain ⟨span, hspan⟩ := h
  cases x with
  | comparator | openBracket | closeBracket | bang => rfl
  | gate g =>
    have hgate : g.Spells g.symbol.toList := rfl
    exact hgate
  | blank => exact ⟨by simp [Lexeme.spelling], by simp [Lexeme.spelling, isBlank]⟩
  | text literal quoted =>
    cases quoted with
    | false =>
      obtain ⟨rfl, hword⟩ := hspan
      exact ⟨rfl, hword⟩
    | true => exact ⟨hspan.1, .inl rfl⟩

/-- A space behind the canonical spelling keeps it apart from whatever follows. -/
theorem visible_spelling {x : Lexeme} (h : x.Readable) (hx : x ≠ .blank) (rest : List Char) :
    visible (x.spelling ++ ' ' :: rest) = x :: visible rest := by
  have hstop : Piece.StopsAt ⟨x, x.spelling⟩ (' ' :: rest) := by
    refine ⟨fun hblank => absurd hblank hx, fun _ => by simp, fun _ => endsWord_space rest,
      fun hquoted => .inl ?_⟩
    cases x with
    | text literal quoted =>
      obtain rfl : quoted = true := hquoted
      rfl
    | comparator | openBracket | closeBracket | bang | gate | blank => exact absurd hquoted nofun
  have hseen := Piece.visible_append (p := ⟨x, x.spelling⟩) h.spelling hstop
  rw [hseen, visible_space, List.filter_cons_of_pos (by simpa using hx)]
  rfl

/-- **Lexemes that can be read one by one** can be read from one query. -/
theorem exists_significant_eq {xs : List Lexeme} (h : ∀ x ∈ xs, x ≠ .blank ∧ x.Readable) :
    ∃ query, significant query = xs := by
  refine ⟨String.ofList (xs.flatMap fun x => x.spelling ++ [' ']), ?_⟩
  rw [significant_eq_visible, String.toList_ofList]
  induction xs with
  | nil => exact visible_nil
  | cons x xs ih =>
    obtain ⟨⟨hx, hread⟩, hxs⟩ := List.forall_mem_cons.mp h
    rw [List.flatMap_cons, List.append_assoc, List.singleton_append, visible_spelling hread hx,
      ih hxs]

/-- The lexemes of a query, blanks aside, are no blanks and can be read. -/
theorem readable_of_mem_significant {query : String} {x : Lexeme} (h : x ∈ significant query) :
    x ≠ .blank ∧ x.Readable := by
  rw [significant_eq] at h
  obtain ⟨hmem, hx⟩ := List.mem_filter.mp h
  exact ⟨by simpa using hx, readable_of_mem_lexemes hmem⟩

end FilterQuery
