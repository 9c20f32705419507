import FilterQuery.Proofs.Basics
import FilterQuery.Token.Scan
import Mathlib.Data.List.Chain

/-!
# Tokens and the text they are read from

The lexer cuts a text into pieces, one behind the other, and reads one token from each.
`Lexeme.HasSpan` says which pieces a lexeme is read from, `Piece.Meets` which piece may come
directly behind another, and `IsPartition` is both for all pieces of a text. What the lexer looks at
behind a piece is only where the rest begins (`Piece.StopsAt`): a scan takes a piece that stops
there (`exists_piece_of_scan`), and it takes any such piece (`Piece.scan`). Hence every text has one
partition and no other. The main statement is `tokenize_partition`.
-/

namespace FilterQuery

/-! ### Pieces -/

/-- The word is the gate, in some ASCII case. -/
def Gate.Spells (g : Gate) (word : List Char) : Prop :=
  word.map Char.toLower = g.symbol.toList.map Char.toLower

instance (g : Gate) (word : List Char) : Decidable (g.Spells word) :=
  inferInstanceAs (Decidable (_ = _))

/-- The pieces of text that a lexeme is read from. Of a quoted text the closing quote may be
missing. -/
def Lexeme.HasSpan : Lexeme → List Char → Prop
  | .gate g, span => g.Spells span
  | .blank, span => span ≠ [] ∧ ∀ c ∈ span, isBlank c
  | .text literal false, span =>
    span = literal.toList ∧ span ≠ [] ∧ span.head? ≠ some '"' ∧ (∀ g : Gate, ¬ g.Spells span) ∧
      ∀ c ∈ span, ¬ isBlank c ∧ ¬ isSpecial c
  | .text literal true, span =>
    '"' ∉ literal.toList ∧
      (span = '"' :: (literal.toList ++ ['"']) ∨ span = '"' :: literal.toList)
  | x, span => span = x.literal.toList

/-- The lexemes that are made of special characters. -/
def Lexeme.isMark : Lexeme → Bool
  | .comparator _ => true
  | .openBracket => true
  | .closeBracket => true
  | .bang => true
  | _ => false

/-- The marks that a `=` directly behind them would make another comparator. -/
def Lexeme.isOpenMark : Lexeme → Bool
  | .comparator .greater => true
  | .comparator .less => true
  | .bang => true
  | _ => false

/-- The lexemes that are read from bare words. -/
def Lexeme.isWord : Lexeme → Bool
  | .gate _ => true
  | .text _ quoted => !quoted
  | _ => false

/-- A lexeme with the piece of the text that it is read from. -/
structure Piece where
  lexeme : Lexeme
  span : List Char

/-- The literal stands between two quotes. -/
def Piece.Closed (p : Piece) : Prop := p.span = '"' :: (p.lexeme.literal.toList ++ ['"'])

/-- The piece `next` may come directly behind `p`. -/
structure Piece.Meets (p next : Piece) : Prop where
  blank : p.lexeme = .blank → next.lexeme ≠ .blank
  mark : p.lexeme.isOpenMark → next.span.head? ≠ some '='
  word : p.lexeme.isWord → next.lexeme = .blank ∨ next.lexeme.isMark
  /-- Only at the end of the text the closing quote is missing. -/
  quoted : p.lexeme.quoted → p.Closed

/-- The pieces are the text, cut where lexemes begin and end. -/
structure IsPartition (text : List Char) (pieces : List Piece) : Prop where
  joined : pieces.flatMap Piece.span = text
  spans : ∀ p ∈ pieces, p.lexeme.HasSpan p.span
  seams : pieces.IsChain Piece.Meets

/-- No bare word goes on with the text. -/
def EndsWord (cs : List Char) : Prop := ∀ c ∈ cs.head?, isWordChar c = false

theorem endsWord_nil : EndsWord [] := by simp [EndsWord]

/-- The piece ends where `rest` begins, for all that can be told from `rest`. -/
structure Piece.StopsAt (p : Piece) (rest : List Char) : Prop where
  blank : p.lexeme = .blank → ∀ c ∈ rest.head?, isBlank c = false
  mark : p.lexeme.isOpenMark → rest.head? ≠ some '='
  word : p.lexeme.isWord → EndsWord rest
  quoted : p.lexeme.quoted → p.Closed ∨ rest = []

theorem Gate.ofWord?_eq_some_iff {word : List Char} {g : Gate} :
    Gate.ofWord? word = some g ↔ g.Spells word := by
  unfold Gate.ofWord? Gate.Spells
  cases g with
  | and =>
    change _ ↔ word.map Char.toLower = ['a', 'n', 'd']
    split
    · simp [*]
    split <;> simp [*]
  | or =>
    change _ ↔ word.map Char.toLower = ['o', 'r']
    split
    · simp [*]
    split <;> simp [*]

theorem Gate.ofWord?_eq_none_iff {word : List Char} :
    Gate.ofWord? word = none ↔ ∀ g : Gate, ¬ g.Spells word := by
  simp only [← Gate.ofWord?_eq_some_iff, Option.eq_none_iff_forall_ne_some]

theorem isWordChar_iff {c : Char} : isWordChar c ↔ ¬ isBlank c ∧ ¬ isSpecial c := by
  simp [isWordChar]

/-! ### Scans -/

theorem lexemes_cons (c : Char) (cs : List Char) :
    lexemes (c :: cs) = (Lexeme.scan c cs).1 :: lexemes (Lexeme.scan c cs).2 := by
  rw [lexemes]

theorem Lexeme.ordering_of_head_ne (strict inclusive : Comparator) {rest : List Char}
    (h : rest.head? ≠ some '=') : ordering strict inclusive rest = (.comparator strict, rest) := by
  unfold ordering
  split
  · simp at h
  · rfl

theorem Lexeme.scan_bang_of_head_ne {rest : List Char} (h : rest.head? ≠ some '=') :
    scan '!' rest = (.bang, rest) := by
  simp only [scan, Char.reduceEq, if_false, if_true]
  split
  · simp at h
  · rfl

theorem scan_blank {c : Char} (h : isBlank c) (cs : List Char) :
    Lexeme.scan c cs = (.blank, cs.dropWhile isBlank) := by
  simp only [isBlank, Bool.or_eq_true, decide_eq_true_eq] at h
  rcases h with ((rfl | rfl) | rfl) | rfl <;> simp [Lexeme.scan, isBlank]

theorem scan_word {c : Char} (h : isWordChar c) (hq : c ≠ '"') (cs : List Char) :
    Lexeme.scan c cs = (.ofWord (c :: cs.takeWhile isWordChar), cs.dropWhile isWordChar) := by
  simp only [isWordChar, isSpecial, Bool.not_eq_true', Bool.or_eq_false_iff,
    decide_eq_false_iff_not] at h
  obtain ⟨hb, ⟨⟨⟨⟨⟨h1, h2⟩, h3⟩, h4⟩, h5⟩, h6⟩, h7⟩ := h
  simp [Lexeme.scan, h1, h2, h3, h4, h5, h6, h7, hb, hq]

/-- A bare word is taken up to its end. -/
theorem scan_bareWord {word rest : List Char} (hne : word ≠ []) (hw : ∀ c ∈ word, isWordChar c)
    (hq : word.head? ≠ some '"') (hr : EndsWord rest) :
    ∃ c cs, word ++ rest = c :: cs ∧ Lexeme.scan c cs = (.ofWord word, rest) := by
  cases word with
  | nil => exact absurd rfl hne
  | cons c cs =>
    have hcs : ∀ d ∈ cs, isWordChar d := fun d hd => hw d (List.mem_cons_of_mem _ hd)
    refine ⟨c, cs ++ rest, rfl, ?_⟩
    rw [scan_word (hw c (List.mem_cons_self ..)) (by simpa using hq), takeWhile_append_stop hcs hr,
      dropWhile_append_stop hcs hr]

/-- What ends a word is no letter of a gate. -/
theorem toLower_notMem_of_not_isWordChar {c : Char} (h : isWordChar c = false) :
    c.toLower ∉ "andor".toList := by
  simp only [isWordChar, isBlank, isSpecial, Bool.not_eq_false', Bool.or_eq_true,
    decide_eq_true_eq] at h
  rcases h with (((rfl | rfl) | rfl) | rfl) | ((((((rfl | rfl) | rfl) | rfl) | rfl) | rfl) | rfl)
    <;> decide

theorem Gate.Spells.toLower_mem {g : Gate} {word : List Char} (h : g.Spells word) {c : Char}
    (hc : c ∈ word) : c.toLower ∈ "andor".toList := by
  have hletters : g.symbol.toList.map Char.toLower ⊆ "andor".toList := by
    cases g <;> simp [symbol]
  exact hletters (h ▸ List.mem_map_of_mem hc)

/-- The word of a gate is a bare word. -/
theorem Gate.Spells.bare {g : Gate} {word : List Char} (h : g.Spells word) :
    word ≠ [] ∧ word.head? ≠ some '"' ∧ ∀ c ∈ word, isWordChar c := by
  refine ⟨?_, fun hq => ?_, fun c hc => ?_⟩
  · rintro rfl
    cases g <;> simp [Spells, symbol] at h
  · have := h.toLower_mem (List.mem_of_mem_head? hq)
    revert this
    decide
  · by_contra hstop
    exact toLower_notMem_of_not_isWordChar (by simpa using hstop) (h.toLower_mem hc)

theorem scan_quoted {body : List Char} (h : '"' ∉ body) (rest : List Char) :
    Lexeme.scan '"' (body ++ '"' :: rest) = (.text (String.ofList body) true, rest) := by
  have hbody : ∀ c ∈ body, (c != '"') = true := fun c hc => by
    simpa using fun hq : c = '"' => h (hq ▸ hc)
  have hstop : ∀ c ∈ ('"' :: rest).head?, (c != '"') = false := by simp
  simp only [Lexeme.scan, takeWhile_append_stop hbody hstop, dropWhile_append_stop hbody hstop]
  simp [isBlank]

/-- Without its closing quote a quoted text is all that is left. -/
theorem scan_openQuoted {body : List Char} (h : '"' ∉ body) :
    Lexeme.scan '"' body = (.text (String.ofList body) true, []) := by
  have hbody : ∀ c ∈ body, (c != '"') = true := fun c hc => by
    simpa using fun hq : c = '"' => h (hq ▸ hc)
  have htake : body.takeWhile (· != '"') = body := List.takeWhile_eq_self_iff.mpr hbody
  have hdrop : body.dropWhile (· != '"') = [] := List.dropWhile_eq_nil_iff.mpr hbody
  simp [Lexeme.scan, isBlank, htake, hdrop]

/-- **A scan takes a piece that ends where the rest begins.** -/
theorem Piece.scan {p : Piece} {rest : List Char} (hspan : p.lexeme.HasSpan p.span)
    (hstop : p.StopsAt rest) :
    ∃ c cs, p.span ++ rest = c :: cs ∧ Lexeme.scan c cs = (p.lexeme, rest) := by
  obtain ⟨x, span⟩ := p
  dsimp only at hspan ⊢
  cases x with
  | comparator c =>
    obtain rfl : span = c.symbol.toList := hspan
    have hmark := hstop.mark
    cases c with
    | greater => exact ⟨'>', rest, rfl, Lexeme.ordering_of_head_ne _ _ (hmark rfl)⟩
    | less => exact ⟨'<', rest, rfl, Lexeme.ordering_of_head_ne _ _ (hmark rfl)⟩
    | greaterOrEqual => exact ⟨'>', '=' :: rest, rfl, rfl⟩
    | lessOrEqual => exact ⟨'<', '=' :: rest, rfl, rfl⟩
    | equal => exact ⟨'=', rest, rfl, rfl⟩
    | notEqual => exact ⟨'!', '=' :: rest, rfl, rfl⟩
    | contains => exact ⟨'%', rest, rfl, rfl⟩
  | gate g =>
    have hg : g.Spells span := hspan
    obtain ⟨hne, hq, hw⟩ := hg.bare
    obtain ⟨c, cs, hcs, hscan⟩ := scan_bareWord hne hw hq (hstop.word rfl)
    refine ⟨c, cs, hcs, hscan.trans ?_⟩
    rw [Lexeme.ofWord, Gate.ofWord?_eq_some_iff.mpr hg]
  | openBracket =>
    obtain rfl : span = ['('] := by simpa [Lexeme.HasSpan, Lexeme.literal] using hspan
    exact ⟨'(', rest, rfl, rfl⟩
  | closeBracket =>
    obtain rfl : span = [')'] := by simpa [Lexeme.HasSpan, Lexeme.literal] using hspan
    exact ⟨')', rest, rfl, rfl⟩
  | bang =>
    obtain rfl : span = ['!'] := by simpa [Lexeme.HasSpan, Lexeme.literal] using hspan
    refine ⟨'!', rest, rfl, ?_⟩
    exact Lexeme.scan_bang_of_head_ne (hstop.mark rfl)
  | blank =>
    obtain ⟨hne, hblank⟩ := hspan
    obtain ⟨c, cs, rfl⟩ := List.exists_cons_of_ne_nil hne
    refine ⟨c, cs ++ rest, rfl, ?_⟩
    rw [scan_blank (hblank c (List.mem_cons_self ..)), dropWhile_append_stop
      (fun d hd => hblank d (List.mem_cons_of_mem _ hd)) (hstop.blank rfl)]
  | text literal quoted =>
    cases quoted with
    | false =>
      obtain ⟨hliteral, hne, hq, hgate, hw⟩ := hspan
      obtain ⟨c, cs, hcs, hscan⟩ :=
        scan_bareWord hne (fun d hd => isWordChar_iff.mpr (hw d hd)) hq (hstop.word rfl)
      refine ⟨c, cs, hcs, hscan.trans ?_⟩
      rw [Lexeme.ofWord, Gate.ofWord?_eq_none_iff.mpr hgate, hliteral]
      simp
    | true =>
      obtain ⟨hmem, hspan⟩ := hspan
      rcases hspan with rfl | rfl
      · refine ⟨'"', literal.toList ++ '"' :: rest, by simp, ?_⟩
        rw [scan_quoted hmem, String.ofList_toList]
      · obtain rfl : rest = [] := (hstop.quoted rfl).resolve_left fun hclosed => by
          simp [Piece.Closed, Lexeme.literal] at hclosed
        refine ⟨'"', literal.toList, by simp, ?_⟩
        rw [scan_openQuoted hmem, String.ofList_toList]

/-- Nothing goes on at the end of the text. -/
theorem Piece.stopsAt_nil (p : Piece) : p.StopsAt [] :=
  ⟨by simp, by simp, fun _ => endsWord_nil, fun _ => .inr rfl⟩

/-- A mark is read from its literal, and stops anywhere but before a `=` that would change it. -/
theorem Lexeme.piece_of_isMark {x : Lexeme} {rest : List Char} (h : x.isMark)
    (hrest : x.isOpenMark → rest.head? ≠ some '=') :
    x.HasSpan x.literal.toList ∧ Piece.StopsAt ⟨x, x.literal.toList⟩ rest := by
  cases x with
  | comparator | openBracket | closeBracket | bang => exact ⟨rfl, nofun, hrest, nofun, nofun⟩
  | gate | blank | text => exact absurd h nofun

/-- A bare word that is taken up to its end is a piece. -/
theorem Lexeme.piece_ofWord {word rest : List Char} (hne : word ≠ []) (hq : word.head? ≠ some '"')
    (hw : ∀ c ∈ word, isWordChar c) (hr : EndsWord rest) :
    (ofWord word).HasSpan word ∧ Piece.StopsAt ⟨.ofWord word, word⟩ rest := by
  unfold ofWord
  cases hg : Gate.ofWord? word with
  | some g => exact ⟨Gate.ofWord?_eq_some_iff.mp hg, nofun, nofun, fun _ => hr, nofun⟩
  | none =>
    refine ⟨⟨String.toList_ofList.symm, hne, hq, Gate.ofWord?_eq_none_iff.mp hg, fun c hc => ?_⟩,
      nofun, nofun, fun _ => hr, nofun⟩
    exact isWordChar_iff.mp (hw c hc)

/-- A mark that is scanned is a piece. -/
theorem exists_piece_of_scan_special {c : Char} (h : isSpecial c) (cs : List Char) :
    ∃ x rest, Lexeme.scan c cs = (x, rest) ∧ c :: cs = x.literal.toList ++ rest ∧ x.isMark ∧
      (x.isOpenMark → rest.head? ≠ some '=') := by
  simp only [isSpecial, Bool.or_eq_true, decide_eq_true_eq] at h
  rcases h with (((((rfl | rfl) | rfl) | rfl) | rfl) | rfl) | rfl
  · exact ⟨.comparator .equal, cs, rfl, rfl, rfl, nofun⟩
  · by_cases hnext : cs.head? = some '='
    · obtain ⟨rest, rfl⟩ := List.head?_eq_some_iff.mp hnext
      exact ⟨.comparator .greaterOrEqual, rest, rfl, rfl, rfl, nofun⟩
    · have hscan := Lexeme.ordering_of_head_ne .greater .greaterOrEqual hnext
      exact ⟨.comparator .greater, cs, hscan, rfl, rfl, fun _ => hnext⟩
  · by_cases hnext : cs.head? = some '='
    · obtain ⟨rest, rfl⟩ := List.head?_eq_some_iff.mp hnext
      exact ⟨.comparator .notEqual, rest, rfl, rfl, rfl, nofun⟩
    · exact ⟨.bang, cs, Lexeme.scan_bang_of_head_ne hnext, rfl, rfl, fun _ => hnext⟩
  · by_cases hnext : cs.head? = some '='
    · obtain ⟨rest, rfl⟩ := List.head?_eq_some_iff.mp hnext
      exact ⟨.comparator .lessOrEqual, rest, rfl, rfl, rfl, nofun⟩
    · have hscan := Lexeme.ordering_of_head_ne .less .lessOrEqual hnext
      exact ⟨.comparator .less, cs, hscan, rfl, rfl, fun _ => hnext⟩
  · exact ⟨.openBracket, cs, rfl, rfl, rfl, nofun⟩
  · exact ⟨.closeBracket, cs, rfl, rfl, rfl, nofun⟩
  · exact ⟨.comparator .contains, cs, rfl, rfl, rfl, nofun⟩

/-- **What a scan takes is a piece that ends where the rest begins.** -/
theorem exists_piece_of_scan (c : Char) (cs : List Char) :
    ∃ (p : Piece) (rest : List Char), Lexeme.scan c cs = (p.lexeme, rest) ∧
      c :: cs = p.span ++ rest ∧ p.lexeme.HasSpan p.span ∧ p.StopsAt rest := by
  by_cases hq : c = '"'
  · subst hq
    by_cases hmem : '"' ∈ cs
    · obtain ⟨body, rest, rfl, hbody⟩ := List.eq_append_cons_of_mem hmem
      refine ⟨⟨.text (String.ofList body) true, '"' :: (body ++ ['"'])⟩, rest,
        scan_quoted hbody rest, by simp, ?_, nofun, nofun, nofun, fun _ => .inl ?_⟩
      · simp [Lexeme.HasSpan, hbody]
      · simp [Piece.Closed, Lexeme.literal]
    · refine ⟨⟨.text (String.ofList cs) true, '"' :: cs⟩, [], scan_openQuoted hmem, by simp, ?_,
        Piece.stopsAt_nil _⟩
      simp [Lexeme.HasSpan, hmem]
  cases hw : isWordChar c with
  | true =>
    have hword : ∀ d ∈ c :: cs.takeWhile isWordChar, isWordChar d := by
      intro d hd
      rcases List.mem_cons.mp hd with rfl | hd
      · exact hw
      · exact List.mem_takeWhile_imp hd
    obtain ⟨hspan, hstop⟩ := Lexeme.piece_ofWord (by simp) (by simpa using hq) hword
      (head?_dropWhile_stop isWordChar cs)
    exact ⟨_, _, scan_word hw hq cs, by simp, hspan, hstop⟩
  | false =>
    rw [isWordChar, Bool.not_eq_false', Bool.or_eq_true] at hw
    rcases hw with hblank | hspecial
    · have hrun : ∀ d ∈ c :: cs.takeWhile isBlank, isBlank d := by
        intro d hd
        rcases List.mem_cons.mp hd with rfl | hd
        · exact hblank
        · exact List.mem_takeWhile_imp hd
      exact ⟨⟨.blank, c :: cs.takeWhile isBlank⟩, _, scan_blank hblank cs, by simp,
        ⟨by simp, hrun⟩, fun _ => head?_dropWhile_stop isBlank cs, nofun, nofun, nofun⟩
    · obtain ⟨x, rest, hscan, hjoined, hmark, hrest⟩ := exists_piece_of_scan_special hspecial cs
      obtain ⟨hspan, hstop⟩ := x.piece_of_isMark hmark hrest
      exact ⟨⟨x, x.literal.toList⟩, rest, hscan, hjoined, hspan, hstop⟩

/-! ### Partitions -/

/-- The first character of a piece tells a blank and a mark from the rest. -/
theorem Lexeme.HasSpan.exists_cons {x : Lexeme} {span : List Char} (h : x.HasSpan span) :
    ∃ c cs, span = c :: cs ∧ (isBlank c = false ↔ x ≠ .blank) ∧
      (isWordChar c = false ↔ x = .blank ∨ x.isMark) := by
  -- a word and a quoted text begin with a character of words
  have begins {c : Char} (hc : isWordChar c) (hx : x ≠ .blank) (hmark : x.isMark = false) :
      (isBlank c = false ↔ x ≠ .blank) ∧ (isWordChar c = false ↔ x = .blank ∨ x.isMark) := by
    have hblank := (isWordChar_iff.mp hc).1
    simp_all
  cases x with
  | comparator c =>
    obtain rfl : span = c.symbol.toList := h
    cases c <;> exact ⟨_, _, rfl, by decide, by decide⟩
  | openBracket =>
    obtain rfl : span = ['('] := by simpa [HasSpan, literal] using h
    exact ⟨_, _, rfl, by decide, by decide⟩
  | closeBracket =>
    obtain rfl : span = [')'] := by simpa [HasSpan, literal] using h
    exact ⟨_, _, rfl, by decide, by decide⟩
  | bang =>
    obtain rfl : span = ['!'] := by simpa [HasSpan, literal] using h
    exact ⟨_, _, rfl, by decide, by decide⟩
  | gate g =>
    have hg : g.Spells span := h
    obtain ⟨hne, -, hw⟩ := hg.bare
    obtain ⟨c, cs, rfl⟩ := List.exists_cons_of_ne_nil hne
    exact ⟨c, cs, rfl, begins (hw c (List.mem_cons_self ..)) nofun rfl⟩
  | blank =>
    obtain ⟨hne, hblank⟩ := h
    obtain ⟨c, cs, rfl⟩ := List.exists_cons_of_ne_nil hne
    have hc := hblank c (List.mem_cons_self ..)
    exact ⟨c, cs, rfl, by simp [hc], by simp [isWordChar, hc]⟩
  | text literal quoted =>
    cases quoted with
    | false =>
      obtain ⟨-, hne, -, -, hw⟩ := h
      obtain ⟨c, cs, rfl⟩ := List.exists_cons_of_ne_nil hne
      exact ⟨c, cs, rfl, begins (isWordChar_iff.mpr (hw c (List.mem_cons_self ..))) nofun rfl⟩
    | true =>
      obtain ⟨-, rfl | rfl⟩ := h
      · exact ⟨_, _, rfl, begins (by decide) nofun rfl⟩
      · exact ⟨_, _, rfl, begins (by decide) nofun rfl⟩

/-- Which piece may follow can be told from the characters that follow. -/
theorem Piece.meets_iff_stopsAt {p next : Piece} (h : next.lexeme.HasSpan next.span)
    (rest : List Char) : p.Meets next ↔ p.StopsAt (next.span ++ rest) := by
  obtain ⟨c, cs, hspan, hblank, hmark⟩ := h.exists_cons
  constructor
  · intro h
    refine ⟨fun hp => ?_, fun hp => ?_, fun hp => ?_, fun hp => .inl (h.quoted hp)⟩
    · simpa [hspan, hblank] using h.blank hp
    · simpa [hspan] using h.mark hp
    · simpa [hspan, EndsWord, hmark] using h.word hp
  · intro h
    refine ⟨fun hp => ?_, fun hp => ?_, fun hp => ?_, fun hp => ?_⟩
    · simpa [hspan, hblank] using h.blank hp
    · simpa [hspan] using h.mark hp
    · simpa [hspan, EndsWord, hmark] using h.word hp
    · exact (h.quoted hp).resolve_right (by simp [hspan])

theorem isPartition_nil {text : List Char} : IsPartition text [] ↔ text = [] := by
  constructor
  · intro h
    exact h.joined.symm
  · rintro rfl
    exact ⟨rfl, by simp, .nil⟩

/-- A partition is a first piece that stops at the rest, and a partition of the rest. -/
theorem isPartition_cons {text : List Char} {p : Piece} {pieces : List Piece} :
    IsPartition text (p :: pieces) ↔ ∃ rest, text = p.span ++ rest ∧ p.lexeme.HasSpan p.span ∧
      p.StopsAt rest ∧ IsPartition rest pieces := by
  constructor
  · rintro ⟨rfl, hspans, hseams⟩
    obtain ⟨hspan, hspans⟩ := List.forall_mem_cons.mp hspans
    obtain ⟨hmeets, hseams⟩ := List.isChain_cons.mp hseams
    refine ⟨pieces.flatMap Piece.span, rfl, hspan, ?_, rfl, hspans, hseams⟩
    cases pieces with
    | nil => exact p.stopsAt_nil
    | cons next pieces =>
      exact (Piece.meets_iff_stopsAt (hspans next (List.mem_cons_self ..)) _).mp (hmeets next rfl)
  · rintro ⟨rest, rfl, hspan, hstop, rfl, hspans, hseams⟩
    refine ⟨rfl, List.forall_mem_cons.mpr ⟨hspan, hspans⟩, List.isChain_cons.mpr ⟨?_, hseams⟩⟩
    cases pieces with
    | nil => simp
    | cons next pieces =>
      rintro _ ⟨⟩
      exact (Piece.meets_iff_stopsAt (hspans next (List.mem_cons_self ..)) _).mpr hstop

/-- Every text has a partition, and its lexemes are those that the lexer finds. -/
theorem exists_isPartition (text : List Char) :
    ∃ pieces : List Piece, pieces.map Piece.lexeme = lexemes text ∧ IsPartition text pieces := by
  induction text using lexemes.induct with
  | case1 => exact ⟨[], by simp [lexemes], isPartition_nil.mpr rfl⟩
  | case2 c cs ih =>
    obtain ⟨p, rest, hscan, hjoined, hspan, hstop⟩ := exists_piece_of_scan c cs
    rw [hscan] at ih
    obtain ⟨pieces, hlexemes, hpieces⟩ := ih
    refine ⟨p :: pieces, ?_, isPartition_cons.mpr ⟨rest, hjoined, hspan, hstop, hpieces⟩⟩
    rw [lexemes_cons, hscan, List.map_cons, hlexemes]

/-- A lexeme is read from somewhere in the text. -/
theorem exists_span_of_mem_lexemes {text : List Char} {x : Lexeme} (h : x ∈ lexemes text) :
    ∃ span, x.HasSpan span ∧ span <:+: text := by
  obtain ⟨pieces, hlexemes, hpieces⟩ := exists_isPartition text
  rw [← hlexemes] at h
  obtain ⟨p, hp, rfl⟩ := List.mem_map.mp h
  refine ⟨p.span, hpieces.spans p hp, ?_⟩
  rw [← hpieces.joined, List.flatMap_def]
  exact List.infix_of_mem_flatten (List.mem_map_of_mem hp)

/-- Two pieces that both begin the text and stop at what they leave are the same. -/
theorem Piece.eq_of_append_eq {p q : Piece} {rest rest' : List Char}
    (hp : p.lexeme.HasSpan p.span) (hq : q.lexeme.HasSpan q.span) (hstop : p.StopsAt rest)
    (hstop' : q.StopsAt rest') (h : p.span ++ rest = q.span ++ rest') : q = p ∧ rest' = rest := by
  obtain ⟨c, cs, hcons, hscan⟩ := Piece.scan hp hstop
  obtain ⟨d, ds, hcons', hscan'⟩ := Piece.scan hq hstop'
  obtain ⟨rfl, rfl⟩ := List.cons.inj (hcons'.symm.trans (h.symm.trans hcons))
  obtain ⟨hlexeme, rfl⟩ := Prod.mk.inj (hscan'.symm.trans hscan)
  have hspan : q.span = p.span := List.append_cancel_right h.symm
  cases p
  cases q
  exact ⟨congrArg₂ Piece.mk hlexeme hspan, rfl⟩

/-- **A text has only one partition.** -/
theorem IsPartition.unique {text : List Char} {pieces others : List Piece}
    (h : IsPartition text pieces) (h' : IsPartition text others) : others = pieces := by
  -- no piece is empty
  have hcons {p : Piece} {pieces : List Piece} (h : IsPartition [] (p :: pieces)) : False := by
    obtain ⟨rest, hjoined, hspan, -⟩ := isPartition_cons.mp h
    obtain ⟨c, cs, hne, -⟩ := hspan.exists_cons
    simp [hne] at hjoined
  induction pieces generalizing text others with
  | nil =>
    obtain rfl := isPartition_nil.mp h
    cases others with
    | nil => rfl
    | cons q others => exact (hcons h').elim
  | cons p pieces ih =>
    cases others with
    | nil =>
      obtain rfl := isPartition_nil.mp h'
      exact (hcons h).elim
    | cons q others =>
      obtain ⟨rest, rfl, hp, hstop, hpieces⟩ := isPartition_cons.mp h
      obtain ⟨rest', hjoined, hq, hstop', hothers⟩ := isPartition_cons.mp h'
      obtain ⟨rfl, rfl⟩ := Piece.eq_of_append_eq hp hq hstop hstop' hjoined
      rw [ih hpieces hothers]

/-- **The lexer partitions a query.** The tokens of a query are its lexemes and, last and once, the
end. Each lexeme is read from a piece of the text that is not empty, and the pieces in order are the
text, so that nothing is dropped and nothing read twice. No piece could go on: no blank is behind a
blank, no `=` behind an ordering or a `!`, behind a bare word there is a blank or a mark, and a
quote is missing only at the end. There is no other way to cut the text like this. -/
theorem tokenize_partition (query : String) : ∃ pieces : List Piece,
    tokenize query = pieces.map (fun p => .lexeme p.lexeme) ++ [.finish] ∧
    (∀ p ∈ pieces, p.span ≠ []) ∧ IsPartition query.toList pieces ∧
    ∀ others, IsPartition query.toList others → others = pieces := by
  obtain ⟨pieces, hlexemes, hpieces⟩ := exists_isPartition query.toList
  refine ⟨pieces, ?_, fun p hp => ?_, hpieces, fun others => hpieces.unique⟩
  · rw [tokenize, ← hlexemes, List.map_map]
    rfl
  · obtain ⟨c, cs, hspan, -⟩ := (hpieces.spans p hp).exists_cons
    simp [hspan]

end FilterQuery
