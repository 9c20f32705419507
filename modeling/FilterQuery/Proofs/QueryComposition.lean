import FilterQuery.Proofs.ParseGrammar
import FilterQuery.Proofs.Lexing

/-!
# Queries put together as text

An application that has the text of two conditions can join them without parsing either: in
brackets, with a gate between. Two things could go wrong. The lexer could read on over the seam,
which it does only if the text before it ends inside a quoted literal (`visible_append`). And the
brackets that are added could be one too many, so each text has to leave room for them: a derivation
needs no more nested brackets than are in its lexemes (`Derives.fits`). The main statement is
`parse_gate_between`.
-/

namespace FilterQuery

/-! ### Open quotes -/

/-- Where a reader of single characters stands. -/
inductive QuoteState where
  | between
  | inWord
  | inQuotes
  deriving DecidableEq

/-- A quote opens a literal unless a bare word goes on with it. -/
def QuoteState.next : QuoteState → Char → QuoteState
  | between, c => if c = '"' then inQuotes else if isWordChar c then inWord else between
  | inWord, c => if isWordChar c then inWord else between
  | inQuotes, c => if c = '"' then between else inQuotes

/-- The text ends inside a quoted literal, which has no closing quote. -/
def EndsInQuotes (text : List Char) : Prop :=
  text.foldl QuoteState.next .between = .inQuotes

instance (text : List Char) : Decidable (EndsInQuotes text) :=
  inferInstanceAs (Decidable (_ = _))

namespace QuoteState

theorem foldl_inWord {word : List Char} (h : ∀ c ∈ word, isWordChar c) :
    word.foldl next .inWord = .inWord := by
  induction word with
  | nil => rfl
  | cons c word ih =>
    obtain ⟨hc, hword⟩ := List.forall_mem_cons.mp h
    rw [List.foldl_cons, next, if_pos hc, ih hword]

/-- A bare word is entered, whatever is in it but its first character. -/
theorem foldl_word {word : List Char} (hne : word ≠ []) (hq : word.head? ≠ some '"')
    (hw : ∀ c ∈ word, isWordChar c) : word.foldl next .between = .inWord := by
  obtain ⟨c, word, rfl⟩ := List.exists_cons_of_ne_nil hne
  obtain ⟨hc, hword⟩ := List.forall_mem_cons.mp hw
  rw [List.foldl_cons, next, if_neg (by simpa using hq), if_pos hc, foldl_inWord hword]

theorem foldl_stops {cs : List Char} (h : ∀ c ∈ cs, isWordChar c = false) :
    cs.foldl next .between = .between := by
  induction cs with
  | nil => rfl
  | cons c cs ih =>
    obtain ⟨hc, hcs⟩ := List.forall_mem_cons.mp h
    have hq : c ≠ '"' := by
      rintro rfl
      revert hc
      decide
    rw [List.foldl_cons, next, if_neg hq, hc, if_neg nofun, ih hcs]

theorem foldl_inQuotes {body : List Char} (h : '"' ∉ body) :
    body.foldl next .inQuotes = .inQuotes := by
  induction body with
  | nil => rfl
  | cons c body ih =>
    obtain ⟨hc, hbody⟩ := List.ne_and_not_mem_of_not_mem_cons h
    rw [List.foldl_cons, next, if_neg hc.symm, ih hbody]

/-- Behind a word it makes no difference that there was one. -/
theorem foldl_inWord_of_endsWord {rest : List Char} (h : EndsWord rest) :
    rest.foldl next .inWord = .inQuotes ↔ EndsInQuotes rest := by
  cases rest with
  | nil => simp [EndsInQuotes]
  | cons c rest =>
    have hc : isWordChar c = false := h c rfl
    have hq : c ≠ '"' := by
      rintro rfl
      revert hc
      decide
    simp [EndsInQuotes, next, hc, hq]

end QuoteState

/-- What marks and blanks are read from ends a word. -/
theorem Lexeme.HasSpan.not_isWordChar {x : Lexeme} {span : List Char} (h : x.HasSpan span)
    (hx : x = .blank ∨ x.isMark) : ∀ c ∈ span, isWordChar c = false := by
  cases x with
  | blank =>
    intro c hc
    simp [isWordChar, h.2 c hc]
  | comparator c =>
    obtain rfl : span = c.symbol.toList := h
    cases c <;> simp [Comparator.symbol, isWordChar, isSpecial]
  | openBracket | closeBracket | bang =>
    obtain rfl := h
    simp [Lexeme.literal, isWordChar, isSpecial]
  | gate | text => simp [isMark] at hx

/-- A piece leaves no quote open that its literal does not. -/
theorem Piece.endsInQuotes_append {p : Piece} {rest : List Char} (hspan : p.lexeme.HasSpan p.span)
    (hstop : p.StopsAt rest) :
    EndsInQuotes (p.span ++ rest) ↔ (p.lexeme.quoted ∧ ¬ p.Closed) ∨ EndsInQuotes rest := by
  obtain ⟨x, span⟩ := p
  dsimp only at hspan ⊢
  rw [EndsInQuotes, List.foldl_append]
  cases x with
  | comparator | openBracket | closeBracket | bang | blank =>
    rw [QuoteState.foldl_stops (hspan.not_isWordChar (by simp [Lexeme.isMark]))]
    simp [Lexeme.quoted, EndsInQuotes]
  | gate g =>
    have hg : g.Spells span := hspan
    obtain ⟨hne, hq, hw⟩ := hg.bare
    rw [QuoteState.foldl_word hne hq hw, QuoteState.foldl_inWord_of_endsWord (hstop.word rfl)]
    simp [Lexeme.quoted]
  | text literal quoted =>
    cases quoted with
    | false =>
      obtain ⟨-, hne, hq, -, hw⟩ := hspan
      rw [QuoteState.foldl_word hne hq fun c hc => isWordChar_iff.mpr (hw c hc),
        QuoteState.foldl_inWord_of_endsWord (hstop.word rfl)]
      simp [Lexeme.quoted]
    | true =>
      obtain ⟨hmem, rfl | rfl⟩ := hspan
      · simp [QuoteState.next, QuoteState.foldl_inQuotes hmem, Piece.Closed, Lexeme.literal,
          EndsInQuotes]
      · have hopen : ¬ Piece.Closed ⟨.text literal true, '"' :: literal.toList⟩ := by
          simp [Piece.Closed, Lexeme.literal]
        obtain rfl : rest = [] := (hstop.quoted rfl).resolve_left hopen
        simp [QuoteState.next, QuoteState.foldl_inQuotes hmem, hopen, Lexeme.quoted]

/-- **A text ends inside a quoted literal** if the last quoted piece of it is not closed. -/
theorem IsPartition.endsInQuotes_iff {text : List Char} {pieces : List Piece}
    (h : IsPartition text pieces) :
    EndsInQuotes text ↔ ∃ p ∈ pieces, p.lexeme.quoted ∧ ¬ p.Closed := by
  induction pieces generalizing text with
  | nil =>
    obtain rfl := isPartition_nil.mp h
    simp [EndsInQuotes]
  | cons p pieces ih =>
    obtain ⟨rest, rfl, hspan, hstop, hpieces⟩ := isPartition_cons.mp h
    rw [Piece.endsInQuotes_append hspan hstop, ih hpieces, List.exists_mem_cons_iff]

/-! ### Seams -/

/-- A run of blanks is not seen, also where it goes on. -/
theorem visible_blanks {blanks : List Char} (h : ∀ c ∈ blanks, isBlank c) (rest : List Char) :
    visible (blanks ++ rest) = visible rest := by
  rw [← visible_dropWhile, List.dropWhile_append_of_pos h, visible_dropWhile]

/-- A piece that stops at what is behind it, and at what is behind that, stops at both together. -/
theorem Piece.StopsAt.append {p : Piece} {rest next : List Char} (h : p.StopsAt rest)
    (hblank : p.lexeme ≠ .blank) (hclosed : p.lexeme.quoted → p.Closed) (hnext : EndsWord next)
    (heq : next.head? ≠ some '=') : p.StopsAt (rest ++ next) := by
  refine ⟨fun hp => absurd hp hblank, fun hp => ?_, fun hp => ?_, fun hp => .inl (hclosed hp)⟩
  · cases rest with
    | nil => exact heq
    | cons c rest => exact h.mark hp
  · cases rest with
    | nil => exact hnext
    | cons c rest => exact h.word hp

/-- **Texts are lexed apart.** Where the first leaves no quote open and the second goes on with
nothing, the lexer sees in both together what it sees in each. -/
theorem visible_append {text next : List Char} (h : ¬ EndsInQuotes text) (hnext : EndsWord next)
    (heq : next.head? ≠ some '=') : visible (text ++ next) = visible text ++ visible next := by
  obtain ⟨pieces, -, hpieces⟩ := exists_isPartition text
  have hclosed : ∀ p ∈ pieces, p.lexeme.quoted → p.Closed := by
    simpa [hpieces.endsInQuotes_iff] using h
  clear h
  induction pieces generalizing text with
  | nil =>
    obtain rfl := isPartition_nil.mp hpieces
    simp
  | cons p pieces ih =>
    obtain ⟨rest, rfl, hspan, hstop, hpieces⟩ := isPartition_cons.mp hpieces
    obtain ⟨hp, hclosed⟩ := List.forall_mem_cons.mp hclosed
    have hrest := ih hpieces hclosed
    rw [List.append_assoc]
    by_cases hblank : p.lexeme = .blank
    · have hrun : ∀ c ∈ p.span, isBlank c := by
        rw [hblank] at hspan
        exact hspan.2
      rw [visible_blanks hrun, visible_blanks hrun, hrest]
    · rw [Piece.visible_append hspan (hstop.append hblank hp hnext heq),
        Piece.visible_append hspan hstop, hrest, List.append_assoc]

/-! ### Room for brackets -/

/-- How deep the brackets among the lexemes are nested, where `depth` are open before them. -/
def deepest (depth : Nat) : List Lexeme → Nat
  | [] => depth
  | .openBracket :: xs => deepest (depth + 1) xs
  | .closeBracket :: xs => max depth (deepest (depth - 1) xs)
  | _ :: xs => deepest depth xs

/-- How deep the brackets of a query are nested. -/
def bracketDepth (query : String) : Nat := deepest 0 (significant query)

/-- The lexemes open no bracket that they do not close, and derive from the goal in no more nested
brackets than there are in them. -/
def Fits (xs : List Lexeme) (t : Tree) (goal : Goal) : Prop :=
  ∀ depth n ys, deepest depth ys ≤ deepest depth (xs ++ ys) ∧
    (deepest depth (xs ++ ys) ≤ depth + n → Derives n goal xs t)

theorem fits_links {links : List Link} (h : ∀ l ∈ links, Fits l.lexemes l.tree .term)
    (depth n : Nat) (ys : List Lexeme) :
    deepest depth ys ≤ deepest depth (links.flatMap Link.written ++ ys) ∧
      (deepest depth (links.flatMap Link.written ++ ys) ≤ depth + n →
        ∀ l ∈ links, Derives n .term l.lexemes l.tree) := by
  induction links with
  | nil => simp
  | cons l links ih =>
    obtain ⟨hl, hlinks⟩ := List.forall_mem_cons.mp h
    obtain ⟨hle, hderives⟩ := ih hlinks
    obtain ⟨hle', hderives'⟩ := hl depth n (links.flatMap Link.written ++ ys)
    have hgate : deepest depth ((l :: links).flatMap Link.written ++ ys) =
        deepest depth (l.lexemes ++ (links.flatMap Link.written ++ ys)) := by
      simp [Link.written, deepest]
    rw [hgate]
    refine ⟨Nat.le_trans hle hle', fun hn => List.forall_mem_cons.mpr ⟨hderives' hn, ?_⟩⟩
    exact hderives (Nat.le_trans hle' hn)

/-- **A derivation needs no more brackets than are nested in its lexemes.** -/
theorem Derives.fits {n : Nat} {goal : Goal} {xs : List Lexeme} {t : Tree}
    (h : Derives n goal xs t) : Fits xs t goal := by
  induction h with
  | comparison hne =>
    intro depth n ys
    exact ⟨Nat.le_refl _, fun _ => .comparison hne⟩
  | @group _ xs t _ ih =>
    intro depth n ys
    obtain ⟨hle, hderives⟩ := ih (depth + 1) (n - 1) (.closeBracket :: ys)
    have hopen : deepest depth (.openBracket :: (xs ++ [.closeBracket]) ++ ys) =
        deepest (depth + 1) (xs ++ .closeBracket :: ys) := by
      rw [List.cons_append, List.append_assoc, deepest, List.singleton_append]
    rw [deepest, Nat.add_sub_cancel] at hle
    rw [hopen]
    refine ⟨Nat.le_trans (Nat.le_max_right ..) hle, fun hn => ?_⟩
    -- one of the brackets that are allowed is the one around the group
    obtain ⟨n, rfl⟩ : ∃ k, n = k + 1 := ⟨n - 1, by omega⟩
    exact .group (hderives (by omega))
  | @row _ xs t links _ _ ih ih' =>
    intro depth n ys
    obtain ⟨hle, hderives⟩ := ih depth n (links.flatMap Link.written ++ ys)
    obtain ⟨hle', hderives'⟩ := fits_links ih' depth n ys
    rw [List.append_assoc]
    exact ⟨Nat.le_trans hle' hle, fun hn => .row (hderives hn) (hderives' (Nat.le_trans hle hn))⟩

theorem Derives.of_bracketDepth_le {query : String} {t : Tree} (h : parse query = .ok t) {n : Nat}
    (hn : bracketDepth query ≤ n) : Derives n .operation (significant query) t := by
  obtain ⟨-, hderives⟩ := (derives_of_parse h).1.fits 0 n []
  simpa [bracketDepth] using hderives (by simpa [bracketDepth] using hn)

/-! ### Joined queries -/

/-- What is seen of a query in brackets. -/
theorem visible_inBrackets {query : String} (h : ¬ EndsInQuotes query.toList) (next : List Char) :
    visible ('(' :: (query.toList ++ ')' :: next)) =
      .openBracket :: (significant query ++ .closeBracket :: visible next) := by
  rw [visible_openBracket, visible_append h (endsWord_closeBracket next) (by simp),
    visible_closeBracket, significant_eq_visible]

/-- The text that adds the word of a gate and a query in brackets to another query. -/
def addition (word query : String) : List Char :=
  ' ' :: (word.toList ++ ' ' :: '(' :: (query.toList ++ [')']))

theorem endsWord_addition (word query : String) : EndsWord (addition word query) :=
  endsWord_space _

theorem visible_addition {g : Gate} {word query : String} (hg : g.Spells word.toList)
    (h : ¬ EndsInQuotes query.toList) :
    visible (addition word query) =
      .gate g :: .openBracket :: (significant query ++ [.closeBracket]) := by
  rw [addition, visible_space, visible_spelled hg (endsWord_space _), visible_space,
    visible_inBrackets h [], visible_nil]

/-- **Queries compose as text.** Take two queries that parse, neither ending in an open quote, with
brackets nested at most 127 deep in each and no more comparisons than the limit in both together.
Joined by the word of a gate, the second in brackets and the first in brackets or not, they parse to
the operation on their trees. -/
theorem parse_gate_between {q₁ q₂ word : String} {t₁ t₂ : Tree} {g : Gate}
    (h₁ : parse q₁ = .ok t₁) (h₂ : parse q₂ = .ok t₂) (hq₁ : ¬ EndsInQuotes q₁.toList)
    (hq₂ : ¬ EndsInQuotes q₂.toList) (hd₁ : bracketDepth q₁ ≤ 127) (hd₂ : bracketDepth q₂ ≤ 127)
    (hc : t₁.count + t₂.count ≤ comparisonLimit) (hg : g.Spells word.toList) :
    parse ("(" ++ q₁ ++ ") " ++ word ++ " (" ++ q₂ ++ ")") = .ok (.join t₁ g t₂) ∧
    parse (q₁ ++ " " ++ word ++ " (" ++ q₂ ++ ")") = .ok (.join t₁ g t₂) := by
  have hleft : Derives nestingLimit .operation
      (.openBracket :: (significant q₁ ++ [.closeBracket])) t₁ :=
    (Derives.of_bracketDepth_le h₁ hd₁).group.single
  have hright : Derives nestingLimit .term
      (.openBracket :: (significant q₂ ++ [.closeBracket])) t₂ :=
    (Derives.of_bracketDepth_le h₂ hd₂).group
  constructor
  · have hseen := visible_inBrackets hq₁ (addition word q₂)
    rw [visible_addition hg hq₂, addition] at hseen
    refine parse_of_derives ?_ hc
    simpa [significant_eq_visible, hseen] using hleft.link g hright
  · have hseen := visible_append hq₁ (endsWord_addition word q₂) (by simp [addition])
    rw [visible_addition hg hq₂, addition] at hseen
    refine parse_of_derives ?_ hc
    simpa [significant_eq_visible, hseen] using (derives_of_parse h₁).1.link g hright

/-- The first query ends behind an empty literal in three brackets, the second behind a bare word
with a quote in it and a blank. -/
theorem parse_gate_between_of_quoted_parts :
    let q₁ := "age >= \"1 8\" oR (((tags[k]=\"\")))"
    let q₂ := "\"and\"=a\"b "
    let word := "And"
    let t₁ : Tree := .join (.comparison ⟨"age", .greaterOrEqual, "1 8"⟩) .or
      (.comparison ⟨"tags[k]", .equal, ""⟩)
    let t₂ : Tree := .comparison ⟨"and", .equal, "a\"b"⟩
    (parse q₁ = .ok t₁ ∧ parse q₂ = .ok t₂ ∧ ¬ EndsInQuotes q₁.toList ∧ ¬ EndsInQuotes q₂.toList ∧
      bracketDepth q₁ ≤ 127 ∧ bracketDepth q₂ ≤ 127 ∧ t₁.count + t₂.count ≤ comparisonLimit ∧
      Gate.and.Spells word.toList) ∧
    parse ("(" ++ q₁ ++ ") " ++ word ++ " (" ++ q₂ ++ ")") = .ok (.join t₁ .and t₂) ∧
    parse (q₁ ++ " " ++ word ++ " (" ++ q₂ ++ ")") = .ok (.join t₁ .and t₂) := by
  intro q₁ q₂ word t₁ t₂
  have h₁ : parse q₁ = .ok t₁ := by decide +kernel
  have h₂ : parse q₂ = .ok t₂ := by decide +kernel
  have hq₁ : ¬ EndsInQuotes q₁.toList := by decide +kernel
  have hq₂ : ¬ EndsInQuotes q₂.toList := by decide +kernel
  have hd₁ : bracketDepth q₁ ≤ 127 := by decide +kernel
  have hd₂ : bracketDepth q₂ ≤ 127 := by decide +kernel
  have hc : t₁.count + t₂.count ≤ comparisonLimit := by decide
  have hg : Gate.and.Spells word.toList := by decide +kernel
  exact ⟨⟨h₁, h₂, hq₁, hq₂, hd₁, hd₂, hc, hg⟩,
    parse_gate_between h₁ h₂ hq₁ hq₂ hd₁ hd₂ hc hg⟩

end FilterQuery
