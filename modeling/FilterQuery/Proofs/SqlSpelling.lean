import FilterQuery.Proofs.Basics
import FilterQuery.Proofs.SqlCondition

/-!
# Spelling conditions

`Spells cs vs ts` says that the text `cs` with the values `vs` is cut into the tokens `ts`, whatever
stands after it. There is one lemma for each thing that a condition is spelled with, and they chain
from the end of the text to its beginning: a word is put in front of a text that does not go on with
it, since only that tells where the word ends.
-/

namespace FilterQuery.Sql

/-! ### One token -/

theorem tokens?_space (values : List String) (cs : List Char) :
    tokens? values (' ' :: cs) = tokens? values cs := by
  rw [tokens?.eq_def]
  simp

theorem tokens?_value (v : String) (values : List String) (cs : List Char) :
    tokens? (v :: values) ('?' :: cs) = (tokens? values cs).map (.value v :: ·) := by
  rw [tokens?.eq_def]
  simp [show '?'.isWhitespace = false by decide]

theorem tokens?_scan {c : Char} (hw : c.isWhitespace = false) (hv : c ≠ '?')
    (values : List String) (cs : List Char) :
    tokens? values (c :: cs)
      = (tokens? values (Token.scan c cs).2).map ((Token.scan c cs).1 :: ·) := by
  rw [tokens?.eq_def]
  simp [hw, hv]

/-- A character that starts a name is none of the others that tokens start with. -/
theorem ne_of_isNameStart {c d : Char} (h : isNameStart c) (hd : isNameStart d = false) : c ≠ d := by
  rintro rfl
  simp [hd] at h

theorem scan_isNameStart {c : Char} (h : isNameStart c) (cs : List Char) :
    Token.scan c cs = (.ofWord (c :: cs.takeWhile isIdentifierChar), cs.dropWhile isIdentifierChar) := by
  unfold Token.scan
  iterate 6 rw [if_neg (ne_of_isNameStart h (by decide))]
  rw [if_pos h]

theorem isWhitespace_of_isNameStart {c : Char} (h : isNameStart c) : c.isWhitespace = false := by
  simp only [Char.isWhitespace, Bool.or_eq_false_iff, decide_eq_false_iff_not]
  refine ⟨⟨⟨?_, ?_⟩, ?_⟩, ?_⟩ <;> exact ne_of_isNameStart h (by decide)

/-! ### Spelling -/

/-- Names that are read as names. -/
def IsName (text : String) : Prop := isIdentifier text ∧ ¬isKeyword text

/-- The text with the values is cut into the tokens, whatever stands after it. -/
def Spells (cs : List Char) (vs : List String) (ts : List Token) : Prop :=
  ∀ values rest, tokens? (vs ++ values) (cs ++ rest) = (tokens? values rest).map (ts ++ ·)

/-- The text does not go on with a word before it. -/
def Apart (cs : List Char) : Prop := ∃ d ds, cs = d :: ds ∧ isIdentifierChar d = false

theorem apart_cons {d : Char} {ds : List Char} (h : isIdentifierChar d = false) : Apart (d :: ds) :=
  ⟨d, ds, rfl, h⟩

namespace Spells

variable {cs ds : List Char} {vs ws : List String} {ts us : List Token}

theorem nil : Spells [] [] [] := fun values rest => by simp

theorem append (h : Spells cs vs ts) (h' : Spells ds ws us) :
    Spells (cs ++ ds) (vs ++ ws) (ts ++ us) := by
  intro values rest
  rw [List.append_assoc, List.append_assoc, h, h', Option.map_map]
  simp [Function.comp_def]

theorem space (h : Spells cs vs ts) : Spells (' ' :: cs) vs ts := by
  intro values rest
  rw [List.cons_append, tokens?_space]
  exact h values rest

theorem value (v : String) (h : Spells cs vs ts) : Spells ('?' :: cs) (v :: vs) (.value v :: ts) := by
  intro values rest
  rw [List.cons_append, List.cons_append, tokens?_value, h, Option.map_map]
  rfl

/-- A token that the scan takes off. -/
theorem of_scan {c : Char} {x : Token} (hw : c.isWhitespace = false) (hv : c ≠ '?')
    (hscan : ∀ rest, Token.scan c (ds ++ rest) = (x, cs ++ rest)) (h : Spells cs vs ts) :
    Spells (c :: ds) vs (x :: ts) := by
  intro values rest
  rw [List.cons_append, tokens?_scan hw hv, hscan, h, Option.map_map]
  rfl

theorem openBracket (h : Spells cs vs ts) : Spells ('(' :: cs) vs (.openBracket :: ts) :=
  h.of_scan (by decide) (by decide) fun _ => rfl

theorem closeBracket (h : Spells cs vs ts) : Spells (')' :: cs) vs (.closeBracket :: ts) :=
  h.of_scan (by decide) (by decide) fun _ => rfl

/-- A comparator before a placeholder, unless it is spelled as a word. -/
theorem operator {c : Comparator} (hc : c ≠ .contains) (h : Spells ('?' :: cs) vs ts) :
    Spells (c.symbol.toList ++ '?' :: cs) vs (.operator c :: ts) := by
  cases c with
  | equal | less | greater | notEqual | lessOrEqual | greaterOrEqual =>
    exact h.of_scan (by decide) (by decide) fun _ => rfl
  | contains => exact absurd rfl hc

/-- A word before a text that does not go on with it. -/
theorem word {c : Char} {ds : List Char} (hc : isNameStart c) (hds : ∀ d ∈ ds, isIdentifierChar d)
    (hcs : Apart cs) (h : Spells cs vs ts) : Spells (c :: ds ++ cs) vs (.ofWord (c :: ds) :: ts) := by
  obtain ⟨d, es, rfl, hd⟩ := hcs
  have hstop (rest : List Char) : ∀ x ∈ (d :: es ++ rest).head?, isIdentifierChar x = false := by
    simp [hd]
  rw [List.cons_append]
  refine h.of_scan (isWhitespace_of_isNameStart hc) (ne_of_isNameStart hc (by decide)) fun rest => ?_
  rw [scan_isNameStart hc, List.append_assoc, takeWhile_append_stop hds (hstop rest),
    dropWhile_append_stop hds (hstop rest)]

theorem name {text : String} (hn : IsName text) (hcs : Apart cs) (h : Spells cs vs ts) :
    Spells (text.toList ++ cs) vs (.name text :: ts) := by
  obtain ⟨hid, hk⟩ := hn
  obtain ⟨c, ds, htext, hc, hds⟩ := exists_cons_of_isIdentifier hid
  have hword : Token.ofWord (c :: ds) = .name text := by
    rw [← htext, Token.ofWord, if_neg (by simpa [isKeyword] using hk), String.ofList_toList]
  rw [← hword, htext]
  exact h.word hc hds hcs

theorem keyword {text : String} (hk : text ∈ keywords) (hcs : Apart cs) (h : Spells cs vs ts) :
    Spells (text.toList ++ cs) vs (.keyword text :: ts) := by
  have hword : ∃ c ds, text.toList = c :: ds ∧ isNameStart c ∧ (∀ d ∈ ds, isIdentifierChar d) ∧
      Token.ofWord (c :: ds) = .keyword text := by
    simp only [keywords, List.mem_cons, List.not_mem_nil, or_false] at hk
    rcases hk with rfl | rfl | rfl | rfl | rfl | rfl | rfl | rfl | rfl <;>
      exact ⟨_, _, rfl, by decide, List.all_eq_true.mp (by decide), by decide⟩
  obtain ⟨c, ds, htext, hc, hds, hword⟩ := hword
  rw [← hword, htext]
  exact h.word hc hds hcs

theorem name_space {text : String} (hn : IsName text) (h : Spells cs vs ts) :
    Spells (text.toList ++ ' ' :: cs) vs (.name text :: ts) :=
  h.space.name hn (apart_cons (by decide))

theorem keyword_space {text : String} (hk : text ∈ keywords) (h : Spells cs vs ts) :
    Spells (text.toList ++ ' ' :: cs) vs (.keyword text :: ts) :=
  h.space.keyword hk (apart_cons (by decide))

end Spells

end FilterQuery.Sql
