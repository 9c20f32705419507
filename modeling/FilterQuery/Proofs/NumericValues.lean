import FilterQuery.Field
import FilterQuery.Proofs.DoublePrecision

/-!
# The values of numeric fields

A numeric field takes the texts that write a number of less than `2 ^ 1024 - 2 ^ 970`, whatever
digits they write it with. In double precision these are the finite numbers. The words that stand
for infinity, or for no number at all, have letters in them that no number is written with. The main
statement is `Validator.numeric_exact`.
-/

namespace FilterQuery

open Numeral

/-! ### The characters of numerals -/

namespace Numeral

/-- The characters that numbers are written with. -/
def IsNumeralChar (c : Char) : Prop := c.isDigit ∨ c ∈ ['+', '-', '.', 'e', 'E']

theorem IsSign.chars {sign : List Char} {s : ℤ} (h : IsSign sign s) :
    ∀ c ∈ sign, IsNumeralChar c := by
  cases h <;> simp [IsNumeralChar]

end Numeral

theorem Integer.Writes.chars {text : List Char} {n : ℤ} (h : Integer.Writes text n) :
    ∀ c ∈ text, IsNumeralChar c := by
  obtain ⟨hsign, hdigits, -⟩ := h
  exact List.forall_mem_append.mpr ⟨hsign.chars, fun c hc => .inl (hdigits c hc)⟩

theorem Decimal.IsExponent.chars {text : List Char} {e : ℤ} (h : IsExponent text e) :
    ∀ c ∈ text, IsNumeralChar c := by
  cases h with
  | empty => simp
  | marked hmark hpower =>
    refine List.forall_mem_cons.mpr ⟨?_, hpower.chars⟩
    simp only [isMark, Bool.or_eq_true, decide_eq_true_eq] at hmark
    rcases hmark with rfl | rfl <;> simp [IsNumeralChar]

theorem Decimal.Writes.chars {text : List Char} {x : ℚ} (h : Writes text x) :
    ∀ c ∈ text, IsNumeralChar c := by
  obtain ⟨hsign, hmantissa, hexponent⟩ := h
  refine List.forall_mem_append.mpr ⟨hsign.chars, List.forall_mem_append.mpr ⟨?_, hexponent.chars⟩⟩
  intro c hc
  rcases hmantissa.chars.2 c hc with hdigit | rfl
  · exact .inl hdigit
  · simp [IsNumeralChar]

/-- No number is written with an `n`. -/
theorem Numeral.IsNumeralChar.toLower_ne {c : Char} (h : IsNumeralChar c) : c.toLower ≠ 'n' := by
  rcases h with hdigit | hmem
  · have hupper : ¬ (c.val ≥ 'A'.val ∧ c.val ≤ 'Z'.val) := by
      rintro ⟨hlow, -⟩
      have hA : 'A'.toNat ≤ c.toNat := hlow
      have h9 : c.toNat ≤ '9'.toNat := (Char.isDigit_iff_toNat.mp hdigit).2
      exact absurd (hA.trans h9) (by decide)
    have hsame : c.toLower = c := dif_neg hupper
    rw [hsame]
    rintro rfl
    exact absurd hdigit (by decide)
  · simp only [List.mem_cons, List.not_mem_nil, or_false] at hmem
    rcases hmem with rfl | rfl | rfl | rfl | rfl <;> decide

/-! ### Numeric fields -/

/-- The words for infinity and for what is no number, in lower case. -/
def Decimal.words : List (List Char) := ["inf".toList, "infinity".toList, "nan".toList]

/-- A word for infinity or for what is no number is not a numeral, with a sign or without. -/
theorem Decimal.not_writes_word {sign word : List Char} (h : word.map Char.toLower ∈ words)
    (x : ℚ) : ¬ Writes (sign ++ word) x := by
  intro hwrites
  have hn : 'n' ∈ word.map Char.toLower := by
    revert h
    generalize word.map Char.toLower = lower
    revert lower
    decide
  obtain ⟨c, hc, hlower⟩ := List.mem_map.mp hn
  exact (hwrites.chars c (List.mem_append_right _ hc)).toLower_ne hlower

namespace Validator

/-- A value is taken if it is read as a decimal that passes the test. -/
theorem numeric_eq_none_iff_read {value : String} : numeric value = none ↔
    ∃ d, Decimal.ofText? value.toList = some d ∧ d.isFinite := by
  have hnumeric : isNumeric value ↔ ∃ d, Decimal.ofText? value.toList = some d ∧ d.isFinite := by
    unfold isNumeric
    cases Decimal.ofText? value.toList <;> simp
  rw [← hnumeric, numeric]
  split <;> simp [*]

/-- A value is taken if it writes a number within the limit. -/
theorem numeric_eq_none_iff {value : String} : numeric value = none ↔
    ∃ x : ℚ, Decimal.Writes value.toList x ∧ |x| < 2 ^ 1024 - 2 ^ 970 := by
  rw [numeric_eq_none_iff_read]
  constructor
  · rintro ⟨d, hread, hfinite⟩
    exact ⟨d.toRat, Decimal.writes_iff.mpr ⟨d, hread, rfl⟩, d.isFinite_iff.mp hfinite⟩
  · rintro ⟨x, hx, hlt⟩
    obtain ⟨d, hread, rfl⟩ := Decimal.writes_iff.mp hx
    exact ⟨d, hread, d.isFinite_iff.mpr hlt⟩

/-- The only reason to refuse a value. -/
theorem numeric_of_ne_none {value : String} (h : numeric value ≠ none) :
    numeric value = some ("value '" ++ value ++ "' is not numeric") := by
  unfold numeric at *
  split at h
  · exact absurd rfl h
  · next hnumeric => rw [if_neg hnumeric]

/-- **A numeric field takes exactly the finite numbers.** It takes a text if it writes a number, and
this number is less than `2 ^ 1024 - 2 ^ 970`; a text writes one number at most. That is to say the
text is read as a decimal number, and the double nearest to it is finite, where a tie goes to the
even neighbour. Any other text is refused for the one reason that it is not numeric, among them the
words for infinity and for what is no number, in any case and with any sign. -/
theorem numeric_exact (value : String) :
    ((numeric value = none ↔
        ∃ x : ℚ, Decimal.Writes value.toList x ∧ |x| < 2 ^ 1024 - 2 ^ 970) ∧
      ∀ x y, Decimal.Writes value.toList x → Decimal.Writes value.toList y → x = y) ∧
    (numeric value = none ↔
      ∃ d, Decimal.ofText? value.toList = some d ∧ (Double.ofDecimal d).IsFinite) ∧
    (numeric value ≠ none → numeric value = some ("value '" ++ value ++ "' is not numeric")) ∧
    ∀ sign s word, IsSign sign s → word.map Char.toLower ∈ Decimal.words →
      value.toList = sign ++ word →
      numeric value = some ("value '" ++ value ++ "' is not numeric") := by
  refine ⟨⟨numeric_eq_none_iff, fun x y => Decimal.Writes.unique⟩, ?_, numeric_of_ne_none, ?_⟩
  · rw [numeric_eq_none_iff_read]
    simp only [Decimal.isFinite_iff, Decimal.isFinite_ofDecimal_iff]
  · intro sign s word _ hword hvalue
    refine numeric_of_ne_none fun hnone => ?_
    obtain ⟨x, hx, -⟩ := numeric_eq_none_iff.mp hnone
    rw [hvalue] at hx
    exact Decimal.not_writes_word hword x hx

/-- Two numbers between which the limit lies, the first with zeros and a mark that it could do
without, and a word. -/
theorem numeric_exact_at_limit :
    (∃ x : ℚ, Decimal.Writes "-0017976931348623158.0E+0292".toList x ∧ |x| < 2 ^ 1024 - 2 ^ 970 ∧
      ∀ y, Decimal.Writes "-0017976931348623158.0E+0292".toList y → y = x) ∧
    numeric "1.7976931348623159e308" = some "value '1.7976931348623159e308' is not numeric" ∧
    numeric "-InFinitY" = some "value '-InFinitY' is not numeric" := by
  obtain ⟨⟨hbelow, hunique⟩, -⟩ := numeric_exact "-0017976931348623158.0E+0292"
  obtain ⟨-, -, habove, -⟩ := numeric_exact "1.7976931348623159e308"
  obtain ⟨-, -, -, hword⟩ := numeric_exact "-InFinitY"
  obtain ⟨x, hx, hlt⟩ := hbelow.mp (by decide +kernel)
  exact ⟨⟨x, hx, hlt, fun y hy => hunique y x hy hx⟩, habove (by decide +kernel),
    hword ['-'] (-1) "InFinitY".toList .minus (by decide +kernel) (by decide +kernel)⟩

end Validator

end FilterQuery
