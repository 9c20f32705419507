import FilterQuery.Number.Decimal
import FilterQuery.Proofs.Basics
import Mathlib.Algebra.Order.Field.Rat
import Mathlib.Tactic.FieldSimp
import Mathlib.Tactic.Ring

/-!
# Numerals and the numbers they write

`Integer.Writes` and `Decimal.Writes` say which texts are numerals, production by production, and
which number each of them writes, as an integer or a fraction. The readers take the signs, the point
and the exponent off by what stands at the front or by the first mark. They read exactly the
numerals, and with the right number: `Integer.ofText?_eq_some_iff`, `Decimal.writes_iff`.
-/

namespace FilterQuery

/-! ### Numerals -/

namespace Numeral

/-- The text has ASCII digits only. It may be empty. -/
def IsDigits (text : List Char) : Prop := ∀ c ∈ text, c.isDigit

/-- The number that digits write. -/
def number (digits : List Char) : ℕ := Nat.ofDigitChars 10 digits 0

/-- A sign or none, with the factor that it stands for. -/
inductive IsSign : List Char → ℤ → Prop where
  | empty : IsSign [] 1
  | plus : IsSign ['+'] 1
  | minus : IsSign ['-'] (-1)

/-- The factor that the flag of a sign stands for. -/
def factor (negative : Bool) : ℤ := if negative then -1 else 1

/-- The character that an exponent begins with. -/
def isMark (c : Char) : Bool := c = 'e' || c = 'E'

end Numeral

open Numeral

/-- The text writes the integer: a sign or none, then one digit or more. -/
inductive Integer.Writes : List Char → ℤ → Prop where
  | mk {sign digits : List Char} {s : ℤ} (hsign : IsSign sign s) (hdigits : IsDigits digits)
    (hne : digits ≠ []) : Writes (sign ++ digits) (s * number digits)

namespace Decimal

/-- The text writes a number without sign and exponent. There is a digit before the point or behind
it, and without a point there are no digits behind it. -/
inductive IsMantissa : List Char → ℚ → Prop where
  /-- Digits without a point. -/
  | whole {whole : List Char} (hwhole : IsDigits whole) (hne : whole ≠ []) :
    IsMantissa whole (number whole)
  /-- A digit before the point. -/
  | before {whole fraction : List Char} (hwhole : IsDigits whole) (hne : whole ≠ [])
    (hfraction : IsDigits fraction) :
    IsMantissa (whole ++ '.' :: fraction)
      (number whole + number fraction / 10 ^ fraction.length)
  /-- A digit behind the point. -/
  | behind {whole fraction : List Char} (hwhole : IsDigits whole) (hfraction : IsDigits fraction)
    (hne : fraction ≠ []) :
    IsMantissa (whole ++ '.' :: fraction)
      (number whole + number fraction / 10 ^ fraction.length)

/-- The text is an exponent or empty, and stands for this power of ten. -/
inductive IsExponent : List Char → ℤ → Prop where
  | empty : IsExponent [] 0
  | marked {mark : Char} {power : List Char} {e : ℤ} (hmark : isMark mark)
    (hpower : Integer.Writes power e) : IsExponent (mark :: power) e

/-- The text writes the number: a sign or none, a mantissa, and an exponent or none. -/
inductive Writes : List Char → ℚ → Prop where
  | mk {sign mantissa exponent : List Char} {s : ℤ} {m : ℚ} {e : ℤ} (hsign : IsSign sign s)
    (hmantissa : IsMantissa mantissa m) (hexponent : IsExponent exponent e) :
    Writes (sign ++ (mantissa ++ exponent)) (s * m * 10 ^ e)

/-- The number that a decimal stands for. -/
def toRat (d : Decimal) : ℚ := factor d.negative * d.coefficient * 10 ^ d.exponent

end Decimal

/-! ### Signs and digits -/

namespace Numeral

theorem value_eq (start : ℕ) (digits : List Char) :
    value start digits = Nat.ofDigitChars 10 digits start := rfl

/-- The digits of two runs are those of the first, moved up by the places of the second. -/
theorem number_append (whole fraction : List Char) :
    number (whole ++ fraction) = number whole * 10 ^ fraction.length + number fraction := by
  rw [number, Nat.ofDigitChars_append, Nat.ofDigitChars_eq_ofDigitChars_zero, Nat.mul_comm]
  rfl

theorem digits?_eq_some_iff {text : List Char} {n : ℕ} :
    digits? text = some n ↔ text ≠ [] ∧ IsDigits text ∧ number text = n := by
  rw [digits?, Option.ite_none_right_eq_some, Option.some.injEq, and_assoc, value_eq]
  simp only [List.all_eq_true]
  rfl

/-- A text is its first digits and a rest that begins with no digit. -/
theorem exists_digits_append (text : List Char) : ∃ digits rest, text = digits ++ rest ∧
    IsDigits digits ∧ ∀ c ∈ rest.head?, c.isDigit = false :=
  ⟨text.takeWhile Char.isDigit, text.dropWhile Char.isDigit, List.takeWhile_append_dropWhile.symm,
    fun _ hc => List.mem_takeWhile_imp hc, head?_dropWhile_stop Char.isDigit text⟩

/-- What the sign is taken off is a sign and the rest. -/
theorem exists_isSign_takeSign (text : List Char) :
    ∃ sign, IsSign sign (factor (takeSign text).1) ∧ text = sign ++ (takeSign text).2 := by
  unfold takeSign
  split
  · exact ⟨['-'], .minus, rfl⟩
  · exact ⟨['+'], .plus, rfl⟩
  · exact ⟨[], .empty, rfl⟩

/-- A sign is taken off what does not begin with another one. -/
theorem takeSign_append {sign rest : List Char} {s : ℤ} (h : IsSign sign s)
    (hrest : ∀ c ∈ rest.head?, c ≠ '+' ∧ c ≠ '-') :
    ∃ negative, takeSign (sign ++ rest) = (negative, rest) ∧ factor negative = s := by
  cases h with
  | empty =>
    refine ⟨false, ?_, rfl⟩
    rw [List.nil_append]
    unfold takeSign
    split <;> simp_all
  | plus => exact ⟨false, rfl, rfl⟩
  | minus => exact ⟨true, rfl, rfl⟩

theorem not_sign_of_isDigit {c : Char} (h : c.isDigit) : c ≠ '+' ∧ c ≠ '-' := by
  constructor
  · rintro rfl
    exact absurd h (by decide)
  · rintro rfl
    exact absurd h (by decide)

theorem not_isMark_of_isDigit {c : Char} (h : c.isDigit) : isMark c = false := by
  rw [isMark, Bool.or_eq_false_iff, decide_eq_false_iff_not, decide_eq_false_iff_not]
  constructor
  · rintro rfl
    exact absurd h (by decide)
  · rintro rfl
    exact absurd h (by decide)

end Numeral

namespace Integer

/-- The digits are read on their own, and the sign is put to their number. -/
theorem ofText?_eq (text : List Char) : ofText? text =
    (digits? (takeSign text).2).map fun n : ℕ => factor (takeSign text).1 * (n : ℤ) := by
  unfold ofText?
  obtain ⟨negative, digits⟩ := takeSign text
  dsimp only
  cases digits? digits with
  | none => rfl
  | some n => cases negative <;> simp [factor]

/-- **Integers are read** from the texts that write them, and from no others. -/
theorem ofText?_eq_some_iff {text : List Char} {n : ℤ} :
    ofText? text = some n ↔ Writes text n := by
  rw [ofText?_eq]
  constructor
  · intro h
    obtain ⟨m, hread, rfl⟩ := Option.map_eq_some_iff.mp h
    obtain ⟨hne, hdigits, rfl⟩ := digits?_eq_some_iff.mp hread
    obtain ⟨sign, hsign, htext⟩ := exists_isSign_takeSign text
    have hwrites := Writes.mk hsign hdigits hne
    rwa [← htext] at hwrites
  · intro h
    obtain @⟨sign, digits, s, hsign, hdigits, hne⟩ := h
    have hhead : ∀ c ∈ digits.head?, c ≠ '+' ∧ c ≠ '-' :=
      fun c hc => not_sign_of_isDigit (hdigits c (List.mem_of_mem_head? hc))
    obtain ⟨negative, htake, rfl⟩ := takeSign_append hsign hhead
    have hread : digits? digits = some (number digits) :=
      digits?_eq_some_iff.mpr ⟨hne, hdigits, rfl⟩
    rw [htake, hread, Option.map_some]

/-- A text writes one integer at most. -/
theorem Writes.unique {text : List Char} {m n : ℤ} (hm : Writes text m) (hn : Writes text n) :
    m = n :=
  Option.some.inj ((ofText?_eq_some_iff.mpr hm).symm.trans (ofText?_eq_some_iff.mpr hn))

end Integer

namespace Decimal

/-! ### Mantissas -/

theorem mantissa?_whole {whole : List Char} (h : IsDigits whole) {found : ℕ × ℕ} :
    mantissa? whole = some found ↔ whole ≠ [] ∧ (number whole, 0) = found := by
  have htake : whole.takeWhile Char.isDigit = whole := List.takeWhile_eq_self_iff.mpr h
  have hdrop : whole.dropWhile Char.isDigit = [] := List.dropWhile_eq_nil_iff.mpr h
  simp only [mantissa?, htake, hdrop]
  rw [Option.ite_none_left_eq_some, Option.some.injEq]
  rfl

theorem mantissa?_point {whole : List Char} (h : IsDigits whole) {fraction : List Char}
    {found : ℕ × ℕ} :
    mantissa? (whole ++ '.' :: fraction) = some found ↔
      (IsDigits fraction ∧ ¬ (whole = [] ∧ fraction = [])) ∧
      (number (whole ++ fraction), fraction.length) = found := by
  have hstop : ∀ c ∈ ('.' :: fraction).head?, c.isDigit = false := by simp
  simp only [mantissa?, takeWhile_append_stop h hstop, dropWhile_append_stop h hstop]
  rw [Option.ite_none_right_eq_some, Option.some.injEq, List.all_eq_true]
  rfl

/-- Behind the first digits of a mantissa there is nothing else than a point. -/
theorem mantissa?_other {digits rest : List Char} (h : IsDigits digits) {c : Char}
    (hdigit : c.isDigit = false) (hpoint : c ≠ '.') : mantissa? (digits ++ c :: rest) = none := by
  have hstop : ∀ d ∈ (c :: rest).head?, d.isDigit = false := by simpa using hdigit
  simp only [mantissa?, dropWhile_append_stop h hstop]
  split
  · simp at *
  · simp_all
  · rfl

/-- The coefficient and the places of a mantissa. -/
theorem number_append_div (whole fraction : List Char) :
    (number (whole ++ fraction) : ℚ) / 10 ^ fraction.length =
      number whole + number fraction / 10 ^ fraction.length := by
  rw [number_append]
  push_cast
  field_simp

/-- **Mantissas are read** as a coefficient and a number of places. -/
theorem isMantissa_iff {text : List Char} {m : ℚ} :
    IsMantissa text m ↔ ∃ coefficient places, mantissa? text = some (coefficient, places) ∧
      (coefficient : ℚ) / 10 ^ places = m := by
  constructor
  · intro h
    cases h with
    | whole hwhole hne => exact ⟨_, _, (mantissa?_whole hwhole).mpr ⟨hne, rfl⟩, by simp⟩
    | before hwhole hne hfraction =>
      have hread := (mantissa?_point hwhole).mpr ⟨⟨hfraction, fun h => hne h.1⟩, rfl⟩
      exact ⟨_, _, hread, number_append_div _ _⟩
    | behind hwhole hfraction hne =>
      have hread := (mantissa?_point hwhole).mpr ⟨⟨hfraction, fun h => hne h.2⟩, rfl⟩
      exact ⟨_, _, hread, number_append_div _ _⟩
  · rintro ⟨coefficient, places, hread, rfl⟩
    obtain ⟨whole, rest, rfl, hwhole, hrest⟩ := exists_digits_append text
    cases rest with
    | nil =>
      rw [List.append_nil] at hread ⊢
      obtain ⟨hne, hfound⟩ := (mantissa?_whole hwhole).mp hread
      obtain ⟨rfl, rfl⟩ := Prod.mk.inj hfound
      simpa using IsMantissa.whole hwhole hne
    | cons c fraction =>
      by_cases hc : c = '.'
      · subst hc
        obtain ⟨⟨hfraction, hne⟩, hfound⟩ := (mantissa?_point hwhole).mp hread
        obtain ⟨rfl, rfl⟩ := Prod.mk.inj hfound
        rw [number_append_div]
        by_cases hw : whole = []
        · exact .behind hwhole hfraction fun hf => hne ⟨hw, hf⟩
        · exact .before hwhole hw hfraction
      · rw [mantissa?_other hwhole (hrest c rfl) hc] at hread
        exact absurd hread nofun

/-- No mark and no sign is in a mantissa, and it is not empty. -/
theorem IsMantissa.chars {text : List Char} {m : ℚ} (h : IsMantissa text m) :
    text ≠ [] ∧ ∀ c ∈ text, c.isDigit ∨ c = '.' := by
  have hpoint {whole fraction : List Char} (hwhole : IsDigits whole)
      (hfraction : IsDigits fraction) :
      whole ++ '.' :: fraction ≠ [] ∧ ∀ c ∈ whole ++ '.' :: fraction, c.isDigit ∨ c = '.' := by
    refine ⟨by simp, fun c hc => ?_⟩
    rcases List.mem_append.mp hc with hc | hc
    · exact .inl (hwhole c hc)
    · rcases List.mem_cons.mp hc with rfl | hc
      · exact .inr rfl
      · exact .inl (hfraction c hc)
  cases h with
  | whole hwhole hne => exact ⟨hne, fun c hc => .inl (hwhole c hc)⟩
  | before hwhole _ hfraction => exact hpoint hwhole hfraction
  | behind hwhole hfraction _ => exact hpoint hwhole hfraction

/-! ### Exponents -/

/-- The power of ten of what stands behind a mark. Without a mark it is zero. -/
def power? : Option (List Char) → Option ℤ
  | none => some 0
  | some power => Integer.ofText? power

theorem splitExponent_eq (text : List Char) :
    splitExponent text = match text.dropWhile (fun c => !isMark c) with
      | [] => (text, none)
      | _ :: power => (text.takeWhile (fun c => !isMark c), some power) := rfl

/-- An exponent is split off a text without marks. -/
theorem IsExponent.split {mantissa exponent : List Char} {e : ℤ} (h : IsExponent exponent e)
    (hmantissa : ∀ c ∈ mantissa, isMark c = false) :
    ∃ power, splitExponent (mantissa ++ exponent) = (mantissa, power) ∧ power? power = some e := by
  have hgoes : ∀ c ∈ mantissa, (!isMark c) = true := by simpa using hmantissa
  cases h with
  | empty =>
    have hdrop := List.dropWhile_eq_nil_iff.mpr hgoes
    refine ⟨none, ?_, rfl⟩
    rw [List.append_nil, splitExponent_eq, hdrop]
  | @marked mark power e hmark hpower =>
    have hstop : ∀ c ∈ (mark :: power).head?, (!isMark c) = false := by simpa using hmark
    refine ⟨some power, ?_, Integer.ofText?_eq_some_iff.mpr hpower⟩
    rw [splitExponent_eq, takeWhile_append_stop hgoes hstop, dropWhile_append_stop hgoes hstop]

/-- What is split off is an exponent if a power can be read from it. -/
theorem isExponent_of_split {text mantissa : List Char} {power : Option (List Char)} {e : ℤ}
    (h : splitExponent text = (mantissa, power)) (hpower : power? power = some e) :
    ∃ exponent, text = mantissa ++ exponent ∧ IsExponent exponent e := by
  rw [splitExponent_eq] at h
  split at h
  · obtain ⟨rfl, rfl⟩ := Prod.mk.inj h
    obtain rfl := Option.some.inj hpower
    exact ⟨[], (List.append_nil _).symm, .empty⟩
  · next mark rest hdrop =>
    obtain ⟨rfl, rfl⟩ := Prod.mk.inj h
    have hmark := head?_dropWhile_stop (fun c => !isMark c) text mark (by rw [hdrop]; rfl)
    refine ⟨mark :: rest, ?_, .marked (by simpa using hmark)
      (Integer.ofText?_eq_some_iff.mp hpower)⟩
    rw [← hdrop, List.takeWhile_append_dropWhile]

/-! ### Numbers -/

theorem ofText?_eq_some_iff {text : List Char} {d : Decimal} : ofText? text = some d ↔
    ∃ mantissa power coefficient places e, splitExponent (takeSign text).2 = (mantissa, power) ∧
      mantissa? mantissa = some (coefficient, places) ∧ power? power = some e ∧
      d = ⟨(takeSign text).1, coefficient, e - (places : ℤ)⟩ := by
  unfold ofText?
  obtain ⟨negative, unsigned⟩ := takeSign text
  dsimp only
  obtain ⟨mantissa, power⟩ := splitExponent unsigned
  dsimp only
  cases power with
  | none => simp [power?, Option.bind_eq_some_iff, @eq_comm _ d]
  | some power => simp [power?, Option.bind_eq_some_iff, @eq_comm _ d]

/-- **Numbers are read** from the texts that write them, and from no others. -/
theorem writes_iff {text : List Char} {x : ℚ} :
    Writes text x ↔ ∃ d, ofText? text = some d ∧ d.toRat = x := by
  have hvalue (negative : Bool) (coefficient places : ℕ) (e : ℤ) :
      toRat ⟨negative, coefficient, e - places⟩ =
        factor negative * (coefficient / 10 ^ places) * 10 ^ e := by
    rw [toRat, zpow_sub₀ (by norm_num), zpow_natCast]
    ring
  constructor
  · intro h
    obtain @⟨sign, mantissa, exponent, s, m, e, hsign, hmantissa, hexponent⟩ := h
    obtain ⟨hne, hchars⟩ := hmantissa.chars
    have hhead : ∀ c ∈ (mantissa ++ exponent).head?, c ≠ '+' ∧ c ≠ '-' := by
      intro c hc
      rw [List.head?_append_of_ne_nil _ hne] at hc
      rcases hchars c (List.mem_of_mem_head? hc) with hdigit | rfl
      · exact not_sign_of_isDigit hdigit
      · decide
    have hmarks : ∀ c ∈ mantissa, isMark c = false := by
      intro c hc
      rcases hchars c hc with hdigit | rfl
      · exact not_isMark_of_isDigit hdigit
      · decide
    obtain ⟨negative, htake, rfl⟩ := takeSign_append hsign hhead
    obtain ⟨power, hsplit, hpower⟩ := hexponent.split hmarks
    obtain ⟨coefficient, places, hread, rfl⟩ := isMantissa_iff.mp hmantissa
    refine ⟨_, ofText?_eq_some_iff.mpr ⟨mantissa, power, coefficient, places, e, ?_, hread, hpower,
      rfl⟩, ?_⟩
    · rw [htake, hsplit]
    · rw [htake, hvalue]
  · rintro ⟨d, hread, rfl⟩
    obtain ⟨mantissa, power, coefficient, places, e, hsplit, hmantissa, hpower, rfl⟩ :=
      ofText?_eq_some_iff.mp hread
    obtain ⟨sign, hsign, htext⟩ := exists_isSign_takeSign text
    obtain ⟨exponent, hunsigned, hexponent⟩ := isExponent_of_split hsplit hpower
    have hm := isMantissa_iff.mpr ⟨coefficient, places, hmantissa, rfl⟩
    have hwrites := Writes.mk hsign hm hexponent
    rwa [← hunsigned, ← htext, ← hvalue] at hwrites

/-- A text writes one number at most. -/
theorem Writes.unique {text : List Char} {x y : ℚ} (hx : Writes text x) (hy : Writes text y) :
    x = y := by
  obtain ⟨d, hd, rfl⟩ := writes_iff.mp hx
  obtain ⟨d', hd', rfl⟩ := writes_iff.mp hy
  obtain rfl := Option.some.inj (hd.symm.trans hd')
  rfl

/-- An integer is written as a number too. -/
theorem Writes.of_integer {text : List Char} {n : ℤ} (h : Integer.Writes text n) :
    Writes text n := by
  obtain @⟨sign, digits, s, hsign, hdigits, hne⟩ := h
  have hwrites := Writes.mk hsign (.whole hdigits hne) .empty
  simpa using hwrites

end Decimal

end FilterQuery
