import FilterQuery.Number.Shortest
import FilterQuery.Proofs.Numerals
import Mathlib.Tactic.Linarith
import Mathlib.Tactic.Positivity

/-!
# Numbers that are finite in double precision

A number is finite in double precision if the double nearest to it is, ties going to the even
neighbour. The largest finite double is one unit below `2 ^ 1024`, and odd, so this is where the
tie between the two lies: below `2 ^ 1024 - 2 ^ 970` and nowhere else a number is finite
(`Double.isFinite_nearest_iff`). That the decimal test on digit counts decides just this is
`Decimal.isFinite_iff`.
-/

namespace FilterQuery

/-- A power is a quotient of which one part is one. -/
theorem zpow_eq_div {a : ℚ} (ha : a ≠ 0) (z : ℤ) : a ^ z = a ^ z.toNat / a ^ (-z).toNat := by
  rw [← zpow_natCast, ← zpow_natCast, ← zpow_sub₀ ha]
  congr 1
  omega

theorem powerOfTwo_eq (n : ℕ) : powerOfTwo n = 2 ^ n := rfl

theorem powerOfTen_eq (n : ℕ) : powerOfTen n = 10 ^ n := rfl

/-! ### Rounding to an integer -/

/-- The rounded quotient is below `k` if the quotient is more than a half below it, and also if it
is a half below and `k` is odd. -/
theorem roundHalfEven_lt_iff {n d k : ℕ} (hd : 0 < d) :
    roundHalfEven n d < k ↔ 2 * n + d < 2 * (d * k) ∨ (2 * n + d = 2 * (d * k) ∧ k % 2 = 1) := by
  have hsplit : d * (n / d) + n % d = n := Nat.div_add_mod n d
  have hrest : n % d < d := Nat.mod_lt n hd
  unfold roundHalfEven
  dsimp only
  generalize n / d = q at *
  generalize n % d = r at *
  -- `k` is compared with the two integers around the quotient
  rcases Nat.lt_trichotomy k (q + 1) with hk | rfl | hk
  · have hle : d * k ≤ d * q := Nat.mul_le_mul_left d (by omega)
    split_ifs <;> omega
  · rw [Nat.mul_succ]
    split_ifs <;> omega
  · have hle : d * (q + 2) ≤ d * k := Nat.mul_le_mul_left d (by omega)
    rw [Nat.mul_add] at hle
    split_ifs <;> omega

/-- The same of fractions. -/
theorem roundHalfEven_lt_iff_div {n d k : ℕ} (hd : 0 < d) : roundHalfEven n d < k ↔
    (n : ℚ) / d < k - 1 / 2 ∨ ((n : ℚ) / d = k - 1 / 2 ∧ k % 2 = 1) := by
  have hpos : (0 : ℚ) < d := by exact_mod_cast hd
  have hlt : (n : ℚ) / d < k - 1 / 2 ↔ 2 * n + d < 2 * (d * k) := by
    rw [div_lt_iff₀ hpos, ← Nat.cast_lt (α := ℚ)]
    push_cast
    constructor <;> intro h <;> linarith
  have heq : (n : ℚ) / d = k - 1 / 2 ↔ 2 * n + d = 2 * (d * k) := by
    rw [div_eq_iff hpos.ne', ← Nat.cast_inj (R := ℚ)]
    push_cast
    constructor <;> intro h <;> linarith
  rw [roundHalfEven_lt_iff hd, hlt, heq]

/-! ### Rounding to a double -/

namespace Double

/-- The number that a double stands for. -/
def value (x : Double) : ℚ := x.mantissa * 2 ^ x.exponent

/-- The largest finite double. -/
def largest : Double := ⟨powerOfTwo 53 - 1, 971⟩

/-- The double is not beyond the largest finite one. -/
def IsFinite (x : Double) : Prop := x.value ≤ largest.value

theorem scale_pos (n : ℕ) {d : ℕ} (hd : 0 < d) (e : ℤ) : 0 < (scale n d e).2 :=
  Nat.mul_pos hd (Nat.two_pow_pos _)

theorem scale_div (n d : ℕ) (e : ℤ) :
    ((scale n d e).1 : ℚ) / (scale n d e).2 = n / d / 2 ^ e := by
  rw [zpow_eq_div two_ne_zero e]
  simp only [scale, powerOfTwo_eq]
  push_cast
  field_simp

/-- The exponent of the last place, before the least exponent is looked at. -/
def lastPlace (n d : ℕ) : ℤ :=
  let guess : ℤ := (n.log2 : ℤ) - (d.log2 : ℤ) - 53
  if (scale n d guess).1 / (scale n d guess).2 < powerOfTwo 53 then guess else guess + 1

/-- A fraction is rounded in its last place. -/
theorem value_nearest {n d : ℕ} (hn : n ≠ 0) : (nearest n d).value =
    roundHalfEven (scale n d (max (-1074) (lastPlace n d))).1
      (scale n d (max (-1074) (lastPlace n d))).2 * 2 ^ max (-1074) (lastPlace n d) := by
  have hnearest : nearest n d =
      let exponent := max (-1074) (lastPlace n d)
      let mantissa := roundHalfEven (scale n d exponent).1 (scale n d exponent).2
      if mantissa = powerOfTwo 53 then ⟨powerOfTwo 52, exponent + 1⟩
      else ⟨mantissa, exponent⟩ := by
    rw [nearest, if_neg hn]
    rfl
  rw [hnearest]
  dsimp only
  split
  · next hcarry =>
    rw [hcarry, value, zpow_add_one₀ two_ne_zero]
    simp only [powerOfTwo_eq]
    push_cast
    ring
  · rfl

/-- In units of its last place a fraction has 53 bits. -/
theorem lastPlace_spec {n d : ℕ} (hn : n ≠ 0) (hd : 0 < d) :
    (2 : ℚ) ^ 52 ≤ n / d / 2 ^ lastPlace n d ∧ (n : ℚ) / d / 2 ^ lastPlace n d < 2 ^ 53 := by
  have hpos : (0 : ℚ) < d := by exact_mod_cast hd
  have hnlow : (2 : ℚ) ^ n.log2 ≤ n := by exact_mod_cast Nat.log2_self_le hn
  have hnhigh : (n : ℚ) < 2 ^ (n.log2 + 1) := by exact_mod_cast Nat.lt_log2_self
  have hdlow : (2 : ℚ) ^ d.log2 ≤ d := by exact_mod_cast Nat.log2_self_le hd.ne'
  have hdhigh : (d : ℚ) < 2 ^ (d.log2 + 1) := by exact_mod_cast Nat.lt_log2_self
  unfold lastPlace
  dsimp only
  generalize hg : (n.log2 : ℤ) - (d.log2 : ℤ) - 53 = g
  have hunit : (0 : ℚ) < 2 ^ g := zpow_pos two_pos g
  have hfloor : (scale n d g).1 / (scale n d g).2 < powerOfTwo 53 ↔
      (n : ℚ) / d / 2 ^ g < 2 ^ 53 := by
    have hscaled : (0 : ℚ) < (scale n d g).2 := by exact_mod_cast scale_pos n hd g
    rw [← scale_div, div_lt_iff₀ hscaled, Nat.div_lt_iff_lt_mul (scale_pos n hd g), powerOfTwo_eq]
    exact_mod_cast Iff.rfl
  -- the first guess has 53 bits or one more
  have hlow : (2 : ℚ) ^ 52 ≤ n / d / 2 ^ g := by
    rw [le_div_iff₀ hunit, le_div_iff₀ hpos]
    calc (2 : ℚ) ^ 52 * 2 ^ g * d ≤ 2 ^ 52 * 2 ^ g * 2 ^ (d.log2 + 1) := by gcongr
      _ = 2 ^ n.log2 := by
        simp only [← zpow_natCast, ← zpow_add₀ (two_ne_zero (α := ℚ))]
        congr 1
        push_cast
        omega
      _ ≤ n := hnlow
  have hhigh : (n : ℚ) / d / 2 ^ g < 2 ^ 54 := by
    rw [div_lt_iff₀ hunit, div_lt_iff₀ hpos]
    calc (n : ℚ) < 2 ^ (n.log2 + 1) := hnhigh
      _ = 2 ^ 54 * 2 ^ g * 2 ^ d.log2 := by
        simp only [← zpow_natCast, ← zpow_add₀ (two_ne_zero (α := ℚ))]
        congr 1
        push_cast
        omega
      _ ≤ 2 ^ 54 * 2 ^ g * d := by gcongr
  split
  · next hguess => exact ⟨hlow, hfloor.mp hguess⟩
  · next hguess =>
    have hlow' : (2 : ℚ) ^ 53 ≤ n / d / 2 ^ g := not_lt.mp (mt hfloor.mpr hguess)
    rw [zpow_add_one₀ two_ne_zero, ← div_div]
    constructor <;> linarith

theorem value_largest : largest.value = (2 ^ 53 - 1) * 2 ^ (971 : ℤ) := by
  have hmantissa : ((powerOfTwo 53 - 1 : ℕ) : ℚ) = 2 ^ 53 - 1 := by
    rw [powerOfTwo_eq, Nat.cast_sub Nat.one_le_two_pow]
    push_cast
    rfl
  rw [value, largest, hmantissa]

/-- The tie between the largest finite double and the next one. -/
theorem limit_eq : (2 : ℚ) ^ 1024 - 2 ^ 970 = (2 ^ 53 - 1 / 2) * 2 ^ (971 : ℤ) := by
  have hhigh : (2 : ℚ) ^ 1024 = 2 ^ 54 * 2 ^ 970 := by rw [← pow_add]
  have hunit : (2 : ℚ) ^ (971 : ℤ) = 2 ^ 970 * 2 := by rw [← pow_succ, ← zpow_natCast]; rfl
  rw [hhigh, hunit]
  generalize (2 : ℚ) ^ 970 = p
  ring

/-- In units of the last place that a double has, a fraction has 53 bits, or fewer at the least
exponent. -/
theorem units_spec {n d : ℕ} (hn : n ≠ 0) (hd : 0 < d) {e : ℤ}
    (he : e = max (-1074) (lastPlace n d)) :
    (n : ℚ) / d / 2 ^ e < 2 ^ 53 ∧ (e ≠ -1074 → (2 : ℚ) ^ 52 ≤ n / d / 2 ^ e) := by
  obtain ⟨hlow, hhigh⟩ := lastPlace_spec hn hd
  rcases le_total (-1074) (lastPlace n d) with hle | hle
  · rw [he, max_eq_right hle]
    exact ⟨hhigh, fun _ => hlow⟩
  · obtain rfl : e = -1074 := he.trans (max_eq_left hle)
    refine ⟨lt_of_le_of_lt ?_ hhigh, fun hne => absurd rfl hne⟩
    have hunit : (2 : ℚ) ^ lastPlace n d ≤ 2 ^ (-1074 : ℤ) :=
      zpow_le_zpow_right₀ one_le_two hle
    exact div_le_div_of_nonneg_left (by positivity) (zpow_pos two_pos _) hunit

/-- Only in the last place of the largest finite double does it matter how a fraction is rounded. -/
theorem rounded_le_iff {y : ℚ} {q : ℕ} {e : ℤ}
    (hround : ∀ k : ℕ, q < k ↔ y < k - 1 / 2 ∨ (y = k - 1 / 2 ∧ k % 2 = 1))
    (hhigh : y < 2 ^ 53) (hlow : e ≠ -1074 → 2 ^ 52 ≤ y) :
    (q : ℚ) * 2 ^ e ≤ (2 ^ 53 - 1) * 2 ^ (971 : ℤ) ↔
      y * 2 ^ e < (2 ^ 53 - 1 / 2) * 2 ^ (971 : ℤ) := by
  have hunit : (0 : ℚ) < 2 ^ e := zpow_pos two_pos e
  have hlast : (0 : ℚ) < 2 ^ (971 : ℤ) := zpow_pos two_pos _
  rcases lt_trichotomy e 971 with he | rfl | he
  · -- below it, no fraction gets near the largest finite double
    have hle : (2 : ℚ) ^ e * 2 ≤ 2 ^ (971 : ℤ) := by
      rw [← zpow_add_one₀ two_ne_zero]
      exact zpow_le_zpow_right₀ one_le_two he
    have hq : (q : ℚ) ≤ 2 ^ 53 := by
      have hlt : q < 2 ^ 53 + 1 := (hround _).mpr (.inl (by push_cast; linarith))
      exact_mod_cast Nat.lt_succ_iff.mp hlt
    have hbelow (a : ℚ) (ha : a ≤ 2 ^ 53) : a * 2 ^ e ≤ 2 ^ 52 * 2 ^ (971 : ℤ) :=
      calc a * 2 ^ e ≤ 2 ^ 53 * 2 ^ e := by gcongr
        _ = 2 ^ 52 * (2 ^ e * 2) := by ring
        _ ≤ 2 ^ 52 * 2 ^ (971 : ℤ) := by gcongr
    have hfits := hbelow q hq
    have hfits' := hbelow y hhigh.le
    generalize (2 : ℚ) ^ (971 : ℤ) = last at *
    exact iff_of_true (by linarith) (by linarith)
  · have hq : (q : ℚ) ≤ 2 ^ 53 - 1 ↔ q < 2 ^ 53 := by
      rw [le_sub_iff_add_le, Nat.lt_iff_add_one_le]
      exact_mod_cast Iff.rfl
    rw [mul_le_mul_iff_left₀ hlast, mul_lt_mul_iff_left₀ hlast, hq, hround]
    norm_num
  · -- above it, every fraction is beyond the largest finite double
    have hle : 2 ^ (971 : ℤ) * 2 ≤ (2 : ℚ) ^ e := by
      rw [← zpow_add_one₀ two_ne_zero]
      exact zpow_le_zpow_right₀ one_le_two he
    have hy : 2 ^ 52 ≤ y := hlow (by omega)
    have hq : (2 : ℚ) ^ 52 ≤ q := by
      have hge : ¬ q < 2 ^ 52 := by
        rw [hround]
        push_cast
        rintro (h | ⟨h, -⟩) <;> linarith
      exact_mod_cast not_lt.mp hge
    have habove (a : ℚ) (ha : 2 ^ 52 ≤ a) : 2 ^ 53 * 2 ^ (971 : ℤ) ≤ a * 2 ^ e :=
      calc (2 : ℚ) ^ 53 * 2 ^ (971 : ℤ) = 2 ^ 52 * (2 ^ (971 : ℤ) * 2) := by ring
        _ ≤ 2 ^ 52 * 2 ^ e := by gcongr
        _ ≤ a * 2 ^ e := by gcongr
    have hexceeds := habove q hq
    have hexceeds' := habove y hy
    generalize (2 : ℚ) ^ (971 : ℤ) = last at *
    exact iff_of_false (by linarith) (by linarith)

/-- **A fraction rounds to a finite double** if it is below the tie. -/
theorem isFinite_nearest_iff (n : ℕ) {d : ℕ} (hd : 0 < d) :
    (nearest n d).IsFinite ↔ (n : ℚ) / d < 2 ^ 1024 - 2 ^ 970 := by
  have hlast : (0 : ℚ) < 2 ^ (971 : ℤ) := zpow_pos two_pos _
  rw [IsFinite, value_largest, limit_eq]
  by_cases hn : n = 0
  · subst hn
    have hzero : (nearest 0 d).value = 0 := by simp [nearest, value]
    rw [hzero, Nat.cast_zero, zero_div]
    exact iff_of_true (mul_nonneg (by norm_num) hlast.le) (mul_pos (by norm_num) hlast)
  rw [value_nearest hn]
  generalize he : max (-1074) (lastPlace n d) = e
  obtain ⟨hhigh, hlow⟩ := units_spec hn hd he.symm
  have hround (k : ℕ) := roundHalfEven_lt_iff_div (n := (scale n d e).1) (k := k)
    (scale_pos n hd e)
  simp only [scale_div] at hround
  rw [rounded_le_iff hround hhigh hlow, div_mul_cancel₀ _ (zpow_pos two_pos e).ne']

end Double

namespace Decimal

theorem abs_toRat (d : Decimal) : |d.toRat| = d.coefficient * 10 ^ d.exponent := by
  have hpos : (0 : ℚ) ≤ d.coefficient * 10 ^ d.exponent :=
    mul_nonneg (Nat.cast_nonneg _) (zpow_nonneg (by norm_num) _)
  rw [toRat, mul_assoc, abs_mul, abs_of_nonneg hpos, Numeral.factor]
  cases d.negative <;> simp

/-- A number has as many digits as powers of ten are not beyond it. -/
theorem length_spec {n : ℕ} (hn : n ≠ 0) :
    (10 : ℚ) ^ ((Numeral.length n : ℤ) - 1) ≤ n ∧ (n : ℚ) < 10 ^ (Numeral.length n : ℤ) := by
  rw [Numeral.length, if_neg hn]
  have hpos : 0 < (Nat.toDigits 10 n).length := Nat.length_toDigits_pos
  generalize hl : (Nat.toDigits 10 n).length = l at *
  obtain ⟨k, rfl⟩ : ∃ k, l = k + 1 := ⟨l - 1, by omega⟩
  have hlow : 10 ^ k ≤ n := by
    rcases Nat.eq_zero_or_pos k with rfl | hk
    · exact Nat.pos_of_ne_zero hn
    · by_contra hlt
      have := (Nat.length_toDigits_le_iff (by decide) hk).mpr (not_le.mp hlt)
      omega
  have hhigh : n < 10 ^ (k + 1) := (Nat.length_toDigits_le_iff (by decide) hpos).mp hl.le
  have hsub : ((k + 1 : ℕ) : ℤ) - 1 = (k : ℕ) := by omega
  rw [hsub, zpow_natCast, zpow_natCast]
  exact ⟨by exact_mod_cast hlow, by exact_mod_cast hhigh⟩

theorem cast_overflow : (overflow : ℚ) = 2 ^ 1024 - 2 ^ 970 := by
  have hcast (n : ℕ) : (powerOfTwo n : ℚ) = 2 ^ n := by
    rw [powerOfTwo_eq, Nat.cast_pow, Nat.cast_ofNat]
  have hmono {m n : ℕ} (h : m ≤ n) : powerOfTwo m ≤ powerOfTwo n := Nat.pow_le_pow_right two_pos h
  rw [overflow, Nat.cast_sub (hmono (by omega)), hcast, hcast]

/-- The limit has 309 digits. -/
theorem overflow_bounds : (10 : ℚ) ^ (308 : ℤ) ≤ overflow ∧ (overflow : ℚ) ≤ 10 ^ (309 : ℤ) := by
  have hlow : 10 ^ 308 ≤ overflow := by decide +kernel
  have hhigh : overflow ≤ 10 ^ 309 := by decide +kernel
  exact ⟨by exact_mod_cast hlow, by exact_mod_cast hhigh⟩

/-- **The test on digit counts is exact.** -/
theorem isFinite_iff (d : Decimal) : d.isFinite ↔ |d.toRat| < 2 ^ 1024 - 2 ^ 970 := by
  obtain ⟨hlow, hhigh⟩ := overflow_bounds
  rw [abs_toRat, ← cast_overflow, isFinite]
  by_cases hzero : d.coefficient = 0
  · have hpos : (0 : ℚ) < overflow := lt_of_lt_of_le (zpow_pos (by norm_num) _) hlow
    rw [if_pos hzero, hzero, Nat.cast_zero, zero_mul]
    exact iff_of_true rfl hpos
  obtain ⟨hleast, hmost⟩ := length_spec hzero
  rw [if_neg hzero]
  generalize hl : (Numeral.length d.coefficient : ℤ) = l at *
  have hten : (0 : ℚ) < 10 ^ d.exponent := zpow_pos (by norm_num) _
  dsimp only
  split
  · next hfew =>
    refine iff_of_true rfl ?_
    calc (d.coefficient : ℚ) * 10 ^ d.exponent < 10 ^ l * 10 ^ d.exponent := by gcongr
      _ = 10 ^ (l + d.exponent) := (zpow_add₀ (by norm_num) _ _).symm
      _ ≤ 10 ^ (308 : ℤ) := zpow_le_zpow_right₀ (by norm_num) (by omega)
      _ ≤ overflow := hlow
  split
  · next hmany =>
    refine iff_of_false nofun (not_lt.mpr ?_)
    calc (overflow : ℚ) ≤ 10 ^ (309 : ℤ) := hhigh
      _ ≤ 10 ^ (l - 1 + d.exponent) := zpow_le_zpow_right₀ (by norm_num) (by omega)
      _ = 10 ^ (l - 1) * 10 ^ d.exponent := zpow_add₀ (by norm_num) _ _
      _ ≤ d.coefficient * 10 ^ d.exponent := by gcongr
  · have hpos : (0 : ℚ) < 10 ^ (-d.exponent).toNat := by positivity
    rw [decide_eq_true_iff, zpow_eq_div (by norm_num), ← mul_div_assoc, div_lt_iff₀ hpos]
    simp only [powerOfTen_eq]
    exact_mod_cast Iff.rfl

/-- **It is the test for a finite double**, to which the number is rounded. -/
theorem isFinite_ofDecimal_iff (d : Decimal) :
    (Double.ofDecimal d).IsFinite ↔ |d.toRat| < 2 ^ 1024 - 2 ^ 970 := by
  have hpos : 0 < powerOfTen (-d.exponent).toNat := Nat.pow_pos (by norm_num)
  rw [Double.ofDecimal, Double.isFinite_nearest_iff _ hpos, abs_toRat, zpow_eq_div (by norm_num)]
  simp only [powerOfTen_eq]
  push_cast
  rw [mul_div_assoc]

end Decimal

end FilterQuery
