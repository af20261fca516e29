import Mathlib.Algebra.Order.Field.Power
import Mathlib.Data.Nat.Cast.Order.Field
import Vigil.Number.Literal
import Vigil.Proofs.Number.Rounding
import Vigil.Proofs.Text.Trim

/-!
# Decimal digits

Digits and the numbers that they stand for, and the rounding of a ratio to a number of significant
digits. A ratio that is closer to a number of so many digits than a twentieth of the last one is
rounded to it, also if the ratio itself is below the power of ten that the number starts at
(`Decimal.significant_of_near`).
-/

namespace Vigil.Decimal

/-! ## Digits of natural numbers -/

/-- The value of digits is the one of the library. -/
theorem value_eq_ofDigitChars (cs : List Char) : value cs = Nat.ofDigitChars 10 cs 0 := by
  simp [value, Nat.ofDigitChars_eq_foldl, Nat.mul_comm]

/-- The digits of a number stand for it. -/
theorem value_digits (n : ℕ) : value (digits n) = n := by
  rw [value_eq_ofDigitChars, digits, Nat.ofDigitChars_ten_toDigits]

/-- Zeros at the end multiply a number by powers of ten. -/
theorem value_append_zeros (cs : List Char) (n : ℕ) :
    value (cs ++ List.replicate n '0') = value cs * 10 ^ n := by
  rw [value_eq_ofDigitChars, Nat.ofDigitChars_append, Nat.ofDigitChars_replicate_zero,
    value_eq_ofDigitChars, Nat.mul_comm]

/-- Digits behind others make these stand for so many powers of ten more. -/
theorem value_append (cs ds : List Char) :
    value (cs ++ ds) = value cs * 10 ^ ds.length + value ds := by
  have hfrom (n : ℕ) : Nat.ofDigitChars 10 ds n = n * 10 ^ ds.length + value ds := by
    rw [value_eq_ofDigitChars, Nat.ofDigitChars_eq_ofDigitChars_zero, Nat.mul_comm]
  rw [value_eq_ofDigitChars, Nat.ofDigitChars_append, hfrom, value_eq_ofDigitChars cs]

/-- Zeros in front of digits do not count. -/
theorem value_zeros_append (n : ℕ) (cs : List Char) :
    value (List.replicate n '0' ++ cs) = value cs := by
  induction n with
  | zero => rfl
  | succ n ih => exact ih

/-- A number is written in digits. -/
theorem isDigit_of_mem_digits {n : ℕ} {c : Char} (h : c ∈ digits n) : Literal.isDigit c := by
  have hdigit : c.isDigit := Nat.isDigit_of_mem_toDigits (by decide) (by decide) h
  simpa [Char.isDigit, Literal.isDigit, Char.le_def] using hdigit

/-- Every number has a digit. -/
theorem digits_ne_nil (n : ℕ) : digits n ≠ [] := Nat.toDigits_ne_nil

/-- Every number has a positive number of digits. -/
theorem length_pos (n : ℕ) : 0 < length n := Nat.length_toDigits_pos

/-- A number is less than the power of ten of its length. -/
theorem lt_pow_length (n : ℕ) : n < 10 ^ length n :=
  (Nat.length_toDigits_le_iff (by decide) (length_pos n)).mp le_rfl

/-- Digits stand for less than the power of ten of their length. -/
theorem value_lt_pow {ds : List Char} (h : ∀ c ∈ ds, Literal.isDigit c) :
    value ds < 10 ^ ds.length := by
  induction ds using List.reverseRecOn with
  | nil => exact Nat.one_pos
  | append_singleton ds c ih =>
    obtain ⟨hds, hc⟩ := List.forall_mem_append.mp h
    have hlt := ih hds
    have hdigit : value [c] ≤ 9 := by
      have hbounds := hc c List.mem_cons_self
      simp only [Literal.isDigit, Bool.and_eq_true, decide_eq_true_eq, Char.le_def] at hbounds
      change 0 * 10 + (c.toNat - 48) ≤ 9
      have hmost : c.toNat ≤ 57 := hbounds.2
      omega
    rw [value_append, List.length_append, List.length_singleton, Nat.pow_succ]
    omega

/-- A number that is not zero is at least the power of ten of its first digit. -/
theorem pow_length_le {n : ℕ} (h : 0 < n) : 10 ^ (length n - 1) ≤ n := by
  rcases Nat.eq_zero_or_pos (length n - 1) with hone | hmore
  · rw [hone]
    exact h
  · by_contra hlt
    have hle : length n ≤ length n - 1 :=
      (Nat.length_toDigits_le_iff (by decide) hmore).mpr (Nat.lt_of_not_le hlt)
    omega

/-- Zeros in front of a number fill it up to a width. -/
theorem value_padded (width n : ℕ) : value (padded width n) = n := by
  rw [padded, value_zeros_append, value_digits]

/-- A padded number has a digit. -/
theorem padded_ne_nil (width n : ℕ) : padded width n ≠ [] := by
  simp [padded, digits_ne_nil]

/-- A padded number is written in digits. -/
theorem isDigit_of_mem_padded {width n : ℕ} {c : Char} (h : c ∈ padded width n) :
    Literal.isDigit c := by
  rcases List.mem_append.mp h with hzero | hdigit
  · rw [List.eq_of_mem_replicate hzero]
    decide
  · exact isDigit_of_mem_digits hdigit

/-- A number with few enough digits is padded to the width exactly. -/
theorem length_padded {width n : ℕ} (hwidth : 0 < width) (h : n < 10 ^ width) :
    (padded width n).length = width := by
  have hle : length n ≤ width := (Nat.length_toDigits_le_iff (by decide) hwidth).mpr h
  rw [padded, List.length_append, List.length_replicate]
  exact Nat.sub_add_cancel hle

/-- Digits are those without the zeros at the end, and the zeros. -/
theorem exists_eq_dropTrailingZeros_append (cs : List Char) :
    ∃ n, cs = dropTrailingZeros cs ++ List.replicate n '0' :=
  Text.exists_eq_rdropWhile_append '0' cs

/-- Every zero that is left out at the end is a factor of ten. -/
theorem exists_value_eq_dropTrailingZeros (whole places : List Char) :
    ∃ zeros, places.length = (dropTrailingZeros places).length + zeros ∧
      value (whole ++ places) = value (whole ++ dropTrailingZeros places) * 10 ^ zeros := by
  obtain ⟨zeros, hzeros⟩ := exists_eq_dropTrailingZeros_append places
  generalize dropTrailingZeros places = kept at hzeros ⊢
  refine ⟨zeros, ?_, ?_⟩
  · rw [hzeros, List.length_append, List.length_replicate]
  · rw [hzeros, ← List.append_assoc, value_append_zeros]

/-! ## Significant digits -/

/-- A quotient lies between its integer part and the next integer. -/
theorem lt_div_add_one (num : ℕ) {den : ℕ} (hden : 0 < den) :
    (num / den : ℚ) < (num / den : ℕ) + 1 := by
  rw [div_lt_iff₀ (by exact_mod_cast hden)]
  have hlt : num < (num / den + 1) * den := by
    rw [Nat.mul_comm]
    exact Nat.lt_mul_div_succ num hden
  exact_mod_cast hlt

/-- The exponent of the first digit of a ratio that is at least one. -/
theorem leadingExponent_of_le {num den : ℕ} (hden : 0 < den) (hle : den ≤ num) :
    (10 : ℚ) ^ leadingExponent num den ≤ num / den ∧
      (num / den : ℚ) < 10 ^ (leadingExponent num den + 1) := by
  obtain ⟨size, hsize⟩ : ∃ size, length (num / den) = size + 1 :=
    ⟨_, (Nat.sub_add_cancel (length_pos _)).symm⟩
  have hlow := pow_length_le (Nat.div_pos hle hden)
  have hhigh := lt_pow_length (num / den)
  -- The integer part has as many digits as the ratio has before the point.
  rw [leadingExponent, if_pos hle]
  rw [hsize] at hlow hhigh ⊢
  rw [Nat.cast_add_one, add_sub_cancel_right, ← Nat.cast_add_one, zpow_natCast, zpow_natCast]
  constructor
  · calc (10 : ℚ) ^ size ≤ (num / den : ℕ) := by exact_mod_cast hlow
      _ ≤ num / den := Nat.cast_div_le
  · calc (num / den : ℚ) < (num / den : ℕ) + 1 := lt_div_add_one num hden
      _ ≤ 10 ^ (size + 1) := by exact_mod_cast hhigh

/-- A quotient that is not exactly the power of ten that it starts at is more than that. -/
theorem pow_lt_div {num den size : ℕ} (hden : 0 < den) (hlow : 10 ^ size ≤ num / den)
    (hinexact : ¬(num / den = 10 ^ size ∧ num % den = 0)) : (10 : ℚ) ^ size < num / den := by
  rcases hlow.eq_or_lt with heq | hless
  · have hmod : num % den ≠ 0 := fun hmod => hinexact ⟨heq.symm, hmod⟩
    have hdiv : num / den * den < num := by
      have := Nat.div_add_mod' num den
      omega
    rw [lt_div_iff₀ (by exact_mod_cast hden)]
    rw [← heq] at hdiv
    exact_mod_cast hdiv
  · calc (10 : ℚ) ^ size < (num / den : ℕ) := by exact_mod_cast hless
      _ ≤ num / den := Nat.cast_div_le

/-- The exponent of the first digit of a ratio that is less than one. -/
theorem leadingExponent_of_lt {num den : ℕ} (hnum : 0 < num) (hlt : num < den) :
    (10 : ℚ) ^ leadingExponent num den ≤ num / den ∧
      (num / den : ℚ) < 10 ^ (leadingExponent num den + 1) := by
  obtain ⟨size, hsize⟩ : ∃ size, length (den / num) = size + 1 :=
    ⟨_, (Nat.sub_add_cancel (length_pos _)).symm⟩
  have hlow := pow_length_le (Nat.div_pos hlt.le hnum)
  have hhigh := lt_pow_length (den / num)
  -- The exponent is found from the inverse, which is at least one.
  have hratio : (num / den : ℚ) = (den / num : ℚ)⁻¹ := (inv_div _ _).symm
  rw [leadingExponent, if_neg (not_le.mpr hlt)]
  simp only [hsize, Nat.add_sub_cancel] at hlow hhigh ⊢
  rw [hratio]
  split
  · -- The inverse is exactly a power of ten.
    rename_i hexact
    have hinverse : (den / num : ℚ) = 10 ^ size := by
      have hmul : den = 10 ^ size * num := by
        have hdiv := Nat.div_add_mod den num
        rw [hexact.1, hexact.2, Nat.add_zero, Nat.mul_comm] at hdiv
        exact hdiv.symm
      rw [div_eq_iff (by exact_mod_cast hnum.ne')]
      exact_mod_cast hmul
    rw [hinverse, Nat.cast_add_one, add_sub_cancel_right, zpow_neg, zpow_natCast]
    refine ⟨le_rfl, ?_⟩
    rw [zpow_add_one₀ (by norm_num), zpow_neg, zpow_natCast]
    have : (0 : ℚ) < (10 ^ size)⁻¹ := by positivity
    linarith
  · -- The inverse is more than the power of ten that it starts at.
    rename_i hinexact
    have hmore : (10 : ℚ) ^ size < den / num := pow_lt_div hnum hlow hinexact
    have hpos : (0 : ℚ) < den / num := lt_trans (by positivity) hmore
    have hless : (den / num : ℚ) ≤ 10 ^ (size + 1) := by
      calc (den / num : ℚ) ≤ (den / num : ℕ) + 1 := (lt_div_add_one den hnum).le
        _ ≤ 10 ^ (size + 1) := by exact_mod_cast hhigh
    rw [zpow_neg, zpow_natCast]
    refine ⟨inv_anti₀ hpos hless, ?_⟩
    rw [show -((size + 1 : ℕ) : ℤ) + 1 = -(size : ℤ) by push_cast; ring, zpow_neg, zpow_natCast]
    exact inv_strictAnti₀ (by positivity) hmore

/-- The exponent of ten of a ratio's first digit, by its defining property. -/
theorem leadingExponent_spec {num den : ℕ} (hnum : 0 < num) (hden : 0 < den) :
    (10 : ℚ) ^ leadingExponent num den ≤ num / den ∧
      (num / den : ℚ) < 10 ^ (leadingExponent num den + 1) := by
  rcases Nat.lt_or_ge num den with hlt | hle
  · exact leadingExponent_of_lt hnum hlt
  · exact leadingExponent_of_le hden hle

/-- The exponent of the first digit is the greatest one whose power does not exceed the ratio. -/
theorem le_leadingExponent_iff {num den : ℕ} (hnum : 0 < num) (hden : 0 < den) {e : ℤ} :
    e ≤ leadingExponent num den ↔ (10 : ℚ) ^ e ≤ num / den := by
  obtain ⟨hlead, hnext⟩ := leadingExponent_spec hnum hden
  constructor
  · intro hle
    exact (zpow_le_zpow_right₀ (by norm_num) hle).trans hlead
  · intro hpow
    have hlt : (10 : ℚ) ^ e < 10 ^ (leadingExponent num den + 1) := hpow.trans_lt hnext
    exact Int.lt_add_one_iff.mp ((zpow_lt_zpow_iff_right₀ (by norm_num)).mp hlt)

/-- A ratio scaled to a power of ten. -/
theorem scaleBy_spec (num : ℕ) {den : ℕ} (hden : 0 < den) (e : ℤ) :
    0 < (scaleBy num den e).2 ∧
      ((scaleBy num den e).1 : ℚ) / (scaleBy num den e).2 = num / den / 10 ^ e := by
  cases e with
  | ofNat e =>
    refine ⟨Nat.mul_pos hden (Nat.pow_pos (by decide)), ?_⟩
    simp only [scaleBy]
    push_cast
    rw [div_div, Int.ofNat_eq_natCast, zpow_natCast]
  | negSucc e =>
    refine ⟨hden, ?_⟩
    simp only [scaleBy]
    push_cast
    rw [zpow_negSucc, div_inv_eq_mul, div_mul_eq_mul_div]

/-- A ratio that is close to a number with its first digit at an exponent starts there itself, or
just below if the number is a power of ten. -/
theorem leadingExponent_of_near {num den count mantissa : ℕ} {e : ℤ} (hnum : 0 < num)
    (hden : 0 < den) (hcount : 0 < count) (hlow : 10 ^ (count - 1) ≤ mantissa)
    (hhigh : mantissa < 10 ^ count)
    (hnear : |(num / den / 10 ^ (e - count + 1) : ℚ) - mantissa| < 1 / 20) :
    leadingExponent num den = e ∨
      (leadingExponent num den = e - 1 ∧ mantissa = 10 ^ (count - 1)) := by
  obtain ⟨places, rfl⟩ : ∃ places, count = places + 1 := ⟨count - 1, by omega⟩
  rw [Nat.add_sub_cancel] at hlow ⊢
  -- Everything is measured in units of the last digit.
  have hexp : e - (places + 1 : ℕ) + 1 = e - places := by push_cast; ring
  rw [hexp] at hnear
  have hunit : (0 : ℚ) < 10 ^ (e - places) := by positivity
  have htop : (10 : ℚ) ^ e = 10 ^ places * 10 ^ (e - places) := by
    rw [← zpow_natCast, ← zpow_add₀ (by norm_num), add_sub_cancel]
  have hone : (1 : ℚ) ≤ 10 ^ places := one_le_pow₀ (by norm_num)
  have hlow' : (10 : ℚ) ^ places ≤ mantissa := by exact_mod_cast hlow
  have hhigh' : (mantissa : ℚ) + 1 ≤ 10 ^ places * 10 := by
    rw [← pow_succ]
    exact_mod_cast hhigh
  obtain ⟨hbelow, habove⟩ := abs_lt.mp hnear
  -- The ratio is below the next power of ten, and not below the one before.
  have hle : ¬e + 1 ≤ leadingExponent num den := by
    rw [le_leadingExponent_iff hnum hden, not_le, zpow_add_one₀ (by norm_num), htop, mul_right_comm,
      ← div_lt_iff₀ hunit]
    linarith
  have hge : e - 1 ≤ leadingExponent num den := by
    rw [le_leadingExponent_iff hnum hden, zpow_sub_one₀ (by norm_num), htop, mul_right_comm,
      ← le_div_iff₀ hunit]
    linarith
  by_cases hreached : e ≤ leadingExponent num den
  · exact .inl (by omega)
  · refine .inr ⟨by omega, ?_⟩
    rw [le_leadingExponent_iff hnum hden, not_le, htop, ← div_lt_iff₀ hunit] at hreached
    have hlt : (mantissa : ℚ) < 10 ^ places + 1 := by linarith
    have hlt' : mantissa < 10 ^ places + 1 := by exact_mod_cast hlt
    omega

/-- The significant digits of a ratio are the nearest number of units of its last digit, in which a
power of ten may have been reached. -/
theorem exists_significant_eq {num den count : ℕ} (hnum : 0 < num) (hden : 0 < den)
    (hcount : 0 < count) :
    ∃ m : ℕ, 10 ^ (count - 1) ≤ m ∧ m ≤ 10 ^ count ∧
      |(num / den / 10 ^ (leadingExponent num den - count + 1) : ℚ) - m| ≤ 1 / 2 ∧
      (m = 10 ^ count ↔
        (10 ^ count - 1 / 2 : ℚ) ≤ num / den / 10 ^ (leadingExponent num den - count + 1)) ∧
      significant count num den =
        if m = 10 ^ count then ⟨10 ^ (count - 1), leadingExponent num den + 1⟩
        else ⟨m, leadingExponent num den⟩ := by
  obtain ⟨hlead, hnext⟩ := leadingExponent_spec hnum hden
  obtain ⟨hpos, hscaled⟩ := scaleBy_spec num hden (leadingExponent num den - count + 1)
  have hunit : (0 : ℚ) < 10 ^ (leadingExponent num den - count + 1) := by positivity
  have hpos' : (0 : ℚ) < (scaleBy num den (leadingExponent num den - count + 1)).2 := by
    exact_mod_cast hpos
  -- In units of the last digit the ratio has as many digits as are kept.
  have hpow (k : ℕ) : (10 : ℚ) ^ k * 10 ^ (leadingExponent num den - count + 1) =
      10 ^ (leadingExponent num den + (k + 1 - count)) := by
    rw [← zpow_natCast, ← zpow_add₀ (by norm_num)]
    congr 1
    ring
  have hlow : ((10 ^ (count - 1) : ℕ) : ℚ) ≤
      num / den / 10 ^ (leadingExponent num den - count + 1) := by
    rw [le_div_iff₀ hunit, Nat.cast_pow, Nat.cast_ofNat, hpow, Nat.cast_pred hcount,
      sub_add_cancel, sub_self, add_zero]
    exact hlead
  have hhigh : num / den / 10 ^ (leadingExponent num den - count + 1) < ((10 ^ count : ℕ) : ℚ) := by
    rw [div_lt_iff₀ hunit, Nat.cast_pow, Nat.cast_ofNat, hpow, add_sub_cancel_left]
    exact hnext
  rw [← hscaled] at hlow hhigh ⊢
  have hsignificant : significant count num den =
      if roundDiv (scaleBy num den (leadingExponent num den - count + 1)).1
          (scaleBy num den (leadingExponent num den - count + 1)).2 = 10 ^ count then
        ⟨10 ^ (count - 1), leadingExponent num den + 1⟩
      else
        ⟨roundDiv (scaleBy num den (leadingExponent num den - count + 1)).1
          (scaleBy num den (leadingExponent num den - count + 1)).2, leadingExponent num den⟩ := rfl
  generalize scaleBy num den (leadingExponent num den - count + 1) = scaled at *
  obtain ⟨a, b⟩ := scaled
  dsimp only at *
  have hle : roundDiv a b ≤ 10 ^ count := by
    apply roundDiv_le hpos
    rw [div_lt_iff₀ hpos'] at hhigh
    exact_mod_cast hhigh.le
  refine ⟨roundDiv a b, ?_, hle, ?_, ?_, hsignificant⟩
  · apply le_roundDiv hpos
    rw [le_div_iff₀ hpos'] at hlow
    exact_mod_cast hlow
  · rw [abs_sub_comm]
    exact abs_roundDiv_sub_le a hpos
  · -- The power of ten is even, so a tie is rounded up to it.
    have heven : 10 ^ count % 2 = 0 := by
      rw [Nat.pow_mod, Nat.zero_pow hcount]
    rw [← hle.not_lt_iff_eq, roundDiv_lt_iff_div_lt hpos heven, not_lt, Nat.cast_pow,
      Nat.cast_ofNat]

/-- A ratio close to a number of `count` digits has these digits as its significant ones. -/
theorem significant_of_near {num den count mantissa : ℕ} {e : ℤ} (hnum : 0 < num) (hden : 0 < den)
    (hcount : 0 < count) (hlow : 10 ^ (count - 1) ≤ mantissa) (hhigh : mantissa < 10 ^ count)
    (hnear : |(num / den / 10 ^ (e - count + 1) : ℚ) - mantissa| < 1 / 20) :
    significant count num den = ⟨mantissa, e⟩ := by
  obtain ⟨m, -, -, hround, hfull, hdigits⟩ := exists_significant_eq hnum hden hcount
  obtain ⟨hbelow, habove⟩ := abs_lt.mp hnear
  rw [hdigits]
  rcases leadingExponent_of_near hnum hden hcount hlow hhigh hnear with hlead | ⟨hlead, hmantissa⟩
  · rw [hlead] at hround ⊢
    obtain ⟨hless, hmore⟩ := abs_le.mp hround
    have heq : m = mantissa := eq_of_close (abs_lt.mpr ⟨by linarith, by linarith⟩)
    rw [heq, if_neg hhigh.ne]
  · rw [hlead] at hfull ⊢
    have hten : (num / den / 10 ^ (e - 1 - count + 1) : ℚ) =
        num / den / 10 ^ (e - count + 1) * 10 := by
      rw [show e - 1 - count + 1 = e - count + 1 - 1 by ring, zpow_sub_one₀ (by norm_num)]
      field_simp
    have hpow : (10 ^ count : ℚ) = mantissa * 10 := by
      rw [hmantissa]
      exact_mod_cast (pow_sub_one_mul hcount.ne' 10).symm
    -- One digit more is rounded up to the power of ten.
    have hreached : m = 10 ^ count := by
      rw [hfull, hten, hpow]
      linarith
    rw [if_pos hreached, hmantissa, sub_add_cancel]

/-- Nothing has no significant digits but zeros. -/
theorem significant_zero (count den : ℕ) : (significant count 0 den).mantissa = 0 := by
  have hscaled (e : ℤ) : (scaleBy 0 den e).1 = 0 := by
    cases e with
    | ofNat e => rfl
    | negSucc e => exact Nat.zero_mul _
  have hround (b : ℕ) : roundDiv 0 b = 0 := by
    rcases Nat.eq_zero_or_pos b with rfl | hpos
    · rfl
    · have hzero := roundDiv_mul_left 0 hpos
      rwa [Nat.zero_mul] at hzero
  unfold significant
  dsimp only
  rw [hscaled, hround, if_neg (Nat.pow_pos (by decide)).ne]

end Vigil.Decimal
