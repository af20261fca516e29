import Mathlib.Algebra.Order.Field.Rat
import Mathlib.Algebra.Order.Ring.Abs
import Mathlib.Tactic.FieldSimp
import Mathlib.Tactic.Linarith
import Mathlib.Tactic.NormNum
import Mathlib.Tactic.Positivity
import Mathlib.Tactic.Ring
import Vigil.Number.Decimal

/-!
# Rounding

The laws of the two roundings that calculations with doubles consist of: to the nearest natural
number, and to the nearest count of smallest positive numbers that a double can hold.

- `abs_roundDiv_sub_le` and `roundDiv_eq_of_near`: the nearest natural number is at most a half
  away, and a number less than a half away is the nearest one.
- `Double.isFinite_roundUnits_iff`: the exact bound from which on the rounding overflows.
- `Double.abs_roundedUnits_sub_le_div`: rounding changes a number by at most one part in `2 ^ 53`.
- `Double.roundedUnits_mul`: a number that a double can hold is not changed.
-/

namespace Vigil

/-! ## The nearest natural number -/

/-- A natural number less than one away is the number. -/
theorem eq_of_close {m n : Nat} (h : |(m : ℚ) - n| < 1) : m = n := by
  have hint : |(m : ℤ) - n| < 1 := by exact_mod_cast h
  have hzero := Int.abs_lt_one_iff.mp hint
  omega

/-- The rounded quotient is at most a half above the exact one. -/
theorem two_mul_roundDiv_le (num : Nat) {den : Nat} (h : 0 < den) :
    2 * (roundDiv num den * den) ≤ 2 * num + den := by
  have hdiv := Nat.div_add_mod' num den
  unfold roundDiv
  dsimp only
  split
  · omega
  · rw [Nat.add_one_mul (num / den)]
    omega

/-- The rounded quotient is at most a half below the exact one. -/
theorem two_mul_le_roundDiv (num : Nat) {den : Nat} (h : 0 < den) :
    2 * num ≤ 2 * (roundDiv num den * den) + den := by
  have hdiv := Nat.div_add_mod' num den
  have hmod := Nat.mod_lt num h
  unfold roundDiv
  dsimp only
  split
  · omega
  · rw [Nat.add_one_mul (num / den)]
    omega

/-- The nearest natural number is at most a half away. -/
theorem abs_roundDiv_sub_le (num : Nat) {den : Nat} (h : 0 < den) :
    |(roundDiv num den : ℚ) - num / den| ≤ 1 / 2 := by
  have hden : (0 : ℚ) < den := by exact_mod_cast h
  have hle : (2 * (roundDiv num den * den) : ℚ) ≤ 2 * num + den := by
    exact_mod_cast two_mul_roundDiv_le num h
  have hge : (2 * num : ℚ) ≤ 2 * (roundDiv num den * den) + den := by
    exact_mod_cast two_mul_le_roundDiv num h
  have hscaled : |(roundDiv num den : ℚ) - num / den| * den =
      |(roundDiv num den * den : ℚ) - num| := by
    rw [← abs_of_pos hden, ← abs_mul, abs_of_pos hden, sub_mul, div_mul_cancel₀ _ hden.ne']
  rw [← mul_le_mul_iff_left₀ hden, hscaled, abs_le]
  constructor <;> linarith

/-- A natural number less than a half away is the nearest one. -/
theorem roundDiv_eq_of_near {num den q : Nat} (h : 0 < den)
    (hnear : |(q : ℚ) - num / den| < 1 / 2) : roundDiv num den = q := by
  have hround := abs_roundDiv_sub_le num h
  apply eq_of_close
  calc |(roundDiv num den : ℚ) - q|
      = |((roundDiv num den : ℚ) - num / den) - (q - num / den)| := by ring_nf
    _ ≤ |(roundDiv num den : ℚ) - num / den| + |(q : ℚ) - num / den| := abs_sub _ _
    _ < 1 := by linarith

/-- A quotient is rounded alike in other units. -/
theorem roundDiv_mul_right (num den : Nat) {c : Nat} (hc : 0 < c) :
    roundDiv (num * c) (den * c) = roundDiv num den := by
  unfold roundDiv
  rw [Nat.mul_div_mul_right num den hc, Nat.mul_mod_mul_right]
  have hmul : 2 * (num % den * c) = 2 * (num % den) * c := (Nat.mul_assoc ..).symm
  simp only [hmul, Nat.mul_lt_mul_right hc, Nat.mul_left_inj hc.ne']

/-- Rounding does not go beyond a natural number. -/
theorem roundDiv_le {num den q : Nat} (h : 0 < den) (hle : num ≤ q * den) :
    roundDiv num den ≤ q := by
  by_contra hlt
  have hround := two_mul_roundDiv_le num h
  -- A result beyond the number would be further away than a half.
  have hmul : (q + 1) * den ≤ roundDiv num den * den := Nat.mul_le_mul_right den (by omega)
  rw [Nat.add_one_mul] at hmul
  omega

/-- Rounding does not go below a natural number. -/
theorem le_roundDiv {num den q : Nat} (h : 0 < den) (hle : q * den ≤ num) :
    q ≤ roundDiv num den := by
  by_contra hlt
  have hround := two_mul_le_roundDiv num h
  have hmul : (roundDiv num den + 1) * den ≤ q * den := Nat.mul_le_mul_right den (by omega)
  rw [Nat.add_one_mul] at hmul
  omega

/-- A quotient is rounded to less than an even number if it is more than a half below it: the half
itself goes to the even number. -/
theorem roundDiv_lt_iff {num den q : Nat} (h : 0 < den) (hq : q % 2 = 0) :
    roundDiv num den < q ↔ 2 * num + den < 2 * (q * den) := by
  have hdiv := Nat.div_add_mod' num den
  have hmod := Nat.mod_lt num h
  constructor
  · intro hlt
    have hmul : (roundDiv num den + 1) * den ≤ q * den := Nat.mul_le_mul_right den hlt
    rw [Nat.add_one_mul] at hmul
    by_contra hge
    -- The number below an even one is odd, so a tie would have gone up.
    unfold roundDiv at hlt hmul
    dsimp only at hlt hmul
    split at hmul
    · rename_i hdown
      rw [if_pos hdown] at hlt
      have heq : q = num / den + 1 := by
        by_contra hne
        have hfar : (num / den + 2) * den ≤ q * den := Nat.mul_le_mul_right den (by omega)
        rw [Nat.add_mul] at hfar
        omega
      omega
    · rw [Nat.add_one_mul] at hmul
      omega
  · intro hlt
    by_contra hge
    have hround := two_mul_roundDiv_le num h
    have hmul : q * den ≤ roundDiv num den * den := Nat.mul_le_mul_right den (by omega)
    omega

/-- The same in exact numbers. -/
theorem roundDiv_lt_iff_div_lt {num den q : Nat} (h : 0 < den) (hq : q % 2 = 0) :
    roundDiv num den < q ↔ (num / den : ℚ) < q - 1 / 2 := by
  have hden : (0 : ℚ) < den := by exact_mod_cast h
  have hcast : 2 * num + den < 2 * (q * den) ↔ (2 * num + den : ℚ) < 2 * (q * den) := by
    exact_mod_cast Iff.rfl
  rw [roundDiv_lt_iff h hq, hcast, div_lt_iff₀ hden]
  constructor
  · intro hlt
    linarith
  · intro hlt
    linarith

/-- The sign makes no difference to rounding. -/
theorem natAbs_roundDivInt (num : ℤ) (den : ℕ) :
    (roundDivInt num den).natAbs = roundDiv num.natAbs den := by
  unfold roundDivInt
  split <;> omega

namespace Double

/-! ## The nearest double -/

/-- How far apart the doubles near `num / den` smallest positive numbers are. -/
def gap (num den : Nat) : Nat := 2 ^ (Nat.log2 (num / den) - 52)

/-- The count of smallest positive numbers that `num / den` of them are rounded to. -/
def roundedUnits (num den : Nat) : Nat := roundDiv num (den * gap num den) * gap num den

/-- The gap between doubles is positive. -/
theorem gap_pos (num den : Nat) : 0 < gap num den := Nat.two_pow_pos _

/-- A number is less than `2 ^ 53` gaps. -/
theorem lt_mul_gap (num : Nat) {den : Nat} (h : 0 < den) : num < 2 ^ 53 * gap num den * den := by
  have hquot : num / den < 2 ^ 53 * gap num den := by
    rw [gap, ← Nat.pow_add]
    have hself : num / den < 2 ^ (Nat.log2 (num / den) + 1) := Nat.lt_log2_self
    exact hself.trans_le (Nat.pow_le_pow_right (by decide) (by omega))
  exact (Nat.div_lt_iff_lt_mul h).mp hquot

/-- Above the smallest doubles, a number is at least `2 ^ 52` gaps. -/
theorem mul_gap_le {num den : Nat} (h : 0 < den) (hlarge : 2 ^ 52 * den ≤ num) :
    2 ^ 52 * gap num den * den ≤ num := by
  have hquot : 2 ^ 52 ≤ num / den := (Nat.le_div_iff_mul_le h).mpr hlarge
  have hlog : 52 ≤ Nat.log2 (num / den) := (Nat.le_log2 (by omega)).mpr hquot
  have hself : 2 ^ 52 * gap num den ≤ num / den := by
    rw [gap, ← Nat.pow_add, Nat.add_sub_cancel' hlog]
    exact Nat.log2_self_le (by omega)
  calc 2 ^ 52 * gap num den * den ≤ num / den * den := Nat.mul_le_mul_right den hself
    _ ≤ num := Nat.div_mul_le_self num den

/-- Doubles are further apart than the smallest positive number only above the smallest ones. -/
theorem le_of_unit_ne_zero (num : Nat) {den : Nat} (h : 0 < den)
    (hunit : Nat.log2 (num / den) - 52 ≠ 0) : 2 ^ 52 * den ≤ num := by
  have hne : num / den ≠ 0 := by
    intro hzero
    rw [hzero] at hunit
    contradiction
  exact (Nat.le_div_iff_mul_le h).mp ((Nat.le_log2 hne).mp (by omega))

/-- A rounded number has at most 53 binary digits. -/
theorem roundDiv_gap_le (num : Nat) {den : Nat} (h : 0 < den) :
    roundDiv num (den * gap num den) ≤ 2 ^ 53 := by
  apply roundDiv_le (Nat.mul_pos h (gap_pos num den))
  calc num ≤ 2 ^ 53 * gap num den * den := (lt_mul_gap num h).le
    _ = 2 ^ 53 * (den * gap num den) := by ring

/-- Above the smallest doubles, a rounded number has all of 53 binary digits. -/
theorem le_roundDiv_gap {num den : Nat} (h : 0 < den) (hlarge : 2 ^ 52 * den ≤ num) :
    2 ^ 52 ≤ roundDiv num (den * gap num den) := by
  apply le_roundDiv (Nat.mul_pos h (gap_pos num den))
  calc 2 ^ 52 * (den * gap num den) = 2 ^ 52 * gap num den * den := by ring
    _ ≤ num := mul_gap_le h hlarge

/-- A mantissa and a unit that are not too large make a finite number. -/
theorem ofParts_eq (negative : Bool) {mantissa unit : Nat}
    (h : mantissa < 2 ^ 53 ∧ unit ≤ 2045 ∧ (2 ^ 52 ≤ mantissa ∨ unit = 0)) :
    ofParts negative mantissa unit = .finite negative mantissa unit h := by
  rw [ofParts, dif_pos h]

/-- Rounding gives the finite number of the rounded count if there is one. -/
theorem roundUnits_of_lt (negative : Bool) {num den : Nat} (h : 0 < den)
    (hlt : roundedUnits num den < 2 ^ 2098) :
    (roundUnits negative num den).isFinite ∧
      (roundUnits negative num den).isNegative = negative ∧
      (roundUnits negative num den).magnitude = roundedUnits num den := by
  -- The mantissa and the unit of the result are generalized before the function is opened, so
  -- that no power of two is calculated.
  have hle := roundDiv_gap_le num h
  have hge := fun hunit => le_roundDiv_gap h (le_of_unit_ne_zero num h hunit)
  rw [roundedUnits] at hlt ⊢
  rw [gap] at hle hge hlt ⊢
  unfold roundUnits
  generalize Nat.log2 (num / den) - 52 = unit at hle hge hlt ⊢
  dsimp only
  generalize roundDiv num (den * 2 ^ unit) = mantissa at hle hge hlt ⊢
  split
  · -- The mantissa was rounded up to 53 binary digits and one more, so the unit doubles.
    rename_i hfull
    rw [hfull, ← Nat.pow_add] at hlt
    have hunit := (Nat.pow_lt_pow_iff_right (by decide)).mp hlt
    rw [ofParts_eq negative ⟨by decide, by omega, .inl le_rfl⟩, hfull]
    exact ⟨rfl, rfl, by rw [magnitude]; ring⟩
  · rename_i hless
    have hcanonical : mantissa < 2 ^ 53 ∧ unit ≤ 2045 ∧ (2 ^ 52 ≤ mantissa ∨ unit = 0) := by
      -- A unit beyond the largest one would make the count too large already.
      refine ⟨by omega, ?_, by omega⟩
      by_contra hbig
      have hmantissa : 2 ^ 52 ≤ mantissa := hge (by omega)
      have hsum : 2 ^ (52 + unit) ≤ mantissa * 2 ^ unit := by
        rw [Nat.pow_add]
        exact Nat.mul_le_mul_right _ hmantissa
      have := (Nat.pow_lt_pow_iff_right (by decide)).mp (hsum.trans_lt hlt)
      omega
    rw [ofParts_eq negative hcanonical]
    exact ⟨rfl, rfl, rfl⟩

/-- Rounding overflows if the rounded count is too large. -/
theorem roundUnits_of_le (negative : Bool) {num den : Nat} (h : 0 < den)
    (hle : 2 ^ 2098 ≤ roundedUnits num den) : roundUnits negative num den = .infinite negative := by
  have hbound := roundDiv_gap_le num h
  rw [roundedUnits] at hle
  rw [gap] at hbound hle
  unfold roundUnits
  generalize Nat.log2 (num / den) - 52 = unit at hbound hle ⊢
  dsimp only
  generalize roundDiv num (den * 2 ^ unit) = mantissa at hbound hle ⊢
  -- At most 53 binary digits and one more are in the mantissa, so the rest is in the unit.
  have hunit : 2045 ≤ unit := by
    have hsum : mantissa * 2 ^ unit < 2 ^ (54 + unit) := by
      rw [Nat.pow_add]
      exact Nat.mul_lt_mul_of_pos_right (by omega) (Nat.two_pow_pos unit)
    have hpow : 2 ^ 2098 < 2 ^ (54 + unit) := hle.trans_lt hsum
    have := (Nat.pow_lt_pow_iff_right (by decide)).mp hpow
    omega
  split
  · rw [ofParts, dif_neg (by omega)]
  · rename_i hless
    rw [ofParts, dif_neg]
    rintro ⟨hlt, hmax, -⟩
    have hsum : mantissa * 2 ^ unit < 2 ^ (53 + unit) := by
      rw [Nat.pow_add]
      exact Nat.mul_lt_mul_of_pos_right hlt (Nat.two_pow_pos unit)
    have hpow : 2 ^ 2098 < 2 ^ (53 + unit) := hle.trans_lt hsum
    have := (Nat.pow_lt_pow_iff_right (by decide)).mp hpow
    omega

/-- Rounding overflows exactly if the rounded count is too large. -/
theorem isFinite_roundUnits (negative : Bool) {num den : Nat} (h : 0 < den) :
    (roundUnits negative num den).isFinite ↔ roundedUnits num den < 2 ^ 2098 := by
  constructor
  · intro hfinite
    by_contra hlarge
    rw [roundUnits_of_le negative h (Nat.le_of_not_lt hlarge)] at hfinite
    contradiction
  · exact fun hlt => (roundUnits_of_lt negative h hlt).1

/-- A count is rounded to less than a power of two if it is less than that by more than half a gap:
in the middle it goes to the power of two. -/
theorem roundedUnits_lt_iff (num : Nat) {den : Nat} (h : 0 < den) (top : Nat) :
    roundedUnits num den < 2 ^ (54 + top) ↔ num < (2 ^ 54 - 1) * 2 ^ top * den := by
  have hle := roundDiv_gap_le num h
  have hge := fun hunit => le_roundDiv_gap h (le_of_unit_ne_zero num h hunit)
  have hlow := fun hunit => mul_gap_le h (le_of_unit_ne_zero num h hunit)
  have hhigh := lt_mul_gap num h
  have htie := fun q => @roundDiv_lt_iff num _ q (Nat.mul_pos h (gap_pos num den))
  rw [roundedUnits]
  rw [gap] at hle hge hlow hhigh htie ⊢
  generalize Nat.log2 (num / den) - 52 = unit at hle hge hlow hhigh htie ⊢
  generalize roundDiv num (den * 2 ^ unit) = mantissa at hle hge hlow hhigh htie ⊢
  -- The gap decides, unless it is the one of the doubles just below the power of two.
  rcases Nat.lt_trichotomy unit (top + 1) with hunit | hunit | hunit
  · -- A smaller gap: both sides hold.
    have hcount : mantissa * 2 ^ unit < 2 ^ (54 + top) := by
      calc mantissa * 2 ^ unit ≤ 2 ^ 53 * 2 ^ unit := Nat.mul_le_mul_right _ hle
        _ = 2 ^ (53 + unit) := (Nat.pow_add ..).symm
        _ < 2 ^ (54 + top) := Nat.pow_lt_pow_right (by decide) (by omega)
    have hnum : num < (2 ^ 54 - 1) * 2 ^ top * den := by
      have hpow : 2 ^ unit ≤ 2 ^ top := Nat.pow_le_pow_right (by decide) (by omega)
      calc num < 2 ^ 53 * 2 ^ unit * den := hhigh
        _ ≤ (2 ^ 54 - 1) * 2 ^ top * den :=
          Nat.mul_le_mul_right den (Nat.mul_le_mul (by decide) hpow)
    exact iff_of_true hcount hnum
  · -- The gap below the power of two itself: a tie goes up, the power of two being even.
    subst hunit
    have hcount : mantissa * 2 ^ (top + 1) < 2 ^ (54 + top) ↔ mantissa < 2 ^ 53 := by
      rw [show 54 + top = 53 + (top + 1) by omega, Nat.pow_add 2 53]
      exact Nat.mul_lt_mul_right (Nat.two_pow_pos (top + 1))
    have hgap : den * 2 ^ (top + 1) = 2 * (2 ^ top * den) := by ring
    rw [hcount, htie _ rfl, hgap, Nat.mul_assoc]
    omega
  · -- A larger gap: neither side holds.
    have hcount : 2 ^ (54 + top) ≤ mantissa * 2 ^ unit := by
      calc 2 ^ (54 + top) ≤ 2 ^ (52 + unit) := Nat.pow_le_pow_right (by decide) (by omega)
        _ = 2 ^ 52 * 2 ^ unit := Nat.pow_add ..
        _ ≤ mantissa * 2 ^ unit := Nat.mul_le_mul_right _ (hge (by omega))
    have hnum : (2 ^ 54 - 1) * 2 ^ top * den ≤ num := by
      have hpow : 2 ^ (2 + top) ≤ 2 ^ unit := Nat.pow_le_pow_right (by decide) (by omega)
      calc (2 ^ 54 - 1) * 2 ^ top * den ≤ 2 ^ 54 * 2 ^ top * den :=
            Nat.mul_le_mul_right den (Nat.mul_le_mul_right _ (by decide))
        _ = 2 ^ 52 * 2 ^ (2 + top) * den := by ring
        _ ≤ 2 ^ 52 * 2 ^ unit * den := Nat.mul_le_mul_right den (Nat.mul_le_mul_left _ hpow)
        _ ≤ num := hlow (by omega)
    exact iff_of_false hcount.not_gt hnum.not_gt

/-- Rounding gives a finite number as long as the exact one is less than the first power of two
without a double by more than half a gap. -/
theorem isFinite_roundUnits_iff (negative : Bool) {num den : Nat} (h : 0 < den) :
    (roundUnits negative num den).isFinite ↔ num < (2 ^ 54 - 1) * 2 ^ 2044 * den := by
  rw [isFinite_roundUnits negative h, show 2098 = 54 + 2044 from rfl]
  exact roundedUnits_lt_iff num h 2044

/-- Rounding moves a number by at most half the gap between the doubles around it. -/
theorem abs_roundedUnits_sub_le (num : Nat) {den : Nat} (h : 0 < den) :
    |(roundedUnits num den : ℚ) - num / den| ≤ gap num den / 2 := by
  have hgap : (0 : ℚ) < gap num den := by exact_mod_cast gap_pos num den
  have hround := abs_roundDiv_sub_le num (Nat.mul_pos h (gap_pos num den))
  -- In gaps, the distance is that of rounding to a natural number.
  have hscaled : (roundedUnits num den : ℚ) - num / den =
      ((roundDiv num (den * gap num den) : ℚ) - num / (den * gap num den : Nat)) *
        gap num den := by
    have hden : (den : ℚ) ≠ 0 := by exact_mod_cast h.ne'
    rw [roundedUnits]
    push_cast
    field_simp
  rw [hscaled, abs_mul, abs_of_pos hgap]
  calc |(roundDiv num (den * gap num den) : ℚ) - num / (den * gap num den : Nat)| * gap num den
      ≤ 1 / 2 * gap num den := mul_le_mul_of_nonneg_right hround hgap.le
    _ = gap num den / 2 := by ring

/-- Above the smallest doubles, the gap is at most one part in `2 ^ 52` of the number. -/
theorem gap_le_div {num den : Nat} (h : 0 < den) (hlarge : 2 ^ 52 * den ≤ num) :
    (gap num den : ℚ) ≤ num / den / 2 ^ 52 := by
  have hmul : gap num den * 2 ^ 52 * den ≤ num := by
    rw [Nat.mul_comm (gap num den)]
    exact mul_gap_le h hlarge
  rw [le_div_iff₀ (by positivity), le_div_iff₀ (by exact_mod_cast h)]
  exact_mod_cast hmul

/-- Below a power of two the gap is at most that of the largest numbers there. -/
theorem gap_le_two_pow {num den e : Nat} (h : num < 2 ^ (53 + e) * den) : gap num den ≤ 2 ^ e := by
  have hquot : num / den < 2 ^ (53 + e) := Nat.div_lt_of_lt_mul (by rwa [Nat.mul_comm])
  apply Nat.pow_le_pow_right (by decide)
  rcases Nat.eq_zero_or_pos (num / den) with hzero | hpos
  · simp [hzero]
  · have hlog := (Nat.log2_lt hpos.ne').mpr hquot
    omega

/-- Above the smallest doubles, rounding moves a number by at most one part in `2 ^ 53` of it. -/
theorem abs_roundedUnits_sub_le_div {num den : Nat} (h : 0 < den) (hlarge : 2 ^ 52 * den ≤ num) :
    |(roundedUnits num den : ℚ) - num / den| ≤ num / den / 2 ^ 53 := by
  have herror := abs_roundedUnits_sub_le num h
  have hgap := gap_le_div h hlarge
  calc |(roundedUnits num den : ℚ) - num / den| ≤ gap num den / 2 := herror
    _ ≤ num / den / 2 ^ 52 / 2 := by linarith
    _ = num / den / 2 ^ 53 := by ring

/-- Rounding moves a number by at most one part in `2 ^ 53` of it and half a smallest positive
number. -/
theorem abs_roundedUnits_sub_le_add (num : Nat) {den : Nat} (h : 0 < den) :
    |(roundedUnits num den : ℚ) - num / den| ≤ num / den / 2 ^ 53 + 1 / 2 := by
  rcases Nat.lt_or_ge num (2 ^ 52 * den) with hsmall | hlarge
  · -- The smallest doubles are one smallest positive number apart.
    have hunit : Nat.log2 (num / den) - 52 = 0 := by
      by_contra hne
      exact not_le.mpr hsmall (le_of_unit_ne_zero num h hne)
    have herror := abs_roundedUnits_sub_le num h
    rw [gap, hunit, pow_zero, Nat.cast_one] at herror
    have hnonneg : (0 : ℚ) ≤ num / den / 2 ^ 53 := by positivity
    linarith
  · have herror := abs_roundedUnits_sub_le_div h hlarge
    linarith

/-- A count that a double can hold, one of 53 binary digits and zeros after them, is not moved. -/
theorem roundedUnits_mul {mantissa unit den : Nat} (h : 0 < den) (hmantissa : mantissa < 2 ^ 53) :
    roundedUnits (mantissa * 2 ^ unit * den) den = mantissa * 2 ^ unit := by
  have hquot : mantissa * 2 ^ unit * den / den = mantissa * 2 ^ unit := Nat.mul_div_cancel _ h
  -- The gap around the count is a power of two that its zeros at the end are enough for.
  have hdvd : gap (mantissa * 2 ^ unit * den) den ∣ mantissa * 2 ^ unit := by
    rw [gap, hquot]
    rcases Nat.eq_zero_or_pos (mantissa * 2 ^ unit) with hzero | hpos
    · rw [hzero]
      exact Nat.dvd_zero _
    · apply (Nat.pow_dvd_pow 2 _).mul_left
      have hlt : mantissa * 2 ^ unit < 2 ^ (53 + unit) := by
        rw [Nat.pow_add]
        exact Nat.mul_lt_mul_of_pos_right hmantissa (Nat.two_pow_pos unit)
      have := (Nat.log2_lt hpos.ne').mpr hlt
      omega
  obtain ⟨count, hcount⟩ := hdvd
  have hpos := Nat.mul_pos h (gap_pos (mantissa * 2 ^ unit * den) den)
  rw [roundedUnits]
  generalize gap (mantissa * 2 ^ unit * den) den = g at hcount hpos ⊢
  rw [hcount, show g * count * den = count * (den * g) by ring, roundDiv_mul_left count hpos,
    Nat.mul_comm]

/-- Rounding a ratio does not depend on how it is expanded. -/
theorem roundUnits_mul_right (negative : Bool) (num den : Nat) {c : Nat} (hc : 0 < c) :
    roundUnits negative (num * c) (den * c) = roundUnits negative num den := by
  unfold roundUnits
  rw [Nat.mul_div_mul_right num den hc]
  simp only [Nat.mul_right_comm den c, roundDiv_mul_right _ _ hc]

/-- Equal ratios are rounded to the same number. -/
theorem ofRatio_congr (negative : Bool) {a b c d : Nat} (hb : 0 < b) (hd : 0 < d)
    (h : (a / b : ℚ) = c / d) : ofRatio negative a b = ofRatio negative c d := by
  rw [div_eq_div_iff (by exact_mod_cast hb.ne') (by exact_mod_cast hd.ne')] at h
  have hcross : a * d = c * b := by exact_mod_cast h
  unfold ofRatio
  rw [← roundUnits_mul_right negative (a * unitsPerOne) b hd, Nat.mul_right_comm, hcross,
    Nat.mul_comm b d, Nat.mul_right_comm, roundUnits_mul_right negative _ _ hb]

end Double

end Vigil
