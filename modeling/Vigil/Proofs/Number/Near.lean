import Mathlib.Algebra.Order.Floor.Semifield
import Mathlib.Data.Rat.Floor
import Mathlib.Tactic.GCongr
import Vigil.Proofs.Number.Units

/-!
# Numbers near to exact ones

How far a double may be away from the exact number that it stands for, after some roundings. Every
rounding moves a number by at most one part in `2 ^ 53` (`Double.unitRoundoff`), so after `k` of
them a number is away by at most the factor `(1 + unitRoundoff) ^ k` (`Double.IsNear`). Rounding a
ratio counts once (`IsNear.ofRatio`), and a product counts the roundings of its factors and one
more (`IsNear.mul`). Without any rounding there is only one such number (`IsNear.eq`), and taking an
integer off or the part after the point keeps it so (`IsNear.sub_natural`, `IsNear.fract`).

Only numbers that are not negative are considered here, and only those of which neither the
largest nor the smallest doubles come into sight.
-/

namespace Vigil.Double

attribute [local irreducible] unitsPerOne

/-- The part of a number by which rounding moves it at most. -/
def unitRoundoff : ℚ := 1 / 2 ^ 53

/-- The part of a number by which `k` roundings move it at most. -/
def drift (k : ℕ) : ℚ := (1 + unitRoundoff) ^ k - 1

/-- One rounding can move a number. -/
theorem unitRoundoff_pos : 0 < unitRoundoff := by
  unfold unitRoundoff
  positivity

/-- Roundings move a number by a part that is not negative. -/
theorem drift_nonneg (k : ℕ) : 0 ≤ drift k := by
  have hone : 1 ≤ (1 + unitRoundoff) ^ k := one_le_pow₀ (by linarith [unitRoundoff_pos])
  unfold drift
  linarith

/-- More roundings may move a number further. -/
theorem drift_mono {k l : ℕ} (h : k ≤ l) : drift k ≤ drift l := by
  have hpow : (1 + unitRoundoff) ^ k ≤ (1 + unitRoundoff) ^ l :=
    pow_le_pow_right₀ (by linarith [unitRoundoff_pos]) h
  unfold drift
  linarith

/-- A single rounding moves a number by one roundoff at most. -/
theorem drift_one : drift 1 = unitRoundoff := by
  unfold drift
  ring

/-- Two relative errors together. -/
theorem drift_add (k l : ℕ) : drift (k + l) = drift k + drift l + drift k * drift l := by
  unfold drift
  ring

/-- A few roundings are less than one part in a thousand million. -/
theorem drift_le {k : ℕ} (h : k ≤ 10) : drift k ≤ 1 / 10 ^ 9 := by
  refine (drift_mono h).trans ?_
  unfold drift unitRoundoff
  norm_num

/-- Relative errors of two factors are those of a product. -/
theorem abs_mul_sub_mul_le {a b q r : ℚ} {k l : ℕ} (hq : 0 ≤ q) (hr : 0 ≤ r)
    (ha : |a - q| ≤ q * drift k) (hb : |b - r| ≤ r * drift l) :
    |a * b - q * r| ≤ q * r * drift (k + l) := by
  have hk := drift_nonneg k
  have hl := drift_nonneg l
  calc |a * b - q * r| = |(a - q) * r + (b - r) * q + (a - q) * (b - r)| := by ring_nf
    _ ≤ |a - q| * r + |b - r| * q + |a - q| * |b - r| := by
        refine (abs_add_three _ _ _).trans_eq ?_
        rw [abs_mul, abs_mul, abs_mul, abs_of_nonneg hq, abs_of_nonneg hr]
    _ ≤ q * drift k * r + r * drift l * q + q * drift k * (r * drift l) := by gcongr
    _ = q * r * drift (k + l) := by
        rw [drift_add]
        ring

/-! ## One rounding -/

/-- The absolute value of a finite number. -/
def size (x : Double) : ℚ := x.magnitude / unitsPerOne

/-- An absolute value is not negative. -/
theorem size_nonneg (x : Double) : 0 ≤ x.size :=
  div_nonneg (Nat.cast_nonneg _) (Nat.cast_nonneg _)

/-- The scale of the doubles is positive, as a rational too. -/
theorem unitsPerOne_cast_pos : (0 : ℚ) < unitsPerOne := by exact_mod_cast unitsPerOne_pos

/-- The result of an operation that is not negative has no sign. -/
theorem ofUnits_natCast (num den : ℕ) : ofUnits num den false = roundUnits false num den := by
  rw [ofUnits, Int.natAbs_natCast]
  have hsign : (if (num : ℤ) = 0 then false else decide ((num : ℤ) < 0)) = false := by simp
  rw [hsign]

/-- A double made of parts has the sign among them. -/
theorem isNegative_ofParts (negative : Bool) (mantissa unit : ℕ) :
    (ofParts negative mantissa unit).isNegative = negative := by
  unfold ofParts
  split <;> rfl

/-- Rounding keeps the sign. -/
theorem isNegative_roundUnits (negative : Bool) (num den : ℕ) :
    (roundUnits negative num den).isNegative = negative := by
  unfold roundUnits
  dsimp only
  split
  · exact isNegative_ofParts ..
  · exact isNegative_ofParts ..

/-- One is a large number of smallest positive numbers. -/
theorem two_pow_le_unitsPerOne : 2 ^ 52 * 2 ^ 100 ≤ unitsPerOne := by
  obtain ⟨one, hone, -, hpow⟩ := exists_unitsPerOne_eq
  rw [hpow, ← Nat.pow_add]
  exact Nat.pow_le_pow_right (by decide) (by omega)

/-- A ratio that is not below `2 ^ -100` is one of many smallest positive numbers. -/
theorem normal_of_le {num den : ℕ} (hlow : unitsPerOne * den ≤ num * 2 ^ 100) :
    2 ^ 52 * den ≤ num := by
  apply Nat.le_of_mul_le_mul_right _ (Nat.two_pow_pos 100)
  calc 2 ^ 52 * den * 2 ^ 100 = 2 ^ 52 * 2 ^ 100 * den := Nat.mul_right_comm ..
    _ ≤ unitsPerOne * den := Nat.mul_le_mul_right den two_pow_le_unitsPerOne
    _ ≤ num * 2 ^ 100 := hlow

/-- A ratio that is not above `2 ^ 100` does not overflow. -/
theorem roundedUnits_lt_of_le {num den : ℕ} (hden : 0 < den)
    (hhigh : num ≤ 2 ^ 100 * unitsPerOne * den) : roundedUnits num den < 2 ^ 2098 := by
  rw [show 2098 = 54 + 2044 from rfl, roundedUnits_lt_iff num hden]
  have htop := two_pow_mul_unitsPerOne
  -- The exponents are named, so that the powers are not calculated.
  generalize 2044 = top at htop ⊢
  obtain ⟨less, hless⟩ : ∃ less, less = 970 := ⟨970, rfl⟩
  rw [← hless] at htop
  have hpow : 2 ^ 100 ≤ 2 ^ less := Nat.pow_le_pow_right (by decide) (by omega)
  calc num ≤ 2 ^ 100 * unitsPerOne * den := hhigh
    _ ≤ 2 ^ less * unitsPerOne * den := Nat.mul_le_mul_right den (Nat.mul_le_mul_right _ hpow)
    _ = 2 ^ top * den := by rw [htop]
    _ < (2 ^ 54 - 1) * (2 ^ top * den) :=
        lt_mul_of_one_lt_left (Nat.mul_pos (Nat.two_pow_pos top) hden) (by decide)
    _ = (2 ^ 54 - 1) * 2 ^ top * den := (Nat.mul_assoc ..).symm

/-- A number up to `2 ^ 100` is rounded to a finite one, as far away as its count is moved. -/
theorem roundUnits_size {num den : ℕ} (hden : 0 < den) {q : ℚ}
    (hq : (num / den : ℚ) = q * unitsPerOne) (hhigh : q ≤ 2 ^ 100) :
    (roundUnits false num den).isFinite ∧ (roundUnits false num den).isNegative = false ∧
      |(roundUnits false num den).size - q| =
        |(roundedUnits num den : ℚ) - num / den| / unitsPerOne := by
  have hunits := unitsPerOne_cast_pos
  have hden' : (0 : ℚ) < den := by exact_mod_cast hden
  have hnum : (num : ℚ) = q * unitsPerOne * den := (div_eq_iff hden'.ne').mp hq
  have hfits : roundedUnits num den < 2 ^ 2098 := by
    apply roundedUnits_lt_of_le hden
    have hcount : (num : ℚ) ≤ (2 ^ 100 * unitsPerOne * den : ℕ) := by
      rw [Nat.cast_mul, Nat.cast_mul, Nat.cast_pow, Nat.cast_ofNat, hnum]
      gcongr
    exact_mod_cast hcount
  obtain ⟨hfinite, hsign, hmagnitude⟩ := roundUnits_of_lt false hden hfits
  refine ⟨hfinite, hsign, ?_⟩
  rw [hq, size, hmagnitude, ← abs_of_pos hunits, ← abs_div, abs_of_pos hunits, sub_div,
    mul_div_cancel_right₀ _ hunits.ne']

/-- A number between `2 ^ -100` and `2 ^ 100` is rounded to a finite one that is near to it. -/
theorem roundUnits_near {num den : ℕ} (hden : 0 < den) {q : ℚ}
    (hq : (num / den : ℚ) = q * unitsPerOne) (hlow : 1 / 2 ^ 100 ≤ q) (hhigh : q ≤ 2 ^ 100) :
    (roundUnits false num den).isFinite ∧ (roundUnits false num den).isNegative = false ∧
      |(roundUnits false num den).size - q| ≤ q * unitRoundoff := by
  have hunits := unitsPerOne_cast_pos
  have hden' : (0 : ℚ) < den := by exact_mod_cast hden
  have hnum : (num : ℚ) = q * unitsPerOne * den := (div_eq_iff hden'.ne').mp hq
  -- The ratio is far above the smallest doubles.
  have hnormal : 2 ^ 52 * den ≤ num := by
    apply normal_of_le
    have hcount : (unitsPerOne * den : ℚ) ≤ num * 2 ^ 100 := by
      calc (unitsPerOne * den : ℚ) = 1 / 2 ^ 100 * unitsPerOne * den * 2 ^ 100 := by field_simp
        _ ≤ q * unitsPerOne * den * 2 ^ 100 := by gcongr
        _ = num * 2 ^ 100 := by rw [hnum]
    exact_mod_cast hcount
  obtain ⟨hfinite, hsign, hmoved⟩ := roundUnits_size hden hq hhigh
  refine ⟨hfinite, hsign, ?_⟩
  have herror := abs_roundedUnits_sub_le_div hden hnormal
  rw [hq] at herror
  rw [hmoved, hq]
  -- The error in smallest positive numbers is scaled to that of the numbers.
  calc |(roundedUnits num den : ℚ) - q * unitsPerOne| / unitsPerOne
      ≤ q * unitsPerOne / 2 ^ 53 / unitsPerOne := div_le_div_of_nonneg_right herror hunits.le
    _ = q * unitRoundoff := by
        unfold unitRoundoff
        field_simp

/-- A number up to `2 ^ 100` is rounded to a finite one that is near to it, or as good as nothing
away if it is very small. -/
theorem roundUnits_close {num den : ℕ} (hden : 0 < den) {q : ℚ}
    (hq : (num / den : ℚ) = q * unitsPerOne) (hhigh : q ≤ 2 ^ 100) :
    (roundUnits false num den).isFinite ∧ (roundUnits false num den).isNegative = false ∧
      |(roundUnits false num den).size - q| ≤ q * unitRoundoff + 1 / 2 ^ 100 := by
  have hunits := unitsPerOne_cast_pos
  have hlarge : (2 ^ 52 * 2 ^ 100 : ℚ) ≤ unitsPerOne := by exact_mod_cast two_pow_le_unitsPerOne
  obtain ⟨hfinite, hsign, hmoved⟩ := roundUnits_size hden hq hhigh
  refine ⟨hfinite, hsign, ?_⟩
  have herror := abs_roundedUnits_sub_le_add num hden
  rw [hq] at herror
  rw [hmoved, hq]
  -- Half a unit is far less than the slack that is left over.
  calc |(roundedUnits num den : ℚ) - q * unitsPerOne| / unitsPerOne
      ≤ (q * unitsPerOne / 2 ^ 53 + 1 / 2) / unitsPerOne :=
        div_le_div_of_nonneg_right herror hunits.le
    _ = q * unitRoundoff + 1 / 2 / unitsPerOne := by
        unfold unitRoundoff
        field_simp
    _ ≤ q * unitRoundoff + 1 / 2 / (2 ^ 52 * 2 ^ 100) := by gcongr
    _ ≤ q * unitRoundoff + 1 / 2 ^ 100 := by
        have hsmall : (1 / 2 / (2 ^ 52 * 2 ^ 100) : ℚ) ≤ 1 / 2 ^ 100 := by norm_num
        linarith

/-- A number below a power of two is moved by at most half of what the doubles below that power are
apart. -/
theorem abs_size_ofRatio_sub_le {num den k : ℕ} (hden : 0 < den) (hlt : num < 2 ^ k * den)
    (hk : k ≤ 100) : |(ofRatio false num den).size - (num / den : ℚ)| ≤ 2 ^ k / 2 ^ 54 := by
  have hunits := unitsPerOne_cast_pos
  have hcount : ((num * unitsPerOne : ℕ) / den : ℚ) = num / den * unitsPerOne := by
    push_cast
    ring
  have hhigh : (num / den : ℚ) ≤ 2 ^ 100 := by
    rw [div_le_iff₀ (by exact_mod_cast hden)]
    exact_mod_cast hlt.le.trans
      (Nat.mul_le_mul_right den (Nat.pow_le_pow_right (by decide) hk))
  -- One is a power of two, so the power in smallest positive numbers is one as well.
  have hgap : (gap (num * unitsPerOne) den : ℚ) ≤ 2 ^ k * unitsPerOne / 2 ^ 53 := by
    obtain ⟨one, hone, -, hpow⟩ := exists_unitsPerOne_eq
    obtain ⟨e, he⟩ : ∃ e, 53 + e = k + one := ⟨k + one - 53, by omega⟩
    have hsplit : 2 ^ 53 * 2 ^ e = 2 ^ k * unitsPerOne := by
      rw [hpow, ← Nat.pow_add, he, Nat.pow_add]
    have hle : gap (num * unitsPerOne) den ≤ 2 ^ e := by
      apply gap_le_two_pow
      rw [Nat.pow_add, hsplit, Nat.mul_right_comm]
      exact Nat.mul_lt_mul_of_pos_right hlt unitsPerOne_pos
    rw [le_div_iff₀ (by positivity), mul_comm]
    exact_mod_cast (Nat.mul_le_mul_left (2 ^ 53) hle).trans_eq hsplit
  obtain ⟨-, -, hmoved⟩ := roundUnits_size hden hcount hhigh
  rw [ofRatio, hmoved]
  calc |(roundedUnits (num * unitsPerOne) den : ℚ) - (num * unitsPerOne : ℕ) / den| / unitsPerOne
      ≤ gap (num * unitsPerOne) den / 2 / unitsPerOne :=
        div_le_div_of_nonneg_right (abs_roundedUnits_sub_le _ hden) hunits.le
    _ ≤ 2 ^ k * unitsPerOne / 2 ^ 53 / 2 / unitsPerOne := by gcongr
    _ = 2 ^ k / 2 ^ 54 := by
        field_simp

/-- The exact product of two magnitudes, in smallest positive numbers. -/
theorem magnitude_mul_div (x y : Double) :
    ((x.magnitude * y.magnitude : ℕ) / unitsPerOne : ℚ) = x.size * y.size * unitsPerOne := by
  have hunits := unitsPerOne_cast_pos
  unfold size
  push_cast
  field_simp

/-- Of two ways to write a count the one with the larger unit has so large a mantissa that the other
one would have too large a one. -/
theorem unit_le_of_eq {m n u v : ℕ} (hm : m < 2 ^ 53) (hn : 2 ^ 52 ≤ n ∨ v = 0)
    (h : m * 2 ^ u = n * 2 ^ v) : v ≤ u := by
  by_contra hlt
  have hlong : 2 ^ 53 * 2 ^ u ≤ m * 2 ^ u := by
    calc 2 ^ 53 * 2 ^ u = 2 ^ 52 * 2 ^ (u + 1) := by ring
      _ ≤ n * 2 ^ v := Nat.mul_le_mul (hn.resolve_right (by omega))
          (Nat.pow_le_pow_right (by decide) (by omega))
      _ = m * 2 ^ u := h.symm
  exact not_le.mpr hm (Nat.le_of_mul_le_mul_right hlong (Nat.two_pow_pos u))

/-- A finite number is told by its sign and its magnitude. -/
theorem eq_of_magnitude {x y : Double} (hx : x.isFinite) (hy : y.isFinite)
    (hsign : x.isNegative = y.isNegative) (h : x.magnitude = y.magnitude) : x = y := by
  obtain _ | _ | ⟨s, m, u, hm, hu, hcanonical⟩ := x
  · contradiction
  · contradiction
  obtain _ | _ | ⟨t, n, v, hn, hv, hcanonical'⟩ := y
  · contradiction
  · contradiction
  obtain rfl : s = t := hsign
  replace h : m * 2 ^ u = n * 2 ^ v := h
  obtain rfl : u = v :=
    le_antisymm (unit_le_of_eq hn hcanonical h.symm) (unit_le_of_eq hm hcanonical' h)
  obtain rfl : m = n := Nat.eq_of_mul_eq_mul_right (Nat.two_pow_pos u) h
  rfl

/-! ## Numbers after some roundings -/

/-- A number that is not negative and at most `k` roundings away from an exact one. -/
structure IsNear (x : Double) (q : ℚ) (k : ℕ) : Prop where
  /-- The number is finite. -/
  isFinite : x.isFinite
  /-- The number is not negative. -/
  isNegative : x.isNegative = false
  /-- The number is near. -/
  near : |x.size - q| ≤ q * drift k

namespace IsNear

variable {x y : Double} {q r : ℚ} {k l : ℕ}

/-- A number that is not negative is the count of its magnitude. -/
theorem units?_eq (h : IsNear x q k) : x.units? = some (x.magnitude : ℤ) := by
  rw [Double.units?_eq h.isFinite, h.isNegative]
  rfl

/-- A ratio is rounded once. -/
theorem ofRatio {num den : ℕ} (hden : 0 < den) (hq : (num / den : ℚ) = q) (hlow : 1 / 2 ^ 100 ≤ q)
    (hhigh : q ≤ 2 ^ 100) : IsNear (ofRatio false num den) q 1 := by
  have hcount : ((num * unitsPerOne : ℕ) / den : ℚ) = q * unitsPerOne := by
    rw [← hq]
    push_cast
    ring
  obtain ⟨hfinite, hsign, hnear⟩ := roundUnits_near hden hcount hlow hhigh
  exact ⟨hfinite, hsign, by rwa [drift_one]⟩

/-- To round what is near to a number is one rounding more. -/
theorem roundUnits {p : ℚ} {num den : ℕ} (hden : 0 < den) (hp : (num / den : ℚ) = p * unitsPerOne)
    (hnear : |p - q| ≤ q * drift k) (hk : k ≤ 10) (hlow : 1 / 2 ^ 99 ≤ q) (hhigh : q ≤ 2 ^ 99) :
    IsNear (Double.roundUnits false num den) q (k + 1) := by
  -- What is near to the number is still far from both ends.
  obtain ⟨hbelow, habove⟩ := abs_le.mp hnear
  have hsmall : q * drift k ≤ q * (1 / 10 ^ 9) :=
    mul_le_mul_of_nonneg_left (drift_le hk) (le_trans (by positivity) hlow)
  obtain ⟨hfinite, hsign, hround⟩ := roundUnits_near hden hp (by linarith) (by linarith)
  refine ⟨hfinite, hsign, ?_⟩
  have hε := unitRoundoff_pos
  generalize (Double.roundUnits false num den).size = z at hround ⊢
  -- The last rounding and the errors before it add up.
  calc |z - q| ≤ |z - p| + |p - q| := abs_sub_le z p q
    _ ≤ p * unitRoundoff + q * drift k := add_le_add hround hnear
    _ ≤ (q + q * drift k) * unitRoundoff + q * drift k := by
        have hle : p ≤ q + q * drift k := by linarith
        gcongr
    _ = q * drift (k + 1) := by
        rw [drift_add k 1, drift_one]
        ring

/-- The product of numbers without a sign is that of their magnitudes, rounded. -/
theorem mul_eq (hx : IsNear x q k) (hy : IsNear y r l) :
    x * y = Double.roundUnits false (x.magnitude * y.magnitude) unitsPerOne := by
  rw [mul_eq_ofUnits hx.units?_eq hy.units?_eq, hx.isNegative, hy.isNegative, ← Nat.cast_mul]
  exact ofUnits_natCast _ _

/-- A product of numbers that are near is rounded once more. -/
theorem mul (hx : IsNear x q k) (hy : IsNear y r l) (hq : 0 ≤ q) (hr : 0 ≤ r) (hkl : k + l ≤ 10)
    (hlow : 1 / 2 ^ 99 ≤ q * r) (hhigh : q * r ≤ 2 ^ 99) : IsNear (x * y) (q * r) (k + l + 1) := by
  rw [hx.mul_eq hy]
  apply IsNear.roundUnits unitsPerOne_pos (magnitude_mul_div x y) _ hkl hlow hhigh
  exact abs_mul_sub_mul_le hq hr hx.near hy.near

/-- Every finite number without a sign is near to itself. -/
theorem of_isFinite (hfinite : x.isFinite) (hsign : x.isNegative = false) : IsNear x x.size 0 where
  isFinite := hfinite
  isNegative := hsign
  near := by
    rw [drift, pow_zero, sub_self, sub_self, abs_zero, mul_zero]

/-- A number near to something is itself without any rounding. -/
theorem self (hx : IsNear x q k) : IsNear x x.size 0 := of_isFinite hx.isFinite hx.isNegative

/-- Without any rounding the number is the exact one. -/
theorem size_eq (hx : IsNear x q 0) : x.size = q := by
  have hnear := hx.near
  rw [drift, pow_zero, sub_self, mul_zero] at hnear
  linarith [abs_nonpos_iff.mp hnear]

/-- A count that is not negative is an exact number without a sign. -/
theorem of_units? {a : ℕ} (h : x.units? = some (a : ℤ)) (hsign : x.isNegative = false) :
    IsNear x (a / unitsPerOne) 0 := by
  have hfinite := isFinite_of_units? h
  have hsize : x.size = a / unitsPerOne := by
    rw [Double.units?_eq hfinite, hsign, if_neg (by simp), Option.some.injEq, Nat.cast_inj] at h
    rw [size, h]
  rw [← hsize]
  exact of_isFinite hfinite hsign

/-- A positive integer has no sign. -/
theorem of_isInteger {n : ℕ} (hx : IsInteger x n) (hpos : 0 < n) : IsNear x n 0 := by
  have hunits := unitsPerOne_cast_pos
  have hcount : (0 : ℤ) < n * unitsPerOne :=
    mul_pos (by exact_mod_cast hpos) (by exact_mod_cast unitsPerOne_pos)
  rw [IsInteger] at hx
  have hsign : x.isNegative = false := by
    by_contra hneg
    rw [Bool.not_eq_false] at hneg
    rw [Double.units?_eq (isFinite_of_units? hx), if_pos hneg, Option.some.injEq] at hx
    omega
  have hexact := of_units? (a := n * unitsPerOne) (by rw [hx, Nat.cast_mul]) hsign
  rwa [Nat.cast_mul, mul_div_cancel_right₀ _ hunits.ne'] at hexact

/-- An integer is taken off a number that is not smaller without rounding. -/
theorem sub_natural {n : ℕ} (hx : IsNear x q 0) (hy : IsInteger y n) (hle : n ≤ q)
    (hlt : q ≤ 2 ^ 53) : IsNear (x - y) (q - n) 0 := by
  have hunits := unitsPerOne_cast_pos
  rw [IsInteger, ← Nat.cast_mul] at hy
  have hq : (x.magnitude : ℚ) = q * unitsPerOne := (div_eq_iff hunits.ne').mp hx.size_eq
  -- Both numbers are whole multiples of the unit, and so is their difference, which is why nothing
  -- is rounded.
  have hless : n * unitsPerOne ≤ x.magnitude := by
    have hcast : (n * unitsPerOne : ℚ) ≤ x.magnitude := by
      rw [hq]
      gcongr
    exact_mod_cast hcast
  have hmost : x.magnitude ≤ 2 ^ 53 * unitsPerOne := by
    have hcast : (x.magnitude : ℚ) ≤ 2 ^ 53 * unitsPerOne := by
      rw [hq]
      gcongr
    exact_mod_cast hcast
  have hdiff : (x.magnitude - (n * unitsPerOne : ℕ) : ℤ) = (x.magnitude - n * unitsPerOne : ℕ) :=
    (Nat.cast_sub hless).symm
  have hheld := (isHeld_of_units? hx.units?_eq).sub_mul_unitsPerOne hmost n
  have hcount : (x - y).units? = some ((x.magnitude - n * unitsPerOne : ℕ) : ℤ) := by
    rw [← hdiff] at hheld ⊢
    exact units?_sub hx.units?_eq hy hheld
  have hsign : (x - y).isNegative = false := by
    change (x + -y).isNegative = false
    rw [add_eq_ofUnits hx.units?_eq (units?_neg hy), hx.isNegative, Bool.false_and,
      ← sub_eq_add_neg, hdiff, ofUnits_natCast, isNegative_roundUnits]
  have hexact := of_units? hcount hsign
  rwa [Nat.cast_sub hless, hq, Nat.cast_mul, ← sub_mul, mul_div_cancel_right₀ _ hunits.ne']
    at hexact

/-- After fewer roundings a number is nearer. -/
theorem mono (hx : IsNear x q k) (hq : 0 ≤ q) (h : k ≤ l) : IsNear x q l :=
  ⟨hx.isFinite, hx.isNegative, hx.near.trans (mul_le_mul_of_nonneg_left (drift_mono h) hq)⟩

/-- A sum of numbers that are near is rounded once more. -/
theorem add (hx : IsNear x q k) (hy : IsNear y r k) (hk : k ≤ 10) (hlow : 1 / 2 ^ 99 ≤ q + r)
    (hhigh : q + r ≤ 2 ^ 99) : IsNear (x + y) (q + r) (k + 1) := by
  have hunits := unitsPerOne_cast_pos
  have hadd : x + y = Double.roundUnits false (x.magnitude + y.magnitude) 1 := by
    rw [add_eq_ofUnits hx.units?_eq hy.units?_eq, hx.isNegative, Bool.false_and, ← Nat.cast_add,
      ofUnits_natCast]
  have hcount : ((x.magnitude + y.magnitude : ℕ) / (1 : ℕ) : ℚ) =
      (x.size + y.size) * unitsPerOne := by
    unfold size
    push_cast
    field_simp
  -- The exact sum of the rounded terms is as near to the exact one as they are.
  have hsum : |x.size + y.size - (q + r)| ≤ (q + r) * drift k := by
    calc |x.size + y.size - (q + r)| = |(x.size - q) + (y.size - r)| := by ring_nf
      _ ≤ |x.size - q| + |y.size - r| := abs_add_le _ _
      _ ≤ q * drift k + r * drift k := add_le_add hx.near hy.near
      _ = (q + r) * drift k := by ring
  rw [hadd]
  exact IsNear.roundUnits Nat.one_pos hcount hsum hk hlow hhigh

/-- Two numbers without a sign that are exactly the same number. -/
theorem eq (hx : IsNear x q 0) (hy : IsNear y q 0) : x = y := by
  apply eq_of_magnitude hx.isFinite hy.isFinite (hx.isNegative.trans hy.isNegative.symm)
  have hsize : x.size = y.size := hx.size_eq.trans hy.size_eq.symm
  rw [size, size, div_left_inj' unitsPerOne_cast_pos.ne'] at hsize
  exact_mod_cast hsize

/-- A number is its own nearest one. -/
theorem roundUnits_magnitude (hx : IsNear x q k) {den : ℕ} (hden : 0 < den) :
    Double.roundUnits false (x.magnitude * den) den = x := by
  obtain ⟨mantissa, unit, hmantissa, hunit, hcount⟩ := isHeld_of_units? hx.units?_eq
  rw [Int.natAbs_natCast] at hcount
  -- A count that a double has is not moved.
  have hrounded : roundedUnits (x.magnitude * den) den = x.magnitude := by
    rw [hcount]
    exact roundedUnits_mul hden hmantissa
  have hlt : roundedUnits (x.magnitude * den) den < 2 ^ 2098 := by
    rw [hrounded, hcount, show 2098 = 53 + 2045 from rfl]
    exact mul_two_pow_lt hmantissa hunit
  obtain ⟨hfinite, hsign, hmagnitude⟩ := roundUnits_of_lt false hden hlt
  exact eq_of_magnitude hfinite hx.isFinite (hsign.trans hx.isNegative.symm)
    (hmagnitude.trans hrounded)

/-- Adding a number to zero does not change it. -/
theorem zero_add (hx : IsNear x q k) : Double.ofInt 0 + x = x := by
  have hzero : (Double.ofInt 0).units? = some 0 := by
    have hinteger : IsInteger (Double.ofInt 0) 0 := .ofInt (by decide)
    rwa [IsInteger, zero_mul] at hinteger
  have hround := hx.roundUnits_magnitude Nat.one_pos
  rw [Nat.mul_one] at hround
  rw [add_eq_ofUnits hzero hx.units?_eq, hx.isNegative, Bool.and_false, Int.zero_add,
    ofUnits_natCast, hround]

/-- A product of exact numbers is rounded once; it may be very small. -/
theorem mul_close (hx : IsNear x q 0) (hy : IsNear y r 0) (hhigh : q * r ≤ 2 ^ 100) :
    (x * y).isFinite ∧ (x * y).isNegative = false ∧
      |(x * y).size - q * r| ≤ q * r * unitRoundoff + 1 / 2 ^ 100 := by
  have hcount := magnitude_mul_div x y
  rw [hx.size_eq, hy.size_eq] at hcount
  rw [hx.mul_eq hy]
  exact roundUnits_close unitsPerOne_pos hcount hhigh

/-- The whole part of an exact number is the quotient of its magnitude. -/
theorem floor_eq (hx : IsNear x q 0) : ⌊q⌋₊ = x.magnitude / unitsPerOne := by
  rw [← hx.size_eq, size, Nat.floor_div_eq_div]

/-- The integer part is the greatest natural number that is not larger. -/
theorem trunc? (hx : IsNear x q 0) : x.trunc? = some (⌊q⌋₊ : ℤ) := by
  rw [Double.trunc?, hx.units?_eq, Option.map_some, ← Int.ofNat_tdiv, hx.floor_eq]

/-- The part after the point is exact. -/
theorem fract (hx : IsNear x q 0) : IsNear x.fract (q - ⌊q⌋₊) 0 := by
  have hunits := unitsPerOne_cast_pos
  have hcount := Double.units?_fract hx.units?_eq
  rw [← Int.ofNat_tmod] at hcount
  have hsign : x.fract.isNegative = false := by
    unfold Double.fract
    rw [hx.units?_eq]
    dsimp only
    rw [← Int.ofNat_tmod, hx.isNegative, ofUnits_natCast, isNegative_roundUnits]
  -- The fraction is the remainder of the units.
  have hrest : q - ⌊q⌋₊ = (x.magnitude % unitsPerOne : ℕ) / unitsPerOne := by
    have hdiv : ((x.magnitude / unitsPerOne * unitsPerOne + x.magnitude % unitsPerOne : ℕ) : ℚ) =
        x.magnitude := congrArg Nat.cast (Nat.div_add_mod' _ _)
    rw [hx.floor_eq, ← hx.size_eq, size, eq_div_iff hunits.ne', sub_mul,
      div_mul_cancel₀ _ hunits.ne', ← hdiv]
    push_cast
    ring
  rw [hrest]
  exact of_units? hcount hsign

/-- A number less than a half away from a natural number is rounded to it. -/
theorem roundEven? {n : ℕ} (hx : IsNear x q 0) (hnear : |q - n| < 1 / 2) :
    x.roundEven? = some (n : ℤ) := by
  have hround : roundDiv x.magnitude unitsPerOne = n := by
    apply roundDiv_eq_of_near unitsPerOne_pos
    rwa [abs_sub_comm, ← size, hx.size_eq]
  rw [Double.roundEven?, hx.units?_eq, Option.map_some, roundDivInt, if_neg (by simp),
    Int.natAbs_natCast, hround]

end IsNear

/-! ## Natural numbers -/

/-- The number is exactly a natural number, and has no sign. -/
structure IsNatural (x : Double) (n : ℕ) : Prop where
  /-- The number is exactly the natural number. -/
  isInteger : IsInteger x n
  /-- The number has no sign. -/
  isNegative : x.isNegative = false

namespace IsNatural

variable {x y : Double} {m n : ℕ}

/-- Zero without a sign is the natural number zero. -/
protected theorem zero : IsNatural (.zero false) 0 where
  isInteger := by
    rw [IsInteger, Nat.cast_zero, zero_mul]
    rfl
  isNegative := rfl

/-- A ratio that is a natural number of at most 53 binary digits. -/
theorem ofRatio {den : ℕ} (hden : 0 < den) (hn : n < 2 ^ 53) :
    IsNatural (Double.ofRatio false (n * den) den) n where
  isInteger := by
    have hexact := IsInteger.ofRatio (show (n : ℤ).natAbs ≤ 2 ^ 53 by omega) hden
    have hsign : ¬(n : ℤ) * den < 0 := by exact_mod_cast Nat.not_lt_zero _
    rwa [decide_eq_false hsign, ← Int.natCast_mul, Int.natAbs_natCast] at hexact
  isNegative := isNegative_roundUnits ..

/-- A natural number of at most 53 binary digits is its own nearest double. -/
theorem ofInt (hn : n < 2 ^ 53) : IsNatural (Double.ofInt n) n where
  isInteger := .ofInt (by omega)
  isNegative := by
    have hsign : decide ((n : ℤ) < 0) = false := by simp
    rw [Double.ofInt, Double.ofRatio, isNegative_roundUnits, hsign]

/-- A natural number is finite. -/
theorem isFinite (hx : IsNatural x n) : x.isFinite := isFinite_of_units? hx.isInteger

/-- The magnitude of a natural number is the number on the scale of the doubles. -/
theorem magnitude (hx : IsNatural x n) : x.magnitude = n * unitsPerOne := by
  have hunits := Double.units?_eq hx.isFinite
  rw [hx.isNegative, if_neg (by simp), hx.isInteger, Option.some.injEq] at hunits
  exact_mod_cast hunits.symm

/-- An exact number that is a natural number. -/
theorem of_isNear (hx : IsNear x n 0) : IsNatural x n where
  isInteger := by
    have hcount : (x.magnitude : ℚ) = (n * unitsPerOne : ℕ) := by
      rw [Nat.cast_mul]
      exact (div_eq_iff unitsPerOne_cast_pos.ne').mp hx.size_eq
    have hmagnitude : x.magnitude = n * unitsPerOne := by exact_mod_cast hcount
    rw [IsInteger, hx.units?_eq, hmagnitude, Nat.cast_mul]
  isNegative := hx.isNegative

/-- A natural number is as near to itself as can be. -/
theorem isNear (hx : IsNatural x n) : IsNear x n 0 where
  isFinite := hx.isFinite
  isNegative := hx.isNegative
  near := by
    have hsize : x.size = n := by
      rw [size, hx.magnitude, Nat.cast_mul, mul_div_cancel_right₀ _ unitsPerOne_cast_pos.ne']
    rw [hsize, sub_self, abs_zero]
    exact mul_nonneg (Nat.cast_nonneg n) (drift_nonneg 0)

end IsNatural

/-- Multiplying a number by one does not change it. -/
theorem IsNear.mul_one {x : Double} {q : ℚ} {k : ℕ} (hx : IsNear x q k) :
    x * Double.ofInt 1 = x := by
  have hone : IsNatural (Double.ofInt 1) 1 := .ofInt (by decide)
  rw [hx.mul_eq hone.isNear, hone.magnitude, one_mul]
  exact hx.roundUnits_magnitude unitsPerOne_pos

end Vigil.Double
