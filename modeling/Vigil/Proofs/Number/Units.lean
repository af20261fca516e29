import Vigil.Proofs.Number.Rounding

/-!
# Exact values of doubles

A finite double is a count of smallest positive numbers (`Double.units?`). The counts that doubles
hold are those of at most 53 binary digits with zeros after them (`Double.IsHeld`), and an
operation whose exact result is such a count gives it (`units?_ofUnits_mul`). In particular the
calculation with integers of at most 53 binary digits is exact (`Double.IsInteger`).
-/

namespace Vigil.Double

variable {x y : Double} {a b : ℤ}

/-- The count of a finite number, from its sign and its magnitude. -/
theorem units?_eq (h : x.isFinite) :
    x.units? = some (if x.isNegative then -(x.magnitude : ℤ) else x.magnitude) := by
  cases x with
  | finite => rfl
  | _ => contradiction

/-- An operation gives its exact result, rounded, with its sign. -/
theorem units?_ofUnits (num : ℤ) {den : ℕ} (negative : Bool) (h : 0 < den)
    (hlt : roundedUnits num.natAbs den < 2 ^ 2098) :
    (ofUnits num den negative).units? = some (num.sign * roundedUnits num.natAbs den) := by
  obtain ⟨hfinite, hnegative, hmagnitude⟩ :=
    roundUnits_of_lt (if num = 0 then negative else num < 0) h hlt
  rw [ofUnits, units?_eq hfinite, hnegative, hmagnitude]
  -- Only for nothing the sign of the operation comes in, and there it does not count.
  rcases lt_trichotomy num 0 with hnum | rfl | hnum
  · simp [hnum, hnum.ne, Int.sign_eq_neg_one_of_neg hnum]
  · have hzero : roundedUnits (Int.natAbs 0) den = 0 := by
      simpa using @roundedUnits_mul 0 0 den h (by decide)
    rw [hzero]
    simp
  · simp [hnum.ne', not_lt.mpr hnum.le, Int.sign_eq_one_of_pos hnum]

/-! ## Counts that doubles hold -/

/-- Some double has this count of smallest positive numbers. -/
def IsHeld (count : ℤ) : Prop :=
  ∃ mantissa unit, mantissa < 2 ^ 53 ∧ unit ≤ 2045 ∧ count.natAbs = mantissa * 2 ^ unit

/-- The magnitude of a double, from its count. -/
theorem natAbs_of_units? (hx : x.units? = some a) : a.natAbs = x.magnitude := by
  cases x with
  | finite negative =>
    cases hx
    cases negative
    · exact Int.natAbs_natCast _
    · exact (Int.natAbs_neg _).trans (Int.natAbs_natCast _)
  | _ => contradiction

/-- The count of a double is held by it. -/
theorem isHeld_of_units? (h : x.units? = some a) : IsHeld a := by
  cases x with
  | finite negative mantissa unit canonical =>
    exact ⟨mantissa, unit, canonical.1, canonical.2.1, natAbs_of_units? h⟩
  | _ => contradiction

/-- One is a power of two of smallest positive numbers, with an exponent among those of doubles. -/
theorem exists_unitsPerOne_eq : ∃ one, 1022 ≤ one ∧ one < 2045 ∧ unitsPerOne = 2 ^ one := by
  -- The exponent is named, so that the power is never calculated.
  obtain ⟨one, hone⟩ : ∃ one, one = 1074 := ⟨1074, rfl⟩
  refine ⟨one, by omega, by omega, ?_⟩
  rw [unitsPerOne, ← hone]

/-- How far one is below the largest doubles. -/
theorem two_pow_mul_unitsPerOne : 2 ^ 970 * unitsPerOne = 2 ^ 2044 := by
  obtain ⟨one, hone⟩ : ∃ one, one = 1074 := ⟨1074, rfl⟩
  obtain ⟨top, htop⟩ : ∃ top, top = 970 := ⟨970, rfl⟩
  rw [unitsPerOne, ← hone, show 2044 = top + one by omega, ← htop, Nat.pow_add]

attribute [local irreducible] unitsPerOne

/-- The scale of the doubles is positive. -/
theorem unitsPerOne_pos : 0 < unitsPerOne := by
  obtain ⟨one, -, -, hunits⟩ := exists_unitsPerOne_eq
  rw [hunits]
  exact Nat.two_pow_pos one

/-- An integer of at most 53 binary digits is held, and so is the first one of 54. -/
theorem isHeld_mul_unitsPerOne {n : ℤ} (h : n.natAbs ≤ 2 ^ 53) : IsHeld (n * unitsPerOne) := by
  obtain ⟨one, -, hone, hunits⟩ := exists_unitsPerOne_eq
  have hcount : (n * unitsPerOne).natAbs = n.natAbs * 2 ^ one := by
    rw [Int.natAbs_mul, Int.natAbs_natCast, hunits]
  rcases h.lt_or_eq with hlt | heq
  · exact ⟨n.natAbs, one, hlt, hone.le, hcount⟩
  · -- A power of two needs no more than one digit, with a larger unit.
    refine ⟨2 ^ 52, one + 1, by decide, hone, ?_⟩
    rw [hcount, heq, ← Nat.pow_add, ← Nat.pow_add, show 52 + (one + 1) = 53 + one by omega]

/-- What is left of a held count when the whole ones are taken off is held. -/
theorem IsHeld.tmod (h : IsHeld a) : IsHeld (a.tmod unitsPerOne) := by
  obtain ⟨mantissa, unit, hmantissa, hunit, ha⟩ := h
  obtain ⟨one, -, -, hunits⟩ := exists_unitsPerOne_eq
  have hmod : (a.tmod unitsPerOne).natAbs = mantissa * 2 ^ unit % 2 ^ one := by
    rw [Int.natAbs_tmod, ha, Int.natAbs_natCast, hunits]
  rcases Nat.le_total unit one with hle | hle
  · -- The unit is a part of one: the binary digits before the point are cut off.
    refine ⟨mantissa % 2 ^ (one - unit), unit, (Nat.mod_le _ _).trans_lt hmantissa, hunit, ?_⟩
    rw [hmod, ← Nat.mul_mod_mul_right, ← Nat.pow_add, Nat.sub_add_cancel hle]
  · -- The unit is a multiple of one: nothing is left.
    refine ⟨0, 0, by decide, by decide, ?_⟩
    obtain ⟨more, rfl⟩ := Nat.exists_eq_add_of_le hle
    rw [hmod, Nat.pow_add, Nat.mul_left_comm, Nat.mul_mod_right, Nat.zero_mul]

/-- A number that needs more binary digits before the point than it has is whole. -/
theorem IsHeld.tmod_eq_zero (h : IsHeld a) (hlarge : 2 ^ 53 * unitsPerOne ≤ a.natAbs) :
    a.tmod unitsPerOne = 0 := by
  obtain ⟨mantissa, unit, hmantissa, -, ha⟩ := h
  obtain ⟨one, -, -, hunits⟩ := exists_unitsPerOne_eq
  rw [hunits] at hlarge
  -- A mantissa of 53 binary digits needs a unit above one to come this far.
  have hcount : 2 ^ 53 * 2 ^ one < 2 ^ 53 * 2 ^ unit := by
    calc 2 ^ 53 * 2 ^ one ≤ a.natAbs := hlarge
      _ = mantissa * 2 ^ unit := ha
      _ < 2 ^ 53 * 2 ^ unit := Nat.mul_lt_mul_of_pos_right hmantissa (Nat.two_pow_pos unit)
  have hlt : one < unit :=
    (Nat.pow_lt_pow_iff_right (by decide)).mp (Nat.lt_of_mul_lt_mul_left hcount)
  have hle : one ≤ unit := hlt.le
  obtain ⟨more, rfl⟩ := Nat.exists_eq_add_of_le hle
  apply Int.natAbs_eq_zero.mp
  rw [Int.natAbs_tmod, ha, Int.natAbs_natCast, hunits, Nat.pow_add, Nat.mul_left_comm,
    Nat.mul_mod_right]

/-- What is left of a number when an integer is taken off is held. -/
theorem IsHeld.sub_mul_unitsPerOne {a : ℕ} (h : IsHeld a) (hlt : a ≤ 2 ^ 53 * unitsPerOne)
    (b : ℕ) : IsHeld (a - b * unitsPerOne : ℕ) := by
  obtain ⟨mantissa, unit, hmantissa, hunit, ha⟩ := h
  obtain ⟨one, -, -, hunits⟩ := exists_unitsPerOne_eq
  rw [Int.natAbs_natCast] at ha
  rcases Nat.le_total unit one with hunder | hover
  · -- The integer is a multiple of the unit.
    refine ⟨mantissa - b * 2 ^ (one - unit), unit, (Nat.sub_le _ _).trans_lt hmantissa, hunit, ?_⟩
    rw [Int.natAbs_natCast, ha, hunits, Nat.sub_mul, Nat.mul_assoc, ← Nat.pow_add,
      Nat.sub_add_cancel hunder]
  · -- The number is an integer itself.
    obtain ⟨more, rfl⟩ := Nat.exists_eq_add_of_le hover
    have hwhole : a = mantissa * 2 ^ more * unitsPerOne := by
      rw [ha, hunits, Nat.pow_add]
      ring
    rw [hwhole] at hlt ⊢
    have hmost := Nat.le_of_mul_le_mul_right hlt unitsPerOne_pos
    rw [← Nat.sub_mul, Nat.cast_mul]
    exact isHeld_mul_unitsPerOne (by omega)

/-- The largest count with a mantissa of 53 binary digits. -/
theorem mul_two_pow_lt {mantissa unit top : ℕ} (h : mantissa < 2 ^ 53) (hunit : unit ≤ top) :
    mantissa * 2 ^ unit < 2 ^ (53 + top) := by
  calc mantissa * 2 ^ unit < 2 ^ 53 * 2 ^ unit :=
        Nat.mul_lt_mul_of_pos_right h (Nat.two_pow_pos unit)
    _ = 2 ^ (53 + unit) := (Nat.pow_add ..).symm
    _ ≤ 2 ^ (53 + top) := Nat.pow_le_pow_right (by decide) (by omega)

/-- An operation gives a result that a double holds exactly. -/
theorem units?_ofUnits_mul (h : IsHeld a) {den : ℕ} (negative : Bool) (hden : 0 < den) :
    (ofUnits (a * den) den negative).units? = some a := by
  obtain ⟨mantissa, unit, hmantissa, hunit, ha⟩ := h
  have hrounded : roundedUnits (a * den).natAbs den = a.natAbs := by
    rw [Int.natAbs_mul, Int.natAbs_natCast, ha]
    exact roundedUnits_mul hden hmantissa
  have hlt : roundedUnits (a * den).natAbs den < 2 ^ 2098 := by
    rw [hrounded, ha, show 2098 = 53 + 2045 from rfl]
    exact mul_two_pow_lt hmantissa hunit
  rw [units?_ofUnits _ negative hden hlt, hrounded, Int.sign_mul,
    Int.sign_natCast_of_ne_zero hden.ne', mul_one, Int.sign_mul_natAbs]

/-! ## Operations with exact results -/

/-- A number with a count is finite. -/
theorem isFinite_of_units? (h : x.units? = some a) : x.isFinite := by
  cases x with
  | finite => rfl
  | _ => contradiction

/-- The sum of finite numbers is that of their counts, rounded. -/
theorem add_eq_ofUnits (hx : x.units? = some a) (hy : y.units? = some b) :
    x + y = ofUnits (a + b) 1 (x.isNegative && y.isNegative) := by
  cases x <;> cases y <;> try contradiction
  change add _ _ = _
  unfold add
  simp only [hx, hy]
  rfl

/-- A sum that a double holds is exact. -/
theorem units?_add (hx : x.units? = some a) (hy : y.units? = some b) (h : IsHeld (a + b)) :
    (x + y).units? = some (a + b) := by
  rw [add_eq_ofUnits hx hy]
  simpa using units?_ofUnits_mul h (x.isNegative && y.isNegative) Nat.one_pos

/-- The number with the opposite sign has the opposite count. -/
theorem units?_neg (hx : x.units? = some a) : (-x).units? = some (-a) := by
  cases x with
  | finite negative =>
    cases hx
    change units? (neg _) = _
    cases negative <;> simp [neg, units?]
  | _ => contradiction

/-- Negation turns the sign and keeps the other parts. -/
theorem neg_ofParts (negative : Bool) (mantissa unit : ℕ) :
    -ofParts negative mantissa unit = ofParts (!negative) mantissa unit := by
  change neg _ = _
  unfold ofParts
  split <;> rfl

/-- A ratio with the opposite sign is rounded to the opposite number. -/
theorem neg_ofRatio (negative : Bool) (num den : ℕ) :
    -ofRatio negative num den = ofRatio (!negative) num den := by
  unfold ofRatio roundUnits
  dsimp only
  split
  · exact neg_ofParts ..
  · exact neg_ofParts ..

/-- A difference that a double holds is exact. -/
theorem units?_sub (hx : x.units? = some a) (hy : y.units? = some b) (h : IsHeld (a - b)) :
    (x - y).units? = some (a - b) := units?_add hx (units?_neg hy) h

/-- The product of finite numbers is that of their counts, rounded. -/
theorem mul_eq_ofUnits (hx : x.units? = some a) (hy : y.units? = some b) :
    x * y = ofUnits (a * b) unitsPerOne (x.isNegative != y.isNegative) := by
  change mul _ _ = _
  unfold mul
  simp only [hx, hy]

/-- A product with nothing is nothing. -/
theorem units?_mul_of_eq_zero (hx : x.units? = some a) (hy : y.units? = some b) (h : a * b = 0) :
    (x * y).units? = some 0 := by
  rw [mul_eq_ofUnits hx hy, h]
  have hnothing : IsHeld (0 * unitsPerOne) := isHeld_mul_unitsPerOne (n := 0) (by decide)
  simpa using units?_ofUnits_mul hnothing (x.isNegative != y.isNegative) unitsPerOne_pos

/-- Nothing is the nearest integer to itself. -/
theorem roundEven?_of_units?_zero (hx : x.units? = some 0) : x.roundEven? = some 0 := by
  have hround : roundDiv 0 unitsPerOne = 0 :=
    Nat.le_zero.mp (roundDiv_le unitsPerOne_pos (Nat.zero_le _))
  rw [roundEven?, hx, Option.map_some, roundDivInt, if_neg (by simp), Int.natAbs_zero, hround]
  rfl

/-- The part of a number after the point is exact. -/
theorem units?_fract (hx : x.units? = some a) : x.fract.units? = some (a.tmod unitsPerOne) := by
  unfold fract
  simp only [hx]
  simpa using units?_ofUnits_mul (isHeld_of_units? hx).tmod x.isNegative Nat.one_pos

/-- The double nearest to a quotient is that of its count, rounded. -/
theorem ofRatio_eq_ofUnits (n : ℤ) (den : ℕ) :
    ofRatio (n < 0) n.natAbs den = ofUnits (n * unitsPerOne) den false := by
  have hpos : (0 : ℤ) < unitsPerOne := by exact_mod_cast unitsPerOne_pos
  have hsign : decide (n < 0) =
      if n * unitsPerOne = 0 then false else decide (n * unitsPerOne < 0) := by
    rcases lt_trichotomy n 0 with hn | rfl | hn
    · have hneg : n * unitsPerOne < 0 := mul_neg_of_neg_of_pos hn hpos
      simp [hn, hneg, hneg.ne]
    · simp
    · have hprod : 0 < n * unitsPerOne := mul_pos hn hpos
      simp [not_lt.mpr hn.le, not_lt.mpr hprod.le, hprod.ne']
  rw [ofRatio, ofUnits, ← hsign, Int.natAbs_mul, Int.natAbs_natCast]

/-- The count of a result is below a power of two if the exact result is, by more than half a gap.
-/
theorem natAbs_lt_of_units?_ofUnits {num : ℤ} {den : ℕ} {negative : Bool} (h : 0 < den)
    (hx : (ofUnits num den negative).units? = some a) {top : ℕ}
    (hlt : num.natAbs < (2 ^ 54 - 1) * 2 ^ top * den) : a.natAbs < 2 ^ (54 + top) := by
  have hrounded := (roundedUnits_lt_iff num.natAbs h top).mpr hlt
  -- The result has a count, so it did not overflow.
  have hfits : roundedUnits num.natAbs den < 2 ^ 2098 := by
    by_contra hlarge
    rw [ofUnits, roundUnits_of_le _ h (not_lt.mp hlarge)] at hx
    contradiction
  rw [units?_ofUnits num negative h hfits, Option.some.injEq] at hx
  rw [← hx, Int.natAbs_mul, Int.natAbs_natCast]
  have hsign : num.sign.natAbs ≤ 1 := by
    rcases Int.sign_trichotomy num with hsign | hsign | hsign <;> simp [hsign]
  calc num.sign.natAbs * roundedUnits num.natAbs den ≤ 1 * roundedUnits num.natAbs den :=
        Nat.mul_le_mul_right _ hsign
    _ = roundedUnits num.natAbs den := Nat.one_mul _
    _ < 2 ^ (54 + top) := hrounded

/-! ## Integers -/

/-- The number is exactly an integer. -/
def IsInteger (x : Double) (n : ℤ) : Prop := x.units? = some (n * unitsPerOne)

namespace IsInteger

variable {m n : ℤ}

/-- A quotient that comes out at an integer is exact. -/
theorem ofRatio (h : n.natAbs ≤ 2 ^ 53) {den : ℕ} (hden : 0 < den) :
    IsInteger (Double.ofRatio (n * den < 0) (n * den).natAbs den) n := by
  rw [IsInteger, ofRatio_eq_ofUnits, mul_right_comm]
  exact units?_ofUnits_mul (isHeld_mul_unitsPerOne h) false hden

/-- An integer of at most 53 binary digits is its own nearest double. -/
theorem ofInt (h : n.natAbs ≤ 2 ^ 53) : IsInteger (Double.ofInt n) n := by
  simpa [Double.ofInt] using ofRatio h Nat.one_pos

/-- The sum of integers is exact up to `2 ^ 53`. -/
theorem add (hx : IsInteger x m) (hy : IsInteger y n) (h : (m + n).natAbs ≤ 2 ^ 53) :
    IsInteger (x + y) (m + n) := by
  have hsum : m * unitsPerOne + n * unitsPerOne = (m + n) * unitsPerOne := (add_mul ..).symm
  rw [IsInteger, ← hsum]
  apply units?_add hx hy
  rw [hsum]
  exact isHeld_mul_unitsPerOne h

/-- The product of integers is exact up to `2 ^ 53`. -/
theorem mul (hx : IsInteger x m) (hy : IsInteger y n) (h : (m * n).natAbs ≤ 2 ^ 53) :
    IsInteger (x * y) (m * n) := by
  have hprod : m * unitsPerOne * (n * unitsPerOne) = m * n * unitsPerOne * unitsPerOne := by ring
  rw [IsInteger, mul_eq_ofUnits hx hy, hprod]
  exact units?_ofUnits_mul (isHeld_mul_unitsPerOne h) _ unitsPerOne_pos

/-- The integer part of an integer is the integer. -/
theorem trunc? (hx : IsInteger x n) : x.trunc? = some n := by
  have hpos : (unitsPerOne : ℤ) ≠ 0 := by exact_mod_cast unitsPerOne_pos.ne'
  rw [Double.trunc?, hx, Option.map_some, Int.mul_tdiv_cancel n hpos]

/-- An integer is the nearest one to itself. -/
theorem roundEven? (hx : IsInteger x n) : x.roundEven? = some n := by
  have hround (count : ℕ) : roundDiv (count * unitsPerOne) unitsPerOne = count :=
    roundDiv_mul_left count unitsPerOne_pos
  have hcount : (n * unitsPerOne).natAbs = n.natAbs * unitsPerOne := by
    rw [Int.natAbs_mul, Int.natAbs_natCast]
  have hsign : n * unitsPerOne < 0 ↔ n < 0 := by
    have hpos : (0 : ℤ) < unitsPerOne := by exact_mod_cast unitsPerOne_pos
    rw [mul_neg_iff]
    omega
  rw [Double.roundEven?, hx, Option.map_some, roundDivInt, hcount, hround]
  simp only [hsign, Option.some.injEq]
  split <;> omega

/-- Nothing is left of an integer without its integer part. -/
theorem units?_fract (hx : IsInteger x n) : x.fract.units? = some 0 := by
  rw [Double.units?_fract hx, Int.mul_tmod_left]

end IsInteger

/-- The double of an integer of more than 53 binary digits has as many. -/
theorem le_magnitude_ofInt {n : ℤ} (h : (ofInt n).isFinite) (hlarge : 2 ^ 53 < n.natAbs) :
    2 ^ 53 * unitsPerOne ≤ (ofInt n).magnitude := by
  obtain ⟨one, hone, -, hunits⟩ := exists_unitsPerOne_eq
  obtain ⟨top, rfl⟩ : ∃ top, one = top + 1 := ⟨one - 1, by omega⟩
  have hle : (2 ^ 54 - 1) * 2 ^ top * 1 ≤ n.natAbs * 2 ^ (top + 1) := by
    rw [Nat.mul_one, show 2 ^ (top + 1) = 2 * 2 ^ top from Nat.pow_succ', ← Nat.mul_assoc]
    exact Nat.mul_le_mul_right _ (by omega)
  have hrounded : 2 ^ (54 + top) ≤ roundedUnits (n.natAbs * 2 ^ (top + 1)) 1 := by
    rw [← not_lt, roundedUnits_lt_iff _ Nat.one_pos]
    exact not_lt.mpr hle
  have hmagnitude : (ofInt n).magnitude = roundedUnits (n.natAbs * unitsPerOne) 1 :=
    (roundUnits_of_lt _ Nat.one_pos ((isFinite_roundUnits _ Nat.one_pos).mp h)).2.2
  rw [hmagnitude, hunits, ← Nat.pow_add, show 53 + (top + 1) = 54 + top by omega]
  exact hrounded

/-- A double is an integer if it is a multiple of one. -/
theorem isInteger_of_units? (hx : x.units? = some a) (h : a.tmod unitsPerOne = 0) :
    x.isInteger := by
  unfold isInteger
  rw [hx]
  exact decide_eq_true h

/-- The double of an integer has nothing after the point. -/
theorem isInteger_ofInt {n : ℤ} (h : (ofInt n).isFinite) : (ofInt n).isInteger := by
  by_cases hlarge : 2 ^ 53 < n.natAbs
  · -- So far from zero there is no room for digits after the point.
    obtain ⟨a, ha⟩ : ∃ a, (ofInt n).units? = some a := ⟨_, units?_eq h⟩
    have hle := le_magnitude_ofInt h hlarge
    rw [← natAbs_of_units? ha] at hle
    exact isInteger_of_units? ha ((isHeld_of_units? ha).tmod_eq_zero hle)
  · have hinteger : IsInteger (ofInt n) n := .ofInt (not_lt.mp hlarge)
    exact isInteger_of_units? hinteger (Int.mul_tmod_left n _)

end Vigil.Double
