import Vigil.Proofs.Number.Digits
import Vigil.Proofs.Number.Units
import Vigil.Proofs.Value.Faults

/-!
# Writing values

Which pieces of data have a text. Only integers of too many digits have none, so a piece of data
has a text exactly if every integer in it has few enough digits (`Value.stops_text`). With a fixed
number of places an integer has a text as long as it is not too large for a double
(`Value.stops_fixed_int`).
-/

namespace Vigil

attribute [local irreducible] Double.unitsPerOne

namespace Value

/-! ## Texts of data -/

mutual

/-- Whether every integer in a piece of data has few enough digits to be written. -/
def writable : Value → Bool
  | .int n => Decimal.length n.natAbs ≤ Literal.maxDigits
  | .list items => allWritable items
  | .tuple items => allWritable items
  | .set items => allWritable items
  | .map entries => entriesWritable entries
  | _ => true

/-- Whether all items can be written. -/
def allWritable : List Value → Bool
  | [] => true
  | v :: rest => writable v && allWritable rest

/-- Whether the keys and the values of all entries can be written. -/
def entriesWritable : List (Value × Value) → Bool
  | [] => true
  | (k, v) :: rest => writable k && writable v && entriesWritable rest

end

/-- An integer can be written if it is less than the first power of ten with too many digits. -/
theorem writable_int_iff (n : Int) :
    (Value.int n).writable ↔ n.natAbs < 10 ^ Literal.maxDigits := by
  rw [writable, decide_eq_true_eq]
  constructor
  · intro hlength
    exact (Decimal.lt_pow_length _).trans_le (Nat.pow_le_pow_right (by decide) hlength)
  · intro hlt
    rcases Nat.eq_zero_or_pos n.natAbs with hzero | hpos
    · rw [hzero]
      decide
    · -- The first digit is no zero, so the number is not less than its power of ten.
      have hpow := (Decimal.pow_length_le hpos).trans_lt hlt
      have := (Nat.pow_lt_pow_iff_right (by decide)).mp hpow
      omega

/-- An integer of few digits can be written. -/
theorem writable_of_lt_pow {n : Int} {k : Nat} (h : n.natAbs < 10 ^ k)
    (hk : k ≤ Literal.maxDigits) : (Value.int n).writable :=
  (writable_int_iff n).mpr (h.trans_le (Nat.pow_le_pow_right (by decide) hk))

/-- A power of ten with too many digits cannot be written. -/
theorem not_writable_pow {k : Nat} (h : Literal.maxDigits ≤ k) :
    ¬(Value.int (10 ^ k)).writable := by
  rw [writable_int_iff, Int.natAbs_pow, not_lt]
  exact Nat.pow_le_pow_right (by decide) h

/-- The text of an integer is refused exactly if it has too many digits. -/
theorem stops_intText (n : Int) : Stops (intText n) ↔ ¬(Value.int n).writable := by
  unfold intText
  rw [writable, decide_eq_true_eq, not_le]
  split <;> simp_all

/-- An integer that can be written has its decimal form. -/
theorem intText_of_writable {n : Int} (h : (Value.int n).writable) :
    intText n = .ok (Decimal.ofInt n) := by
  rw [writable, decide_eq_true_eq] at h
  rw [intText, if_neg (not_lt.mpr h)]

/-- The form that shows data is missing exactly where an integer in it is too long. -/
theorem stops_shown (v : Value) : Stops v.shown ↔ ¬v.writable := by
  induction v using shown.induct
    (motive_2 := fun entries => Stops (shownEntries entries) ↔ ¬entriesWritable entries)
    (motive_3 := fun items => Stops (shownItems items) ↔ ¬allWritable items) with
  | case3 n => exact stops_intText n
  | case10 items ih => exact stops_bind_pure.trans ih
  -- A tuple of one item has a comma after it, but the same integers.
  | case11 item ih =>
    rw [shown, stops_bind_pure, ih, writable, allWritable, allWritable, Bool.and_true]
  | case12 items single ih =>
    rw [shown, stops_bind_pure, ih, writable]
    exact single
  | case13 entries ih => exact stops_bind_pure.trans ih
  | case14 items empty =>
    rw [List.isEmpty_iff] at empty
    simp [shown, empty, writable, allWritable]
  -- Of the collections without order only the empty one has a form of its own.
  | case15 items filled ih =>
    simp only [shown, filled]
    exact stops_bind_pure.trans ih
  | case17 v rest ih ihRest =>
    rw [shownItems, stops_bind_of_iff fun _ => stops_bind_pure, ih, ihRest, allWritable]
    simp [imp_iff_not_or]
  | case19 k v rest ihKey ih ihRest =>
    rw [shownEntries, stops_bind_of_iff fun _ => stops_bind_of_iff fun _ => stops_bind_pure, ihKey,
      ih, ihRest, entriesWritable]
    simp [imp_iff_not_or, or_assoc]
  | _ => simp [shown, shownItems, shownEntries, writable, allWritable, entriesWritable]

/-- A piece of data has no text exactly if an integer in it is too long. -/
theorem stops_text (v : Value) : Stops v.text ↔ ¬v.writable := by
  unfold text
  split
  · simp [writable]
  · simp [writable]
  · simp [writable]
  · simp [writable]
  · exact stops_shown v

/-! ## Integers with places -/

/-- The integer is not too large for a double: it is less than `2 ^ 1024`, the first power of two
without a double, by more than half the distance of the doubles below that. -/
def FitsDouble (n : Int) : Prop := n.natAbs < (2 ^ 54 - 1) * 2 ^ 970

/-- An integer that is far from the bound is not too large. -/
theorem fitsDouble_of_lt {n : Int} (h : n.natAbs < 2 ^ 54 - 1) : FitsDouble n := by
  have hpow (k : ℕ) : n.natAbs < (2 ^ 54 - 1) * 2 ^ k :=
    h.trans_le (Nat.le_mul_of_pos_right _ (Nat.two_pow_pos k))
  exact hpow 970

/-- An integer that is not too large for a double has few enough digits to be written. -/
theorem writable_of_fitsDouble {n : Int} (h : FitsDouble n) : (Value.int n).writable := by
  have hpow (k : ℕ) : (2 ^ 54 - 1) * 2 ^ k ≤ 10 ^ (54 + k) :=
    calc
      (2 ^ 54 - 1) * 2 ^ k ≤ 10 ^ 54 * 10 ^ k :=
        Nat.mul_le_mul (by decide) (Nat.pow_le_pow_left (by decide) k)
      _ = 10 ^ (54 + k) := (Nat.pow_add ..).symm
  exact writable_of_lt_pow (h.trans_le (hpow 970)) (by decide)

/-- The integer part of a number has few enough digits to be written. -/
theorem writable_trunc (x : Double) : (Value.int (x.trunc?.getD 0)).writable := by
  cases hx : x.units? with
  | none =>
    rw [Double.trunc?, hx]
    rfl
  | some a =>
    obtain ⟨mantissa, unit, hmantissa, hunit, ha⟩ := Double.isHeld_of_units? hx
    have hpow (k : ℕ) : 2 ^ k ≤ 10 ^ k := Nat.pow_le_pow_left (by decide) k
    have hlt : (a.tdiv Double.unitsPerOne).natAbs < 10 ^ (53 + 2045) :=
      calc
        (a.tdiv Double.unitsPerOne).natAbs = a.natAbs / Double.unitsPerOne := Int.natAbs_tdiv ..
        _ ≤ a.natAbs := Nat.div_le_self ..
        _ < 2 ^ (53 + 2045) := ha ▸ Double.mul_two_pow_lt hmantissa hunit
        _ ≤ 10 ^ (53 + 2045) := hpow _
    rw [Double.trunc?, hx]
    exact writable_of_lt_pow hlt (by decide)

/-- The double of an integer is finite exactly if the integer fits in one. -/
theorem isFinite_ofInt_iff (n : Int) : (Double.ofInt n).isFinite ↔ FitsDouble n := by
  have hbound : (2 ^ 54 - 1) * 2 ^ 2044 = (2 ^ 54 - 1) * 2 ^ 970 * Double.unitsPerOne := by
    rw [Nat.mul_assoc, Double.two_pow_mul_unitsPerOne]
  -- The bound on the count is the bound on the integer, times the count of one.
  rw [Double.ofInt, Double.ofRatio, Double.isFinite_roundUnits_iff _ Nat.one_pos, Nat.mul_one,
    hbound, FitsDouble]
  exact Nat.mul_lt_mul_right Double.unitsPerOne_pos

/-- An integer has a text with places exactly if it is not too large for a double. -/
theorem stops_fixed_int (places : Nat) (n : Int) :
    Stops ((Value.int n).fixed places) ↔ ¬FitsDouble n := by
  rw [fixed, stops_bind_pure, intToDouble, ← isFinite_ofInt_iff]
  split <;> simp_all

end Value

end Vigil
