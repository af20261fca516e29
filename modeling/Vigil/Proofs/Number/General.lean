import Vigil.Proofs.Number.Numeral

/-!
# The general form of numbers

What the general form writes. The number is rounded to six significant digits
(`Double.IsSixDigits`). The result is a numeral if it is nothing or not below `0.0001`, and read as
the double nearest to these digits (`Double.IsNear.exists_numeral_six`, `Double.sixDigits`); if it
is less, it has an exponent (`Double.IsNear.mem_general_of_lt`).
-/

namespace Vigil.Double

open Literal

attribute [local irreducible] unitsPerOne

variable {x : Double} {q w : ℚ}

/-- What is below a power of ten has its first digit below it. -/
theorem exponent_lt {e k : ℤ} (hlow : 10 ^ e ≤ q) (hhigh : q < 10 ^ k) : e < k :=
  (zpow_lt_zpow_iff_right₀ (by norm_num)).mp (hlow.trans_lt hhigh)

/-- The second number is the first one rounded to six significant digits. -/
def IsSixDigits (q w : ℚ) : Prop :=
  q = 0 ∧ w = 0 ∨ ∃ (e : ℤ) (m : ℕ), 10 ^ e ≤ q ∧ q < 10 ^ (e + 1) ∧ w = m * 10 ^ (e - 5) ∧
    |q - w| ≤ 10 ^ (e - 5) / 2

/-- Below a hundred the last digit is at most the fourth after the point. -/
theorem IsSixDigits.abs_sub_le (h : IsSixDigits q w) (hq : q < 100) : |q - w| ≤ 1 / 20000 := by
  obtain ⟨rfl, rfl⟩ | ⟨e, m, hlow, -, -, hnear⟩ := h
  · norm_num
  · have he : e - 5 ≤ -4 := by
      have hlt : e < 2 := exponent_lt hlow (by norm_num [hq])
      omega
    calc |q - w| ≤ 10 ^ (e - 5) / 2 := hnear
      _ ≤ 10 ^ (-4 : ℤ) / 2 := by
          gcongr
          norm_num
      _ = 1 / 20000 := by norm_num

/-- The number nearest to a number rounded to six significant digits. -/
def sixDigits (x : Double) : Double :=
  Decimal.toDouble false (Decimal.significant 6 x.magnitude unitsPerOne).mantissa
    ((Decimal.significant 6 x.magnitude unitsPerOne).exponent - 5)

/-- The least positive number that the general form writes without an exponent: what is less is less
than `0.0001` when it is rounded to six digits. -/
def leastPositional : ℚ := (10 ^ 6 - 1 / 2) / 10 ^ 10

/-- The least number without an exponent is just below `0.0001`. -/
theorem leastPositional_bounds : (10 : ℚ) ^ (-5 : ℤ) < leastPositional ∧
    leastPositional < 10 ^ (-4 : ℤ) := by
  norm_num [leastPositional]

/-- Where the first digit stands tells whether a number is too small; just below `0.0001` it depends
on whether the rounding reaches the power of ten. -/
theorem le_exponent_iff {first : ℤ} {full : Prop} [Decidable full] (hlead : 10 ^ first ≤ q)
    (hnext : q < 10 ^ (first + 1)) (hfull : full ↔ 10 ^ 6 - 1 / 2 ≤ q / 10 ^ (first - 5)) :
    -4 ≤ (if full then first + 1 else first) ↔ leastPositional ≤ q := by
  obtain ⟨hfive, hfour⟩ := leastPositional_bounds
  have hpow {a b : ℤ} (h : a ≤ b) : (10 : ℚ) ^ a ≤ 10 ^ b := zpow_le_zpow_right₀ (by norm_num) h
  -- Only a first digit in the fifth place may be carried to the fourth.
  rcases lt_trichotomy first (-5) with hless | rfl | hmore
  · have hupper : (10 : ℚ) ^ (first + 1) ≤ 10 ^ (-5 : ℤ) := hpow (by omega)
    refine iff_of_false ?_ (by linarith)
    split_ifs <;> omega
  · have hjust : full ↔ leastPositional ≤ q := by
      rw [hfull, le_div_iff₀ (by positivity), leastPositional]
      norm_num
    by_cases h : full <;> simp [h, ← hjust]
  · have hlower : (10 : ℚ) ^ (-4 : ℤ) ≤ 10 ^ first := hpow (by omega)
    refine iff_of_true ?_ (by linarith)
    split_ifs <;> omega

namespace IsNear

/-- The magnitude as a part of one is the number. -/
theorem magnitude_div (hx : IsNear x q 0) : (x.magnitude / unitsPerOne : ℚ) = q := hx.size_eq

/-- An exact number above zero has a magnitude above zero. -/
theorem magnitude_pos (hx : IsNear x q 0) (hq : 0 < q) : 0 < x.magnitude := by
  apply Nat.pos_of_ne_zero
  intro hzero
  rw [← hx.magnitude_div, hzero, Nat.cast_zero, zero_div] at hq
  exact lt_irrefl 0 hq

/-- The significant digits of a positive number: they stand for the number rounded to six of them,
and their exponent tells whether the number is too small to be written without one. -/
theorem exists_significant (hx : IsNear x q 0) (hq : 0 < q) :
    ∃ (mantissa : ℕ) (e : ℤ), Decimal.significant 6 x.magnitude unitsPerOne = ⟨mantissa, e⟩ ∧
      10 ^ 5 ≤ mantissa ∧ mantissa < 10 ^ 6 ∧ IsSixDigits q (mantissa * 10 ^ (e - 5)) ∧
      (-4 ≤ e ↔ leastPositional ≤ q) ∧ (q < 10 ^ 5 → e ≤ 5) := by
  have hmagnitude := hx.magnitude_pos hq
  obtain ⟨hlead, hnext⟩ := Decimal.leadingExponent_spec hmagnitude unitsPerOne_pos
  obtain ⟨m, hlow, hhigh, hnear, hfull, hdigits⟩ :=
    Decimal.exists_significant_eq hmagnitude unitsPerOne_pos (show 0 < 6 by decide)
  generalize Decimal.leadingExponent x.magnitude unitsPerOne = first at *
  rw [hx.magnitude_div] at hlead hnext hnear hfull
  rw [show first - (6 : ℕ) + 1 = first - 5 by push_cast; ring] at hnear hfull
  have hunit : (0 : ℚ) < 10 ^ (first - 5) := by positivity
  -- In units of the last digit the number is at most a half away.
  have hclose : |q - m * 10 ^ (first - 5)| ≤ 10 ^ (first - 5) / 2 := by
    calc |q - m * 10 ^ (first - 5)| = |q / 10 ^ (first - 5) - m| * 10 ^ (first - 5) := by
          rw [← abs_of_pos hunit, ← abs_mul, abs_of_pos hunit, sub_mul,
            div_mul_cancel₀ _ hunit.ne']
      _ ≤ 1 / 2 * 10 ^ (first - 5) := mul_le_mul_of_nonneg_right hnear hunit.le
      _ = 10 ^ (first - 5) / 2 := by ring
  have hsix : IsSixDigits q (m * 10 ^ (first - 5)) :=
    .inr ⟨first, m, hlead, hnext, rfl, hclose⟩
  have hleast := le_exponent_iff hlead hnext hfull
  have hfive : q < 10 ^ 5 → first < 5 := fun hlt => exponent_lt hlead hlt
  -- A power of ten that the rounding reaches has one digit more, and the exponent grows.
  by_cases hm : m = 10 ^ 6
  · rw [if_pos hm] at hdigits hleast
    have hvalue : ((10 ^ 5 : ℕ) : ℚ) * 10 ^ (first + 1 - 5) = m * 10 ^ (first - 5) := by
      rw [hm, show first + 1 - 5 = first - 5 + 1 by ring, zpow_add_one₀ (by norm_num)]
      norm_num
      ring
    exact ⟨10 ^ 5, first + 1, hdigits, le_rfl, by decide, by rwa [hvalue], hleast, hfive⟩
  · rw [if_neg hm] at hdigits hleast
    exact ⟨m, first, hdigits, hlow, lt_of_le_of_ne hhigh hm, hsix, hleast,
      fun hlt => (hfive hlt).le⟩

/-- Nothing, and a number that is not too small, is written as a numeral of its six digits, and read
as the number rounded to them. -/
theorem exists_numeral_six (hx : IsNear x q 0) (hlow : q = 0 ∨ leastPositional ≤ q)
    (hhigh : q < 10 ^ 5) :
    ∃ n : Numeral, x.general.toList = n.text ∧ n.IsShort ∧ n.read = x.sixDigits ∧
      IsSixDigits q n.value := by
  rcases hlow with rfl | hlow
  · have hzero : x.magnitude = 0 := by
      have hdiv := hx.magnitude_div
      rw [div_eq_zero_iff, Nat.cast_eq_zero] at hdiv
      exact hdiv.resolve_right unitsPerOne_cast_pos.ne'
    refine ⟨.ofNat 0, hx.general_eq_zero hzero, ⟨by decide, by decide⟩, ?_, .inl ⟨rfl, ?_⟩⟩
    · rw [Numeral.read_of_mantissa_eq_zero rfl, sixDigits, hzero, Decimal.significant_zero]
      rfl
    · rw [Numeral.value_ofNat, Nat.cast_zero]
  · have hq : 0 < q := lt_of_lt_of_le (by norm_num [leastPositional]) hlow
    -- From the least positional number up to `10 ^ 5`, no exponent is written.
    obtain ⟨mantissa, e, hdigits, hleast, hmost, hsix, hexp, hsmall⟩ := hx.exists_significant hq
    have hfour := hexp.mpr hlow
    have hfive := hsmall hhigh
    obtain ⟨n, hn, hshort, htext⟩ := exists_numeral_positional hleast hmost hfour hfive
    refine ⟨n, ?_, hshort, ?_, by rwa [hn]⟩
    · rw [hx.general_eq (hx.magnitude_pos hq) hdigits, if_pos ⟨hfour, by omega⟩, htext]
    · rw [sixDigits, hdigits, n.read_eq_toDouble hshort hleast hmost hfour hfive hn]

/-- A number that is too small is written with an exponent. -/
theorem mem_general_of_lt (hx : IsNear x q 0) (hq : 0 < q) (hlt : q < leastPositional) :
    'e' ∈ x.general.toList := by
  obtain ⟨mantissa, e, hdigits, -, -, -, hexp, -⟩ := hx.exists_significant hq
  have hfour : ¬-4 ≤ e := by rwa [hexp, not_le]
  rw [hx.general_eq (hx.magnitude_pos hq) hdigits, if_neg fun h => hfour h.1]
  exact List.mem_append_right _ List.mem_cons_self

end IsNear

/-- A number with a sign is written with it. -/
theorem mem_general_of_isNegative (h : x.isFinite) (hneg : x.isNegative) :
    '-' ∈ x.general.toList := by
  rw [general, unusualText_of_isFinite h, Option.getD_none, signed, if_pos hneg,
    String.toList_ofList]
  exact List.mem_cons_self

/-! ## The characters of numbers -/

/-- Splitting off a sign keeps every other character. -/
theorem mem_splitSign {cs : List Char} {c : Char} (h : c ∈ cs) (hminus : c ≠ '-')
    (hplus : c ≠ '+') : c ∈ (splitSign cs).2 := by
  unfold splitSign
  split
  · exact (List.mem_cons.mp h).resolve_left hminus
  · exact (List.mem_cons.mp h).resolve_left hplus
  · exact h

/-- An exponent consists of a letter, perhaps a sign, and digits. -/
theorem readExponent_of_mem {tail : List Char} (h : 's' ∈ tail) : readExponent tail = none := by
  cases tail with
  | nil => contradiction
  | cons c rest =>
    rw [readExponent]
    -- The letter is no digit, so it cannot stand behind the mark of the exponent.
    split
    · rename_i hletter
      have hc : c ≠ 's' := by
        rintro rfl
        contradiction
      have hdigits := mem_splitSign ((List.mem_cons.mp h).resolve_left hc.symm) (by decide)
        (by decide)
      have hall : (splitSign rest).2.all isDigit = false := by
        rw [List.all_eq_false]
        exact ⟨'s', hdigits, by decide⟩
      simp [hall]
    · rfl

/-- A letter that no word and no exponent has stands in no number. -/
theorem readPlainDouble_of_mem {cs : List Char} (h : 's' ∈ cs) : readPlainDouble cs = none := by
  have hrest := mem_splitSign h (by decide) (by decide)
  have hword {words : List String} (hwords : ∀ word ∈ words, 's' ∉ word.toList) :
      isWord words (splitSign cs).2 = false := by
    rw [isWord, List.any_eq_false]
    intro word hword heq
    rw [decide_eq_true_eq] at heq
    refine hwords word hword ?_
    rw [heq]
    exact List.mem_map.mpr ⟨'s', hrest, rfl⟩
  -- The letter is still there when the exponent is read.
  have hdropped : 's' ∈ (splitSign cs).2.dropWhile isDigit := Text.mem_dropWhile hrest rfl
  unfold readPlainDouble
  dsimp only
  rw [hword (by decide), hword (by decide), if_neg (by simp), if_neg (by simp)]
  generalize (splitSign cs).2.dropWhile isDigit = after at hdropped ⊢
  split
  · rename_i places
    have hleft : 's' ∈ places.dropWhile isDigit :=
      Text.mem_dropWhile ((List.mem_cons.mp hdropped).resolve_left (by decide)) rfl
    dsimp only
    rw [readExponent_of_mem hleft, Option.map_none, ite_self]
  · dsimp only
    rw [readExponent_of_mem hdropped, Option.map_none, ite_self]

/-- The digits of a number are plain text. -/
theorem plainText_digits (n : ℕ) : PlainText (Decimal.digits n) := fun _ hc =>
  isPlain_of_isDigit (Decimal.isDigit_of_mem_digits hc)

/-- Digits with a point among them are plain text. -/
theorem plainText_withPoint {whole places : List Char} (hwhole : PlainText whole)
    (hplaces : PlainText places) : PlainText (Decimal.withPoint (whole, places)) := by
  have hpoint : PlainText ['.'] := by decide
  unfold Decimal.withPoint
  split
  · exact hwhole
  · exact List.forall_mem_append.mpr ⟨hwhole, List.forall_mem_append.mpr ⟨hpoint, hplaces⟩⟩

/-- Plain text without its last zeros is plain text. -/
theorem plainText_dropTrailingZeros {cs : List Char} (h : PlainText cs) :
    PlainText (Decimal.dropTrailingZeros cs) := by
  obtain ⟨n, hn⟩ := Decimal.exists_eq_dropTrailingZeros_append cs
  rw [hn] at h
  exact (List.forall_mem_append.mp h).1

/-- Zeros are plain text. -/
theorem plainText_replicate_zero (n : ℕ) : PlainText (List.replicate n '0') := by
  have hzero : IsPlain '0' := by decide
  intro c hc
  rwa [List.eq_of_mem_replicate hc]

/-- Digits that are put in their places are plain text. -/
theorem plainText_positional {ds : List Char} (h : PlainText ds) (e : ℤ) :
    PlainText (Decimal.positional ds e).1 ∧ PlainText (Decimal.positional ds e).2 := by
  cases e with
  | ofNat e =>
    refine ⟨List.forall_mem_append.mpr ⟨fun c hc => h c (List.mem_of_mem_take hc), ?_⟩,
      fun c hc => h c (List.mem_of_mem_drop hc)⟩
    exact plainText_replicate_zero _
  | negSucc e =>
    have hzero : PlainText ['0'] := by decide
    exact ⟨hzero, List.forall_mem_append.mpr ⟨plainText_replicate_zero e, h⟩⟩

/-- An exponent is written in plain text. -/
theorem plainText_exponentText (e : ℤ) : PlainText (Decimal.exponentText e) := by
  have hletter : IsPlain 'e' := by decide
  have hsign : IsPlain (if e < 0 then '-' else '+') := by
    split <;> decide
  refine List.forall_mem_cons.mpr ⟨hletter, List.forall_mem_cons.mpr ⟨hsign, ?_⟩⟩
  exact List.forall_mem_append.mpr ⟨plainText_replicate_zero _, plainText_digits _⟩

/-- A finite number is written in visible characters. -/
theorem plainText_general (h : x.isFinite) : PlainText x.general.toList := by
  have hsigned {cs : List Char} (hcs : PlainText cs) : PlainText (x.signed cs).toList := by
    have hminus : IsPlain '-' := by decide
    rw [signed, String.toList_ofList]
    split
    · exact List.forall_mem_cons.mpr ⟨hminus, hcs⟩
    · exact hcs
  rw [general, unusualText_of_isFinite h, Option.getD_none]
  apply hsigned
  split
  · decide
  · have hdigits := plainText_digits (Decimal.significant 6 x.magnitude unitsPerOne).mantissa
    have hkept := plainText_dropTrailingZeros hdigits
    dsimp only
    -- Positional or with an exponent, it is digits around a point.
    split
    · obtain ⟨hwhole, hplaces⟩ := plainText_positional hdigits _
      exact plainText_withPoint hwhole (plainText_dropTrailingZeros hplaces)
    · refine List.forall_mem_append.mpr ⟨plainText_withPoint ?_ ?_, plainText_exponentText _⟩
      · exact fun c hc => hkept c (List.mem_of_mem_take hc)
      · exact fun c hc => hkept c (List.mem_of_mem_drop hc)

end Vigil.Double
