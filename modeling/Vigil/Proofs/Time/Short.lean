import Vigil.Proofs.Time.Quantity

/-!
# The short form of durations

Whole seconds, and times below one second in microseconds, are read as themselves from the short
form (`Duration.parse_short`), although floating-point numbers are multiplied on the way there and
on the way back. Below one second every number stays near to the exact one, so that rounding to
microseconds recovers it (`Duration.ofSeconds?_of_isNear`). From one second on all numbers are
integers, and nothing is rounded (`Duration.ofSeconds?_of_isInteger`).
-/

namespace Vigil.Duration

open Literal (Numeral)
open Double (IsNear IsNatural IsInteger drift drift_le)

attribute [local irreducible] Double.unitsPerOne

/-- Whether the short form says everything about a duration. -/
def IsWritten (d : Duration) : Prop :=
  0 ≤ d.micros ∧ ((1000000 : ℤ) ∣ d.micros ∨ d.micros < 1000000)

instance (d : Duration) : Decidable d.IsWritten := inferInstanceAs (Decidable (_ ∧ _))

/-- A duration is told by its microseconds. -/
theorem eq_of_micros {c d : Duration} (h : c.micros = d.micros) : c = d := by
  cases c
  cases d
  cases h
  rfl

/-! ## Numbers of seconds -/

/-- What the reader makes of a number, from its integer part and the microseconds. -/
theorem ofSeconds?_eq {x : Double} {whole micros : ℤ} (hfinite : x.isFinite)
    (hwhole : x.trunc? = some whole)
    (hmicros : (Double.ofInt microsPerSecond * x.fract).roundEven? = some micros) :
    ofSeconds? x = liftRange (ofMicros? (whole * microsPerSecond + micros)) := by
  have hpart : integerPart x = .ok whole := by
    cases x with
    | finite =>
      rw [integerPart, hwhole]
      rfl
    | _ => contradiction
  unfold ofSeconds?
  rw [hpart, hmicros]
  rfl

/-- The microseconds of a duration are in range. -/
theorem liftRange_ofMicros? {d : Duration} {n : ℤ} (hd : d.micros = n) :
    liftRange (ofMicros? n) = .ok d := by
  rw [← hd, ofMicros?_micros]
  rfl

/-- A number of seconds that is close to a natural number of microseconds is read as that. -/
theorem ofSeconds?_of_close {x : Double} {q : ℚ} {n : ℕ} (hx : IsNear x q 0)
    (hnear : |q * 10 ^ 6 - n| ≤ 499 / 1000) : ofSeconds? x = liftRange (ofMicros? n) := by
  have hnonneg : 0 ≤ q := by
    rw [← hx.size_eq]
    exact Double.size_nonneg x
  have hfloor := Nat.floor_le hnonneg
  have hlt := Nat.lt_floor_add_one q
  obtain ⟨hbelow, habove⟩ := abs_le.mp hnear
  have hmillion : IsNear (Double.ofInt microsPerSecond) (10 ^ 6) 0 := by
    have hnatural : IsNatural (Double.ofInt microsPerSecond) microsPerSecond :=
      .ofInt (by decide)
    have hcast : ((microsPerSecond : ℕ) : ℚ) = 10 ^ 6 := by norm_num [microsPerSecond]
    rw [← hcast]
    exact hnatural.isNear
  -- The microseconds beyond the whole seconds are a natural number too.
  obtain ⟨micros, hmicros⟩ : ∃ micros, n = ⌊q⌋₊ * 10 ^ 6 + micros := by
    refine Nat.exists_eq_add_of_le ?_
    have hcast : ((⌊q⌋₊ * 10 ^ 6 : ℕ) : ℚ) < (n + 1 : ℕ) := by
      push_cast
      linarith
    exact Nat.lt_add_one_iff.mp (by exact_mod_cast hcast)
  have hn : (n : ℚ) = ⌊q⌋₊ * 10 ^ 6 + micros := by
    rw [hmicros]
    push_cast
    rfl
  -- The product is rounded once, by much less than a microsecond.
  obtain ⟨hfinite, hsign, hround⟩ := hmillion.mul_close hx.fract (by linarith)
  have hsmall : 10 ^ 6 * (q - ⌊q⌋₊) * Double.unitRoundoff ≤ 10 ^ 6 * 1 * Double.unitRoundoff := by
    have hpos := Double.unitRoundoff_pos
    gcongr
    linarith
  have hmoved : 10 ^ 6 * (q - ⌊q⌋₊) * Double.unitRoundoff + 1 / 2 ^ 100 ≤ 1 / 10 ^ 4 :=
    (add_le_add_left hsmall _).trans (by norm_num [Double.unitRoundoff])
  obtain ⟨hless, hmore⟩ := abs_le.mp (hround.trans hmoved)
  have hnearest : (Double.ofInt microsPerSecond * x.fract).roundEven? = some (micros : ℤ) := by
    refine (IsNear.of_isFinite hfinite hsign).roundEven? (abs_lt.mpr ⟨?_, ?_⟩)
    all_goals linarith
  rw [ofSeconds?_eq hx.isFinite hx.trunc? hnearest, hmicros, microsPerSecond]
  push_cast
  rfl

/-- A number of seconds near to one below a second is the duration of the microseconds next to it.
-/
theorem ofSeconds?_of_isNear {x : Double} {d : Duration} {n k : ℕ} (hn : n < 10 ^ 6)
    (hx : IsNear x (n / 10 ^ 6) k) (hk : k ≤ 10) (hd : d.micros = n) : ofSeconds? x = .ok d := by
  have hn' : (n : ℚ) ≤ 10 ^ 6 := by exact_mod_cast hn.le
  have hnear := hx.near.trans (mul_le_mul_of_nonneg_left (drift_le hk) (by positivity))
  obtain ⟨hless, hmore⟩ := abs_le.mp hnear
  have hclose : |x.size * 10 ^ 6 - (n : ℚ)| ≤ 499 / 1000 :=
    abs_le.mpr ⟨by linarith, by linarith⟩
  rw [ofSeconds?_of_close hx.self hclose]
  exact liftRange_ofMicros? hd

/-- A whole number of seconds is that duration. -/
theorem ofSeconds?_of_isInteger {x : Double} {d : Duration} {n : ℤ} (hx : IsInteger x n)
    (hd : d.micros = n * microsPerSecond) : ofSeconds? x = .ok d := by
  have hmillion : IsInteger (Double.ofInt microsPerSecond) microsPerSecond := .ofInt (by decide)
  -- No part stands behind the point, so there are no microseconds.
  have hnothing : (Double.ofInt microsPerSecond * x.fract).units? = some 0 := by
    apply Double.units?_mul_of_eq_zero hmillion hx.units?_fract
    rw [mul_zero]
  rw [ofSeconds?_eq (Double.isFinite_of_units? hx) hx.trunc?
    (Double.roundEven?_of_units?_zero hnothing)]
  apply liftRange_ofMicros?
  rw [hd, add_zero]

/-- The number of seconds of a duration is rounded once. -/
theorem isNear_toSeconds {d : Duration} {n : ℕ} (hpos : 0 < n) (hd : d.micros = n) :
    IsNear d.toSeconds (n / 10 ^ 6) 1 := by
  have hpos' : (1 : ℚ) ≤ n := by exact_mod_cast hpos
  have hn : n ≤ 10 ^ 20 := by
    have hrange := d.inRange.2
    omega
  have hn' : (n : ℚ) ≤ 10 ^ 20 := by exact_mod_cast hn
  have hsign : decide (d.micros < 0) = false := by simp [hd]
  rw [toSeconds, hsign, hd, Int.natAbs_natCast]
  -- One ratio is rounded, far from both ends.
  refine IsNear.ofRatio (by decide) (by norm_num [microsPerSecond]) ?_ ?_
  · calc (1 / 2 ^ 100 : ℚ) ≤ 1 / 10 ^ 6 := by norm_num
      _ ≤ n / 10 ^ 6 := by gcongr
  · calc (n / 10 ^ 6 : ℚ) ≤ 10 ^ 20 / 10 ^ 6 := by gcongr
    _ ≤ 2 ^ 100 := by norm_num

/-! ## Below one second -/

/-- The seconds of a unit that is a small power of ten below one. -/
theorem isNear_power {places : ℕ} (h : places ≤ 6) :
    IsNear (Decimal.toDouble false 1 (-places)) (1 / 10 ^ places) 1 := by
  have hpow : (10 : ℚ) ^ places ≤ 10 ^ 6 := pow_le_pow_right₀ (by norm_num) h
  have hpow' : (1 : ℚ) ≤ 10 ^ places := one_le_pow₀ (by norm_num)
  have hlength : Decimal.length 1 = 1 := by decide
  rw [Decimal.toDouble_eq_ofRatio Nat.one_pos (by omega) (by omega)]
  refine IsNear.ofRatio (Nat.pow_pos (by decide)) (by push_cast; rfl) ?_ ?_
  · calc (1 / 2 ^ 100 : ℚ) ≤ 1 / 10 ^ 6 := by norm_num
      _ ≤ 1 / 10 ^ places := by gcongr
  · calc (1 / 10 ^ places : ℚ) ≤ 1 / 1 := by gcongr
      _ ≤ 2 ^ 100 := by norm_num

/-- A duration below one second is read from a text that counts fractions of a second. -/
theorem parse_of_scaled {d : Duration} {s : String} {u : Unit} {n scale places : ℕ} (hpos : 0 < n)
    (hn : n < 10 ^ 6) (hd : d.micros = n)
    (hs : s.toList = (d.toSeconds * .ofInt scale).general.toList ++ u.text)
    (hscale : scale * 10 ^ places = 10 ^ 6) (hlow : 10 ^ places ≤ n)
    (hunit : IsNear u.seconds (1 / scale) 1) : parse s = .ok d := by
  have hn' : (n : ℚ) ≤ 10 ^ 6 := by exact_mod_cast hn.le
  have hpos' : (1 : ℚ) ≤ n := by exact_mod_cast hpos
  have hlow' : (10 ^ places : ℚ) ≤ n := by exact_mod_cast hlow
  have hplaces : (1 : ℚ) ≤ 10 ^ places := one_le_pow₀ (by norm_num)
  have hscale' : (scale * 10 ^ places : ℚ) = 10 ^ 6 := by exact_mod_cast hscale
  have hscalePos : 0 < scale := by
    apply Nat.pos_of_ne_zero
    rintro rfl
    rw [Nat.zero_mul] at hscale
    contradiction
  have hcount : (n / 10 ^ 6 * scale : ℚ) = n / 10 ^ places := by
    rw [← hscale']
    field_simp
  -- The count that is written is near to the exact one.
  have hnatural : IsNatural (.ofInt scale) scale := by
    apply IsNatural.ofInt
    have hle : scale ≤ scale * 10 ^ places :=
      Nat.le_mul_of_pos_right scale (Nat.pow_pos (by decide))
    omega
  have hwritten : IsNear (d.toSeconds * .ofInt scale) (n / 10 ^ places) (1 + 0 + 1) := by
    rw [← hcount]
    apply (isNear_toSeconds hpos hd).mul hnatural.isNear (by positivity) (by positivity)
      (by decide)
    · rw [hcount, le_div_iff₀ (by positivity)]
      linarith
    · rw [hcount, div_le_iff₀ (by positivity)]
      linarith
  -- So it is written as the exact one, and what is read again is near to the duration.
  obtain ⟨numeral, htext, hvalue, hshort⟩ := hwritten.exists_numeral_general (by decide) hlow hn
  have hvaluePos : 0 < numeral.value := by
    rw [hvalue]
    positivity
  have hproduct : numeral.value * (1 / scale) = n / 10 ^ 6 := by
    rw [hvalue, ← hcount]
    field_simp
  have hread : IsNear (numeral.read * u.seconds) (n / 10 ^ 6) (1 + 1 + 1) := by
    rw [← hproduct]
    apply (Numeral.isNear_read hshort).mul hunit hvaluePos.le (by positivity) (by decide)
    · rw [hproduct, le_div_iff₀ (by norm_num)]
      linarith
    · rw [hproduct, div_le_iff₀ (by norm_num)]
      linarith
  have hq : s.toList = [Quantity.mk numeral u].flatMap Quantity.text := by
    rw [hs, htext, List.flatMap_singleton]
    rfl
  rw [parse_flatMap (by simp) hq]
  change ofSeconds? (Double.ofInt 0 + (Quantity.mk numeral u).part.seconds) = _
  rw [Quantity.seconds_part, hread.zero_add]
  exact ofSeconds?_of_isNear hn hread (by decide) hd

/-- A duration below one second is read back. -/
theorem parse_short_of_fraction {d : Duration} {n : ℕ} (hpos : 0 < n) (hn : n < 10 ^ 6)
    (hd : d.micros = n) : parse d.short = .ok d := by
  unfold short
  dsimp only
  rw [if_pos (by omega)]
  -- Milliseconds have up to three places, microseconds none.
  by_cases hmilli : 1000 ≤ d.micros
  · rw [if_pos hmilli]
    have hunit : IsNear Unit.milli.seconds (1 / (1000 : ℕ)) 1 := by
      exact_mod_cast isNear_power (show 3 ≤ 6 by decide)
    have hscale : 1000 * 10 ^ 3 = 10 ^ 6 := by decide
    have hunitText : "ms".toList = Unit.milli.text := rfl
    apply parse_of_scaled hpos hn hd _ hscale (by omega) hunit
    rw [String.toList_append, hunitText]
    rfl
  · rw [if_neg hmilli]
    have hunit : IsNear Unit.micro.seconds (1 / (1000000 : ℕ)) 1 := by
      exact_mod_cast isNear_power (le_refl 6)
    have hscale : 1000000 * 10 ^ 0 = 10 ^ 6 := by decide
    have hunitText : "us".toList = Unit.micro.text := rfl
    apply parse_of_scaled hpos hn hd _ hscale hpos hunit
    rw [String.toList_append, hunitText]
    rfl

/-! ## Whole seconds -/

/-- The seconds of a quantity are a natural number if both factors are. -/
theorem Quantity.isInteger_seconds {q : Quantity} {m w : ℕ} (hvalue : q.numeral.value = m)
    (hunit : IsInteger q.unit.seconds w) (hm : m < 2 ^ 53) (hlt : m * w < 2 ^ 53) :
    IsInteger q.part.seconds (m * w : ℕ) := by
  have hread := Numeral.isInteger_read hm hvalue
  rw [q.seconds_part, Nat.cast_mul]
  refine hread.mul hunit ?_
  rw [← Nat.cast_mul, Int.natAbs_natCast]
  exact hlt.le

/-- Seconds that are natural numbers are added without rounding. -/
theorem isInteger_totalSeconds {ps : List Part} {ns : List ℕ}
    (h : List.Forall₂ (fun p n => IsInteger p.seconds (n : ℕ)) ps ns)
    (hlt : ns.sum < 2 ^ 53) : IsInteger (totalSeconds ps) ns.sum := by
  -- The sum of the first ones is any number for the induction.
  have hfrom : ∀ (x : Double) (m : ℕ), IsInteger x m → m + ns.sum < 2 ^ 53 →
      IsInteger (ps.foldl (fun sum p => sum + p.seconds) x) (m + ns.sum : ℕ) := by
    clear hlt
    induction h with
    | nil => exact fun x m hx _ => hx
    | @cons p n ps ns hp _ ih =>
      intro x m hx hlt
      rw [List.sum_cons] at hlt ⊢
      have hsum : IsInteger (x + p.seconds) (m + n : ℕ) := by
        rw [Nat.cast_add]
        exact hx.add hp (by omega)
      rw [← Nat.add_assoc]
      exact ih _ _ hsum (by omega)
  have hzero := hfrom (.ofInt 0) 0 (.ofInt (by decide)) (by omega)
  rwa [Nat.zero_add] at hzero

/-- A text of quantities of whole seconds is the duration of their sum. -/
theorem parse_of_whole {d : Duration} {s : String} {qs : List Quantity} {ns : List ℕ}
    (hne : qs ≠ []) (hs : s.toList = qs.flatMap Quantity.text)
    (hseconds : List.Forall₂ (fun q n => IsInteger q.part.seconds (n : ℕ)) qs ns)
    (hlt : ns.sum < 2 ^ 53) (hd : d.micros = ns.sum * microsPerSecond) : parse s = .ok d := by
  rw [parse_flatMap hne hs]
  have htotal := isInteger_totalSeconds (List.forall₂_map_left_iff.mpr hseconds) hlt
  exact ofSeconds?_of_isInteger htotal hd

/-- The number of seconds of a duration of whole seconds is exact. -/
theorem isNatural_toSeconds {d : Duration} {n : ℕ} (hn : n < 2 ^ 53)
    (hd : d.micros = n * microsPerSecond) : IsNatural d.toSeconds n := by
  have hsign : decide (d.micros < 0) = false := by
    rw [decide_eq_false_iff_not, not_lt, hd]
    positivity
  rw [toSeconds, hsign, hd, ← Nat.cast_mul, Int.natAbs_natCast]
  exact .ofRatio (by decide) hn

/-- A second is exactly one second. -/
theorem isInteger_second : IsInteger Unit.second.seconds (1 : ℕ) := .ofInt (by decide)

/-- A minute is exactly 60 seconds. -/
theorem isInteger_minute : IsInteger Unit.minute.seconds (60 : ℕ) := .ofInt (by decide)

/-- An hour is exactly 3600 seconds. -/
theorem isInteger_hour : IsInteger Unit.hour.seconds (3600 : ℕ) := .ofInt (by decide)

/-- What a duration below a minute is written as, unless it is a part of a second. -/
theorem short_toList_of_seconds {d : Duration} (hlow : ¬(0 < d.micros ∧ d.micros < 1000000))
    (hhigh : d.micros < 60000000) : d.short.toList = d.toSeconds.general.toList ++ ['s'] := by
  unfold short
  dsimp only
  rw [if_neg hlow, if_pos hhigh, String.toList_append]
  rfl

/-- Less than a minute of whole seconds is read back. -/
theorem parse_short_of_seconds {d : Duration} {n : ℕ} (hn : n < 60)
    (hd : d.micros = n * microsPerSecond) : parse d.short = .ok d := by
  have hmicros : d.micros = n * 1000000 := hd
  -- The number of seconds is exact, and short enough to be written in full.
  have hseconds := isNatural_toSeconds (by omega) hd
  obtain ⟨numeral, htext, hvalue⟩ := hseconds.exists_numeral_general (by omega)
  have hq : d.short.toList = [Quantity.mk numeral .second].flatMap Quantity.text := by
    rw [short_toList_of_seconds (by omega) (by omega), htext, List.flatMap_singleton]
    rfl
  have hpart : IsInteger (Quantity.mk numeral .second).part.seconds (n * 1 : ℕ) :=
    Quantity.isInteger_seconds hvalue isInteger_second (by omega) (by omega)
  refine parse_of_whole (by simp) hq (.cons hpart .nil) ?_ ?_
  · rw [List.sum_singleton]
    omega
  · rw [hd, List.sum_singleton, Nat.mul_one]

/-- A whole number of a unit is written as its digits and the unit. -/
theorem Quantity.text_ofNat (m : ℕ) (u : Unit) :
    (Quantity.mk (.ofNat m) u).text = (toString m).toList ++ u.text := by
  have hdigits : (toString m).toList = Decimal.digits m := String.toList_ofList
  rw [hdigits]
  rfl

/-- A number of minutes or hours is written without rounding. -/
theorem Quantity.isInteger_ofNat {u : Unit} {m w : ℕ} (hunit : IsInteger u.seconds w)
    (hm : m < 2 ^ 53) (hlt : m * w < 2 ^ 53) :
    IsInteger (Quantity.mk (.ofNat m) u).part.seconds (m * w : ℕ) :=
  Quantity.isInteger_seconds (Numeral.value_ofNat m) hunit hm hlt

/-- The hours and minutes that so many seconds are written with; minutes are always there, hours
only if there are any. -/
def leading (whole : ℕ) : List Quantity :=
  (if whole / 3600 = 0 then [] else [⟨.ofNat (whole / 3600), .hour⟩]) ++
    [⟨.ofNat (whole % 3600 / 60), .minute⟩]

/-- The part in whole minutes is never empty. -/
theorem leading_ne_nil (whole : ℕ) : leading whole ≠ [] := by simp [leading]

/-- Hours and minutes are added without rounding. -/
theorem isInteger_leading {whole : ℕ} (h : whole < 2 ^ 53) :
    IsInteger (totalSeconds ((leading whole).map Quantity.part)) (whole / 60 * 60 : ℕ) := by
  have hminutes : IsInteger (Quantity.mk (.ofNat (whole % 3600 / 60)) .minute).part.seconds _ :=
    Quantity.isInteger_ofNat isInteger_minute (by omega) (by omega)
  -- Below the hour no hours are written, so the sum has one part less.
  unfold leading
  split
  · have hsum : [whole % 3600 / 60 * 60].sum = whole / 60 * 60 := by
      rw [List.sum_singleton]
      omega
    rw [← hsum]
    exact isInteger_totalSeconds (.cons hminutes .nil) (by omega)
  · have hhours : IsInteger (Quantity.mk (.ofNat (whole / 3600)) .hour).part.seconds _ :=
      Quantity.isInteger_ofNat isInteger_hour (by omega) (by omega)
    have hsum : [whole / 3600 * 3600, whole % 3600 / 60 * 60].sum = whole / 60 * 60 := by
      rw [List.sum_cons, List.sum_singleton]
      omega
    rw [← hsum]
    exact isInteger_totalSeconds (.cons hhours (.cons hminutes .nil)) (by omega)

/-- What a duration from a minute on is written as: hours if there are any, minutes, and the seconds
that are left without rounding. -/
theorem short_toList_of_minutes {d : Duration} {t : ℚ} (hlow : 60000000 ≤ d.micros)
    (ht : IsNear d.toSeconds t 0) (hmost : t ≤ 2 ^ 53) :
    ∃ rest : Double, IsNear rest (t - (⌊t⌋₊ / 60 * 60 : ℕ)) 0 ∧
      d.short.toList = (leading ⌊t⌋₊).flatMap Quantity.text ++ (rest.general.toList ++ ['s']) := by
  have hnonneg : 0 ≤ t := by
    rw [← ht.size_eq]
    exact Double.size_nonneg _
  have hfloor : (⌊t⌋₊ : ℚ) ≤ t := Nat.floor_le hnonneg
  have hwhole : ⌊t⌋₊ ≤ 2 ^ 53 := by exact_mod_cast hfloor.trans hmost
  have htrunc := ht.trunc?
  generalize ⌊t⌋₊ = whole at *
  -- Hours and minutes are natural numbers that are not larger, so taking them off rounds nothing.
  have hhours : IsInteger (.ofInt ((whole / 3600 : ℕ) * 3600)) (whole / 3600 * 3600 : ℕ) := by
    exact_mod_cast IsInteger.ofInt (show ((whole / 3600 * 3600 : ℕ) : ℤ).natAbs ≤ 2 ^ 53 by omega)
  have hminutes :
      IsInteger (.ofInt ((whole % 3600 / 60 : ℕ) * 60)) (whole % 3600 / 60 * 60 : ℕ) := by
    exact_mod_cast IsInteger.ofInt
      (show ((whole % 3600 / 60 * 60 : ℕ) : ℤ).natAbs ≤ 2 ^ 53 by omega)
  have hboth : ((whole / 3600 * 3600 + whole % 3600 / 60 * 60 : ℕ) : ℚ) =
      (whole / 60 * 60 : ℕ) := congrArg Nat.cast (by omega)
  have hunder : ((whole / 60 * 60 : ℕ) : ℚ) ≤ t :=
    le_trans (by exact_mod_cast Nat.div_mul_le_self whole 60) hfloor
  rw [← hboth, Nat.cast_add] at hunder
  have hpositive : (0 : ℚ) ≤ (whole % 3600 / 60 * 60 : ℕ) := Nat.cast_nonneg _
  have hpositive' : (0 : ℚ) ≤ (whole / 3600 * 3600 : ℕ) := Nat.cast_nonneg _
  have hrest := (ht.sub_natural hhours (by linarith) hmost).sub_natural hminutes (by linarith)
    (by linarith)
  rw [sub_sub, ← Nat.cast_add, hboth] at hrest
  refine ⟨_, hrest, ?_⟩
  unfold short
  dsimp only
  rw [if_neg (by omega), if_neg (by omega), htrunc, Option.getD_some, Int.toNat_natCast]
  have hminute : (s!"{whole % 3600 / 60}m").toList =
      (Quantity.mk (.ofNat (whole % 3600 / 60)) .minute).text := by
    rw [String.toList_append, Quantity.text_ofNat]
    rfl
  have hhour : (s!"{whole / 3600}h").toList = (Quantity.mk (.ofNat (whole / 3600)) .hour).text := by
    rw [String.toList_append, Quantity.text_ofNat]
    rfl
  unfold leading
  split
  · rw [String.toList_append, String.toList_append, hminute, List.nil_append,
      List.flatMap_singleton, List.append_assoc]
    rfl
  · rw [String.toList_append, hhour, String.toList_append, String.toList_append, hminute,
      List.singleton_append, List.flatMap_cons, List.flatMap_singleton, List.append_assoc,
      List.append_assoc]
    rfl

/-- Hours and minutes with a numeral of seconds behind them. -/
theorem parse_leading {s : String} {whole : ℕ} {rest : Numeral}
    (hs : s.toList = (leading whole).flatMap Quantity.text ++ (rest.text ++ ['s'])) :
    parse s = ofSeconds? (totalSeconds ((leading whole).map Quantity.part) +
      (Quantity.mk rest .second).part.seconds) := by
  have hq : s.toList = (leading whole ++ [Quantity.mk rest .second]).flatMap Quantity.text := by
    rw [hs, List.flatMap_append, List.flatMap_singleton]
    rfl
  rw [parse_flatMap (by simp [leading_ne_nil]) hq, List.map_append, totalSeconds,
    List.foldl_append]
  rfl

/-- From a minute on a duration of whole seconds is read from its parts. -/
theorem parse_short_of_minutes {d : Duration} {n : ℕ} (hlow : 60 ≤ n) (hn : n < 10 ^ 15)
    (hd : d.micros = n * microsPerSecond) : parse d.short = .ok d := by
  have hmicros : d.micros = n * 1000000 := hd
  have hmost : (n : ℚ) ≤ 2 ^ 53 := by exact_mod_cast (show n ≤ 2 ^ 53 by omega)
  have hexact := (isNatural_toSeconds (by omega) hd).isNear
  obtain ⟨seconds, hseconds, htext⟩ := short_toList_of_minutes (by omega) hexact hmost
  -- What is left for the seconds is whole, and is read back exactly.
  rw [Nat.floor_natCast, ← Nat.cast_sub (Nat.div_mul_le_self n 60)] at hseconds
  rw [Nat.floor_natCast] at htext
  obtain ⟨numeral, hnumeral, hvalue⟩ :=
    (IsNatural.of_isNear hseconds).exists_numeral_general (by omega)
  rw [hnumeral] at htext
  have hpart : IsInteger (Quantity.mk numeral .second).part.seconds _ :=
    Quantity.isInteger_seconds hvalue isInteger_second (by omega) (by omega)
  rw [parse_leading htext]
  refine ofSeconds?_of_isInteger ((isInteger_leading (by omega)).add hpart (by omega)) ?_
  rw [hd, ← Nat.cast_add]
  congr 2
  omega

/-! ## All durations -/

/-- The short form of a duration is read as this duration. -/
theorem parse_short {d : Duration} (h : d.IsWritten) : parse d.short = .ok d := by
  obtain ⟨hnonneg, hexact⟩ := h
  have hrange := d.inRange.2
  -- Whole seconds have two forms; no time at all is one of them.
  have whole (n : ℕ) (hn : n < 10 ^ 15) (hd : d.micros = n * microsPerSecond) :
      parse d.short = .ok d := by
    rcases Nat.lt_or_ge n 60 with hlow | hhigh
    · exact parse_short_of_seconds hlow hd
    · exact parse_short_of_minutes hhigh hn hd
  rcases hexact with ⟨n, hwhole⟩ | hbelow
  · obtain ⟨n, rfl⟩ := Int.eq_ofNat_of_zero_le (show 0 ≤ n by omega)
    apply whole n (by omega)
    rw [hwhole, mul_comm]
    rfl
  · obtain ⟨n, hd⟩ := Int.eq_ofNat_of_zero_le hnonneg
    rcases Nat.eq_zero_or_pos n with rfl | hpos
    · exact whole 0 (by decide) (by rw [hd]; rfl)
    · exact parse_short_of_fraction hpos (by omega) hd

end Vigil.Duration
