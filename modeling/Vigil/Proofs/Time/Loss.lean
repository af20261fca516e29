import Vigil.Proofs.Number.General
import Vigil.Proofs.Time.Sums

/-!
# What the short form loses

Not every duration is read back from its short form. The seconds beyond the whole minutes are
written with six significant digits, so up to four places are left, and with an exponent if they
are too few; durations below zero have a sign. The reader knows neither signs nor exponents.

- `Duration.parse_short_eq_invalid_iff`: a duration is refused exactly if it has one of them, which
  is told by the double nearest to its seconds (`Duration.IsLegible`).
- `Duration.parse_short_eq`: otherwise the minutes and the rest rounded to six significant digits
  are read, which is half of the fourth place away at most, and what doubles of this size add to
  that (`Duration.shortSeconds_close`).
- `Duration.parse_short_eq_ok_iff`: below `10 ^ 15` microseconds exactly the multiples of what the
  last digit stands for are read back, which is one microsecond, ten or a hundred
  (`Duration.grid`). All others are read as the nearest multiple.

The main statement is `Duration.parse_short_outcome`.
-/

namespace Vigil.Duration

open Literal (Numeral PlainText)
open Double (IsNear IsNatural IsInteger IsSixDigits leastPositional drift)

attribute [local irreducible] Double.unitsPerOne

/-- The seconds of a duration that its short form has in whole minutes. -/
def inMinutes (d : Duration) : ℕ := ⌊d.toSeconds.size⌋₊ / 60 * 60

/-- The seconds of a duration that its short form has beyond the whole minutes. -/
def rest (d : Duration) : ℚ := d.toSeconds.size - d.inMinutes

/-- The double of these seconds, which is exact (`isNear_restSeconds`). -/
def restSeconds (d : Duration) : Double := d.toSeconds - .ofInt d.inMinutes

/-- The number of seconds that the short form stands for: the whole minutes, and the rest rounded to
six significant digits. -/
def shortSeconds (d : Duration) : Double := .ofInt d.inMinutes + d.restSeconds.sixDigits

/-- The short form has no sign and no exponent. -/
def IsLegible (d : Duration) : Prop :=
  0 ≤ d.micros ∧ (d.micros < 60000000 ∨ d.rest = 0 ∨ leastPositional ≤ d.rest)

/-! ## The number of seconds -/

section

variable {d : Duration} {n : ℕ}

/-- The number of seconds is one rounding away from the exact one. -/
theorem abs_size_sub_le (hpos : 0 < n) (hd : d.micros = n) :
    |d.toSeconds.size - (n / 10 ^ 6 : ℚ)| ≤ n / 10 ^ 6 / 2 ^ 53 := by
  have hnear := (isNear_toSeconds hpos hd).near
  rw [Double.drift_one, Double.unitRoundoff] at hnear
  calc |d.toSeconds.size - (n / 10 ^ 6 : ℚ)| ≤ n / 10 ^ 6 * (1 / 2 ^ 53) := hnear
    _ = n / 10 ^ 6 / 2 ^ 53 := by ring

/-- Whole minutes are exact. -/
theorem size_of_minutes (hn : n < 10 ^ 15) (hd : d.micros = n) (hwhole : n % 60000000 = 0) :
    d.toSeconds.size = (n / 60000000 * 60 : ℕ) := by
  have hmicros : d.micros = (n / 60000000 * 60 : ℕ) * microsPerSecond := by
    rw [hd, microsPerSecond]
    omega
  exact (isNatural_toSeconds (by omega) hmicros).isNear.size_eq

/-- From a minute on the number of seconds is from sixty on. -/
theorem sixty_le_size (hlow : 60000000 ≤ n) (hd : d.micros = n) : 60 ≤ d.toSeconds.size := by
  -- The minute itself is exact, and one microsecond more is more than the rounding takes away.
  rcases hlow.eq_or_lt with rfl | hlt
  · rw [size_of_minutes (by decide) hd rfl]
    norm_num
  · have hn : (60000001 : ℚ) ≤ n := by exact_mod_cast hlt
    obtain ⟨hbelow, -⟩ := abs_le.mp (abs_size_sub_le (by omega) hd)
    linarith

/-- Below a minute the number of seconds is below sixty. -/
theorem size_lt_sixty (hpos : 0 < n) (hhigh : n < 60000000) (hd : d.micros = n) :
    d.toSeconds.size < 60 := by
  have hn : (n : ℚ) + 1 ≤ 60000000 := by exact_mod_cast hhigh
  obtain ⟨-, habove⟩ := abs_le.mp (abs_size_sub_le hpos hd)
  linarith

/-- A duration below a minute has nothing in whole minutes. -/
theorem inMinutes_eq_zero (hpos : 0 < n) (hhigh : n < 60000000) (hd : d.micros = n) :
    d.inMinutes = 0 := by
  have hlt : ⌊d.toSeconds.size⌋₊ < 60 :=
    (Nat.floor_lt (Double.size_nonneg _)).mpr (by exact_mod_cast size_lt_sixty hpos hhigh hd)
  rw [inMinutes, Nat.div_eq_of_lt hlt, Nat.zero_mul]

/-- What is left without the minutes is less than a minute. -/
theorem rest_bounds (d : Duration) : 0 ≤ d.rest ∧ d.rest < 60 := by
  have hfloor := Nat.floor_le (Double.size_nonneg d.toSeconds)
  have hlt := Nat.lt_floor_add_one d.toSeconds.size
  unfold rest inMinutes
  generalize ⌊d.toSeconds.size⌋₊ = whole at *
  have hle : ((whole / 60 * 60 : ℕ) : ℚ) ≤ whole := by exact_mod_cast Nat.div_mul_le_self whole 60
  have hmore : (whole : ℚ) + 1 ≤ (whole / 60 * 60 : ℕ) + 60 := by
    exact_mod_cast (show whole + 1 ≤ whole / 60 * 60 + 60 by omega)
  constructor <;> linarith

/-- The seconds of a duration are those in whole minutes and the rest. -/
theorem size_eq (d : Duration) : d.toSeconds.size = d.inMinutes + d.rest := by
  rw [rest]
  ring

/-- The number of seconds is held with its integer part. -/
theorem size_lt (hpos : 0 < n) (hd : d.micros = n) : d.toSeconds.size < 2 ^ 53 := by
  have hn : n ≤ 10 ^ 20 := by
    have hrange := d.inRange.2
    omega
  have hn' : (n : ℚ) ≤ 10 ^ 20 := by exact_mod_cast hn
  obtain ⟨-, habove⟩ := abs_le.mp (abs_size_sub_le hpos hd)
  linarith

end

/-! ## Reading the short form -/

/-- The seconds of a short numeral are what is read of it. -/
theorem Quantity.seconds_second {numeral : Numeral} (hshort : numeral.IsShort) :
    (Quantity.mk numeral .second).part.seconds = numeral.read := by
  rw [Quantity.seconds_part]
  exact (Numeral.isNear_read hshort).mul_one

section

variable {d : Duration} {n : ℕ}

/-- The whole seconds of a duration are few enough for a double to count them. -/
theorem floor_lt (hpos : 0 < n) (hd : d.micros = n) : ⌊d.toSeconds.size⌋₊ < 2 ^ 53 :=
  (Nat.floor_lt (Double.size_nonneg _)).mpr (by exact_mod_cast size_lt hpos hd)

/-- The seconds in whole minutes are few enough for a double to count them. -/
theorem inMinutes_lt (hpos : 0 < n) (hd : d.micros = n) : d.inMinutes < 2 ^ 53 := by
  have hwhole := floor_lt hpos hd
  rw [inMinutes]
  omega

/-- Taking the whole minutes off rounds nothing. -/
theorem isNear_restSeconds (hpos : 0 < n) (hd : d.micros = n) : IsNear d.restSeconds d.rest 0 := by
  have hminutes := inMinutes_lt hpos hd
  have hinteger : IsInteger (.ofInt d.inMinutes) (d.inMinutes : ℕ) := .ofInt (by omega)
  have hnonneg := d.rest_bounds.1
  rw [rest] at hnonneg
  exact (isNear_toSeconds hpos hd).self.sub_natural hinteger (by linarith) (size_lt hpos hd).le

/-- From a second on, the rest of a legible duration is nothing or not too small. -/
theorem IsLegible.rest_eq_zero_or_le (h : d.IsLegible) (hlow : 1000000 ≤ n) (hd : d.micros = n) :
    d.rest = 0 ∨ leastPositional ≤ d.rest := by
  rcases Nat.lt_or_ge n 60000000 with hseconds | hminutes
  · -- There are no minutes yet, so the rest is at least a second but for one rounding.
    have hn : (1000000 : ℚ) ≤ n := by exact_mod_cast hlow
    obtain ⟨hbelow, -⟩ := abs_le.mp (abs_size_sub_le (by omega) hd)
    right
    rw [rest, inMinutes_eq_zero (by omega) hseconds hd, Nat.cast_zero, leastPositional]
    linarith
  · exact h.2.resolve_left (by omega)

/-- The rest of a legible duration is written as a numeral. -/
theorem IsLegible.exists_numeral (h : d.IsLegible) (hlow : 1000000 ≤ n) (hd : d.micros = n) :
    ∃ numeral : Numeral, d.restSeconds.general.toList = numeral.text ∧ numeral.IsShort ∧
      numeral.read = d.restSeconds.sixDigits ∧ IsSixDigits d.rest numeral.value := by
  have hless := d.rest_bounds.2
  exact (isNear_restSeconds (by omega) hd).exists_numeral_six (h.rest_eq_zero_or_le hlow hd)
    (by linarith)

/-- Below a minute the seconds are one numeral. -/
theorem parse_short_eq_of_seconds (hlow : 1000000 ≤ n) (hhigh : n < 60000000) (hd : d.micros = n)
    (h : d.IsLegible) : parse d.short = ofSeconds? d.shortSeconds := by
  have hpos : 0 < n := by omega
  have hzero := inMinutes_eq_zero hpos hhigh hd
  have hwhole : d.toSeconds = d.restSeconds := by
    have hrest : d.rest = d.toSeconds.size := by rw [rest, hzero, Nat.cast_zero, sub_zero]
    have hexact := (isNear_toSeconds hpos hd).self
    rw [← hrest] at hexact
    exact hexact.eq (isNear_restSeconds hpos hd)
  obtain ⟨numeral, htext, hshort, hread, -⟩ := h.exists_numeral hlow hd
  have hq : d.short.toList = [Quantity.mk numeral .second].flatMap Quantity.text := by
    rw [short_toList_of_seconds (by omega) (by omega), hwhole, htext, List.flatMap_singleton]
    rfl
  rw [parse_flatMap (by simp) hq, shortSeconds, hzero, ← hread, ← Quantity.seconds_second hshort]
  rfl

/-- From a minute on there are hours and minutes before the seconds. -/
theorem parse_short_eq_of_minutes (hlow : 60000000 ≤ n) (hd : d.micros = n) (h : d.IsLegible) :
    parse d.short = ofSeconds? d.shortSeconds := by
  have hpos : 0 < n := by omega
  have ht := (isNear_toSeconds hpos hd).self
  obtain ⟨seconds, hexact, htext⟩ := short_toList_of_minutes (by omega) ht (size_lt hpos hd).le
  have hseconds : seconds = d.restSeconds := hexact.eq (isNear_restSeconds hpos hd)
  obtain ⟨numeral, hnumeral, hshort, hread, -⟩ := h.exists_numeral (by omega) hd
  rw [hseconds, hnumeral] at htext
  -- The sum of hours and minutes is exact, so it is the number of their seconds.
  have hless := inMinutes_lt hpos hd
  have hsixty : 60 ≤ ⌊d.toSeconds.size⌋₊ :=
    Nat.le_floor (by exact_mod_cast sixty_le_size hlow hd)
  have hminutes : 0 < d.inMinutes := by
    rw [inMinutes]
    omega
  have hsum : IsNear _ d.inMinutes 0 :=
    IsNear.of_isInteger (isInteger_leading (floor_lt hpos hd)) hminutes
  have hleading := hsum.eq (IsNatural.ofInt hless).isNear
  rw [parse_leading htext, hleading, Quantity.seconds_second hshort, hread]
  rfl

/-- A legible duration from a second on is read as its minutes and its rounded rest. -/
theorem parse_short_eq (hlow : 1000000 ≤ n) (hd : d.micros = n) (h : d.IsLegible) :
    parse d.short = ofSeconds? d.shortSeconds := by
  rcases Nat.lt_or_ge n 60000000 with hseconds | hminutes
  · exact parse_short_eq_of_seconds hlow hseconds hd h
  · exact parse_short_eq_of_minutes hminutes hd h

/-- The sum of the minutes and the rounded rest is two roundings away from the exact one. -/
theorem isNear_shortSeconds (hlow : 1000000 ≤ n) (hd : d.micros = n) (h : d.IsLegible) :
    ∃ w, IsSixDigits d.rest w ∧ IsNear d.shortSeconds (d.inMinutes + w) 2 := by
  obtain ⟨numeral, -, hshort, hread, hsix⟩ := h.exists_numeral hlow hd
  have hminutes := inMinutes_lt (by omega) hd
  have hmany : (d.inMinutes : ℚ) < 2 ^ 53 := by exact_mod_cast hminutes
  have hn : (1000000 : ℚ) ≤ n := by exact_mod_cast hlow
  have hsize := d.size_eq
  have hless := d.rest_bounds.2
  obtain ⟨hbelow, habove⟩ := abs_le.mp (hsix.abs_sub_le (by linarith))
  obtain ⟨hlarge, -⟩ := abs_le.mp (abs_size_sub_le (by omega) hd)
  have hleading := (IsNatural.ofInt hminutes).isNear.mono (Nat.cast_nonneg _) (Nat.zero_le 1)
  refine ⟨numeral.value, hsix, ?_⟩
  rw [shortSeconds, ← hread]
  exact hleading.add (Numeral.isNear_read hshort) (by decide) (by linarith) (by linarith)

end

/-! ## Texts that are refused -/

/-- A part has neither an exponent nor a sign. -/
theorem Part.IsWritten.ne_of_mem_text {p : Part} (h : p.IsWritten) {c : Char} (hc : c ∈ p.text) :
    c ≠ 'e' ∧ c ≠ '-' := by
  have hdigit (hc : Text.isDecimalDigit c) : c ≠ 'e' ∧ c ≠ '-' := by
    constructor
    all_goals
      rintro rfl
      exact absurd hc (by decide)
  rw [Part.text_eq, Part.number, List.append_assoc, List.mem_append, List.mem_append] at hc
  rcases hc with hwhole | hplaces | hunit
  · exact hdigit (h.isDecimalDigit_whole c hwhole)
  · cases hp : p.places with
    | none =>
      rw [hp] at hplaces
      contradiction
    | some ds =>
      rw [hp] at hplaces
      rcases List.mem_cons.mp hplaces with rfl | hplace
      · decide
      · exact hdigit (h.isDecimalDigit_places ds hp c hplace)
  · -- Of all units none is written with these letters.
    have hletters : ∀ u : Unit, ∀ c ∈ u.text, c ≠ 'e' ∧ c ≠ '-' := by
      intro u
      cases u
      all_goals simp [Unit.text]
    exact hletters p.unit c hunit

/-- A text of seconds with an exponent or a sign is refused. -/
theorem parse_eq_invalid_of_mem {s : String} (hplain : PlainText s.toList) (hs : 's' ∈ s.toList)
    {c : Char} (hc : c ∈ s.toList) (hodd : c = 'e' ∨ c = '-') :
    parse s = .error (.value (.duration (Text.quoted s))) := by
  have htrim := hplain.trim
  have hnumber : Literal.readDouble (Text.trim s.toList) = none := by
    rw [htrim, hplain.readDouble, Double.readPlainDouble_of_mem hs]
  rw [parse_eq_invalid_iff hnumber]
  rintro ⟨ps, hmade⟩
  rw [← htrim, hmade.text_eq] at hc
  obtain ⟨p, hp, hmem⟩ := List.mem_flatMap.mp hc
  obtain ⟨hletter, hsign⟩ := (hmade.isWritten p hp).ne_of_mem_text hmem
  exact hodd.elim hletter hsign

/-- The number of seconds is finite, and has the sign of the duration. -/
theorem isFinite_toSeconds (d : Duration) :
    d.toSeconds.isFinite ∧ d.toSeconds.isNegative = decide (d.micros < 0) := by
  have hsmall : d.micros.natAbs ≤ 2 ^ 100 * microsPerSecond := by
    have hrange := d.inRange
    rw [microsPerSecond]
    omega
  have hfits : Double.roundedUnits (d.micros.natAbs * Double.unitsPerOne) microsPerSecond <
      2 ^ 2098 := by
    apply Double.roundedUnits_lt_of_le (by decide)
    rw [Nat.mul_right_comm]
    exact Nat.mul_le_mul_right _ hsmall
  obtain ⟨hfinite, hsign, -⟩ :=
    Double.roundUnits_of_lt (decide (d.micros < 0)) (by decide) hfits
  exact ⟨hfinite, hsign⟩

/-- The short form is refused exactly if it has a sign or an exponent. -/
theorem parse_short_eq_invalid_iff (d : Duration) :
    parse d.short = .error (.value (.duration (Text.quoted d.short))) ↔ ¬d.IsLegible := by
  constructor
  · intro hinvalid hlegible
    obtain ⟨n, hd⟩ := Int.eq_ofNat_of_zero_le hlegible.1
    rcases Nat.lt_or_ge n 1000000 with hsmall | hlarge
    · rw [parse_short ⟨hlegible.1, .inr (by omega)⟩] at hinvalid
      contradiction
    · rw [parse_short_eq hlarge hd hlegible] at hinvalid
      exact ofSeconds?_ne_invalid d.shortSeconds _ hinvalid
  · intro h
    obtain ⟨hfinite, hsign⟩ := d.isFinite_toSeconds
    have hsecond : PlainText ['s'] := by decide
    rcases lt_or_ge d.micros 0 with hneg | hnonneg
    · -- The sign stands in front.
      have htext := short_toList_of_seconds (d := d) (by omega) (by omega)
      have hminus := Double.mem_general_of_isNegative hfinite (by rw [hsign]; simpa using hneg)
      refine parse_eq_invalid_of_mem ?_ ?_ (?_ : '-' ∈ _) (.inr rfl)
      · rw [htext]
        exact List.forall_mem_append.mpr ⟨Double.plainText_general hfinite, hsecond⟩
      · simp [htext]
      · rw [htext]
        exact List.mem_append_left _ hminus
    · -- The exponent stands in the seconds behind the minutes.
      unfold IsLegible at h
      push Not at h
      obtain ⟨hminutes, hsome, hless⟩ := h hnonneg
      obtain ⟨n, hd⟩ := Int.eq_ofNat_of_zero_le hnonneg
      have hpos : 0 < n := by omega
      obtain ⟨seconds, hexact, htext⟩ := short_toList_of_minutes hminutes
        (isNear_toSeconds hpos hd).self (size_lt hpos hd).le
      change IsNear seconds d.rest 0 at hexact
      have hletter := hexact.mem_general_of_lt (lt_of_le_of_ne d.rest_bounds.1 hsome.symm) hless
      refine parse_eq_invalid_of_mem ?_ ?_ (?_ : 'e' ∈ _) (.inl rfl)
      · rw [htext]
        exact List.forall_mem_append.mpr ⟨plainText_flatMap _, List.forall_mem_append.mpr
          ⟨Double.plainText_general hexact.isFinite, hsecond⟩⟩
      · simp [htext]
      · rw [htext]
        exact List.mem_append_right _ (List.mem_append_left _ hletter)

/-- What is read back is legible. -/
theorem isLegible_of_parse_short {d : Duration} (hback : parse d.short = .ok d) : d.IsLegible := by
  by_contra h
  rw [(parse_short_eq_invalid_iff d).mpr h] at hback
  contradiction

/-! ## The last digit -/

/-- The microseconds that the last of six digits stands for, in so many of them. -/
def gridOf (r : ℕ) : ℕ := if r < 1000000 then 1 else if r < 10000000 then 10 else 100

/-- The last digit stands for a positive number of microseconds. -/
theorem gridOf_pos (r : ℕ) : 0 < gridOf r := by
  unfold gridOf
  split_ifs <;> decide

/-- The last digit stands for 100 microseconds at most. -/
theorem gridOf_le (r : ℕ) : gridOf r ≤ 100 := by
  unfold gridOf
  split_ifs <;> decide

/-- A minute is a multiple. -/
theorem gridOf_dvd (r : ℕ) : gridOf r ∣ 60000000 := by
  unfold gridOf
  split_ifs <;> decide

/-- Six digits of seconds that are close to a number of microseconds are a multiple of what the last
digit stands for, one of those that are nearest to the number. -/
theorem exists_nearest_multiple {r : ℕ} {s w : ℚ} (hpos : 0 < r) (hlt : r < 60000000)
    (hs : |s * 10 ^ 6 - r| ≤ 112 / 1000) (hw : IsSixDigits s w) :
    ∃ m : ℕ, |w * 10 ^ 6 - m| ≤ 162 / 1000 ∧ gridOf r ∣ m ∧
      2 * ((m : ℤ) - r).natAbs ≤ gridOf r := by
  have hone : (1 : ℚ) ≤ r := by exact_mod_cast hpos
  have hmost : (r : ℚ) + 1 ≤ 60000000 := by exact_mod_cast hlt
  obtain ⟨hless, hmore⟩ := abs_le.mp hs
  obtain ⟨rfl, -⟩ | ⟨e, m, hlow, hhigh, rfl, hnear⟩ := hw
  · linarith
  have hpow {a b : ℤ} (h : a ≤ b) : (10 : ℚ) ^ a ≤ 10 ^ b := zpow_le_zpow_right₀ (by norm_num) h
  have he : e < 2 := by
    apply Double.exponent_lt hlow
    norm_num
    linarith
  obtain ⟨hbelow, habove⟩ := abs_le.mp hnear
  -- Where the first digit stands decides what the last one stands for.
  rcases (show e ≤ -2 ∨ e = -1 ∨ e = 0 ∨ e = 1 by omega) with hsmall | rfl | rfl | rfl
  · have hunit : (10 : ℚ) ^ (e - 5) ≤ 1 / 10 ^ 7 := by
      calc (10 : ℚ) ^ (e - 5) ≤ 10 ^ (-7 : ℤ) := hpow (by omega)
        _ = 1 / 10 ^ 7 := by norm_num
    have hfirst : (10 : ℚ) ^ (e + 1) ≤ 1 / 10 := by
      calc (10 : ℚ) ^ (e + 1) ≤ 10 ^ (-1 : ℤ) := hpow (by omega)
        _ = 1 / 10 := by norm_num
    -- The last digit is finer than a microsecond, so the number itself is the nearest.
    have hr : r < 1000000 := by
      have hr' : (r : ℚ) < 1000000 := by linarith
      exact_mod_cast hr'
    refine ⟨r, abs_le.mpr ⟨by linarith, by linarith⟩, ?_, by simp⟩
    rw [gridOf, if_pos hr]
    exact Nat.one_dvd r
  · -- A microsecond; just below one second the rest may have been rounded from above.
    norm_num at hlow hhigh hbelow habove
    have hm : m = r := eq_of_close (abs_lt.mpr ⟨by linarith, by linarith⟩)
    have hr : r < 1000001 := by
      have hr' : (r : ℚ) < 1000001 := by linarith
      exact_mod_cast hr'
    refine ⟨m, abs_le.mpr ⟨by linarith, by linarith⟩, ?_, by simp [hm]⟩
    rw [hm, gridOf]
    split_ifs <;> omega
  · -- Ten microseconds, with both ends of the range a microsecond further.
    norm_num at hlow hhigh hbelow habove
    have hr : 999999 < r ∧ r < 10000001 := by
      have hr' : (999999 : ℚ) < r ∧ (r : ℚ) < 10000001 := ⟨by linarith, by linarith⟩
      exact_mod_cast hr'
    have hm : 10 * m < r + 6 ∧ r < 10 * m + 6 := by
      have hm' : (10 * m : ℚ) < r + 6 ∧ (r : ℚ) < 10 * m + 6 := ⟨by linarith, by linarith⟩
      exact_mod_cast hm'
    have hten : ((10 * m : ℕ) : ℚ) = 10 * m := by push_cast; rfl
    refine ⟨10 * m, abs_le.mpr ⟨by linarith, by linarith⟩, ?_, ?_⟩
    all_goals
      unfold gridOf
      split_ifs <;> omega
  · -- A hundred microseconds.
    norm_num at hlow hhigh hbelow habove
    have hr : 9999999 < r := by
      have hr' : (9999999 : ℚ) < r := by linarith
      exact_mod_cast hr'
    have hm : 100 * m < r + 51 ∧ r < 100 * m + 51 := by
      have hm' : (100 * m : ℚ) < r + 51 ∧ (r : ℚ) < 100 * m + 51 := ⟨by linarith, by linarith⟩
      exact_mod_cast hm'
    have hhundred : ((100 * m : ℕ) : ℚ) = 100 * m := by push_cast; rfl
    refine ⟨100 * m, abs_le.mpr ⟨by linarith, by linarith⟩, ?_, ?_⟩
    all_goals
      unfold gridOf
      split_ifs <;> omega

/-- The microseconds that the last digit of the short form stands for. -/
def grid (d : Duration) : ℕ := gridOf (d.micros % 60000000).toNat

section

variable {d : Duration} {n : ℕ}

/-- Up to some decades the rest is the exact one but for a small part of a microsecond. -/
theorem rest_close (hpos : 0 < n) (hn : n < 10 ^ 15) (hd : d.micros = n) :
    d.inMinutes = n / 60000000 * 60 ∧ |d.rest * 10 ^ 6 - (n % 60000000 : ℕ)| ≤ 112 / 1000 := by
  have hmost : (n : ℚ) ≤ 10 ^ 15 := by exact_mod_cast hn.le
  have hsplit : (n : ℚ) = (n / 60000000 * 60 : ℕ) * 10 ^ 6 + (n % 60000000 : ℕ) := by
    exact_mod_cast (show n = n / 60000000 * 60 * 10 ^ 6 + n % 60000000 by omega)
  obtain ⟨hbelow, habove⟩ := abs_le.mp (abs_size_sub_le hpos hd)
  have hless : ((n % 60000000 : ℕ) : ℚ) + 1 ≤ 60000000 := by
    exact_mod_cast (show n % 60000000 + 1 ≤ 60000000 by omega)
  have hnonneg : (0 : ℚ) ≤ (n % 60000000 : ℕ) := Nat.cast_nonneg _
  -- The number of seconds is in the same minute as the exact one.
  have hunder : n / 60000000 * 60 ≤ ⌊d.toSeconds.size⌋₊ := by
    apply Nat.le_floor
    rcases Nat.eq_zero_or_pos (n % 60000000) with hzero | hsome
    · exact (size_of_minutes hn hd hzero).ge
    · have hone : (1 : ℚ) ≤ (n % 60000000 : ℕ) := by exact_mod_cast hsome
      linarith
  have hover : ⌊d.toSeconds.size⌋₊ < n / 60000000 * 60 + 60 := by
    rw [Nat.floor_lt (Double.size_nonneg _)]
    push_cast at hsplit ⊢
    linarith
  have hminutes : d.inMinutes = n / 60000000 * 60 := by
    rw [inMinutes]
    omega
  refine ⟨hminutes, ?_⟩
  rw [rest, hminutes]
  exact abs_le.mpr ⟨by linarith, by linarith⟩

/-- A legible duration is read as a multiple of what the last digit stands for, one of those that
are nearest to it. -/
theorem exists_parse_short_eq_ok (hn : n < 10 ^ 15) (hd : d.micros = n) (h : d.IsLegible) :
    ∃ e, parse d.short = .ok e ∧ (d.grid : ℤ) ∣ e.micros ∧
      2 * (e.micros - d.micros).natAbs ≤ d.grid := by
  have hgrid : d.grid = gridOf (n % 60000000) := by
    rw [grid, hd]
    norm_cast
  -- Fractions of a second and whole minutes are exact; all others have six digits of seconds.
  rcases (show n < 1000000 ∨ n % 60000000 = 0 ∨ 1000000 ≤ n ∧ 0 < n % 60000000 by omega) with
    hsmall | hwhole | ⟨hlow, hsome⟩
  · have hone : d.grid = 1 := by
      rw [hgrid, gridOf, if_pos (by omega)]
    exact ⟨d, parse_short ⟨h.1, .inr (by omega)⟩, by simp [hone], by simp⟩
  · have hone : d.grid = 1 := by
      rw [hgrid, hwhole]
      rfl
    exact ⟨d, parse_short ⟨h.1, .inl (by omega)⟩, by simp [hone], by simp⟩
  · obtain ⟨hminutes, hclose⟩ := rest_close (by omega) hn hd
    obtain ⟨w, hsix, hx⟩ := isNear_shortSeconds hlow hd h
    obtain ⟨m, hm, hdvd, hnearest⟩ :=
      exists_nearest_multiple hsome (Nat.mod_lt n (by decide)) hclose hsix
    rw [hminutes] at hx
    -- Both roundings together move the sum by less than half a microsecond.
    have hround :
        |d.shortSeconds.size * 10 ^ 6 - (n / 60000000 * 60000000 + m : ℕ)| ≤ 499 / 1000 := by
      have hdrift : drift 2 ≤ 2221 / 10 ^ 19 := by norm_num [drift, Double.unitRoundoff]
      have hsum : ((n / 60000000 * 60000000 + m : ℕ) : ℚ) =
          (n / 60000000 * 60 : ℕ) * 10 ^ 6 + m := by
        push_cast
        ring
      have hmost : ((n / 60000000 * 60 : ℕ) : ℚ) ≤ 10 ^ 9 := by
        exact_mod_cast (show n / 60000000 * 60 ≤ 10 ^ 9 by omega)
      have hbounds := d.rest_bounds
      obtain ⟨hbelow, habove⟩ := abs_le.mp (hsix.abs_sub_le (by linarith))
      have hmoved : ((n / 60000000 * 60 : ℕ) + w) * drift 2 ≤ (10 ^ 9 + 61) * (2221 / 10 ^ 19) :=
        mul_le_mul (by linarith) hdrift (Double.drift_nonneg 2) (by norm_num)
      obtain ⟨hless, hmore⟩ := abs_le.mp (hx.near.trans hmoved)
      obtain ⟨hless', hmore'⟩ := abs_le.mp hm
      rw [hsum]
      exact abs_le.mpr ⟨by linarith, by linarith⟩
    have hhundred := gridOf_le (n % 60000000)
    have hmost : n / 60000000 * 60000000 + m ≤ 10 ^ 16 := by omega
    refine ⟨⟨(n / 60000000 * 60000000 + m : ℕ), by omega⟩, ?_, ?_, ?_⟩
    · rw [parse_short_eq hlow hd h, ofSeconds?_of_close hx.self hround]
      exact liftRange_ofMicros? rfl
    · rw [hgrid]
      exact Int.natCast_dvd_natCast.mpr (dvd_add ((gridOf_dvd _).mul_left _) hdvd)
    · rw [hgrid, hd]
      dsimp only
      omega

/-- A duration is read back exactly if it is legible and a multiple of what the last digit stands
for. -/
theorem parse_short_eq_ok_iff (hn : d.micros < 10 ^ 15) :
    parse d.short = .ok d ↔ d.IsLegible ∧ (d.grid : ℤ) ∣ d.micros := by
  constructor
  · intro hback
    have hlegible := isLegible_of_parse_short hback
    obtain ⟨n, hd⟩ := Int.eq_ofNat_of_zero_le hlegible.1
    obtain ⟨e, he, hdvd, -⟩ := exists_parse_short_eq_ok (by omega) hd hlegible
    rw [hback] at he
    cases he
    exact ⟨hlegible, hdvd⟩
  · rintro ⟨hlegible, hdvd⟩
    obtain ⟨n, hd⟩ := Int.eq_ofNat_of_zero_le hlegible.1
    obtain ⟨e, he, hdvd', hnear⟩ := exists_parse_short_eq_ok (by omega) hd hlegible
    -- Two multiples not further apart than half of what they are multiples of are the same.
    have heq : e.micros = d.micros := by
      have hpos : 0 < d.grid := gridOf_pos _
      have hlt : (e.micros - d.micros).natAbs < (d.grid : ℤ).natAbs := by
        rw [Int.natAbs_natCast]
        omega
      exact sub_eq_zero.mp
        (Int.eq_zero_of_dvd_of_natAbs_lt_natAbs (dvd_sub hdvd' hdvd) hlt)
    rw [he, eq_of_micros heq]

/-- What is read is at most half of the fourth place away from the duration, and what the doubles
add to that. -/
theorem shortSeconds_close (hlow : 1000000 ≤ n) (hd : d.micros = n) (h : d.IsLegible) :
    d.shortSeconds.isFinite ∧ d.shortSeconds.isNegative = false ∧
      |d.shortSeconds.size - (n / 10 ^ 6 : ℚ)| ≤ 1 / 20000 + n / 10 ^ 6 / 2 ^ 50 := by
  obtain ⟨w, hsix, hx⟩ := isNear_shortSeconds hlow hd h
  refine ⟨hx.isFinite, hx.isNegative, ?_⟩
  have hone : (1 : ℚ) ≤ n / 10 ^ 6 := by
    rw [le_div_iff₀ (by norm_num), one_mul]
    exact_mod_cast hlow
  have hdrift : drift 2 ≤ 3 / 2 ^ 53 := by norm_num [drift, Double.unitRoundoff]
  have hbounds := d.rest_bounds
  have hsize := d.size_eq
  -- Three errors add up: of the seconds, of their six digits, and of the sum.
  obtain ⟨hbelow, habove⟩ := abs_le.mp (hsix.abs_sub_le (by linarith))
  obtain ⟨hless, hmore⟩ := abs_le.mp (abs_size_sub_le (by omega) hd)
  rw [hsize] at hless hmore
  generalize (n / 10 ^ 6 : ℚ) = exact at *
  have hmoved : (d.inMinutes + w) * drift 2 ≤ 3 / 2 * exact * (3 / 2 ^ 53) :=
    mul_le_mul (by linarith) hdrift (Double.drift_nonneg 2) (by linarith)
  obtain ⟨hless', hmore'⟩ := abs_le.mp (hx.near.trans hmoved)
  exact abs_le.mpr ⟨by linarith, by linarith⟩

/-- A duration is legible if its microseconds beyond the whole minutes are none or more than a
hundred; a hundred of them are where the rounding decides. -/
theorem isLegible_iff (hn : n < 10 ^ 15) (hd : d.micros = n) (hne : n % 60000000 ≠ 100) :
    d.IsLegible ↔ n < 60000000 ∨ n % 60000000 = 0 ∨ 100 < n % 60000000 := by
  have hnonneg : 0 ≤ d.micros := by omega
  have hseconds : d.micros < 60000000 ↔ n < 60000000 := by omega
  rcases Nat.eq_zero_or_pos n with rfl | hpos
  · exact iff_of_true ⟨hnonneg, .inl (by omega)⟩ (.inl (by decide))
  obtain ⟨hminutes, hclose⟩ := rest_close hpos hn hd
  obtain ⟨hless, hmore⟩ := abs_le.mp hclose
  rw [IsLegible, and_iff_right hnonneg, hseconds]
  -- The least rest that is written without an exponent lies between 99 and 101 microseconds.
  refine or_congr_right' fun hlarge => ?_
  rcases (show n % 60000000 = 0 ∨ (0 < n % 60000000 ∧ n % 60000000 < 100) ∨ 100 < n % 60000000 by
    omega) with hzero | ⟨hsome, hfew⟩ | hmany
  · have hrest : d.rest = 0 := by
      rw [rest, hminutes, size_of_minutes hn hd hzero, sub_self]
    exact iff_of_true (.inl hrest) (.inl hzero)
  · have hone : (1 : ℚ) ≤ (n % 60000000 : ℕ) := by exact_mod_cast hsome
    have hmost : ((n % 60000000 : ℕ) : ℚ) + 1 ≤ 100 := by exact_mod_cast hfew
    refine iff_of_false (fun h => ?_) (by omega)
    rw [leastPositional] at h
    rcases h with hrest | hlegible <;> linarith
  · have hmore : (101 : ℚ) ≤ (n % 60000000 : ℕ) := by exact_mod_cast hmany
    refine iff_of_true (.inr ?_) (.inr hmany)
    rw [leastPositional]
    linarith

end

/-! ## All durations -/

/-- A duration from a second on is read back exactly if it is legible and the sum of its minutes and
its rounded rest is still the duration; a shorter one if it is not negative. -/
theorem parse_short_eq_ok_iff_shortSeconds (d : Duration) :
    parse d.short = .ok d ↔
      d.IsLegible ∧ (1000000 ≤ d.micros → ofSeconds? d.shortSeconds = .ok d) := by
  constructor
  · intro hback
    have hlegible := isLegible_of_parse_short hback
    obtain ⟨n, hd⟩ := Int.eq_ofNat_of_zero_le hlegible.1
    refine ⟨hlegible, fun hlow => ?_⟩
    rw [← parse_short_eq (by omega) hd hlegible, hback]
  · rintro ⟨hlegible, hback⟩
    obtain ⟨n, hd⟩ := Int.eq_ofNat_of_zero_le hlegible.1
    rcases Nat.lt_or_ge n 1000000 with hsmall | hlarge
    · exact parse_short ⟨hlegible.1, .inr (by omega)⟩
    · rw [parse_short_eq hlarge hd hlegible]
      exact hback (by omega)

/-- The short form of a duration is refused exactly if it has a sign or an exponent, and otherwise
read as its minutes and its rest rounded to six significant digits. Whole seconds are always read
back. Below `10 ^ 15` microseconds the nearest multiple of what the last digit stands for is read,
so exactly these multiples are read back. Of any duration from a second on what is read is away by
at most half of the fourth place and what doubles of this size add to that. -/
theorem parse_short_outcome (d : Duration) :
    (parse d.short = .error (.value (.duration (Text.quoted d.short))) ↔ ¬d.IsLegible) ∧
    (parse d.short = .ok d ↔
      d.IsLegible ∧ (1000000 ≤ d.micros → ofSeconds? d.shortSeconds = .ok d)) ∧
    (0 ≤ d.micros → 1000000 ∣ d.micros → parse d.short = .ok d) ∧
    (d.micros < 10 ^ 15 →
      (parse d.short = .ok d ↔ d.IsLegible ∧ (d.grid : ℤ) ∣ d.micros) ∧
      (d.IsLegible → ∃ e, parse d.short = .ok e ∧ (d.grid : ℤ) ∣ e.micros ∧
        2 * (e.micros - d.micros).natAbs ≤ d.grid)) ∧
    ∀ n : ℕ, d.micros = n →
      (n < 10 ^ 15 → n % 60000000 ≠ 100 →
        (d.IsLegible ↔ n < 60000000 ∨ n % 60000000 = 0 ∨ 100 < n % 60000000)) ∧
      (1000000 ≤ n → d.IsLegible →
        parse d.short = ofSeconds? d.shortSeconds ∧
        d.shortSeconds.isFinite ∧ d.shortSeconds.isNegative = false ∧
        |d.shortSeconds.size - (n / 10 ^ 6 : ℚ)| ≤ 1 / 20000 + n / 10 ^ 6 / 2 ^ 50) := by
  refine ⟨parse_short_eq_invalid_iff d, parse_short_eq_ok_iff_shortSeconds d,
    fun hnonneg hwhole => parse_short ⟨hnonneg, .inl hwhole⟩,
    fun hshort => ⟨parse_short_eq_ok_iff hshort, fun hlegible => ?_⟩,
    fun n hd => ⟨fun hn => isLegible_iff hn hd, fun hlow hlegible =>
      ⟨parse_short_eq hlow hd hlegible, shortSeconds_close hlow hd hlegible⟩⟩⟩
  obtain ⟨n, hd⟩ := Int.eq_ofNat_of_zero_le hlegible.1
  exact exists_parse_short_eq_ok (by omega) hd hlegible

/-- Five seconds before are refused, and so is a minute with ten microseconds; of twelve seconds and
a part the last two digits are lost. -/
theorem parse_short_outcome_minus_five :
    (∃ fault, parse (Duration.short ⟨-5000000, by decide⟩) = .error fault) ∧
      (∃ fault, parse (Duration.short ⟨60000010, by decide⟩) = .error fault) ∧
      parse (Duration.short ⟨12345678, by decide⟩) ≠ .ok ⟨12345678, by decide⟩ := by
  obtain ⟨hbefore, -⟩ := parse_short_outcome ⟨-5000000, by decide⟩
  obtain ⟨hminute, -, -, -, hlegible⟩ := parse_short_outcome ⟨60000010, by decide⟩
  obtain ⟨-, -, -, hback, -⟩ := parse_short_outcome ⟨12345678, by decide⟩
  refine ⟨⟨_, hbefore.mpr fun h => ?_⟩, ⟨_, hminute.mpr fun h => ?_⟩, fun h => ?_⟩
  · exact absurd h.1 (by decide)
  · have hrest := ((hlegible 60000010 rfl).1 (by decide) (by decide)).mp h
    exact absurd hrest (by decide)
  · obtain ⟨-, hdvd⟩ := (hback (by decide)).1.mp h
    exact absurd hdvd (by decide)

end Vigil.Duration
