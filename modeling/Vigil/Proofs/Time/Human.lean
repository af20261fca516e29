import Vigil.Proofs.Time.Sums

/-!
# The human form of durations

From a minute on, the human form is the positional notation of the whole seconds
(`Duration.IsPositional`): the counts of years, days, hours, minutes and seconds, from the first one
that is not zero down to the seconds. It is read as the duration of these seconds.

The whole seconds are those of the nearest double. If the duration has nothing beyond them, they are
exact. Otherwise a microsecond at least is missing to the next second, and below `2 ^ 34` seconds
that is more than half of what doubles are apart, so the double stays below the next second as well
(`Duration.trunc?_toSeconds`).

The main statement is `Duration.humanize_positional`.
-/

namespace Vigil.Duration

open Double (IsNear)

attribute [local irreducible] Double.unitsPerOne

/-- A minute at least, and either without a part of a second or less than `2 ^ 34` seconds. -/
def IsHuman (d : Duration) : Prop :=
  60000000 ≤ d.micros ∧ ((1000000 : ℤ) ∣ d.micros ∨ d.micros < 2 ^ 34 * 1000000)

instance (d : Duration) : Decidable d.IsHuman := inferInstanceAs (Decidable (_ ∧ _))

/-- The whole seconds of a duration that is not negative. -/
def wholeSeconds (d : Duration) : ℕ := d.micros.toNat / 1000000

/-- How many of a unit of the human form make one of the next larger unit. -/
def Unit.radix : Unit → ℕ
  | .day => 365
  | .hour => 24
  | .minute => 60
  | .second => 60
  | _ => 0

/-- Counts of units as they are written. -/
def countText (fields : List (ℕ × Unit)) : List Char :=
  fields.flatMap fun f => Decimal.digits f.1 ++ f.2.text

/-- The seconds of counts of units. -/
def countedSeconds (fields : List (ℕ × Unit)) : ℚ := (fields.map fun f => (f.1 : ℚ) * f.2.span).sum

/-- Counts of units are the positional notation of a number of seconds. -/
structure IsPositional (fields : List (ℕ × Unit)) (total : ℕ) : Prop where
  /-- The units follow each other without gaps, down to the seconds. -/
  units : fields.map Prod.snd <:+ [.year, .day, .hour, .minute, .second]
  /-- There is a first count, and it is not zero. -/
  leading : ∃ f ∈ fields.head?, 0 < f.1
  /-- The counts behind it make up less than one of the next larger unit. -/
  below : ∀ f ∈ fields.tail, f.1 < f.2.radix
  /-- Together they are the number of seconds. -/
  sum : countedSeconds fields = total

/-! ## Whole seconds -/

section

variable {d : Duration} {n : ℕ}

/-- The integer part of the number of seconds is that of the duration. -/
theorem trunc?_toSeconds (hpos : 0 < n) (hd : d.micros = n)
    (h : 1000000 ∣ n ∨ n < 2 ^ 34 * 1000000) :
    d.toSeconds.trunc? = some ((n / 1000000 : ℕ) : ℤ) := by
  have hrange := d.inRange.2
  rcases Nat.eq_zero_or_pos (n % 1000000) with hwhole | hpart
  · -- Without a part of a second nothing is rounded.
    have hmicros : d.micros = (n / 1000000 : ℕ) * microsPerSecond := by
      rw [hd, microsPerSecond]
      omega
    exact (isNatural_toSeconds (by omega) hmicros).isInteger.trunc?
  · have hlt : n < 2 ^ 34 * 1000000 := h.resolve_left fun hdvd => by omega
    have hclose : |d.toSeconds.size - (n / (1000000 : ℕ) : ℚ)| ≤ 2 ^ 34 / 2 ^ 54 := by
      have hsign : decide (d.micros < 0) = false := by simp [hd]
      rw [toSeconds, hsign, hd, Int.natAbs_natCast]
      exact Double.abs_size_ofRatio_sub_le (by decide) hlt (by decide)
    obtain ⟨hbelow, habove⟩ := abs_le.mp hclose
    have hsplit : (n : ℚ) = (n / 1000000 : ℕ) * 1000000 + (n % 1000000 : ℕ) := by
      exact_mod_cast (Nat.div_add_mod' n 1000000).symm
    -- It is a microsecond at least from these seconds, and as much to the next.
    have hone : (1 : ℚ) ≤ (n % 1000000 : ℕ) := by exact_mod_cast hpart
    have hless : ((n % 1000000 : ℕ) : ℚ) + 1 ≤ 1000000 := by
      exact_mod_cast Nat.mod_lt n (by decide)
    have hnear := (isNear_toSeconds hpos hd).self
    rw [hnear.trunc?, Option.some.injEq, Nat.cast_inj, Nat.floor_eq_iff (Double.size_nonneg _)]
    push_cast at hbelow habove hsplit ⊢
    constructor <;> linarith

end

/-! ## Positional notation -/

/-- The counts of all units in so many seconds. -/
def counts (total : ℕ) : List (ℕ × Unit) :=
  [(total / 60 / 60 / 24 / 365, .year), (total / 60 / 60 / 24 % 365, .day),
    (total / 60 / 60 % 24, .hour), (total / 60 % 60, .minute), (total % 60, .second)]

/-- The counts from the first one on that is not zero. -/
def positional (total : ℕ) : List (ℕ × Unit) := (counts total).dropWhile (·.1 = 0)

/-- All counts together are the number of seconds. -/
theorem countedSeconds_counts (total : ℕ) : countedSeconds (counts total) = total := by
  have hsum : total / 60 / 60 / 24 / 365 * 31536000 + total / 60 / 60 / 24 % 365 * 86400 +
      total / 60 / 60 % 24 * 3600 + total / 60 % 60 * 60 + total % 60 = total := by omega
  have hcast : ((_ : ℕ) : ℚ) = total := congrArg Nat.cast hsum
  push_cast at hcast
  simp only [countedSeconds, counts, List.map_cons, List.map_nil, List.sum_cons, List.sum_nil,
    Unit.span]
  linarith

/-- Zeros in front make no difference to the sum. -/
theorem countedSeconds_dropWhile (fields : List (ℕ × Unit)) :
    countedSeconds (fields.dropWhile (·.1 = 0)) = countedSeconds fields := by
  unfold countedSeconds
  induction fields with
  | nil => rfl
  | cons f fields ih =>
    by_cases hzero : f.1 = 0
    · rw [List.dropWhile_cons_of_pos (by simpa using hzero), ih, List.map_cons, List.sum_cons,
        hzero, Nat.cast_zero, zero_mul, zero_add]
    · rw [List.dropWhile_cons_of_neg (by simpa using hzero)]

/-- Without the zeros in front, the counts are the positional notation. -/
theorem isPositional_positional {total : ℕ} (h : 0 < total) :
    IsPositional (positional total) total := by
  have hsum : countedSeconds (positional total) = total := by
    rw [positional, countedSeconds_dropWhile, countedSeconds_counts]
  have hsuffix : positional total <:+ counts total := List.dropWhile_suffix _
  refine ⟨hsuffix.map Prod.snd, ?_, fun f hf => ?_, hsum⟩
  · have hne : positional total ≠ [] := by
      intro hnil
      rw [hnil, countedSeconds, List.map_nil, List.sum_nil] at hsum
      exact h.ne (by exact_mod_cast hsum)
    refine ⟨_, List.head?_eq_some_head hne, Nat.pos_of_ne_zero fun hzero => ?_⟩
    have hhead := List.head_dropWhile_not (fun f : ℕ × Unit => decide (f.1 = 0)) hne
    rw [decide_eq_false_iff_not] at hhead
    exact hhead hzero
  · have hbelow : ∀ f ∈ (counts total).tail, f.1 < f.2.radix := by
      simp [counts, Unit.radix, Nat.mod_lt]
    exact hbelow f (hsuffix.sublist.tail.subset hf)

/-- The fields that are written are these counts. -/
theorem fieldText_humanFields {total : ℕ} (h : 60 ≤ total) :
    humanFields total ≠ [] ∧ fieldText (humanFields total) = countText (positional total) := by
  unfold humanFields positional counts countText
  dsimp only
  -- The cases are the leading units: what would be written before them is zero.
  split_ifs with hyears hdays hhours hminutes
  · simp [fieldText, Unit.text, hyears.ne']
  · have hyear : total / 60 / 60 / 24 / 365 = 0 := by omega
    have hday : total / 60 / 60 / 24 % 365 = total / 60 / 60 / 24 := by omega
    simp [fieldText, Unit.text, hyear, hday, hdays.ne']
  · have hyear : total / 60 / 60 / 24 / 365 = 0 := by omega
    have hday : total / 60 / 60 / 24 % 365 = 0 := by omega
    have hhour : total / 60 / 60 % 24 = total / 60 / 60 := by omega
    simp [fieldText, Unit.text, hyear, hday, hhour, hhours.ne']
  · have hyear : total / 60 / 60 / 24 / 365 = 0 := by omega
    have hday : total / 60 / 60 / 24 % 365 = 0 := by omega
    have hhour : total / 60 / 60 % 24 = 0 := by omega
    have hminute : total / 60 % 60 = total / 60 := by omega
    simp [fieldText, Unit.text, hyear, hday, hhour, hminute, hminutes.ne']
  · omega

/-! ## Writing and reading -/

/-- Counts of units as parts of a duration. -/
def countParts (fields : List (ℕ × Unit)) : List Part :=
  fields.map fun f => (Quantity.mk (.ofNat f.1) f.2).part

/-- Counted parts add up to the seconds that are counted. -/
theorem spanSum_countParts (fields : List (ℕ × Unit)) :
    spanSum (countParts fields) = countedSeconds fields := by
  rw [spanSum, countParts, List.map_map, countedSeconds]
  refine congrArg List.sum (List.map_congr_left fun f _ => ?_)
  change (Quantity.mk (.ofNat f.1) f.2).part.count * _ = _
  rw [Quantity.count_part, Literal.Numeral.value_ofNat]
  rfl

/-- A text of counts is made of these parts. -/
theorem isMadeOf_countParts {s : String} {fields : List (ℕ × Unit)} (hne : fields ≠ [])
    (hs : s.toList = countText fields) : IsMadeOf s (countParts fields) := by
  have hparts : countParts fields =
      (fields.map fun f => Quantity.mk (.ofNat f.1) f.2).map Quantity.part := by
    rw [countParts, List.map_map]
    rfl
  have htext : s.toList =
      (fields.map fun f => Quantity.mk (.ofNat f.1) f.2).flatMap Quantity.text := by
    rw [hs, countText, List.flatMap_map]
    rfl
  refine ⟨by simpa [countParts] using hne, fun p hp => ?_, ?_⟩
  · obtain ⟨f, -, rfl⟩ := List.mem_map.mp hp
    exact Quantity.isWritten_part _
  · rw [hparts, partsText_map_part, htext, (plainText_flatMap _).trim]

namespace IsPositional

variable {fields : List (ℕ × Unit)} {total : ℕ}

/-- A positional form has a field. -/
theorem ne_nil (h : IsPositional fields total) : fields ≠ [] := by
  obtain ⟨f, hf, -⟩ := h.leading
  rintro rfl
  contradiction

/-- The units are not shorter than a second, so all parts are whole. -/
theorem isWhole (h : IsPositional fields total) : ∀ p ∈ countParts fields, p.IsWhole := by
  intro p hp
  obtain ⟨f, hf, rfl⟩ := List.mem_map.mp hp
  refine ⟨⟨f.1, ?_⟩, ?_⟩
  · rw [Quantity.count_part, Literal.Numeral.value_ofNat]
  · have hunit := h.units.subset (List.mem_map_of_mem hf)
    simp only [List.mem_cons, List.not_mem_nil, or_false] at hunit
    change 1 ≤ f.2.span
    rcases hunit with hunit | hunit | hunit | hunit | hunit
    all_goals
      rw [hunit]
      norm_num [Unit.span]

/-- The positional notation of a number of seconds is read as so many seconds. -/
theorem parse_eq_ok (h : IsPositional fields total) {s : String}
    (hs : s.toList = countText fields) (hmost : total * 1000000 ≤ longest.micros) :
    ∃ e, parse s = .ok e ∧ e.micros = total * 1000000 := by
  have hsum : spanSum (countParts fields) = total := (spanSum_countParts fields).trans h.sum
  obtain ⟨e, he, hmicros⟩ := (isMadeOf_countParts h.ne_nil hs).parse_eq_ok h.isWhole (by
    rw [hsum]
    norm_num
    exact_mod_cast hmost)
  rw [hsum] at hmicros
  refine ⟨e, he, ?_⟩
  norm_num at hmicros
  exact_mod_cast hmicros

end IsPositional

section

variable {d e : Duration}

/-- From a minute on the text is made of the counts of the whole seconds. -/
theorem IsHuman.toList_humanize (h : d.IsHuman) :
    d.humanize.toList = countText (positional d.wholeSeconds) := by
  obtain ⟨hlow, hexact⟩ := h
  obtain ⟨n, hd⟩ := Int.eq_ofNat_of_zero_le (show 0 ≤ d.micros by omega)
  have hwhole : d.wholeSeconds = n / 1000000 := by rw [wholeSeconds, hd, Int.toNat_natCast]
  obtain ⟨hne, htext⟩ := fieldText_humanFields (show 60 ≤ n / 1000000 by omega)
  rw [humanize, if_neg (by omega), humanMagnitude, trunc?_toSeconds (by omega) hd (by omega),
    Option.getD_some, Int.toNat_natCast, if_neg (by simpa using hne), String.toList_ofList, htext,
    hwhole]

/-- The opposite duration has the text with a sign before it. -/
theorem humanize_neg (hpos : 0 < d.micros) (he : e.micros = -d.micros) :
    e.humanize = "-" ++ d.humanize := by
  have hseconds : -e.toSeconds = d.toSeconds := by
    rw [toSeconds, toSeconds, Double.neg_ofRatio, he, Int.natAbs_neg]
    congr 1
    simp [hpos.le, hpos]
  rw [humanize, if_pos (by omega), hseconds, humanize, if_neg (by omega)]

/-- From a minute on the human form is the positional notation of the whole seconds and is read as
so many seconds, so two durations have the same text exactly if they have the same whole seconds.
The opposite duration has the text with a sign before it. Of durations with a part of a second this
holds below `2 ^ 34` seconds, of whole seconds without a bound. -/
theorem humanize_positional {d : Duration} (h : d.IsHuman) :
    (∃ fields, IsPositional fields d.wholeSeconds ∧ d.humanize.toList = countText fields) ∧
    (∃ e, parse d.humanize = .ok e ∧ e.micros = d.wholeSeconds * 1000000) ∧
    (∀ e : Duration, e.IsHuman → (d.humanize = e.humanize ↔ d.wholeSeconds = e.wholeSeconds)) ∧
    ∀ e : Duration, e.micros = -d.micros → e.humanize = "-" ++ d.humanize := by
  have hpositional {c : Duration} (hc : c.IsHuman) :
      IsPositional (positional c.wholeSeconds) c.wholeSeconds := by
    have hlow := hc.1
    apply isPositional_positional
    rw [wholeSeconds]
    omega
  have hparse {c : Duration} (hc : c.IsHuman) :
      ∃ e, parse c.humanize = .ok e ∧ e.micros = c.wholeSeconds * 1000000 := by
    have hlow := hc.1
    have hmost := c.inRange.2
    refine (hpositional hc).parse_eq_ok hc.toList_humanize ?_
    rw [longest_micros, wholeSeconds]
    omega
  have hlow := h.1
  refine ⟨⟨_, hpositional h, h.toList_humanize⟩, hparse h,
    fun e he => ⟨fun htext => ?_, fun hwhole => ?_⟩, fun e he => humanize_neg (by omega) he⟩
  · -- The same text is read as the same seconds.
    obtain ⟨c, hc, hmicros⟩ := hparse h
    obtain ⟨c', hc', hmicros'⟩ := hparse he
    rw [htext, hc'] at hc
    cases hc
    omega
  · rw [← String.toList_inj, h.toList_humanize, he.toList_humanize, hwhole]

/-- A day, an hour, a minute and a second and a half. -/
theorem humanize_positional_day :
    (∃ e, parse (humanize ⟨90061500000, by decide⟩) = .ok e ∧ e.micros = 90061000000) ∧
      humanize ⟨90061500000, by decide⟩ = humanize ⟨90061000000, by decide⟩ ∧
      humanize ⟨-90061500000, by decide⟩ = "-" ++ humanize ⟨90061500000, by decide⟩ := by
  obtain ⟨-, hparse, hsame, hneg⟩ :=
    humanize_positional (d := ⟨90061500000, by decide⟩) (by decide)
  exact ⟨hparse, (hsame _ (by decide)).mpr rfl, hneg _ rfl⟩

end

end Vigil.Duration
