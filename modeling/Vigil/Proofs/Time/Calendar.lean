import Mathlib.Algebra.BigOperators.Group.List.Basic
import Mathlib.Algebra.Ring.Nat
import Mathlib.Data.List.GetD
import Vigil.Proofs.Time.Year

/-!
# The calendar

Days are counted and dates told by two functions that do not call each other. The date of a day
number is a date and has this number again (`Calendar.isDate_civil`), and every date has a day
number (`Calendar.Civil.IsDate.toDays_lt`).

The years before a day are counted by eras of 400 years, centuries, four years and single years
(`Calendar.yearAndDay_spec`). Of these only the last ones may be longer than the others: the fourth
of four years is a leap year, unless it ends a century that is not the last of its era
(`Calendar.isLeap_parts`).
-/

namespace Vigil.Calendar

/-- How many days a year has. -/
def yearLength (year : ℕ) : ℕ := if isLeap year then 366 else 365

/-- Leap years are those that 4 divides, except for centuries that 400 does not. -/
theorem isLeap_iff (year : ℕ) :
    isLeap year ↔ year % 4 = 0 ∧ (year % 100 ≠ 0 ∨ year % 400 = 0) := by
  simp [isLeap]

/-- The months of a year make up the year. -/
theorem sum_monthLengths (year : ℕ) : (monthLengths (isLeap year)).sum = yearLength year := by
  unfold yearLength
  cases isLeap year <;> rfl

/-- No year up to the last one goes beyond the last date. -/
theorem daysBeforeYear_add_yearLength_le {year : ℕ} (hlow : 1 ≤ year) (hhigh : year ≤ 9999) :
    daysBeforeYear year + yearLength year ≤ dayCount := by
  unfold daysBeforeYear yearLength dayCount
  dsimp only
  split
  · -- The last year is not a leap year.
    rename_i hleap
    have hfour := ((isLeap_iff year).mp hleap).1
    omega
  · omega

/-- A day before the end of the last date is in no later year. -/
theorem year_le_of_lt {year : ℕ} (h : daysBeforeYear year < dayCount) : year ≤ 9999 := by
  unfold daysBeforeYear dayCount at h
  dsimp only at h
  by_contra hlate
  obtain ⟨k, rfl⟩ := Nat.exists_eq_add_of_le (show 10000 ≤ year by omega)
  omega

/-! ## Years -/

section

variable {era century quad single : ℕ}

/-- The days before a year, from the place of the year in its era. -/
theorem daysBeforeYear_parts (hcentury : century ≤ 3) (hquad : quad ≤ 24) (hsingle : single ≤ 3) :
    daysBeforeYear (era * 400 + century * 100 + quad * 4 + single + 1) =
      era * 146097 + century * 36524 + quad * 1461 + single * 365 := by
  unfold daysBeforeYear
  dsimp only
  omega

/-- The last of four years is a leap year, unless it ends a century, except for the last century of
an era. -/
theorem isLeap_parts (hcentury : century ≤ 3) (hquad : quad ≤ 24) (hsingle : single ≤ 3) :
    isLeap (era * 400 + century * 100 + quad * 4 + single + 1) ↔
      single = 3 ∧ (quad ≠ 24 ∨ century = 3) := by
  rw [isLeap_iff]
  omega

end

/-- The day of a year that a day number falls on. -/
theorem yearAndDay_spec {days : ℕ} (h : days < dayCount) :
    1 ≤ (yearAndDay days).1 ∧ (yearAndDay days).1 ≤ 9999 ∧
      (yearAndDay days).2 < yearLength (yearAndDay days).1 ∧
      daysBeforeYear (yearAndDay days).1 + (yearAndDay days).2 = days := by
  unfold dayCount at h
  unfold yearAndDay
  dsimp only
  -- Only the last century of an era and the last of four years may be longer than the others.
  have hera := Nat.div_add_mod' days 146097
  have hinEra : days % 146097 < 146097 := by omega
  generalize days / 146097 = era at hera ⊢
  generalize days % 146097 = inEra at hera hinEra ⊢
  obtain ⟨hcentury, hbefore, hafter⟩ : min (inEra / 36524) 3 ≤ 3 ∧
      min (inEra / 36524) 3 * 36524 ≤ inEra ∧
      (inEra < (min (inEra / 36524) 3 + 1) * 36524 ∨ min (inEra / 36524) 3 = 3) := by omega
  generalize min (inEra / 36524) 3 = century at hcentury hbefore hafter ⊢
  obtain ⟨inCentury, rfl⟩ := Nat.exists_eq_add_of_le hbefore
  rw [Nat.add_sub_cancel_left]
  -- The last four years of a century are no longer than the others, so their count has no bound.
  have hquad : inCentury / 1461 ≤ 24 := by omega
  have hinCentury := Nat.div_add_mod' inCentury 1461
  have hinQuad : inCentury % 1461 < 1461 := by omega
  generalize inCentury / 1461 = quad at hquad hinCentury ⊢
  generalize inCentury % 1461 = inQuad at hinCentury hinQuad ⊢
  obtain ⟨hsingle, hbefore', hafter'⟩ : min (inQuad / 365) 3 ≤ 3 ∧
      min (inQuad / 365) 3 * 365 ≤ inQuad ∧
      (inQuad < (min (inQuad / 365) 3 + 1) * 365 ∨ min (inQuad / 365) 3 = 3) := by omega
  generalize min (inQuad / 365) 3 = single at hsingle hbefore' hafter' ⊢
  obtain ⟨inYear, rfl⟩ := Nat.exists_eq_add_of_le hbefore'
  have hbeforeYear := @daysBeforeYear_parts era _ _ _ hcentury hquad hsingle
  rw [Nat.add_sub_cancel_left, hbeforeYear, yearLength]
  subst hinCentury hera
  have hdays : era * 146097 + century * 36524 + quad * 1461 + single * 365 + inYear =
      era * 146097 + (century * 36524 + (quad * 1461 + (single * 365 + inYear))) := by omega
  refine ⟨by omega, year_le_of_lt ?_, ?_, hdays⟩
  · rw [hbeforeYear]
    exact Nat.lt_of_le_of_lt (Nat.le_add_right _ inYear) (hdays.symm ▸ h)
  split
  · omega
  · rename_i hcommon
    rw [isLeap_parts hcentury hquad hsingle] at hcommon
    omega

/-! ## Months -/

/-- The day of a month that a day falls on, if the months are long enough. -/
theorem monthAndDay_spec {lengths : List ℕ} {day : ℕ} (h : day < lengths.sum) (month : ℕ) :
    ∃ i < lengths.length, ∃ d, monthAndDay month lengths day = (month + i, d + 1) ∧
      d < lengths.getD i 0 ∧ (lengths.take i).sum + d = day := by
  induction lengths generalizing day month with
  | nil => contradiction
  | cons length lengths ih =>
    rw [List.sum_cons] at h
    unfold monthAndDay
    by_cases hday : day < length
    · rw [if_pos hday]
      exact ⟨0, Nat.succ_pos _, day, rfl, hday, by simp⟩
    · rw [if_neg hday]
      have hrest : day - length < lengths.sum := by omega
      obtain ⟨i, hi, d, heq, hd, hsum⟩ := ih hrest (month + 1)
      refine ⟨i + 1, Nat.succ_lt_succ hi, d, by rw [heq]; congr 1; omega, hd, ?_⟩
      rw [List.take_succ_cons, List.sum_cons]
      omega

/-- No month is longer than 31 days. -/
theorem daysInMonth_le (year month : ℕ) : daysInMonth year month ≤ 31 := by
  have hall : ∀ leap, ∀ length ∈ monthLengths leap, length ≤ 31 := by decide
  unfold daysInMonth
  rcases Nat.lt_or_ge (month - 1) (monthLengths (isLeap year)).length with hindex | hbeyond
  · rw [List.getD_eq_getElem _ _ hindex]
    exact hall _ _ (List.getElem_mem hindex)
  · rw [List.getD_eq_default _ _ hbeyond]
    exact Nat.zero_le 31

/-! ## Dates -/

/-- Every date has a day number. -/
theorem Civil.IsDate.toDays_lt {c : Civil} (h : c.IsDate) : c.toDays < dayCount := by
  obtain ⟨hyear, hyear', hmonth, hmonth', hday, hday'⟩ := h
  have hyears := daysBeforeYear_add_yearLength_le hyear hyear'
  have hmonths : daysBeforeMonth c.year c.month + daysInMonth c.year c.month ≤
      yearLength c.year := by
    have hindex : c.month - 1 < (monthLengths (isLeap c.year)).length :=
      show c.month - 1 < 12 by omega
    -- The months up to this one are some of all months.
    have hall := List.sum_take_add_sum_drop (monthLengths (isLeap c.year)) (c.month - 1 + 1)
    rw [List.sum_take_succ _ _ hindex] at hall
    rw [← sum_monthLengths, ← hall, daysBeforeMonth, daysInMonth, List.getD_eq_getElem _ _ hindex]
    exact Nat.le_add_right _ _
  unfold toDays dayNumber
  omega

/-- The date of a day number is a date, and has this number. -/
theorem isDate_civil {days : ℕ} (h : days < dayCount) :
    (civil days).IsDate ∧ (civil days).toDays = days := by
  have hspec := yearAndDay_spec h
  unfold civil
  generalize yearAndDay days = place at hspec ⊢
  obtain ⟨year, inYear⟩ := place
  dsimp only at hspec ⊢
  obtain ⟨hyear, hyear', hday, hdays⟩ := hspec
  rw [← sum_monthLengths] at hday
  obtain ⟨i, hi, d, hmonth, hd, hsum⟩ := monthAndDay_spec hday 1
  have hindex : i < 12 := hi
  rw [hmonth]
  unfold Civil.IsDate Civil.toDays dayNumber daysInMonth daysBeforeMonth
  dsimp only
  rw [Nat.add_sub_cancel_left]
  omega

end Vigil.Calendar
