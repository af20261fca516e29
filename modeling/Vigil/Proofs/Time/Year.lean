import Vigil.Proofs.Faults
import Vigil.Time.Instant

/-!
# Years of seconds

The system counts years in 32 bits from 1900 on. The seconds whose year it can count are those
between two bounds, some two billion years away (`Instant.yearOfSeconds_gt_iff` and
`Instant.yearOfSeconds_lt_iff`), and the instant of a second beyond them is refused with a fault of
the system and not of the data (`Instant.ofUnix_calendar_iff`).
-/

namespace Vigil

namespace Calendar

/-- The year of a day among the 400 years after which the calendar repeats. -/
theorem yearAndDay_le {days : Nat} (h : days < 146097) :
    1 ≤ (yearAndDay days).1 ∧ (yearAndDay days).1 ≤ 400 := by
  unfold yearAndDay
  dsimp only
  omega

/-- There are 126738 days before the 348th of the 400 years. -/
theorem yearAndDay_ge_348_iff {days : Nat} (h : days < 146097) :
    348 ≤ (yearAndDay days).1 ↔ 126738 ≤ days := by
  unfold yearAndDay
  dsimp only
  omega

/-- There are 91675 days before the 252nd of the 400 years. -/
theorem yearAndDay_ge_252_iff {days : Nat} (h : days < 146097) :
    252 ≤ (yearAndDay days).1 ↔ 91675 ≤ days := by
  unfold yearAndDay
  dsimp only
  omega

end Calendar

namespace Instant

/-- The year of seconds, from the days that they make. -/
theorem yearOfSeconds_eq (seconds : Int) :
    yearOfSeconds seconds = seconds / 86400 / 146097 * 400 +
      (Calendar.yearAndDay (seconds / 86400 % 146097).toNat).1 := by
  unfold yearOfSeconds
  dsimp only
  rw [Int.fdiv_eq_ediv_of_nonneg _ (by decide), Int.fdiv_eq_ediv_of_nonneg _ (by decide),
    Int.fmod_eq_emod_of_nonneg _ (by decide)]

/-- The first second after the last year that the system can count. -/
theorem yearOfSeconds_gt_iff (seconds : Int) :
    2147483647 < yearOfSeconds seconds - 1900 ↔ 67768098327273600 ≤ seconds := by
  rw [yearOfSeconds_eq]
  have hrest : (seconds / 86400 % 146097).toNat < 146097 := by omega
  obtain ⟨hfirst, hlast⟩ := Calendar.yearAndDay_le hrest
  have hyear := Calendar.yearAndDay_ge_348_iff hrest
  generalize (Calendar.yearAndDay _).1 = year at hfirst hlast hyear ⊢
  omega

/-- The first second of the first year that the system can count. -/
theorem yearOfSeconds_lt_iff (seconds : Int) :
    yearOfSeconds seconds - 1900 < -2147483648 ↔ seconds < -67767978474144000 := by
  rw [yearOfSeconds_eq]
  -- Years are counted within the cycle of 400 years that the day falls in.
  have hrest : (seconds / 86400 % 146097).toNat < 146097 := by omega
  obtain ⟨hfirst, hlast⟩ := Calendar.yearAndDay_le hrest
  have hyear := Calendar.yearAndDay_ge_252_iff hrest
  generalize (Calendar.yearAndDay _).1 = year at hfirst hlast hyear ⊢
  omega

/-- Seconds since 1970 that fit 64 bits, in a year that the system cannot count. -/
def BeyondCalendar (seconds : Int) : Prop :=
  (-9223372036854775808 ≤ seconds ∧ seconds < -67768040609740800) ∨
    (67768036191676799 < seconds ∧ seconds ≤ 9223372036854775807)

instance (seconds : Int) : Decidable (BeyondCalendar seconds) := by
  unfold BeyondCalendar
  infer_instance

/-- The system refuses the seconds beyond its calendar, and no others. -/
theorem ofUnix_calendar_iff (seconds : Int) (micros : Nat) :
    ofUnix seconds micros = .error (.file .calendar) ↔ BeyondCalendar seconds := by
  unfold ofUnix BeyondCalendar
  dsimp only
  -- Years are counted from the year one on, seconds since 1970.
  have hlt := yearOfSeconds_lt_iff (seconds + 62135596800)
  have hgt := yearOfSeconds_gt_iff (seconds + 62135596800)
  split
  · rename_i hwide
    simp only [reduceCtorEq, Except.error.injEq, false_iff]
    omega
  · split
    · rename_i hyear
      rw [hlt, hgt] at hyear
      simp only [true_iff]
      omega
    · rename_i hyear
      rw [hlt, hgt] at hyear
      split <;> simp only [reduceCtorEq, Except.error.injEq, false_iff] <;> omega

/-- Apart from that, the seconds may be too many or the year may be none of instants. -/
theorem ofUnix_failsWith (seconds : Int) (micros : Nat) :
    FailsWith (fun fault => fault.isData ∨ fault = .file .calendar) (ofUnix seconds micros) := by
  unfold ofUnix
  dsimp only
  refine .ite (fun _ => by simp [Fault.isData]) fun _ => .ite (fun _ => by simp) fun _ => ?_
  split <;> simp [Fault.isData]

end Instant

end Vigil
