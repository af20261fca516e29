import Vigil.Proofs.Number.Units
import Vigil.Proofs.Time.Year
import Vigil.Proofs.Value.Faults

/-!
# Instants of data

Making an instant of a piece of data stops with a fault of data, with one exception: a number of
seconds in a year that the system cannot count is refused by the system
(`Value.toInstant_failsWith`, `Value.toInstant_calendar_iff`). Numbers with a point are no better
than integers there, since numbers of that size are whole.
-/

namespace Vigil

attribute [local irreducible] Double.unitsPerOne

/-! ## Numbers of seconds -/

namespace Instant

/-- Whether a fault is one of data or the one with which the system refuses a year. -/
def isDataOrCalendar (fault : Fault) : Prop := fault.isData ∨ fault = .file .calendar

/-- The microseconds of a number of seconds: its part after the point, a million times. -/
theorem fract_mul_eq {x : Double} {a : Int} (hx : x.units? = some a) :
    x.fract * .ofInt 1000000 =
      .ofUnits (a.tmod Double.unitsPerOne * (1000000 * Double.unitsPerOne)) Double.unitsPerOne
        (x.fract.isNegative != (Double.ofInt 1000000).isNegative) :=
  Double.mul_eq_ofUnits (Double.units?_fract hx) (Double.IsInteger.ofInt (by decide))

/-- There are at most about as many microseconds as a second has. -/
theorem natAbs_micros_le {x : Double} {a : Int} (hx : x.units? = some a) :
    (((x.fract * .ofInt 1000000).roundEven?).getD 0).natAbs ≤ 2 ^ 21 := by
  rw [Double.roundEven?]
  cases hmicros : (x.fract * Double.ofInt 1000000).units? with
  | none => simp
  | some c =>
    obtain ⟨one, hone, -, hunits⟩ := Double.exists_unitsPerOne_eq
    rw [fract_mul_eq hx] at hmicros
    have hrest : (a.tmod Double.unitsPerOne).natAbs < 2 ^ one := by
      rw [Int.natAbs_tmod, Int.natAbs_natCast, ← hunits]
      exact Nat.mod_lt _ Double.unitsPerOne_pos
    -- The part after the point is less than one, so the product is less than a million ones.
    have hexact : (a.tmod Double.unitsPerOne * (1000000 * Double.unitsPerOne)).natAbs <
        (2 ^ 54 - 1) * 2 ^ (one - 33) * Double.unitsPerOne := by
      rw [← Int.mul_assoc, Int.natAbs_mul, Int.natAbs_natCast, Int.natAbs_mul]
      apply Nat.mul_lt_mul_of_pos_right _ Double.unitsPerOne_pos
      obtain ⟨more, rfl⟩ := Nat.exists_eq_add_of_le (show 33 ≤ one by omega)
      rw [Nat.pow_add 2 33] at hrest
      rw [Nat.add_sub_cancel_left, show Int.natAbs 1000000 = 1000000 from rfl]
      omega
    have hc : c.natAbs ≤ 2 ^ 21 * Double.unitsPerOne := by
      have hlt := Double.natAbs_lt_of_units?_ofUnits Double.unitsPerOne_pos hmicros hexact
      rw [show 54 + (one - 33) = 21 + one by omega, Nat.pow_add 2 21, ← hunits] at hlt
      omega
    rw [Option.map_some, Option.getD_some, natAbs_roundDivInt]
    exact roundDiv_le Double.unitsPerOne_pos hc

/-- A large number of seconds has no microseconds. -/
theorem micros_eq_zero {x : Double} {a : Int} (hx : x.units? = some a)
    (hlarge : 2 ^ 53 * Double.unitsPerOne ≤ a.natAbs) :
    ((x.fract * .ofInt 1000000).roundEven?).getD 0 = 0 := by
  have hrest := (Double.isHeld_of_units? hx).tmod_eq_zero hlarge
  have hmillion : (Double.ofInt 1000000).units? = some (1000000 * Double.unitsPerOne : ℤ) :=
    Double.IsInteger.ofInt (by decide)
  have hunits : (x.fract * .ofInt 1000000).units? = some 0 := by
    apply Double.units?_mul_of_eq_zero (Double.units?_fract hx) hmillion
    rw [hrest, zero_mul]
  rw [Double.roundEven?_of_units?_zero hunits, Option.getD_some]

/-- Some seconds more or less make no difference to whether the system can count the year, if there
are none for large numbers. -/
theorem beyondCalendar_add_iff {n k : Int} (hk : k.natAbs ≤ 3)
    (hlarge : 2 ^ 53 ≤ n.natAbs → k = 0) :
    BeyondCalendar (n + k) ↔ BeyondCalendar n := by
  by_cases h : 2 ^ 53 ≤ n.natAbs
  · rw [hlarge h, Int.add_zero]
  · -- Neither number comes near the bounds.
    unfold BeyondCalendar
    omega

/-- The integer part of a number of seconds decides whether the system can count the year. -/
theorem ofUnixSeconds_calendar_iff (x : Double) :
    ofUnixSeconds x = .error (.file .calendar) ↔
      ∃ n, Duration.integerPart x = .ok n ∧ BeyondCalendar n := by
  cases x with
  | nan => simp [ofUnixSeconds, Duration.integerPart]
  | infinite s => simp [ofUnixSeconds, Duration.integerPart]
  | finite negative mantissa unit canonical =>
    rw [ofUnixSeconds, ofUnix_calendar_iff]
    dsimp only [Duration.integerPart]
    generalize hx : Double.finite negative mantissa unit canonical = x
    obtain ⟨a, ha⟩ : ∃ a, x.units? = some a := by
      rw [← hx]
      exact ⟨_, rfl⟩
    -- The microseconds carry over to the seconds, but too little to leave a year.
    have hmicros := natAbs_micros_le ha
    rw [Double.trunc?, ha, Option.map_some, Option.getD_some,
      Int.fdiv_eq_ediv_of_nonneg _ (by decide), beyondCalendar_add_iff]
    · simp
    · omega
    · intro hlarge
      rw [Int.natAbs_tdiv, Int.natAbs_natCast] at hlarge
      have hlarge := (Nat.le_div_iff_mul_le Double.unitsPerOne_pos).mp hlarge
      rw [micros_eq_zero ha hlarge, Int.zero_ediv]

/-- Seconds since 1970 fail with faults of data, or with those of the calendar. -/
theorem ofUnixSeconds_failsWith (x : Double) : FailsWith isDataOrCalendar (ofUnixSeconds x) := by
  cases x with
  | nan => simp [ofUnixSeconds, isDataOrCalendar, Fault.isData]
  | infinite s => simp [ofUnixSeconds, isDataOrCalendar, Fault.isData]
  | finite => exact ofUnix_failsWith _ _

end Instant

/-! ## Times that are written -/

/-- A timestamp fails with faults of data only. -/
theorem Timestamp.toInstant?_failsWith (t : Timestamp) : FailsWith (·.isData) t.toInstant? := by
  unfold toInstant?
  split <;> simp [Fault.isData]

namespace Iso

/-- Reading a time in ISO form fails with faults of data only. -/
theorem read_failsWith (s : String) : FailsWith (·.isData) (read s) := by
  unfold read
  split
  · exact FailsWith.error_iff.mpr rfl
  · refine .ite (fun _ => ?_) fun _ => ?_
    · split <;> exact FailsWith.error_iff.mpr rfl
    · split
      · exact FailsWith.error_iff.mpr rfl
      · split
        · exact FailsWith.error_iff.mpr rfl
        · exact .pure _

/-- Reading an instant in ISO form fails with faults of data only. -/
theorem readInstant_failsWith (s : String) : FailsWith (·.isData) (readInstant s) :=
  (read_failsWith _).bind Timestamp.toInstant?_failsWith

end Iso

namespace Value

open Instant

/-- A value as an instant fails with faults of data, or with those of the calendar. -/
theorem toInstant_failsWith (v : Value) : FailsWith isDataOrCalendar v.toInstant := by
  have hdata : ∀ fault : Fault, fault.isData → isDataOrCalendar fault := fun _ => .inl
  cases v
  case timestamp t => exact t.toInstant?_failsWith.mono hdata
  case bool => exact ofUnix_failsWith _ _
  case int => exact ofUnix_failsWith _ _
  case float => exact ofUnixSeconds_failsWith _
  case str => exact (Iso.readInstant_failsWith _).mono hdata
  all_goals simp [toInstant, isDataOrCalendar, Fault.isData]

/-- The value is a number of seconds, and the system cannot count its year. -/
def BeyondCalendar (v : Value) : Prop := ∃ n, v.truncated = .ok n ∧ Instant.BeyondCalendar n

/-- The system refuses the instants of numbers whose integer part it cannot count the year of, and
no others. -/
theorem toInstant_calendar_iff (v : Value) :
    v.toInstant = .error (.file .calendar) ↔ v.BeyondCalendar := by
  unfold BeyondCalendar
  cases v
  case timestamp t =>
    have := t.toInstant?_failsWith (.file .calendar)
    simpa [toInstant, truncated, Fault.isData] using this
  case bool => simp [toInstant, truncated, ofUnix_calendar_iff]
  case int n => simp [toInstant, truncated, ofUnix_calendar_iff]
  case float x => exact ofUnixSeconds_calendar_iff x
  case str s =>
    have := Iso.readInstant_failsWith s (.file .calendar)
    simpa [toInstant, truncated, Fault.isData] using this
  all_goals simp [toInstant, truncated]

/-- A number beyond the calendar is not zero. -/
theorem truthy_of_beyondCalendar {v : Value} (h : v.BeyondCalendar) : v.truthy := by
  obtain ⟨n, hn, hbeyond⟩ := h
  -- The year 1970 can be counted.
  have hne : n ≠ 0 := by
    rintro rfl
    exact absurd hbeyond (by decide)
  cases v with
  | bool b =>
    cases hn
    cases b <;> simp_all [truthy, ofBit]
  | int m =>
    cases hn
    simp [truthy, hne]
  | float x =>
    by_contra hzero
    have hunits : x.units? = some 0 := by simpa [truthy, Double.isZero] using hzero
    apply hne
    cases x with
    | finite =>
      rw [truncated, Duration.integerPart, Double.trunc?, hunits] at hn
      simpa using hn.symm
    | _ => contradiction
  | _ => contradiction

end Value

end Vigil
