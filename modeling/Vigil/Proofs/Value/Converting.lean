import Vigil.Proofs.Value.Instants
import Vigil.Proofs.Value.Writing

/-!
# Converting values

Which pieces of data are integers, numbers and times, for the conversions that read them
(`Value.stops_toInt`, `Value.stops_toDouble`, `Value.stops_unixInstant`, `Value.stops_toInstant`).
A number of seconds is a time if it lies in the calendar, the years 1 to 9999
(`Instant.stops_ofUnix`).
-/

namespace Vigil

attribute [local irreducible] Double.unitsPerOne

namespace Instant

/-- Microseconds since 1970 that lie in the years 1 to 9999. -/
def InCalendar (micros : Int) : Prop :=
  -62135596800000000 ≤ micros ∧ micros < 253402300800000000

instance (micros : Int) : Decidable (InCalendar micros) :=
  inferInstanceAs (Decidable (_ ∧ _))

/-- Microseconds are no instant exactly if they are not between the years 1 and 9999. -/
theorem ofMicros?_eq_none_iff (micros : Int) :
    ofMicros? micros = none ↔ ¬(0 ≤ micros ∧ micros < 315537897600000000) := by
  unfold ofMicros?
  split <;> simp_all

/-- The bounds of the system and of its calendar lie outside of the years 1 to 9999. -/
theorem stops_ofUnix (seconds : Int) {micros : Nat} (hmicros : micros < 1000000) :
    Stops (ofUnix seconds micros) ↔ ¬InCalendar (seconds * 1000000 + micros) := by
  unfold ofUnix InCalendar
  dsimp only
  have hlt := yearOfSeconds_lt_iff (seconds + 62135596800)
  have hgt := yearOfSeconds_gt_iff (seconds + 62135596800)
  by_cases hwide : seconds < -9223372036854775808 ∨ 9223372036854775807 < seconds
  · rw [if_pos hwide]
    simp only [stops_error, true_iff]
    omega
  · rw [if_neg hwide]
    split
    · rename_i hyear
      rw [hlt, hgt] at hyear
      simp only [stops_error, true_iff]
      omega
    · -- Within these bounds only the years of instants are left to be looked at.
      have hnone := ofMicros?_eq_none_iff ((seconds + 62135596800) * 1000000 + micros)
      cases hinstant : ofMicros? ((seconds + 62135596800) * 1000000 + micros) with
      | none =>
        simp only [stops_error, true_iff]
        have := hnone.mp hinstant
        omega
      | some t =>
        simp only [not_stops_ok, false_iff, not_not]
        have := mt hnone.mpr (by simp [hinstant])
        omega

/-- Seconds and microseconds since 1970 are those of the instant that they give. -/
theorem micros_of_ofUnix {seconds : Int} {micros : Nat} {t : Instant}
    (h : ofUnix seconds micros = .ok t) :
    (t.micros : Int) = epoch + seconds * 1000000 + micros := by
  unfold ofUnix ofMicros? at h
  split at h
  · contradiction
  · dsimp only at h
    split at h
    · contradiction
    · split at h
      · rename_i total hrange
        split at hrange
        · obtain rfl := Option.some.inj hrange
          obtain rfl := Except.ok.inj h
          simp only [epoch]
          omega
        · contradiction
      · contradiction

/-- Whole seconds in the years 1 to 9999 give an instant. -/
theorem exists_ofUnix {seconds : Int} (h : InCalendar (seconds * 1000000)) :
    ∃ t, ofUnix seconds 0 = .ok t ∧ (t.micros : Int) = epoch + seconds * 1000000 := by
  have hstops : ¬Stops (ofUnix seconds 0) := by simpa [stops_ofUnix] using h
  obtain ⟨t, ht⟩ := not_stops_iff.mp hstops
  exact ⟨t, ht, by simpa using micros_of_ofUnix ht⟩

/-- The microseconds of a number of seconds, its part after the point being rounded. -/
def microsOf (x : Double) : Int :=
  x.trunc?.getD 0 * 1000000 + ((x.fract * .ofInt 1000000).roundEven?).getD 0

/-- Seconds since 1970 are refused exactly if they are not finite or not in the calendar. -/
theorem stops_ofUnixSeconds (x : Double) :
    Stops (ofUnixSeconds x) ↔ ¬(x.isFinite ∧ InCalendar (microsOf x)) := by
  cases x with
  | nan => simp [ofUnixSeconds, Double.isFinite]
  | infinite s => simp [ofUnixSeconds, Double.isFinite]
  | finite negative mantissa unit canonical =>
    rw [ofUnixSeconds, microsOf, Double.isFinite, eq_self, true_and]
    generalize Option.getD (Double.roundEven? _) 0 = micros
    -- Carrying whole seconds over from the microseconds keeps the sum.
    rw [Int.fdiv_eq_ediv_of_nonneg _ (by decide), Int.fmod_eq_emod_of_nonneg _ (by decide)]
    have hsum : ((micros % 1000000).toNat : Int) = micros % 1000000 := by omega
    rw [stops_ofUnix _ (by omega), hsum, Int.add_mul, Int.add_assoc,
      Int.mul_comm (micros / 1000000), Int.mul_ediv_add_emod]

end Instant

namespace Value

/-- Whether an integer can be made from a value. -/
def IsWhole : Value → Prop
  | .bool _ | .int _ => True
  | .float x => x.isFinite
  | .str s => ∃ n, Literal.readInt s.toList = .ok n
  | .bytes content => ∃ n, Literal.readAsciiInt (asciiOf content) = .ok n
  | _ => False

/-- Whether a floating-point number can be made from a value. -/
def IsNumber : Value → Prop
  | .bool _ | .float _ => True
  | .int n => FitsDouble n
  | .str s => (Literal.readDouble s.toList).isSome
  | .bytes content => (Literal.readAsciiDouble (asciiOf content)).isSome
  | _ => False

/-- Whether a value is a number of seconds since 1970 in the calendar. -/
def IsUnixTime : Value → Prop
  | .bool _ => True
  | .int n => Instant.InCalendar (n * 1000000)
  | .float x => x.isFinite ∧ Instant.InCalendar (Instant.microsOf x)
  | _ => False

/-- Whether an instant can be made from a value. -/
def IsTime : Value → Prop
  | .timestamp t => ¬Stops t.toInstant?
  | .str s => ¬Stops (Iso.readInstant s)
  | v => v.IsUnixTime

/-- A value is refused as an integer exactly if it is not whole. -/
theorem stops_toInt (v : Value) : Stops v.toInt ↔ ¬v.IsWhole := by
  cases v with
  | float x => cases x <;> simp [toInt, IsWhole, Duration.integerPart, Double.isFinite]
  | str s =>
    rcases h : Literal.readInt s.toList with (_ | _) | _ <;> simp [toInt, IsWhole, intOf, h]
  | bytes content =>
    rcases h : Literal.readAsciiInt (asciiOf content) with (_ | _) | _ <;>
      simp [toInt, IsWhole, intOf, h]
  | _ => simp [toInt, IsWhole]

/-- An integer is refused as a double exactly if none is near to it. -/
theorem stops_intToDouble (n : Int) : Stops (intToDouble n) ↔ ¬FitsDouble n := by
  rw [intToDouble, ← isFinite_ofInt_iff]
  split <;> simp_all

/-- A truth value fits in a double. -/
theorem fitsDouble_ofBit (b : Bool) : FitsDouble (ofBit b) :=
  fitsDouble_of_lt (by cases b <;> decide)

/-- A value is refused as a double exactly if it is no number. -/
theorem stops_toDouble (v : Value) : Stops v.toDouble ↔ ¬v.IsNumber := by
  cases v with
  | bool b =>
    rw [toDouble, stops_intToDouble]
    simp [IsNumber, fitsDouble_ofBit]
  | int n => exact stops_intToDouble n
  | str s => cases h : Literal.readDouble s.toList <;> simp [toDouble, IsNumber, doubleOf, h]
  | bytes content =>
    cases h : Literal.readAsciiDouble (asciiOf content) <;> simp [toDouble, IsNumber, doubleOf, h]
  | _ => simp [toDouble, IsNumber]

/-- A value is refused as seconds since 1970 exactly if it is no such time. -/
theorem stops_unixInstant (v : Value) : Stops v.unixInstant ↔ ¬v.IsUnixTime := by
  cases v with
  | bool b =>
    rw [unixInstant, Instant.stops_ofUnix _ (by decide)]
    cases b <;> simp [IsUnixTime, ofBit, Instant.InCalendar]
  | int n =>
    have hzero : 0 < 1000000 := by decide
    simpa [unixInstant, IsUnixTime] using Instant.stops_ofUnix n hzero
  | float x => exact Instant.stops_ofUnixSeconds x
  | _ => simp [unixInstant, IsUnixTime]

/-- Reading seconds since 1970 fails with faults of data, or with those of the calendar. -/
theorem unixInstant_failsWith (v : Value) : FailsWith Instant.isDataOrCalendar v.unixInstant := by
  cases v with
  | bool b => exact (Value.bool b).toInstant_failsWith
  | int n => exact (Value.int n).toInstant_failsWith
  | float x => exact (Value.float x).toInstant_failsWith
  | _ => simp [unixInstant, Instant.isDataOrCalendar, Fault.isData]

/-- A value is refused as an instant exactly if it is no time. -/
theorem stops_toInstant (v : Value) : Stops v.toInstant ↔ ¬v.IsTime := by
  cases v with
  | bool b => exact stops_unixInstant (.bool b)
  | int n => exact stops_unixInstant (.int n)
  | float x => exact stops_unixInstant (.float x)
  | timestamp t => exact not_not.symm
  | str s => exact not_not.symm
  | _ => simp [toInstant, IsTime, IsUnixTime]

end Value

end Vigil
