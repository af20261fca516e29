import Vigil.Value.Order
import Vigil.Value.Number

/-!
# Usage of a limited resource

How much of a limit is in use, as a whole percentage. A limit of zero or less is none.
-/

namespace Vigil

/-- The use of one resource against its limit. -/
structure Usage where
  /-- How much is in use. -/
  used : Int := 0
  /-- How much may be in use; nothing is limited by 0 or less. -/
  limit : Int := 0
  deriving DecidableEq, Repr

namespace Usage

/-- The percentage of the limit in use, rounded down; 0 without a limit. -/
def percent (u : Usage) : Int := if u.limit ≤ 0 then 0 else Int.fdiv (u.used * 100) u.limit

/-- Whether more is in use than the limit allows. -/
def exceeded (u : Usage) : Bool := 0 < u.limit && u.limit < u.used

/-- The quotient of a hundredfold number and a limit that is not an integer, rounded down. -/
def quotientDouble (used : Value) (limit : Double) : Except Fault Value :=
  match used.numeric? with
  | some (.int n) => return .float ((← Value.intToDouble (n * 100)).floorDiv limit)
  | some (.float x) => return .float ((x * .ofInt 100).floorDiv limit)
  | none => .error (.kind (.unsupportedOperands "//" used.kindName "float"))

/-- The quotient of a hundredfold amount and a limit that is an integer, rounded down. -/
def quotientInt (used : Value) (limit : Int) : Except Fault Value :=
  match used with
  | .duration d => do
    let hundredfold ← Duration.liftRange (Duration.ofMicros? (d.micros * 100))
    return .duration (← Duration.liftRange (Duration.ofMicros? (Int.fdiv hundredfold.micros limit)))
  | _ =>
    match used.numeric? with
    | some (.int n) => .ok (.int (Int.fdiv (n * 100) limit))
    | some (.float x) =>
      return .float ((x * .ofInt 100).floorDiv (← Value.intToDouble limit))
    | none => .error (.kind (.unsupportedOperands "//" used.kindName "int"))

/-- The percentage of a limit in use, for amounts of any kind. -/
def percentOf (used limit : Value) : Except Fault Value := do
  if ← limit.le (.int 0) then return .int 0
  match limit.numeric? with
  | some (.int n) => quotientInt used n
  | some (.float x) => quotientDouble used x
  | none => .error (.kind (.unsupportedOperands "//" used.kindName limit.kindName))

/-- Amounts of integers have the percentage of their usage. -/
theorem percentOf_int (u : Usage) :
    percentOf (.int u.used) (.int u.limit) = .ok (.int u.percent) := by
  by_cases h : u.limit ≤ 0
  · rcases Int.lt_or_eq_of_le h with h' | h'
    · simp [percentOf, percent, h, Value.le, Value.order, Value.numeric?, Value.Numeric.compare?,
        compare, compareOfLessAndEq, h', bind, Except.bind, pure, Except.pure]
    · simp [percentOf, percent, Value.le, Value.order, Value.numeric?, Value.Numeric.compare?,
        compare, compareOfLessAndEq, h', bind, Except.bind, pure, Except.pure]
  · have h₁ : ¬ u.limit < 0 := by omega
    have h₂ : ¬ u.limit = 0 := by omega
    simp [percentOf, percent, h, Value.le, Value.order, Value.numeric?, Value.Numeric.compare?,
      compare, compareOfLessAndEq, h₁, h₂, quotientInt, bind, Except.bind, pure, Except.pure]

end Usage

end Vigil
