import Vigil.Value.Number

/-!
# Performance data

Measured quantities as monitoring systems read them: `label=value[unit][;warn;crit[;min;max]]`.
Measured percentages lose what is after the point; thresholds and bounds keep it.
-/

namespace Vigil.Perf

/-- The unit of a quantity. -/
inductive Unit where
  | bytes | seconds | percent | count
  deriving DecidableEq, Repr

namespace Unit

/-- The unit as it stands after a value. -/
def text : Unit → String
  | .bytes => "B"
  | .seconds => "s"
  | .percent => "%"
  | .count => ""

/-- The unit that is written so. -/
def ofText? : String → Option Unit
  | "B" => some .bytes
  | "s" => some .seconds
  | "%" => some .percent
  | "" => some .count
  | _ => none

end Unit

/-- The number that a quantity is written as: durations count in seconds. -/
def quantity : Value → Value
  | .duration d => .float d.toSeconds
  | v => v

/-- A threshold or a bound: seconds with four places, other numbers with two, or without a point if
they are whole. -/
def boundText (v : Value) (u : Unit) : Except Fault String := do
  let v := quantity v
  if u = .seconds then v.fixed 4
  else if (← v.toDouble).isInteger then Value.intText (← v.toInt)
  else v.fixed 2

/-- A measured value. -/
def measureText (v : Value) (u : Unit) : Except Fault String := do
  if u = .percent then Value.intText (← v.truncated) else boundText v u

/-- One measured quantity. -/
structure Datum where
  /-- The name of the quantity. -/
  label : String
  /-- The measured value. -/
  value : Value
  /-- The unit of the value. -/
  unit : Unit := .count
  /-- The warning threshold, null if there is none. -/
  warn : Value := .null
  /-- The critical threshold, null if there is none. -/
  crit : Value := .null
  /-- The least possible value, null if there is none. -/
  minimum : Value := .null
  /-- The greatest possible value, null if there is none. -/
  maximum : Value := .null

/-- A bound, or nothing if it is not set. -/
def optionalText (u : Unit) (v : Value) : Except Fault String :=
  if v.isNull then .ok "" else boundText v u

/-- Fields without the empty ones at the end. -/
def dropEmptyEnd (fields : List String) : List String :=
  (fields.reverse.dropWhile (· = "")).reverse

namespace Datum

/-- Thresholds and bounds in the order in which they are written. -/
def bounds (d : Datum) : List Value := [d.warn, d.crit, d.minimum, d.maximum]

/-- The quantity as it is written. -/
def text (d : Datum) : Except Fault String := do
  let fields ← d.bounds.mapM (optionalText d.unit)
  let measured ← measureText d.value d.unit
  return ";".intercalate ((d.label ++ "=" ++ measured ++ d.unit.text) :: dropEmptyEnd fields)

end Datum

end Vigil.Perf
