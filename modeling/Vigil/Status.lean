/-!
# Status

The four outcomes of a check, with the exit codes that monitoring systems read.
-/

namespace Vigil

/-- The outcome of a check or of one measurement. -/
inductive Status where
  /-- Nothing is wrong. -/
  | ok
  /-- Something deserves attention. -/
  | warning
  /-- Something is broken. -/
  | critical
  /-- Nothing is known. -/
  | unknown
  deriving DecidableEq, Repr

namespace Status

/-- The word for a status. -/
def name : Status → String
  | .ok => "OK"
  | .warning => "WARNING"
  | .critical => "CRITICAL"
  | .unknown => "UNKNOWN"

/-- The status of a word. -/
def ofName? : String → Option Status
  | "OK" => some .ok
  | "WARNING" => some .warning
  | "CRITICAL" => some .critical
  | "UNKNOWN" => some .unknown
  | _ => none

/-- A word that was written for a status names it. -/
theorem ofName?_name (s : Status) : ofName? s.name = some s := by cases s <;> rfl

/-- The exit code that tells a monitoring system the status. -/
def exitCode : Status → Nat
  | .ok => 0
  | .warning => 1
  | .critical => 2
  | .unknown => 3

/-- The colour in which tables show a status. -/
def colour : Status → String
  | .ok => "green"
  | .warning => "yellow"
  | .critical => "red"
  | .unknown => "dim"

end Status

end Vigil
