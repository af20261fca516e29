import Vigil.Config
import Vigil.Report

/-!
# Checks

A check looks at a snapshot and adds findings and performance data to a report. It may stop with a
fault; what it has added by then stays in the report.
-/

namespace Vigil

/-- A check at work on a report. -/
abbrev Checking (α : Type) := ExceptT Fault (StateM Report) α

namespace Checking

/-- Changes the report. -/
def change (f : Report → Report) : Checking Unit := modify f

/-- Stops with a fault. -/
def stop {α : Type} (fault : Fault) : Checking α := throw fault

/-- The result of a calculation, or its fault. -/
def obtain {α : Type} : Except Fault α → Checking α
  | .ok a => pure a
  | .error fault => throw fault

/-- Files a finding that all is well. -/
def ok (message : String) : Checking Unit := change (.addOk message)

/-- Files a warning. -/
def warning (message : String) : Checking Unit := change (.addWarning message)

/-- Files a critical finding. -/
def critical (message : String) : Checking Unit := change (.addCritical message)

/-- Files a finding of a severity. -/
def file (severity : Status) (message : String) : Checking Unit := change (.add severity message)

/-- Adds a measured quantity. -/
def measure (datum : Perf.Datum) : Checking Unit := change (.addPerf datum)

/-- The number of critical findings in the report. -/
def criticalCount : Checking Nat := return (← get).criticals.length

/-- Works on a report: the outcome, and the report afterwards. -/
def runOn {α : Type} (work : Checking α) (r : Report) : Except Fault α × Report := StateT.run work r

end Checking

/-- The duration of a setting in the human form. -/
def humanizedSetting : Value → Except Fault String
  | .duration d => .ok d.humanize
  | v => .error (.attribute v.kindName "total_seconds")

/-- The duration of a setting in the short form. -/
def shortSetting : Value → Except Fault String
  | .duration d => .ok d.short
  | v => .error (.attribute v.kindName "total_seconds")

end Vigil
