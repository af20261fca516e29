import Vigil.Json.Basic
import Vigil.Perf
import Vigil.Threshold

/-!
# Reports

What a check found: texts filed as criticals, warnings and oks, and performance data. The status of
a report is that of its worst finding. A report is written in three forms: as the line that
monitoring systems read, as data, and as tables.
-/

namespace Vigil

/-- Findings and performance data of a check. -/
structure Report where
  /-- The name of the check. -/
  check : String := ""
  /-- What is in order. -/
  oks : List String := []
  /-- What deserves attention. -/
  warnings : List String := []
  /-- What is broken. -/
  criticals : List String := []
  /-- What was measured. -/
  perf : List Perf.Datum := []

namespace Report

/-- Files a finding that all is well. -/
def addOk (message : String) (r : Report) : Report := { r with oks := r.oks ++ [message] }

/-- Files a warning. -/
def addWarning (message : String) (r : Report) : Report :=
  { r with warnings := r.warnings ++ [message] }

/-- Files a critical finding. -/
def addCritical (message : String) (r : Report) : Report :=
  { r with criticals := r.criticals ++ [message] }

/-- Adds a measured quantity. -/
def addPerf (datum : Perf.Datum) (r : Report) : Report := { r with perf := r.perf ++ [datum] }

/-- Files a finding by its severity; what is neither critical nor a warning counts as in order. -/
def add (severity : Status) (message : String) (r : Report) : Report :=
  match severity with
  | .critical => r.addCritical message
  | .warning => r.addWarning message
  | .ok | .unknown => r.addOk message

/-- Files what became of a measured value. -/
def record (e : Evaluation) (r : Report) : Report := r.add e.status e.message

/-- The findings of a severity. Nothing is filed as unknown. -/
def findings (r : Report) : Status → List String
  | .ok => r.oks
  | .warning => r.warnings
  | .critical => r.criticals
  | .unknown => []

/-- Whether there are no findings of a severity. -/
def isEmpty (r : Report) (severity : Status) : Bool := (r.findings severity).isEmpty

/-- The severity of the worst finding. -/
def status (r : Report) : Status :=
  if !r.criticals.isEmpty then .critical
  else if !r.warnings.isEmpty then .warning
  else .ok

/-- The measured quantities as they are written. -/
def perfTexts (r : Report) : Except Fault (List String) := r.perf.mapM Perf.Datum.text

/-- The performance data in one line. -/
def perfLine (r : Report) : Except Fault String := return " ".intercalate (← r.perfTexts)

/-- Findings after their heading, if there are any. -/
def section? (heading : String) (messages : List String) : List String :=
  if messages.isEmpty then [] else [heading ++ ", ".intercalate messages]

/-- The line before the performance data: the status and all findings, the worst first. -/
def headline (r : Report) : String :=
  " ".intercalate (Text.trimmed (r.check ++ " " ++ r.status.name) ::
    (section? "Crit:" r.criticals ++ section? "Warn:" r.warnings ++ section? "OK:" r.oks))

/-- The line that monitoring systems read, with the performance data after a bar. -/
def line (r : Report) : Except Fault String := do
  let perf ← r.perfLine
  return if perf = "" then r.headline else r.headline ++ " | " ++ perf

/-- The report as a document. -/
def toJson (r : Report) : Except Fault Json := do
  let perf ← r.perfTexts
  return .object [
    ("check", .str r.check),
    ("status", .str r.status.name),
    ("criticals", .texts r.criticals),
    ("warnings", .texts r.warnings),
    ("oks", .texts r.oks),
    ("perf_data", .texts perf)]

/-- The report of nothing but an error. -/
def failure (check message : String) : Report := addCritical message { check := check }

end Report

end Vigil
