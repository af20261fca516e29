import Vigil.Proofs.Check.Adding
import Vigil.Proofs.Report.Line

/-!
# Reports of one finding

A check of one quantity reports a measurement, if there is something to be measured, and one finding
(`Report.judged`). The finding is the only one, and the status of the report is its severity.
-/

namespace Vigil

namespace Report

/-- The report of one finding, next to what was measured. -/
def judged (perf : List Perf.Datum) (finding : Status × String) : Report :=
  ({ perf := perf } : Report).add finding.1 finding.2

variable (perf : List Perf.Datum) (finding : Status × String)

/-- A report of one finding has the perf data that it is made with. -/
@[simp]
theorem perf_judged : (judged perf finding).perf = perf := by
  rcases finding with ⟨_ | _ | _ | _, _⟩ <;> rfl

/-- A report of one finding has the message of that finding only. -/
@[simp]
theorem messages_judged : (judged perf finding).messages = [finding.2] := by
  rcases finding with ⟨_ | _ | _ | _, _⟩ <;> rfl

variable {perf finding}

/-- A report of one finding has a critical message exactly if that is its finding. -/
theorem mem_criticals_judged {message : String} :
    message ∈ (judged perf finding).criticals ↔ finding = (.critical, message) := by
  rcases finding with ⟨_ | _ | _ | _, text⟩ <;>
    simp [judged, add, addOk, addWarning, addCritical, eq_comm]

/-- A report of one finding has a warning exactly if that is its finding. -/
theorem mem_warnings_judged {message : String} :
    message ∈ (judged perf finding).warnings ↔ finding = (.warning, message) := by
  rcases finding with ⟨_ | _ | _ | _, text⟩ <;>
    simp [judged, add, addOk, addWarning, addCritical, eq_comm]

/-- A report of one finding has an OK message exactly if that is its finding. -/
theorem mem_oks_judged (h : finding.1 ≠ .unknown) {message : String} :
    message ∈ (judged perf finding).oks ↔ finding = (.ok, message) := by
  rcases finding with ⟨_ | _ | _ | _, text⟩
  case unknown => contradiction
  all_goals simp [judged, add, addOk, addWarning, addCritical, eq_comm]

/-- A report of one finding has a message exactly if it is that of its finding. -/
theorem mem_messages_judged {message : String} :
    message ∈ (judged perf finding).messages ↔ finding.2 = message := by
  simp [eq_comm]

/-- The status is the severity of the finding. -/
theorem status_judged (h : finding.1 ≠ .unknown) : (judged perf finding).status = finding.1 := by
  rcases finding with ⟨_ | _ | _ | _, _⟩
  case unknown => contradiction
  all_goals rfl

end Report

namespace Checking.Adds

open Report

variable {work : Checking Unit} {finding : Status × String}

/-- A finding by itself. -/
theorem judged (severity : Status) (message : String) :
    Adds (Checking.file severity message) (judged [] (severity, message)) :=
  .file severity message

/-- A measurement in front of a finding. -/
theorem measure_judged (datum : Perf.Datum) (h : Adds work (Report.judged [] finding)) :
    Adds (Checking.measure datum >>= fun _ => work) (Report.judged [datum] finding) := by
  have hseq := (measure datum).seq h
  have hreport : ({ perf := [datum] } : Report) ++ Report.judged [] finding =
      Report.judged [datum] finding := by
    rcases finding with ⟨_ | _ | _ | _, _⟩ <;> rfl
  rwa [hreport] at hseq

end Checking.Adds

end Vigil
