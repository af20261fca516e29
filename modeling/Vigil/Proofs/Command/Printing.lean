import Vigil.Command
import Vigil.Proofs.Report.Forms

/-!
# What is printed

A report is printed as a line, as a document or as tables, and each of these forms tells a severity:
the line behind the name of the check, the document as its status, and the tables in their first row
(`Command.Shows`). It is the severity of the worst finding, whatever the form and whatever the
screen (`Command.shows_iff`).
-/

namespace Vigil

/-- A severity is known by its word. -/
theorem Status.name_injective : Function.Injective Status.name := fun s t h => by
  have hnamed := congrArg ofName? h
  rwa [ofName?_name, ofName?_name, Option.some.injEq] at hnamed

/-- A severity is known by its exit code. -/
theorem Status.exitCode_injective : Function.Injective Status.exitCode := fun s t h => by
  cases s <;> cases t <;> first | rfl | cases h

namespace Command

/-- What is printed is a report in some form, and it tells a severity. -/
inductive Shows (screen : Screen) (r : Report) (severity : Status) : Format → String → Prop
  /-- A line, in which the severity stands behind the name of the check. -/
  | line {line : String} (hline : r.line = .ok line)
      (hword : Report.statusWord? r.check line = some severity.name) :
      Shows screen r severity .line (line ++ "\n")
  /-- A document, which has the severity as its status. -/
  | json {document : Json} (hdocument : r.toJson = .ok document)
      (hword : document.member? "status" = some (.str severity.name)) :
      Shows screen r severity .json (document.pretty ++ "\n")
  /-- The table of findings, in whose first row the severity stands; all is well without rows. -/
  | findings {findings : String} (hnone : r.perf = [])
      (hfindings : screen.draw r.findingsTable = .ok findings)
      (hword : r.findingsTable.statusWords.head?.getD Status.ok.name = severity.name) :
      Shows screen r severity .table findings
  /-- The same table, and below it that of the performance data. -/
  | tables {findings perf : String} {t : Table} (hsome : r.perf ≠ [])
      (hfindings : screen.draw r.findingsTable = .ok findings) (htable : r.perfTable = .ok t)
      (hperf : screen.draw t = .ok perf)
      (hword : r.findingsTable.statusWords.head?.getD Status.ok.name = severity.name) :
      Shows screen r severity .table (findings ++ perf)

variable {screen : Screen} {r : Report} {severity : Status} {format : Format} {output : String}

/-- The severity that is printed is that of the report. -/
theorem Shows.severity_eq (h : Shows screen r severity format output) : severity = r.status := by
  refine Status.name_injective ?_
  cases h with
  | line hline hword => exact Option.some.inj (hword.symm.trans (Report.statusWord?_line hline))
  | json hdocument hword =>
    have := hword.symm.trans (Report.member?_status hdocument)
    simpa using this
  | findings _ _ hword => exact hword.symm.trans r.head?_statusWords
  | tables _ _ _ _ hword => exact hword.symm.trans r.head?_statusWords

/-- What shows a report is printed of it. -/
theorem Shows.print_eq (h : Shows screen r severity format output) :
    print screen format r = (output, none) := by
  cases h with
  | line hline _ =>
    unfold print
    rw [hline]
  | json hdocument _ =>
    unfold print
    rw [hdocument]
  | findings hnone hfindings _ => simp [print, Command.tables, hfindings, hnone]
  | tables hsome hfindings htable hperf _ =>
    simp [print, Command.tables, hfindings, hsome, htable, hperf, bind, Except.bind]

/-- What is printed of a report without a fault shows it, with its own severity. -/
theorem shows_of_print (h : print screen format r = (output, none)) :
    Shows screen r r.status format output := by
  have hfirst := r.head?_statusWords
  cases format with
  | line =>
    cases hline : r.line <;> simp only [print, hline, Prod.mk.injEq, reduceCtorEq, and_false] at h
    obtain ⟨rfl, -⟩ := h
    exact .line hline (Report.statusWord?_line hline)
  | json =>
    cases hdocument : r.toJson <;>
      simp only [print, hdocument, Prod.mk.injEq, reduceCtorEq, and_false] at h
    obtain ⟨rfl, -⟩ := h
    exact .json hdocument (Report.member?_status hdocument)
  -- With no performance data there is one table only.
  | table =>
    unfold print tables at h
    dsimp only at h
    split at h
    · cases h
    · rename_i findings hfindings
      split at h
      · rename_i hnone
        cases h
        exact .findings (by simpa using hnone) hfindings hfirst
      · rename_i hsome
        split at h
        · rename_i perf hperf
          cases h
          obtain ⟨t, htable, hdrawn⟩ := bind_eq_ok_iff.mp hperf
          exact .tables (by simpa using hsome) hfindings htable hdrawn hfirst
        · cases h

/-- A report is shown with the severity of its worst finding if it is printed without a fault, and
in no other way. -/
theorem shows_iff : Shows screen r severity format output ↔
    print screen format r = (output, none) ∧ severity = r.status := by
  constructor
  · intro h
    exact ⟨h.print_eq, h.severity_eq⟩
  · rintro ⟨hprint, rfl⟩
    exact shows_of_print hprint

end Command

end Vigil
