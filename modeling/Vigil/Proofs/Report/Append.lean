import Vigil.Report

/-!
# Appending reports

`r ++ s` is the report `r` with the findings and the performance data of `s` after its own. It keeps
the name of `r`. Every way of adding to a report is an append (`addOk_eq_append` and its kin), and
the status of an appended report is the worse one of the two (`status_append`).
-/

namespace Vigil

namespace Status

/-- The worse one of two outcomes. -/
def worst (s t : Status) : Status := if s.exitCode ≤ t.exitCode then t else s

/-- The worse outcome has the higher exit code of the two. -/
theorem exitCode_worst (s t : Status) : (s.worst t).exitCode = max s.exitCode t.exitCode := by
  cases s <;> cases t <;> rfl

end Status

namespace Report

/-- One report with the findings and the performance data of another after its own. -/
def append (r s : Report) : Report where
  check := r.check
  oks := r.oks ++ s.oks
  warnings := r.warnings ++ s.warnings
  criticals := r.criticals ++ s.criticals
  perf := r.perf ++ s.perf

instance : Append Report := ⟨append⟩

/-- Appended reports have the name of the first one. -/
@[simp]
theorem check_append (r s : Report) : (r ++ s).check = r.check := rfl

/-- The OK findings of appended reports stand in a row. -/
@[simp]
theorem oks_append (r s : Report) : (r ++ s).oks = r.oks ++ s.oks := rfl

/-- The warnings of appended reports stand in a row. -/
@[simp]
theorem warnings_append (r s : Report) : (r ++ s).warnings = r.warnings ++ s.warnings := rfl

/-- The critical findings of appended reports stand in a row. -/
@[simp]
theorem criticals_append (r s : Report) : (r ++ s).criticals = r.criticals ++ s.criticals := rfl

/-- The perf data of appended reports stand in a row. -/
@[simp]
theorem perf_append (r s : Report) : (r ++ s).perf = r.perf ++ s.perf := rfl

/-- Reports are equal if their names, findings and performance data are. -/
theorem eq_of_fields {r s : Report} (hcheck : r.check = s.check) (hoks : r.oks = s.oks)
    (hwarnings : r.warnings = s.warnings) (hcriticals : r.criticals = s.criticals)
    (hperf : r.perf = s.perf) : r = s := by
  cases r
  cases s
  simp_all

/-- A report to which nothing has been added yet changes nothing. -/
@[simp]
theorem append_empty (r : Report) (name : String) : r ++ ({ check := name } : Report) = r :=
  eq_of_fields rfl (List.append_nil _) (List.append_nil _) (List.append_nil _) (List.append_nil _)

/-- Appending is associative. -/
theorem append_assoc (r s t : Report) : r ++ s ++ t = r ++ (s ++ t) :=
  eq_of_fields rfl (List.append_assoc ..) (List.append_assoc ..) (List.append_assoc ..)
    (List.append_assoc ..)

/-! ## Additions are appends -/

/-- Adding an OK finding is appending it. -/
theorem addOk_eq_append (message : String) (r : Report) :
    r.addOk message = r ++ ({} : Report).addOk message := by
  apply eq_of_fields <;> simp [addOk]

/-- Adding a warning is appending it. -/
theorem addWarning_eq_append (message : String) (r : Report) :
    r.addWarning message = r ++ ({} : Report).addWarning message := by
  apply eq_of_fields <;> simp [addWarning]

/-- Adding a critical finding is appending it. -/
theorem addCritical_eq_append (message : String) (r : Report) :
    r.addCritical message = r ++ ({} : Report).addCritical message := by
  apply eq_of_fields <;> simp [addCritical]

/-- Adding a perf datum is appending it. -/
theorem addPerf_eq_append (datum : Perf.Datum) (r : Report) :
    r.addPerf datum = r ++ ({} : Report).addPerf datum := by
  apply eq_of_fields <;> simp [addPerf]

/-- Adding a finding of a given severity is appending it. -/
theorem add_eq_append (severity : Status) (message : String) (r : Report) :
    r.add severity message = r ++ ({} : Report).add severity message := by
  cases severity
  · exact addOk_eq_append message r
  · exact addWarning_eq_append message r
  · exact addCritical_eq_append message r
  · exact addOk_eq_append message r

/-- Adding the finding of an evaluation is appending it. -/
theorem record_eq_append (e : Evaluation) (r : Report) :
    r.record e = r ++ ({} : Report).record e := add_eq_append e.status e.message r

/-! ## Status -/

/-- The exit code of a report is that of its worst finding. -/
theorem exitCode_status (r : Report) :
    (r.status.exitCode = 2 ↔ r.criticals ≠ []) ∧
    (r.status.exitCode = 1 ↔ r.criticals = [] ∧ r.warnings ≠ []) ∧
    (r.status.exitCode = 0 ↔ r.criticals = [] ∧ r.warnings = []) := by
  obtain ⟨_, _, warnings, criticals, _⟩ := r
  cases criticals <;> cases warnings <;> simp [status, Status.exitCode]

/-- A report is critical exactly if it has a critical finding. -/
theorem status_eq_critical_iff {r : Report} : r.status = .critical ↔ r.criticals ≠ [] := by
  obtain ⟨_, _, warnings, criticals, _⟩ := r
  cases criticals <;> cases warnings <;> simp [status]

/-- The status of an appended report is the worse one of the two. -/
theorem status_append (r s : Report) : (r ++ s).status = r.status.worst s.status := by
  obtain ⟨_, _, warnings, criticals, _⟩ := r
  obtain ⟨_, _, warnings', criticals', _⟩ := s
  cases criticals <;> cases criticals' <;> cases warnings <;> cases warnings' <;> rfl

/-! ## Appending one report after the other -/

section Fold

variable {α β : Type} (own : α → Report)

/-- Appending other reports leaves a report its name. -/
theorem check_foldl_append (xs : List α) (r : Report) :
    (xs.foldl (fun report x => report ++ own x) r).check = r.check := by
  induction xs generalizing r with
  | nil => rfl
  | cons x xs ih => exact ih (r ++ own x)

/-- A list that appending concatenates is, after others have been appended one by one, the list of
the first report followed by theirs. -/
theorem list_foldl_append {list : Report → List β} (hlist : ∀ r s, list (r ++ s) = list r ++ list s)
    (xs : List α) (r : Report) :
    list (xs.foldl (fun report x => report ++ own x) r) =
      list r ++ xs.flatMap fun x => list (own x) := by
  induction xs generalizing r with
  | nil => rw [List.foldl_nil, List.flatMap_nil, List.append_nil]
  | cons x xs ih => rw [List.foldl_cons, ih, hlist, List.append_assoc, List.flatMap_cons]

/-- The status of reports that were appended one by one is the worst one among them. -/
theorem status_foldl_append (xs : List α) (r : Report) :
    (xs.foldl (fun report x => report ++ own x) r).status =
      (xs.map fun x => (own x).status).foldl Status.worst r.status := by
  induction xs generalizing r with
  | nil => rfl
  | cons x xs ih => rw [List.foldl_cons, ih, status_append, List.map_cons, List.foldl_cons]

/-- A critical report among those that are appended makes the whole critical. -/
theorem status_foldl_append_of_mem {xs : List α} {x : α} (hx : x ∈ xs)
    (hcritical : (own x).status = .critical) (r : Report) :
    (xs.foldl (fun report y => report ++ own y) r).status = .critical := by
  rw [status_eq_critical_iff] at hcritical ⊢
  rw [list_foldl_append own criticals_append]
  obtain ⟨message, hmessage⟩ := List.exists_mem_of_ne_nil _ hcritical
  have hmem : message ∈ xs.flatMap fun y => (own y).criticals :=
    List.mem_flatMap.mpr ⟨x, hx, hmessage⟩
  exact List.ne_nil_of_mem (List.mem_append_right _ hmem)

/-- If none of some reports is worse than its counterpart, then neither are all of them together. -/
theorem exitCode_foldl_append_le {own' : α → Report} {xs : List α}
    (h : ∀ x ∈ xs, (own x).status.exitCode ≤ (own' x).status.exitCode) {r r' : Report}
    (hr : r.status.exitCode ≤ r'.status.exitCode) :
    (xs.foldl (fun report x => report ++ own x) r).status.exitCode ≤
      (xs.foldl (fun report x => report ++ own' x) r').status.exitCode := by
  induction xs generalizing r r' with
  | nil => exact hr
  | cons x xs ih =>
    refine ih (fun y hy => h y (List.mem_cons_of_mem x hy)) ?_
    have hx := h x List.mem_cons_self
    rw [status_append, status_append, Status.exitCode_worst, Status.exitCode_worst]
    omega

end Fold

end Report

end Vigil
