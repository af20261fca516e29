import Vigil.Proofs.Report.Judged
import Vigil.Proofs.Threshold.Scale

/-!
# The history of a report

A report is made in steps: a finding of some severity, a measured quantity, or the judgement of a
value, which is recorded if it has a result. Each step tells by itself which finding and which
quantity it brings (`Step.finding?`, `Step.datum?`), and the report accounts for all of them
(`Accounts`): each finding stands in the list of its severity, in the order of the steps, and the
status is the worst severity so far. One more step keeps the account (`Accounts.step`), so every
history does (`accounts_ofSteps`).

The main statement is `Report.ofSteps_history`, which tells the whole report from its history.
-/

namespace Vigil

namespace Threshold

variable {value warn crit : Value}

/-- A severity is one of those that findings are filed by. -/
theorem severity_ne_unknown {d : Direction} {s : Status}
    (h : severity value warn crit d = .ok s) : s ≠ .unknown := by
  unfold severity at h
  obtain ⟨isCritical, -, h⟩ := bind_eq_ok_iff.mp h
  cases isCritical with
  | true =>
    cases h
    decide
  | false =>
    obtain ⟨isWarned, -, h⟩ := bind_eq_ok_iff.mp h
    cases isWarned <;> cases h <;> decide

/-- A judgement is filed under its severity. -/
theorem status_ne_unknown {p : Policy} {label : String} {display : Option String} {e : Evaluation}
    (h : evaluate value warn crit p label display = .ok e) : e.status ≠ .unknown := by
  rcases evaluate_ok h with ⟨hinvalid, -⟩ | ⟨-, -, d, hseverity⟩
  · rw [evaluate_of_not_valid hinvalid] at h
    cases h
    nofun
  · exact severity_ne_unknown hseverity

end Threshold

namespace Report

open Checking

/-! ## Steps -/

/-- A step in the making of a report. -/
inductive Step where
  /-- All is well. -/
  | ok (message : String)
  /-- Something deserves attention. -/
  | warning (message : String)
  /-- Something is broken. -/
  | critical (message : String)
  /-- Something was measured. -/
  | measure (datum : Perf.Datum)
  /-- A value is judged, and the judgement recorded. -/
  | judge (value warn crit : Value) (p : Policy) (label : String) (display : Option String)

namespace Step

/-- What is done in a step. -/
def work : Step → Checking Unit
  | ok message => Checking.ok message
  | warning message => Checking.warning message
  | critical message => Checking.critical message
  | measure datum => Checking.measure datum
  | judge value warn crit p label display => do
    let e ← obtain (Threshold.evaluate value warn crit p label display)
    change (.record e)

/-- The report after a step, whatever became of it. -/
def apply (r : Report) (step : Step) : Report := (step.work.runOn r).2

/-- The finding that a step brings. A judgement without a result brings none. -/
def finding? : Step → Option (Status × String)
  | ok message => some (.ok, message)
  | warning message => some (.warning, message)
  | critical message => some (.critical, message)
  | measure _ => none
  | judge value warn crit p label display =>
    match Threshold.evaluate value warn crit p label display with
    | .ok e => some (e.status, e.message)
    | .error _ => none

/-- The measured quantity that a step brings. -/
def datum? : Step → Option Perf.Datum
  | measure datum => some datum
  | _ => none

/-- What a step brings, as a report of its own. -/
def own (step : Step) : Report :=
  match step.finding? with
  | some finding => judged [] finding
  | none => { perf := step.datum?.toList }

/-- A step appends to the report what it brings. -/
theorem apply_eq_append (r : Report) (step : Step) : step.apply r = r ++ step.own := by
  cases step with
  | ok message => exact addOk_eq_append message r
  | warning message => exact addWarning_eq_append message r
  | critical message => exact addCritical_eq_append message r
  | measure datum => exact addPerf_eq_append datum r
  | judge value warn crit p label display =>
    cases he : Threshold.evaluate value warn crit p label display with
    | error fault =>
      simp only [apply, work, own, finding?, datum?, he]
      exact (append_empty r "").symm
    | ok e =>
      simp only [apply, work, own, finding?, he]
      exact record_eq_append e r

/-- Findings have a severity by which they are filed. -/
theorem ne_unknown_of_finding {step : Step} {finding : Status × String}
    (h : step.finding? = some finding) : finding.1 ≠ .unknown := by
  cases step with
  | judge value warn crit p label display =>
    unfold finding? at h
    cases he : Threshold.evaluate value warn crit p label display with
    | error fault => simp [he] at h
    | ok e =>
      simp only [he, Option.some.injEq] at h
      rw [← h]
      exact Threshold.status_ne_unknown he
  | measure datum => cases h
  | _ =>
    cases h
    nofun

end Step

/-- The report of a name after some steps. -/
def ofSteps (name : String) (steps : List Step) : Report := steps.foldl Step.apply { check := name }

/-- Steps leave a report its name. -/
theorem check_ofSteps (name : String) (steps : List Step) : (ofSteps name steps).check = name := by
  have happly : (Step.apply : Report → Step → Report) = fun r step => r ++ step.own :=
    funext₂ Step.apply_eq_append
  rw [ofSteps, happly]
  exact check_foldl_append Step.own steps _

/-! ## Accounts -/

/-- The messages of a severity among findings. -/
def messagesOf (s : Status) (findings : List (Status × String)) : List String :=
  (findings.filter (·.1 = s)).map Prod.snd

/-- The messages of a severity follow the order of the findings. -/
theorem messagesOf_append (s : Status) (findings more : List (Status × String)) :
    messagesOf s (findings ++ more) = messagesOf s findings ++ messagesOf s more := by
  rw [messagesOf, List.filter_append, List.map_append]
  rfl

/-- There are as many messages of a severity as findings of it. -/
theorem length_messagesOf (s : Status) (findings : List (Status × String)) :
    (messagesOf s findings).length = findings.countP (·.1 = s) := by
  rw [messagesOf, List.length_map, List.countP_eq_length_filter]

/-- The worst severity among findings. -/
def worstOf (findings : List (Status × String)) : Status :=
  (findings.map Prod.fst).foldl Status.worst .ok

/-- The exit code of the worst severity is the largest exit code. -/
theorem exitCode_foldl_worst (severities : List Status) (s : Status) :
    (severities.foldl Status.worst s).exitCode =
      (severities.map Status.exitCode).foldl max s.exitCode := by
  induction severities generalizing s with
  | nil => rfl
  | cons t rest ih =>
    rw [List.foldl_cons, ih, Status.exitCode_worst, List.map_cons, List.foldl_cons]

/-- Findings of known severities are critical, warnings or in order. -/
theorem countP_severities {findings : List (Status × String)}
    (hknown : ∀ finding ∈ findings, finding.1 ≠ .unknown) :
    findings.countP (·.1 = .critical) + findings.countP (·.1 = .warning) +
      findings.countP (·.1 = .ok) = findings.length := by
  induction findings with
  | nil => rfl
  | cons finding rest ih =>
    rw [List.forall_mem_cons] at hknown
    have hrest := ih hknown.2
    rcases finding with ⟨severity, message⟩
    cases severity
    case unknown => exact absurd rfl hknown.1
    all_goals
      simp only [List.countP_cons, List.length_cons, reduceCtorEq, decide_true, decide_false,
        if_true, Bool.false_eq_true, if_false]
      omega

/-- The report accounts for findings and measured quantities. -/
structure Accounts (r : Report) (findings : List (Status × String)) (data : List Perf.Datum) :
    Prop where
  /-- Each finding has a severity by which it is filed. -/
  known : ∀ finding ∈ findings, finding.1 ≠ .unknown
  /-- Each list holds the messages of its severity in their order. -/
  findings_eq : ∀ s, r.findings s = messagesOf s findings
  /-- All quantities are there in their order. -/
  perf_eq : r.perf = data
  /-- The status is that of the worst finding. -/
  status_eq : r.status = worstOf findings

/-- Appended reports have the findings of both, severity by severity. -/
theorem findings_append (r t : Report) (s : Status) :
    (r ++ t).findings s = r.findings s ++ t.findings s := by
  cases s <;> rfl

/-- A report of one finding has it under its severity only. -/
theorem findings_judged {finding : Status × String} (h : finding.1 ≠ .unknown) (s : Status) :
    (judged [] finding).findings s = messagesOf s [finding] := by
  rcases finding with ⟨severity, message⟩
  cases severity
  case unknown => contradiction
  all_goals cases s <;> rfl

namespace Accounts

variable {r : Report} {findings : List (Status × String)} {data : List Perf.Datum}

/-- A report of nothing accounts for nothing. -/
theorem empty (name : String) : Accounts { check := name } [] [] where
  known _ h := by cases h
  findings_eq s := by cases s <;> rfl
  perf_eq := rfl
  status_eq := rfl

/-- Appending a finding accounts for one more finding. -/
theorem append_judged (h : Accounts r findings data) {finding : Status × String}
    (hknown : finding.1 ≠ .unknown) :
    Accounts (r ++ judged [] finding) (findings ++ [finding]) data where
  known := by
    intro other hother
    rcases List.mem_append.mp hother with hother | hother
    · exact h.known other hother
    · rwa [List.mem_singleton.mp hother]
  findings_eq s := by
    rw [findings_append, h.findings_eq, findings_judged hknown, messagesOf_append]
  perf_eq := by rw [perf_append, perf_judged, List.append_nil, h.perf_eq]
  status_eq := by
    rw [status_append, status_judged hknown, h.status_eq, worstOf, worstOf, List.map_append,
      List.foldl_append]
    rfl

/-- Appending quantities accounts for them. -/
theorem append_perf (h : Accounts r findings data) (more : List Perf.Datum) :
    Accounts (r ++ { perf := more }) findings (data ++ more) where
  known := h.known
  findings_eq s := by
    rw [findings_append, h.findings_eq]
    cases s <;> exact List.append_nil _
  perf_eq := by rw [perf_append, h.perf_eq]
  status_eq := by
    rw [status_append, ← h.status_eq]
    cases r.status <;> rfl

/-- A step keeps the account. -/
theorem step (h : Accounts r findings data) (step : Step) :
    Accounts (step.apply r) (findings ++ step.finding?.toList) (data ++ step.datum?.toList) := by
  rw [step.apply_eq_append, Step.own]
  cases hfinding : step.finding? with
  | none =>
    rw [Option.toList_none, List.append_nil]
    exact h.append_perf _
  | some finding =>
    -- What brings a finding brings no quantity.
    have hdatum : step.datum? = none := by
      cases step with
      | measure datum => cases hfinding
      | _ => rfl
    rw [hdatum, Option.toList_none, List.append_nil, Option.toList_some]
    exact h.append_judged (Step.ne_unknown_of_finding hfinding)

/-- Every finding stands in one of the three lists. -/
theorem length_eq (h : Accounts r findings data) :
    r.criticals.length + r.warnings.length + r.oks.length = findings.length := by
  have hlength (s : Status) : (r.findings s).length = findings.countP (·.1 = s) := by
    rw [h.findings_eq, length_messagesOf]
  calc
    r.criticals.length + r.warnings.length + r.oks.length =
        findings.countP (·.1 = .critical) + findings.countP (·.1 = .warning) +
          findings.countP (·.1 = .ok) :=
      congrArg₂ _ (congrArg₂ _ (hlength .critical) (hlength .warning)) (hlength .ok)
    _ = findings.length := countP_severities h.known

/-- There are no findings of a severity exactly if none was brought. -/
theorem isEmpty_eq (h : Accounts r findings data) (s : Status) :
    r.isEmpty s = findings.all (·.1 ≠ s) := by
  rw [isEmpty, h.findings_eq, Bool.eq_iff_iff, List.isEmpty_iff, messagesOf, List.map_eq_nil_iff,
    List.filter_eq_nil_iff, List.all_eq_true]
  simp only [decide_eq_true_eq, ne_eq]

/-- The exit code is the highest one of a severity, zero without findings. -/
theorem exitCode_eq (h : Accounts r findings data) :
    r.status.exitCode = (findings.map (·.1.exitCode)).foldl max 0 := by
  rw [h.status_eq, worstOf, exitCode_foldl_worst, List.map_map]
  rfl

end Accounts

/-- Every history of a report keeps the account of its steps. -/
theorem accounts_ofSteps (name : String) (steps : List Step) :
    Accounts (ofSteps name steps) (steps.filterMap Step.finding?)
      (steps.filterMap Step.datum?) := by
  -- The last step finds the account of those before it.
  induction steps using List.reverseRecOn with
  | nil => exact .empty name
  | append_singleton steps step ih =>
    have hlast {α : Type} (f : Step → Option α) :
        (steps ++ [step]).filterMap f = steps.filterMap f ++ (f step).toList := by
      rw [List.filterMap_append, List.filterMap_cons, List.filterMap_nil]
      cases f step <;> rfl
    rw [ofSteps, List.foldl_append, hlast, hlast]
    exact ih.step step

/-- More steps do not improve the status. -/
theorem exitCode_ofSteps_le (name : String) (steps more : List Step) :
    (ofSteps name steps).status.exitCode ≤ (ofSteps name (steps ++ more)).status.exitCode := by
  rw [ofSteps, ofSteps, List.foldl_append]
  generalize steps.foldl Step.apply { check := name } = r
  induction more generalizing r with
  | nil => exact le_rfl
  | cons step more ih =>
    have hstep : r.status.exitCode ≤ (step.apply r).status.exitCode := by
      rw [step.apply_eq_append, status_append, Status.exitCode_worst]
      exact le_max_left ..
    exact hstep.trans (ih (step.apply r))

/-- What a report is after any steps in its making, whatever became of them.

The critical findings, the warnings and what is in order are the messages that the steps brought
with that severity, in the order of the steps; so every finding stands in one of the lists, and
stands there once. The measured quantities are those that the steps brought, in their order. The
status is the worst severity so far, and all is well without findings. A severity is empty exactly
if no step brought a finding of it. More steps never lower the exit code. -/
theorem ofSteps_history (name : String) (steps : List Step) :
    let r := ofSteps name steps
    let findings := steps.filterMap Step.finding?
    let brought (s : Status) := (findings.filter (·.1 = s)).map Prod.snd
    r.check = name ∧
    r.criticals = brought .critical ∧ r.warnings = brought .warning ∧ r.oks = brought .ok ∧
    r.criticals.length + r.warnings.length + r.oks.length = findings.length ∧
    r.perf = steps.filterMap Step.datum? ∧
    r.status = (findings.map Prod.fst).foldl Status.worst .ok ∧
    r.status.exitCode = (findings.map fun finding => finding.1.exitCode).foldl max 0 ∧
    (∀ s, r.isEmpty s = findings.all (·.1 ≠ s)) ∧
    ∀ more, r.status.exitCode ≤ (ofSteps name (steps ++ more)).status.exitCode := by
  intro r findings brought
  have h : Accounts r findings (steps.filterMap Step.datum?) := accounts_ofSteps name steps
  exact ⟨check_ofSteps name steps, h.findings_eq .critical, h.findings_eq .warning,
    h.findings_eq .ok, h.length_eq, h.perf_eq, h.status_eq, h.exitCode_eq, h.isEmpty_eq,
    exitCode_ofSteps_le name steps⟩

/-- A judgement against thresholds of different kinds has no result and leaves no trace. -/
example :
    let steps := [.warning "slow", .judge (.int 5) (.int 1) (.str "2") .auto "load" none, .ok "up"]
    (ofSteps "vitals" steps).messages = ["slow", "up"] := rfl

end Report

end Vigil
