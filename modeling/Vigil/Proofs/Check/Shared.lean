import Vigil.Proofs.Check.Adding
import Vigil.Proofs.Check.Parts

/-!
# Checks on a shared report

Checks may run one after the other on one report. Each of them does to it what it does to a report
of its own, however much the report holds already, and the findings of all of them stand in it in
the order of the checks (`Monitor.runAll_shared`).

A check that finds nothing to work on, or a snapshot of another server, leaves the report as it is.
-/

namespace Vigil

namespace Checking

/-- The work is additive, and if it stops with a finding, then before it has added anything. -/
structure Tidy (work : Checking Unit) : Prop where
  /-- The work does nothing but append. -/
  additive : Additive work
  /-- Nothing has been added when the work stops with a finding. -/
  added_eq_empty : ∀ fault, work.outcome = .error fault → fault.isFinding → work.added = {}

namespace Tidy

/-- Work that stops at once has added nothing. -/
theorem stop (fault : Fault) : Tidy (Checking.stop fault) := ⟨.stop fault, fun _ _ _ => rfl⟩

end Tidy

/-- Plain work never stops with a finding. -/
theorem Plain.tidy {work : Checking Unit} (h : Plain work) : Tidy work where
  additive := h.additive
  added_eq_empty _ hfault hfinding := absurd hfault (h.failsWith.ne_finding hfinding)

end Checking

namespace Check

open Checking

/-- The expectation of a server is additive. -/
theorem expectServer_additive (t : Config.Vitals) (v : Snapshot.Vitals) :
    Additive (expectServer t v) := by
  refine .ite ?_ (.pure ())
  exact (Additive.obtain _).bind fun _ => .stop _

/-- Looking at the name of a server adds nothing, whatever comes of it. -/
theorem added_expectServer (t : Config.Vitals) (v : Snapshot.Vitals) :
    (expectServer t v).added = {} := by
  unfold expectServer
  -- The name is either told with the finding or not at all; nothing is filed.
  split
  · cases v.name.text <;> rfl
  · rfl

/-- The only finding with which the check of a server stops comes before everything else. -/
theorem vitals_some_tidy (t : Config.Vitals) (v : Snapshot.Vitals) : Tidy (vitals t (some v)) := by
  rw [vitals_some]
  have hexpect := expectServer_additive t v
  have hmeasure := measureServer_plain t v
  refine ⟨hexpect.bind fun _ => hmeasure.additive, fun fault hfault hfinding => ?_⟩
  rw [hexpect.outcome_bind fun _ => hmeasure.additive] at hfault
  cases hname : (expectServer t v).outcome with
  | error other =>
    rw [hexpect.added_bind_error hname, added_expectServer]
  | ok _ =>
    -- The name is right, so the fault is one of the measurements, and that is no finding.
    rw [hname] at hfault
    exact absurd hfault (hmeasure.failsWith.ne_finding hfinding)

/-- The check of a server is tidy. -/
theorem vitals_tidy (t : Config.Vitals) (s : Option Snapshot.Vitals) : Tidy (vitals t s) := by
  cases s with
  | none => exact .stop .noData
  | some v => exact vitals_some_tidy t v

/-- The check of an account is tidy. -/
theorem account_tidy (t : Config.Account) (s : Option Snapshot.Account) : Tidy (account t s) := by
  cases s with
  | none => exact .stop .noData
  | some a => exact (Plain.forM (resource_plain t a) Snapshot.Resource.all).tidy

/-- The check of a cluster is tidy. -/
theorem cluster_tidy (t : Config.Cluster) (s : Option Snapshot.Cluster) : Tidy (cluster t s) := by
  cases s with
  | none => exact (Plain.critical _).tidy
  | some c => exact (Plain.ite (ledCluster_plain t c) (.critical _)).tidy

/-- The check of a credential is tidy. -/
theorem credential_tidy (t : Config.Credential) (clock : Instant)
    (s : Option Snapshot.Credential) : Tidy (credential t clock s) := by
  rcases s with _ | ⟨_ | expiry⟩
  · exact .stop .noData
  · exact (lasting_plain t).tidy
  · exact (expiring_plain t clock expiry).tidy

/-- The check of a message is tidy. -/
theorem message_tidy (t : Config.Message) (clock : Instant) (s : Option Snapshot.Message) :
    Tidy (message t clock s) := by
  cases s with
  | none => exact (Plain.critical _).tidy
  | some m => exact (Plain.ite (selfTimed_plain t clock m) (aged_plain t _)).tidy

end Check

/-- Every check does nothing but append, and what it cannot work on it leaves without a trace. -/
theorem Kind.check_tidy (k : Kind) (t : k.Settings) (clock : Instant) (s : Option k.Snapshot) :
    Checking.Tidy (k.check t clock s) := by
  cases k with
  | vitals => exact Check.vitals_tidy t s
  | account => exact Check.account_tidy t s
  | cluster => exact Check.cluster_tidy t s
  | credential => exact Check.credential_tidy t clock s
  | message => exact Check.message_tidy t clock s

namespace Monitor

/-- A check with all that it works with. -/
structure Step where
  /-- What is checked. -/
  kind : Kind
  /-- What is required of it. -/
  settings : kind.Settings
  /-- When it is checked. -/
  clock : Instant
  /-- What is known about it. -/
  snapshot : Option kind.Snapshot

namespace Step

/-- What the check does. -/
def work (s : Step) : Checking Unit := s.kind.check s.settings s.clock s.snapshot

/-- Runs the check on a report: the outcome, and the report afterwards. -/
def runOn (s : Step) (r : Report) : Except Fault Unit × Report := s.work.runOn r

/-- What the check adds to a report of its own. -/
def own (s : Step) : Report := (s.runOn {}).2

/-- On a shared report, a check has the outcome that it has on a report of its own, and what it adds
to that one it appends to the shared one. -/
theorem runOn_eq (s : Step) (r : Report) : s.runOn r = ((s.runOn {}).1, r ++ s.own) :=
  (s.kind.check_tidy s.settings s.clock s.snapshot).additive r

/-- The name of a report makes no difference to a check. -/
theorem runOn_named (s : Step) (name : String) :
    s.runOn { check := name } = ((s.runOn {}).1, { s.own with check := name }) := by
  rw [runOn_eq]
  exact congrArg (Prod.mk _) (Report.eq_of_fields rfl rfl rfl rfl rfl)

/-- A check that stops with a finding has added nothing. -/
theorem own_eq_empty (s : Step) {fault : Fault} (hfault : (s.runOn {}).1 = .error fault)
    (hfinding : fault.isFinding) : s.own = {} :=
  (s.kind.check_tidy s.settings s.clock s.snapshot).added_eq_empty fault hfault hfinding

end Step

/-- A check on a report of its own adds what it adds to an empty one. -/
theorem run_eq (k : Kind) (config : Config) (clock : Instant) (s : Option k.Snapshot) :
    run k config clock s = ((k.check (config.settings k) clock s).outcome,
      { (k.check (config.settings k) clock s).added with check := k.name }) :=
  Step.runOn_named ⟨k, config.settings k, clock, s⟩ k.name

/-- A check that comes to its end has its additions in a report of its own. -/
theorem run_of_adds {k : Kind} {config : Config} {clock : Instant} {s : Option k.Snapshot}
    {report : Report} (h : Checking.Adds (k.check (config.settings k) clock s) report) :
    run k config clock s = (.ok (), { report with check := k.name }) := by
  rw [run_eq, h.outcome_eq, h.added_eq]

/-- Runs checks one after the other on one report, whatever becomes of them: their outcomes, and the
report afterwards. -/
def runAll : List Step → Report → List (Except Fault Unit) × Report
  | [], r => ([], r)
  | s :: rest, r =>
    let after := runAll rest (s.runOn r).2
    ((s.runOn r).1 :: after.1, after.2)

/-- Checks on a shared report have their own outcomes. -/
theorem runAll_outcomes (steps : List Step) (r : Report) :
    (runAll steps r).1 = steps.map fun s => (s.runOn {}).1 := by
  -- Each check hands on another report, so the report is any for the induction.
  induction steps generalizing r with
  | nil => rfl
  | cons s rest ih =>
    rw [runAll, ih, s.runOn_eq r]
    rfl

/-- A report that checks share is the report before them with their own ones after it, one by one.
-/
theorem runAll_report (steps : List Step) (r : Report) :
    (runAll steps r).2 = steps.foldl (fun report s => report ++ s.own) r := by
  induction steps generalizing r with
  | nil => rfl
  | cons s rest ih =>
    rw [runAll, ih, s.runOn_eq r]
    rfl

/-- Checks on a shared report do to it what they do to reports of their own. Each has its own
outcome there and appends its own findings and performance data; one that stops with a finding
changes nothing. After a run of checks the lists of the report are those from before with the
checks' own ones after them, in order, and the status is the worst of all. -/
theorem runAll_shared :
    (∀ (s : Step) (r : Report) (name : String),
      s.runOn r = ((s.runOn { check := name }).1, r ++ (s.runOn { check := name }).2)) ∧
    (∀ (s : Step) (fault : Fault), (s.runOn {}).1 = .error fault → fault.isFinding →
      ∀ r, s.runOn r = (.error fault, r)) ∧
    ∀ (steps : List Step) (r : Report),
      (runAll steps r).1 = (steps.map fun s => (s.runOn {}).1) ∧
      (runAll steps r).2.check = r.check ∧
      (runAll steps r).2.criticals = r.criticals ++ (steps.flatMap fun s => s.own.criticals) ∧
      (runAll steps r).2.warnings = r.warnings ++ (steps.flatMap fun s => s.own.warnings) ∧
      (runAll steps r).2.oks = r.oks ++ (steps.flatMap fun s => s.own.oks) ∧
      (runAll steps r).2.perf = r.perf ++ (steps.flatMap fun s => s.own.perf) ∧
      (runAll steps r).2.status =
        (steps.map fun s => s.own.status).foldl Status.worst r.status := by
  refine ⟨fun s r name => ?_, fun s fault hfault hfinding r => ?_, fun steps r => ?_⟩
  · rw [s.runOn_eq r, s.runOn_named name]
    exact congrArg (Prod.mk _) (Report.eq_of_fields rfl rfl rfl rfl rfl)
  · rw [s.runOn_eq r, hfault, s.own_eq_empty hfault hfinding, Report.append_empty]
  · -- The lists and the status of a run are read off the appended reports.
    rw [runAll_outcomes, runAll_report]
    refine ⟨rfl, Report.check_foldl_append _ steps r, ?_, ?_, ?_, ?_, ?_⟩
    · exact Report.list_foldl_append _ Report.criticals_append steps r
    · exact Report.list_foldl_append _ Report.warnings_append steps r
    · exact Report.list_foldl_append _ Report.oks_append steps r
    · exact Report.list_foldl_append _ Report.perf_append steps r
    · exact Report.status_foldl_append _ steps r

/-- The check of an account without a snapshot, on a report that has a critical finding already. -/
theorem runAll_shared_no_data :
    let step : Step := ⟨.account, ({} : Config.Account), ⟨0, by decide⟩, none⟩
    (step.runOn {}).1 = .error .noData ∧ Fault.isFinding .noData ∧
      step.runOn { criticals := ["down"] } = (.error .noData, { criticals := ["down"] }) :=
  ⟨rfl, rfl, runAll_shared.2.1 _ .noData rfl rfl _⟩

end Monitor

end Vigil
