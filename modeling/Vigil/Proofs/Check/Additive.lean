import Vigil.Check
import Vigil.Proofs.Faults
import Vigil.Proofs.Report.Append

/-!
# Additive work on reports

Work on a report is additive if all that it does is to append: on every report it has the outcome
that it has on an empty one, and it leaves the report with what it adds to an empty one at its end.
Steps that add something are additive, and so are sequences and branches of additive work
(`Additive.bind`, `Additive.ite`). Counting the findings of a report is not, but
comparing the counts before and after additive work is (`Additive.unlessCritical`).

The outcome and the additions of a sequence are those of its parts (`Additive.outcome_bind`,
`Additive.added_bind_ok`), so a run of additive work can be computed without a report.

Plain work is additive and stops with faults of data only (`Plain`). It is what a check consists of,
once it has found that it can work on its snapshot at all.
-/

namespace Vigil.Checking

variable {α β : Type}

/-- The outcome of work on an empty report. -/
def outcome (work : Checking α) : Except Fault α := (work.runOn {}).1

/-- What work adds to an empty report. -/
def added (work : Checking α) : Report := (work.runOn {}).2

/-- On every report, the work has the outcome that it has on an empty one, and appends what it adds
to an empty one. -/
def Additive (work : Checking α) : Prop :=
  ∀ r, work.runOn r = (work.outcome, r ++ work.added)

/-! ## Running the parts of work -/

/-- Work that only returns a value leaves the report as it is. -/
theorem runOn_pure (a : α) (r : Report) : (pure a : Checking α).runOn r = (.ok a, r) := rfl

/-- Work that stops leaves the report as it is. -/
theorem runOn_stop (fault : Fault) (r : Report) :
    (stop fault : Checking α).runOn r = (.error fault, r) := rfl

/-- A change of the report is the function applied to it. -/
theorem runOn_change (f : Report → Report) (r : Report) :
    (change f).runOn r = (.ok (), f r) := rfl

/-- The count of critical findings is read off the report, which stays as it is. This is the one
step whose outcome depends on what was filed before. -/
theorem runOn_criticalCount (r : Report) :
    criticalCount.runOn r = (.ok r.criticals.length, r) := rfl

/-- A calculation leaves the report as it is. -/
theorem runOn_obtain (x : Except Fault α) (r : Report) : (obtain x).runOn r = (x, r) := by
  cases x <;> rfl

/-- A calculation in two parts. -/
theorem obtain_bind (x : Except Fault α) (f : α → Except Fault β) :
    obtain (x >>= f) = obtain x >>= fun a => obtain (f a) := by
  cases x <;> rfl

/-- The second part of a sequence works on the report that the first one leaves, unless the first
one stops. -/
theorem runOn_bind (work : Checking α) (next : α → Checking β) (r : Report) :
    (work >>= next).runOn r =
      match work.runOn r with
      | (.ok a, s) => (next a).runOn s
      | (.error fault, s) => (.error fault, s) := by
  change (match StateT.run work r with
    | (x, s) => StateT.run (ExceptT.bindCont next x) s) = _
  unfold runOn
  cases StateT.run work r with
  | mk x s => cases x <;> rfl

/-! ## Work under a condition

A step under a condition that is followed by more runs the rest in both branches. These equations
put the rest behind the step once. -/

/-- Work that is done under a condition, and nothing otherwise. -/
def onlyIf (c : Prop) [Decidable c] (work : Checking Unit) : Checking Unit :=
  if c then work else pure ()

/-- A critical finding under a condition; its text is calculated only then. -/
def criticalIf (c : Prop) [Decidable c] (text : Except Fault String) : Checking Unit :=
  onlyIf c (obtain text >>= critical)

section Condition

variable (c : Prop) [Decidable c] (next : Unit → Checking β)

/-- Work under a condition with more work behind it. -/
theorem ite_bind (work : Checking Unit) :
    (if c then work >>= next else next ()) = onlyIf c work >>= next := by
  unfold onlyIf
  split <;> rfl

/-- A critical finding under a condition, with more work behind it. -/
theorem ite_critical_bind (message : String) :
    (if c then critical message >>= next else next ()) = criticalIf c (.ok message) >>= next :=
  ite_bind c next (critical message)

/-- A critical finding under a condition whose text has to be calculated first. -/
theorem ite_obtain_critical (x : Except Fault α) (wording : α → String) :
    (if c then obtain x >>= fun a => critical (wording a) else pure ()) =
      criticalIf c (wording <$> x) := by
  unfold criticalIf onlyIf
  cases x <;> rfl

/-- A critical finding under a condition whose text has to be calculated first, with more work
behind it. -/
theorem ite_obtain_critical_bind (x : Except Fault α) (wording : α → String) :
    (if c then obtain x >>= fun a => critical (wording a) >>= next else next ()) =
      criticalIf c (wording <$> x) >>= next := by
  rw [← ite_obtain_critical]
  cases x <;> split <;> rfl

end Condition

/-! ## Outcomes and additions -/

/-- Work that only returns a value has that value as its outcome. -/
@[simp]
theorem outcome_pure (a : α) : (pure a : Checking α).outcome = .ok a := rfl

/-- Work that stops has its fault as its outcome. -/
@[simp]
theorem outcome_stop (fault : Fault) : (stop fault : Checking α).outcome = .error fault := rfl

/-- A change of the report always comes to its end. -/
@[simp]
theorem outcome_change (f : Report → Report) : (change f).outcome = .ok () := rfl

/-- A calculation has its own outcome. -/
@[simp]
theorem outcome_obtain (x : Except Fault α) : (obtain x).outcome = x := by
  rw [outcome, runOn_obtain]

/-- Work that only returns a value adds nothing. -/
@[simp]
theorem added_pure (a : α) : (pure a : Checking α).added = {} := rfl

/-- Work that stops adds nothing. -/
@[simp]
theorem added_stop (fault : Fault) : (stop fault : Checking α).added = {} := rfl

/-- A change adds what it makes of an empty report. -/
@[simp]
theorem added_change (f : Report → Report) : (change f).added = f {} := rfl

/-- A calculation adds nothing. -/
@[simp]
theorem added_obtain (x : Except Fault α) : (obtain x).added = {} := by
  rw [added, runOn_obtain]

namespace Additive

variable {work : Checking α} {next : α → Checking β}

/-- The empty report stands for no additions at all. -/
theorem empty_append_added (h : Additive work) : ({} : Report) ++ work.added = work.added :=
  (congrArg Prod.snd (h {})).symm

/-- The parts of a sequence have their own outcomes, whatever was added before. -/
theorem outcome_bind (h : Additive work) (hnext : ∀ a, Additive (next a)) :
    (work >>= next).outcome = work.outcome >>= fun a => (next a).outcome := by
  rw [outcome, runOn_bind, h {}]
  cases hwork : work.outcome with
  | error fault => rfl
  | ok a => simp only [hnext a (({} : Report) ++ work.added)]; rfl

/-- What the second part of a sequence adds stands after what the first one adds. -/
theorem added_bind_ok (h : Additive work) (hnext : ∀ a, Additive (next a)) {a : α}
    (hwork : work.outcome = .ok a) : (work >>= next).added = work.added ++ (next a).added := by
  rw [added, runOn_bind, h {}, hwork, h.empty_append_added]
  simp only [hnext a work.added]

/-- The second part of a sequence adds nothing if the first one stops. -/
theorem added_bind_error (h : Additive work) {fault : Fault}
    (hwork : work.outcome = .error fault) : (work >>= next).added = work.added := by
  rw [added, runOn_bind, h {}, hwork, h.empty_append_added]

/-! ## Work that is additive -/

/-- Returning a value is additive. -/
protected theorem pure (a : α) : Additive (Pure.pure a : Checking α) := fun r => by
  rw [runOn_pure, outcome_pure, added_pure, Report.append_empty]

/-- Stopping is additive. -/
theorem stop (fault : Fault) : Additive (Checking.stop fault : Checking α) := fun r => by
  rw [runOn_stop, outcome_stop, added_stop, Report.append_empty]

/-- A calculation is additive. -/
theorem obtain (x : Except Fault α) : Additive (Checking.obtain x) := fun r => by
  rw [runOn_obtain, outcome_obtain, added_obtain, Report.append_empty]

/-- A change of the report is additive if it is an append. -/
theorem change {f : Report → Report} (h : ∀ r, f r = r ++ f {}) : Additive (Checking.change f) :=
  fun r => by rw [runOn_change, outcome_change, added_change, h r]

/-- Filing an OK finding is additive. -/
theorem ok (message : String) : Additive (Checking.ok message) :=
  change (Report.addOk_eq_append message)

/-- Filing a warning is additive. -/
theorem warning (message : String) : Additive (Checking.warning message) :=
  change (Report.addWarning_eq_append message)

/-- Filing a critical finding is additive. -/
theorem critical (message : String) : Additive (Checking.critical message) :=
  change (Report.addCritical_eq_append message)

/-- Filing a finding of a given severity is additive. -/
theorem file (severity : Status) (message : String) : Additive (Checking.file severity message) :=
  change (Report.add_eq_append severity message)

/-- Filing the finding of an evaluation is additive. -/
theorem record (e : Evaluation) : Additive (Checking.change (.record e)) :=
  change (Report.record_eq_append e)

/-- Adding a perf datum is additive. -/
theorem measure (datum : Perf.Datum) : Additive (Checking.measure datum) :=
  change (Report.addPerf_eq_append datum)

/-- A sequence of additive parts is additive. -/
theorem bind (h : Additive work) (hnext : ∀ a, Additive (next a)) :
    Additive (work >>= next) := fun r => by
  rw [h.outcome_bind hnext, runOn_bind, h r]
  cases hwork : work.outcome with
  | error fault => simp only [h.added_bind_error hwork]; rfl
  | ok a =>
    simp only [hnext a (r ++ work.added), h.added_bind_ok hnext hwork, Report.append_assoc]
    rfl

/-- A branch of additive parts is additive. -/
theorem ite {c : Prop} [Decidable c] {yes no : Checking α} (hyes : Additive yes)
    (hno : Additive no) : Additive (if c then yes else no) := by
  split
  · exact hyes
  · exact hno

/-- Additive work under a condition is additive. -/
theorem onlyIf {c : Prop} [Decidable c] {work : Checking Unit} (h : Additive work) :
    Additive (Checking.onlyIf c work) := ite h (.pure ())

end Additive

/-! ## Verdicts over one's own additions -/

/-- Finishes with something if nothing critical has been added since the work began. -/
def unlessCritical (work finish : Checking Unit) : Checking Unit := do
  let before ← criticalCount
  work
  if (← criticalCount) = before then finish

/-- The verdict counts the criticals of the work alone: those that a report had before are in both
counts. -/
theorem runOn_unlessCritical {work : Checking Unit} (h : Additive work) (finish : Checking Unit)
    (r : Report) :
    (unlessCritical work finish).runOn r =
      (work >>= fun _ => onlyIf (work.added.criticals = []) finish).runOn r := by
  unfold unlessCritical
  rw [runOn_bind, runOn_criticalCount]
  simp only [runOn_bind, h r, runOn_criticalCount]
  cases work.outcome with
  | error fault => rfl
  | ok _ => simp [onlyIf]

/-- Work whose end is left out if it filed a critical finding is additive, although it counts the
findings of the report: additive work raises the count on every report alike. -/
theorem Additive.unlessCritical {work finish : Checking Unit} (h : Additive work)
    (hfinish : Additive finish) : Additive (Checking.unlessCritical work finish) := fun r => by
  simp only [outcome, added, runOn_unlessCritical h]
  exact (h.bind fun _ => .onlyIf hfinish) r

/-! ## Plain work -/

/-- The work is additive, and if it stops, then with a fault of data. -/
structure Plain (work : Checking α) : Prop where
  /-- The work does nothing but append. -/
  additive : Additive work
  /-- The work stops with faults of data only. -/
  failsWith : FailsWith (·.isData) work.outcome

namespace Plain

variable {work : Checking α} {next : α → Checking β}

/-- Returning a value is plain. -/
protected theorem pure (a : α) : Plain (Pure.pure a : Checking α) := ⟨.pure a, by simp⟩

/-- A calculation is plain if it fails with faults of data only. -/
theorem obtain {x : Except Fault α} (h : FailsWith (·.isData) x) : Plain (Checking.obtain x) :=
  ⟨.obtain x, by simpa using h⟩

/-- Filing an OK finding is plain. -/
theorem ok (message : String) : Plain (Checking.ok message) := ⟨.ok message, .ok ()⟩

/-- Filing a warning is plain. -/
theorem warning (message : String) : Plain (Checking.warning message) :=
  ⟨.warning message, .ok ()⟩

/-- Filing a critical finding is plain. -/
theorem critical (message : String) : Plain (Checking.critical message) :=
  ⟨.critical message, .ok ()⟩

/-- Filing a finding of a given severity is plain. -/
theorem file (severity : Status) (message : String) : Plain (Checking.file severity message) :=
  ⟨.file severity message, .ok ()⟩

/-- Filing the finding of an evaluation is plain. -/
theorem record (e : Evaluation) : Plain (Checking.change (.record e)) := ⟨.record e, .ok ()⟩

/-- Adding a perf datum is plain. -/
theorem measure (datum : Perf.Datum) : Plain (Checking.measure datum) := ⟨.measure datum, .ok ()⟩

/-- A sequence of plain parts is plain. -/
theorem bind (h : Plain work) (hnext : ∀ a, Plain (next a)) : Plain (work >>= next) where
  additive := h.additive.bind fun a => (hnext a).additive
  failsWith := by
    rw [h.additive.outcome_bind fun a => (hnext a).additive]
    exact h.failsWith.bind fun a => (hnext a).failsWith

/-- A branch of plain parts is plain. -/
theorem ite {c : Prop} [Decidable c] {yes no : Checking α} (hyes : Plain yes) (hno : Plain no) :
    Plain (if c then yes else no) := by
  split
  · exact hyes
  · exact hno

/-- Plain work under a condition is plain. -/
theorem onlyIf {c : Prop} [Decidable c] {work : Checking Unit} (h : Plain work) :
    Plain (Checking.onlyIf c work) := ite h (.pure ())

/-- A critical finding under a condition is plain if its text fails with faults of data only. -/
theorem criticalIf {c : Prop} [Decidable c] {text : Except Fault String}
    (h : FailsWith (·.isData) text) : Plain (Checking.criticalIf c text) :=
  onlyIf ((obtain h).bind critical)

/-- A loop over plain work is plain. -/
theorem forM {body : α → Checking PUnit} (h : ∀ a, Plain (body a)) (xs : List α) :
    Plain (xs.forM body) := by
  induction xs with
  | nil => exact .pure _
  | cons x xs ih => exact (h x).bind fun _ => ih

/-- A verdict over plain work is plain. -/
theorem unlessCritical {work finish : Checking Unit} (h : Plain work) (hfinish : Plain finish) :
    Plain (Checking.unlessCritical work finish) where
  additive := h.additive.unlessCritical hfinish.additive
  failsWith := by
    rw [outcome, runOn_unlessCritical h.additive]
    exact (h.bind fun _ => .onlyIf hfinish).failsWith

end Plain

end Vigil.Checking
