import Vigil.Proofs.Check.Crashes
import Vigil.Proofs.Report.Judged

/-!
# The aspects of a server

The check of a server looks at seven aspects: three features that may be required, and four meters
that may have thresholds. What is reported about an aspect (`Check.Aspect.report`) is calculated
from its own setting and its own field of the snapshot, and the check appends these reports one
after the other.

The main statement is `Monitor.runOn_vitals`. Two checks that differ in one aspect only report the
same about the other six, before it and after it, whatever they report about that one.
-/

namespace Vigil

namespace Check

open Checking

/-! ## Judging a metric -/

namespace Metric

variable {m : Metric} {limits : Limits} {value : Value} {shown : String} {s : Report}

/-- Whether one of the thresholds is set. -/
def isSet (limits : Limits) : Bool := !(limits.warning.isNull && limits.critical.isNull)

/-- What is measured of a metric. -/
def datum (m : Metric) (limits : Limits) (value : Value) : Perf.Datum where
  label := m.key
  value := value
  unit := m.unit
  warn := limits.warning
  crit := limits.critical

/-- The judgement of a value. Thresholds that do not suit their policy must have a text. -/
def judge (m : Metric) (limits : Limits) (value : Value) (shown : String) :
    Except Fault Evaluation := do
  let e ← Threshold.evaluate value limits.warning limits.critical m.policy m.label (some shown)
  note limits e
  return e

/-- What is reported about a metric: a measurement and a judgement, if a threshold is set. -/
def report (m : Metric) (limits : Limits) (value : Value) (shown : String) :
    Except Fault Report :=
  if isSet limits then
    (fun e => .judged [m.datum limits value] (e.status, e.message)) <$> m.judge limits value shown
  else .ok {}

/-- Judging a metric is one calculation. -/
theorem measure_eq (m : Metric) (limits : Limits) (value : Value) (shown : String) :
    m.measure limits value shown = onlyIf (isSet limits) (do
      Checking.measure (m.datum limits value)
      let e ← obtain (m.judge limits value shown)
      change (.record e)) := by
  unfold judge
  simp only [obtain_bind, bind_assoc]
  rfl

/-- The check of a metric comes to its end exactly if its report can be calculated. -/
theorem outcome_measure (m : Metric) (limits : Limits) (value : Value) (shown : String) :
    (m.measure limits value shown).outcome = (fun _ => ()) <$> m.report limits value shown := by
  rw [measure_eq]
  unfold report onlyIf
  split
  · cases m.judge limits value shown <;> rfl
  · rfl

/-- The report about a metric that has a threshold is one measurement and one finding. -/
theorem of_report (hset : isSet limits) (h : m.report limits value shown = .ok s) :
    s.perf = [m.datum limits value] ∧ s.messages.length = 1 := by
  unfold report at h
  rw [if_pos hset] at h
  obtain ⟨e, -, rfl⟩ := map_eq_ok_iff.mp h
  exact ⟨Report.perf_judged _ _, congrArg List.length (Report.messages_judged _ _)⟩

/-- Thresholds that do not suit their policy are critical, whatever was measured. -/
theorem status_report_of_not_valid
    (hinvalid : m.policy.isValid limits.warning limits.critical = .ok false)
    (h : m.report limits value shown = .ok s) : s.status = .critical := by
  have hset : isSet limits := by
    obtain ⟨hwarning, -⟩ := isSet_of_not_valid hinvalid
    simp [isSet, hwarning]
  unfold report at h
  rw [if_pos hset] at h
  obtain ⟨e, he, rfl⟩ := map_eq_ok_iff.mp h
  obtain ⟨judged, hjudged, hnoted⟩ := bind_eq_ok_iff.mp he
  obtain ⟨_, -, hjudged'⟩ := bind_eq_ok_iff.mp hnoted
  obtain rfl := Except.ok.inj hjudged'
  rw [Threshold.evaluate_of_not_valid hinvalid] at hjudged
  obtain rfl := Except.ok.inj hjudged
  rfl

/-- Measuring a metric adds its report, if there is one. -/
theorem measure_adds (h : m.report limits value shown = .ok s) :
    Adds (m.measure limits value shown) s := by
  rw [measure_eq]
  unfold report at h
  unfold onlyIf
  split at h
  · rename_i hset
    obtain ⟨e, he, rfl⟩ := map_eq_ok_iff.mp h
    rw [if_pos hset]
    exact .measure_judged _ (.obtain_bind he (.judged e.status e.message))
  · rename_i hset
    obtain rfl := Except.ok.inj h
    rw [if_neg hset]
    exact .pure

end Metric

/-! ## Features and meters -/

/-- A feature that may be required of a server. -/
inductive Feature where
  | jetstream | tls | auth
  deriving DecidableEq

namespace Feature

/-- Whether a feature is required. -/
def required (t : Config.Vitals) : Feature → Value
  | .jetstream => t.requireJetstream
  | .tls => t.requireTls
  | .auth => t.requireAuth

/-- Whether a server has a feature. -/
def present (v : Snapshot.Vitals) : Feature → Value
  | .jetstream => v.jetstream
  | .tls => v.tls
  | .auth => v.auth

/-- The finding about a server that has a feature. -/
def met : Feature → String
  | .jetstream => "JetStream enabled"
  | .tls => "TLS required"
  | .auth => "Authentication required"

/-- The finding about a server that lacks a feature. -/
def unmet : Feature → String
  | .jetstream => "JetStream not enabled"
  | .tls => "TLS not required"
  | .auth => "Authentication not required"

/-- What is reported about a feature. -/
def report (f : Feature) (required present : Value) : Report :=
  if required.truthy then
    if present.truthy then { oks := [f.met] } else { criticals := [f.unmet] }
  else {}

/-- A required feature that is missing is critical. -/
theorem status_report_of_missing (f : Feature) {required present : Value}
    (hrequired : required.truthy) (hmissing : ¬present.truthy) :
    (f.report required present).status = .critical := by
  unfold report
  rw [if_pos hrequired, if_neg hmissing]
  rfl

/-- Requiring a feature adds its report. -/
theorem require_adds (f : Feature) (required present : Value) :
    Adds (require required present f.met f.unmet) (f.report required present) := by
  unfold require report
  split
  · split
    · exact .ok _
    · exact .critical _
  · exact .pure

end Feature

/-- A quantity of a server that may have thresholds. -/
inductive Meter where
  | uptime | cpu | memory | connections
  deriving DecidableEq

namespace Meter

/-- The metric of a quantity. -/
def metric : Meter → Metric
  | .uptime => Check.uptime
  | .cpu => Check.cpu
  | .memory => Check.memory
  | .connections => Check.connections

/-- The thresholds of a quantity. -/
def limits (t : Config.Vitals) : Meter → Limits
  | .uptime => t.uptime
  | .cpu => t.cpu
  | .memory => t.memory
  | .connections => t.connections

/-- The value of a quantity. The uptime is the time from the start up to now. -/
def reading (v : Snapshot.Vitals) : Meter → Value
  | .uptime => .duration v.uptime
  | .cpu => .float v.cpu
  | .memory => .int v.memory
  | .connections => .int v.connections

/-- The text that a finding shows for a value: durations in the human form, numbers with two
places. -/
def display : Value → Except Fault String
  | .duration d => .ok d.humanize
  | v => v.fixed 2

/-- What is reported about a quantity. -/
def report (q : Meter) (limits : Limits) (value : Value) : Except Fault Report := do
  let shown ← display value
  q.metric.report limits value shown

/-- What the check does about a quantity. -/
def work (q : Meter) (limits : Limits) (value : Value) : Checking Unit := do
  let shown ← obtain (display value)
  q.metric.measure limits value shown

variable {q : Meter} {limits : Limits} {value : Value} {s : Report}

/-- The text of a value in a finding fails with faults of data only. -/
theorem display_failsWith (value : Value) : FailsWith (·.isData) (display value) := by
  unfold display
  split
  · exact .ok _
  · exact Value.fixed_failsWith 2 _

/-- The work on a quantity is plain. -/
theorem work_plain (q : Meter) (limits : Limits) (value : Value) : Plain (q.work limits value) :=
  (Plain.obtain (display_failsWith value)).bind fun shown =>
    q.metric.measure_plain limits value shown

/-- The work on a quantity ends as its report does. -/
theorem outcome_work (q : Meter) (limits : Limits) (value : Value) :
    (q.work limits value).outcome = (fun _ => ()) <$> q.report limits value := by
  unfold work report
  cases display value with
  | error fault => rfl
  | ok shown => exact q.metric.outcome_measure limits value shown

/-- On the scale of its thresholds, a value is reported unless it cannot be shown or the thresholds
do not suit their policy and cannot be shown either. -/
theorem stops_report {scale : Scale} (hlimits : scale.BoundsLimits limits)
    (hvalue : scale.Measures value) :
    Stops (q.report limits value) ↔ Stops (display value) ∨
      q.metric.policy.isValid limits.warning limits.critical = .ok false ∧
        ¬(limits.warning.writable ∧ limits.critical.writable) := by
  have hwork : StopsWhen (q.work limits value) _ :=
    .obtain_bind Iff.rfl fun shown _ => q.metric.measure_stopsWhen hlimits hvalue shown
  rw [← hwork.stops_iff, outcome_work, stops_map]

/-- A quantity is reported on if its thresholds and its value are on one scale, and the texts that
may be needed can be written. -/
theorem not_stops_report {scale : Scale} (hlimits : scale.BoundsLimits limits)
    (hvalue : scale.Measures value) (hshown : ¬Stops (display value))
    (hwarning : limits.warning.writable) (hcritical : limits.critical.writable) :
    ¬Stops (q.report limits value) := by
  rw [stops_report hlimits hvalue]
  rintro (h | ⟨-, h⟩)
  · exact hshown h
  · exact h ⟨hwarning, hcritical⟩

/-- What is reported about a quantity is what is reported about its metric. -/
theorem exists_metric_report (h : q.report limits value = .ok s) :
    ∃ shown, display value = .ok shown ∧ q.metric.report limits value shown = .ok s :=
  bind_eq_ok_iff.mp h

/-- The work on a quantity adds its report, if there is one. -/
theorem work_adds (h : q.report limits value = .ok s) : Adds (q.work limits value) s := by
  obtain ⟨shown, hshown, hs⟩ := exists_metric_report h
  exact .obtain_bind hshown (Metric.measure_adds hs)

end Meter

/-! ## The aspects in their order -/

/-- An aspect of a server. -/
inductive Aspect where
  /-- A feature that may be required. -/
  | feature (f : Feature)
  /-- A quantity that may have thresholds. -/
  | meter (q : Meter)
  deriving DecidableEq

namespace Aspect

/-- The aspects in the order in which they are looked at. -/
def all : List Aspect :=
  [.feature .jetstream, .feature .tls, .feature .auth, .meter .uptime, .meter .cpu, .meter .memory,
    .meter .connections]

/-- What is reported about an aspect. -/
def report (t : Config.Vitals) (v : Snapshot.Vitals) : Aspect → Except Fault Report
  | .feature f => .ok (f.report (f.required t) (f.present v))
  | .meter q => q.report (q.limits t) (q.reading v)

/-- What the check does about an aspect. -/
def work (t : Config.Vitals) (v : Snapshot.Vitals) : Aspect → Checking Unit
  | .feature f => require (f.required t) (f.present v) f.met f.unmet
  | .meter q => q.work (q.limits t) (q.reading v)

/-- Two servers and what is required of them agree in an aspect: its setting and its field are the
same. -/
def Agrees (t t' : Config.Vitals) (v v' : Snapshot.Vitals) : Aspect → Prop
  | .feature f => f.required t = f.required t' ∧ f.present v = f.present v'
  | .meter q => q.limits t = q.limits t' ∧ q.reading v = q.reading v'

variable {t t' : Config.Vitals} {v v' : Snapshot.Vitals} {p : Aspect} {s : Report}

/-- The report about an aspect depends on nothing but its setting and its field. -/
theorem Agrees.report_eq (h : p.Agrees t t' v v') : p.report t v = p.report t' v' := by
  cases p with
  | feature f =>
    change Except.ok (f.report _ _) = .ok (f.report _ _)
    rw [h.1, h.2]
  | meter q =>
    change q.report _ _ = q.report _ _
    rw [h.1, h.2]

/-- The work on an aspect adds its report, if there is one. -/
theorem work_adds (h : p.report t v = .ok s) : Adds (p.work t v) s := by
  cases p with
  | feature f =>
    obtain rfl := Except.ok.inj h
    exact f.require_adds _ _
  | meter q => exact Meter.work_adds h

/-- The work on an aspect stops exactly if there is no report on it. -/
theorem work_stopsWhen (t : Config.Vitals) (v : Snapshot.Vitals) (p : Aspect) :
    StopsWhen (p.work t v) (Stops (p.report t v)) := by
  cases p with
  | feature f => exact (require_stopsWhen _ _ _ _).congr (by simp [report])
  | meter q =>
    refine ⟨(q.work_plain _ _).additive, ?_⟩
    change Stops (q.work (q.limits t) (q.reading v)).outcome ↔ _
    rw [q.outcome_work, stops_map]
    rfl

/-- The list of aspects has all of them. -/
theorem mem_all (p : Aspect) : p ∈ all := by
  rcases p with f | q
  · cases f <;> decide
  · cases q <;> decide

/-- An aspect stands between the others, and only once. -/
theorem exists_all_eq (p : Aspect) : ∃ before behind, all = before ++ p :: behind ∧
    ∀ q ∈ before ++ behind, q ≠ p := by
  obtain ⟨before, behind, hall⟩ := List.append_of_mem p.mem_all
  refine ⟨before, behind, hall, ?_⟩
  have hnodup : all.Nodup := by decide
  rw [hall, List.nodup_middle, List.nodup_cons] at hnodup
  rintro q hq rfl
  exact hnodup.1 hq

end Aspect

/-- The check of the expected server goes through its aspects. -/
theorem measureServer_eq (t : Config.Vitals) (v : Snapshot.Vitals) :
    measureServer t v = Aspect.all.forM (Aspect.work t v) := by
  have hsteps : Aspect.all.forM (Aspect.work t v) = (do
      Aspect.work t v (.feature .jetstream)
      Aspect.work t v (.feature .tls)
      Aspect.work t v (.feature .auth)
      Aspect.work t v (.meter .uptime)
      Aspect.work t v (.meter .cpu)
      Aspect.work t v (.meter .memory)
      Aspect.work t v (.meter .connections)
      pure PUnit.unit) := rfl
  rw [hsteps]
  simp only [Aspect.work, Meter.work, bind_assoc, bind_pure_unit]
  rfl

/-- The check of a server stops if it is another one, or if a report about an aspect cannot be
calculated. -/
theorem vitals_stopsWhen (t : Config.Vitals) (v : Snapshot.Vitals) :
    StopsWhen (vitals t (some v)) (isOther t v ∨ ∃ p : Aspect, Stops (p.report t v)) := by
  have hexpect : StopsWhen (expectServer t v) (isOther t v) := by
    refine ⟨expectServer_additive t v, ?_⟩
    rw [expectServer_outcome]
    split
    · -- Whether the name can be told or not, the check stops.
      rename_i hother
      refine iff_of_true ?_ hother
      cases v.name.text with
      | error fault => exact stops_error fault
      | ok name => exact stops_error _
    · rename_i hexpected
      exact iff_of_false (not_stops_ok ()) hexpected
  have haspects := StopsWhen.forM (Aspect.work_stopsWhen t v) Aspect.all
  rw [vitals_some, measureServer_eq]
  exact (hexpect.seq haspects).congr (by simp [Aspect.mem_all])

/-- The check of the expected server appends the reports about its aspects. -/
theorem vitals_adds {t : Config.Vitals} {v : Snapshot.Vitals} {own : Aspect → Report}
    (hserver : ¬isOther t v) (hown : ∀ p : Aspect, p.report t v = .ok (own p)) :
    Adds (vitals t (some v)) (Aspect.all.foldl (fun report p => report ++ own p) {}) := by
  have hexpect : expectServer t v = pure () := by
    unfold expectServer
    rw [Bool.not_eq_true] at hserver
    rw [show (t.serverName.truthy && !v.name.equals t.serverName) = false from hserver]
    rfl
  rw [vitals_some, hexpect, pure_bind, measureServer_eq]
  exact Adds.forM fun p _ => Aspect.work_adds (hown p)

end Check

namespace Monitor

open Check

section Vitals

variable {config : Config} {clock : Instant} {v : Snapshot.Vitals} {r : Report}

/-- The check of a server comes to its end exactly if the server is the expected one and every
aspect can be reported on. -/
theorem runOn_vitals_eq_ok_iff :
    (runOn .vitals config clock (some v) r).1 = .ok () ↔
      ¬isOther config.vitals v ∧ ∀ p : Aspect, ¬Stops (p.report config.vitals v) := by
  have hstops := vitals_stopsWhen config.vitals v
  change ((vitals config.vitals (some v)).runOn r).1 = .ok () ↔ _
  rw [hstops.additive r, hstops.outcome_eq_ok_iff, not_or, not_exists]

/-- A check that comes to its end has appended its reports. -/
theorem exists_reports_of_runOn_vitals
    (hend : (runOn .vitals config clock (some v) r).1 = .ok ()) :
    ∃ own : Aspect → Report, (∀ p : Aspect, p.report config.vitals v = .ok (own p)) ∧
      (runOn .vitals config clock (some v) r).2 =
        Aspect.all.foldl (fun report p => report ++ own p) r := by
  obtain ⟨hserver, htold⟩ := runOn_vitals_eq_ok_iff.mp hend
  choose own hown using fun p => not_stops_iff.mp (htold p)
  have hadds := vitals_adds hserver hown
  refine ⟨own, hown, ?_⟩
  change ((vitals config.vitals (some v)).runOn r).2 = _
  rw [hadds.additive r, hadds.added_eq, Report.foldl_append_eq own Aspect.all r]

end Vitals

/-- The check of a server comes to its end exactly if the server is the expected one and every
report about an aspect can be calculated. It has appended these reports then, in the order of the
aspects. A meter without thresholds is not reported; one with a threshold has one measurement and
one finding. The status is the worst one of the reports, so it is critical if a feature is missing
that is required, or if thresholds do not suit their policy.

The report about an aspect depends on nothing but its setting and its field. If another check
differs in one aspect only, it reports the same about the other six, before and after whatever it
reports about that one. -/
theorem runOn_vitals (config : Config) (clock : Instant) (v : Snapshot.Vitals) (r : Report) :
    let t := config.vitals
    let after := runOn .vitals config clock (some v) r
    (after.1 = .ok () ↔ ¬isOther t v ∧ ∀ p : Aspect, ¬Stops (p.report t v)) ∧
    (after.1 = .ok () → ∃ own : Aspect → Report,
      (∀ p : Aspect, p.report t v = .ok (own p)) ∧
      after.2 = Aspect.all.foldl (fun report p => report ++ own p) r ∧
      after.2.status = (Aspect.all.map fun p => (own p).status).foldl Status.worst r.status ∧
      (∀ q : Meter, if Metric.isSet (q.limits t) then
          (own (.meter q)).perf = [q.metric.datum (q.limits t) (q.reading v)] ∧
          (own (.meter q)).messages.length = 1
        else own (.meter q) = {}) ∧
      (∀ f : Feature, (f.required t).truthy → ¬(f.present v).truthy →
        after.2.status = .critical) ∧
      ∀ q : Meter,
        q.metric.policy.isValid (q.limits t).warning (q.limits t).critical = .ok false →
        after.2.status = .critical) ∧
    ∀ (config' : Config) (clock' : Instant) (v' : Snapshot.Vitals) (r' : Report),
      let t' := config'.vitals
      let after' := runOn .vitals config' clock' (some v') r'
      (∀ q : Aspect, q.Agrees t t' v v' → q.report t v = q.report t' v') ∧
      ∀ p : Aspect, (∀ q, q ≠ p → q.Agrees t t' v v') → after.1 = .ok () → after'.1 = .ok () →
        ∃ own own' before behind, p.report t v = .ok own ∧ p.report t' v' = .ok own' ∧
          after.2 = r ++ before ++ own ++ behind ∧ after'.2 = r' ++ before ++ own' ++ behind := by
  refine ⟨runOn_vitals_eq_ok_iff, fun hend => ?_, fun config' clock' v' r' => ⟨?_, ?_⟩⟩
  -- The run came to its end, so every aspect has a report of its own; the run appends them.
  · obtain ⟨own, hown, hafter⟩ := exists_reports_of_runOn_vitals hend
    refine ⟨own, hown, hafter, ?_, fun q => ?_, fun f hrequired hmissing => ?_,
      fun q hinvalid => ?_⟩
    · rw [hafter]
      exact Report.status_foldl_append own Aspect.all r
    · obtain ⟨shown, -, hq⟩ := Meter.exists_metric_report (hown (.meter q))
      split
      · rename_i hset
        exact Metric.of_report hset hq
      · rename_i hunset
        rw [Metric.report, if_neg hunset] at hq
        exact (Except.ok.inj hq).symm
    · rw [hafter]
      refine Report.status_foldl_append_of_mem own (Aspect.mem_all (.feature f)) ?_ r
      rw [← Except.ok.inj (hown (.feature f))]
      exact f.status_report_of_missing hrequired hmissing
    · obtain ⟨shown, -, hq⟩ := Meter.exists_metric_report (hown (.meter q))
      rw [hafter]
      refine Report.status_foldl_append_of_mem own (Aspect.mem_all (.meter q)) ?_ r
      exact Metric.status_report_of_not_valid hinvalid hq
  · exact fun q hagrees => hagrees.report_eq
  · intro p hothers hend hend'
    obtain ⟨own, hown, hafter⟩ := exists_reports_of_runOn_vitals hend
    obtain ⟨own', hown', hafter'⟩ := exists_reports_of_runOn_vitals hend'
    -- Cut the list of the aspects at `p`: what is appended before and behind it is the same.
    obtain ⟨before, behind, hall, hne⟩ := p.exists_all_eq
    have hsame (q : Aspect) (hq : q ∈ before ++ behind) : own q = own' q := by
      have hreport := (hothers q (hne q hq)).report_eq
      rw [hown, hown'] at hreport
      exact Except.ok.inj hreport
    refine ⟨own p, own' p, before.foldl (fun report q => report ++ own q) {},
      behind.foldl (fun report q => report ++ own q) {}, hown p, hown' p, ?_, ?_⟩
    · rw [hafter, hall, Report.foldl_append_middle]
    · rw [hafter', hall, Report.foldl_append_middle,
        Report.foldl_append_congr fun q hq => hsame q (List.mem_append_left _ hq),
        Report.foldl_append_congr fun q hq => hsame q (List.mem_append_right _ hq)]

/-- Thresholds of the use of processors in either order, on a server with too many connections. -/
theorem runOn_vitals_cpu_limits :
    let config (cpu : Limits) : Config :=
      { vitals := { requireTls := .bool true, cpu := cpu, connections := ⟨.int 5, .int 10⟩ } }
    let clock : Instant := ⟨Instant.epoch, by decide⟩
    let v : Snapshot.Vitals := ⟨.str "n1", .bool true, .bool true,
      .bool true, .zero false, 7, 0, clock, none⟩
    let after (cpu : Limits) := runOn .vitals (config cpu) clock (some v) {}
    let falling : Limits := ⟨.int 90, .int 70⟩
    let rising : Limits := ⟨.int 70, .int 90⟩
    (after falling).1 = .ok () ∧ (after rising).1 = .ok () ∧
      (after falling).2.status = .critical ∧
      ∃ own own' before behind : Report,
        (after falling).2 = {} ++ before ++ own ++ behind ∧
        (after rising).2 = {} ++ before ++ own' ++ behind := by
  intro config clock v after falling rising
  have htold {warn crit : Int} (hwarn : warn.natAbs < 10 ^ 2) (hcrit : crit.natAbs < 10 ^ 2)
      (p : Aspect) : ¬Stops (p.report (config ⟨.int warn, .int crit⟩).vitals v) := by
    have hwritable {n : Int} (hn : n.natAbs < 10 ^ 2) : (Value.int n).writable :=
      Value.writable_of_lt_pow hn (by decide)
    have hshown {n : Int} (hn : n.natAbs < 2 ^ 54 - 1) : ¬Stops (Meter.display (.int n)) :=
      mt (Value.stops_fixed_int 2 n).mp (not_not.mpr (Value.fitsDouble_of_lt hn))
    have hset (m n : Int) : Scale.number.BoundsLimits ⟨.int m, .int n⟩ := ⟨.inr rfl, .inr rfl⟩
    rcases p with f | q
    · exact not_stops_ok _
    · cases q with
      | uptime => exact not_stops_ok _
      | memory =>
        have hunset : Scale.number.BoundsLimits {} := ⟨.inl rfl, .inl rfl⟩
        exact Meter.not_stops_report hunset rfl (hshown (by decide)) rfl rfl
      | cpu =>
        exact Meter.not_stops_report (hset warn crit) rfl (not_stops_ok _) (hwritable hwarn)
          (hwritable hcrit)
      | connections =>
        exact Meter.not_stops_report (hset 5 10) rfl (hshown (by decide)) (hwritable (by decide))
          (hwritable (by decide))
  obtain ⟨hends, hreports, hruns⟩ := runOn_vitals (config falling) clock v {}
  have hfalling : (after falling).1 = .ok () :=
    hends.mpr ⟨by decide, htold (by decide) (by decide)⟩
  have hrising : (after rising).1 = .ok () :=
    (runOn_vitals (config rising) clock v {}).1.mpr ⟨by decide, htold (by decide) (by decide)⟩
  obtain ⟨-, -, -, -, -, -, hinvalid⟩ := hreports hfalling
  have hothers (q : Aspect) (hq : q ≠ .meter .cpu) :
      q.Agrees (config falling).vitals (config rising).vitals v v := by
    rcases q with f | q
    · exact ⟨by cases f <;> rfl, rfl⟩
    · refine ⟨?_, rfl⟩
      cases q with
      | cpu => exact absurd rfl hq
      | _ => rfl
  obtain ⟨own, own', before, behind, -, -, hafter, hafter'⟩ :=
    (hruns (config rising) clock v {}).2 (.meter .cpu) hothers hfalling hrising
  exact ⟨hfalling, hrising, hinvalid .cpu rfl, own, own', before, behind, hafter, hafter'⟩

end Monitor

end Vigil
