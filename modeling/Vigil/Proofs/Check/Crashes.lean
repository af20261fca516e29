import Vigil.Proofs.Check.Replicas
import Vigil.Proofs.Check.Shared
import Vigil.Proofs.Config.Declared

/-!
# Checks that break

A check either comes to its end, or stops with a fault of what it looks at, or breaks with any
other fault. For configurations that are read from data of the declared types,
`Monitor.run_breaks_iff` tells exactly when a check breaks: if there are replicas and how far they
may be behind is null, if a message is to tell its own time and is no text, or if a number is too
large to be written.
-/

namespace Vigil

/-- The calculation stops with a fault that a check must not stop with. -/
def Breaks {α : Type} (x : Except Fault α) : Prop :=
  ∃ fault, x = .error fault ∧ fault.isOfCheck = false

/-- A calculation that fails with faults of data only breaks whenever it stops. -/
theorem FailsWith.breaks_iff {α : Type} {x : Except Fault α} (h : FailsWith (·.isData) x) :
    Breaks x ↔ Stops x := by
  constructor
  · rintro ⟨fault, hfault, -⟩
    exact ⟨fault, hfault⟩
  · rintro ⟨fault, hfault⟩
    exact ⟨fault, hfault, Fault.isOfCheck_of_isData (h fault hfault)⟩

namespace Check

open Checking

/-! ## Servers -/

/-- A server that is not the expected one. -/
def isOther (t : Config.Vitals) (v : Snapshot.Vitals) : Bool :=
  t.serverName.truthy && !v.name.equals t.serverName

/-- Thresholds that do not rise, of which one is too large to be written. -/
def Unwritable (l : Limits) : Prop :=
  Policy.ascending.isValid l.warning l.critical = .ok false ∧
    ¬(l.warning.writable ∧ l.critical.writable)

/-- How the check of a server breaks. -/
inductive VitalsBreak (t : Config.Vitals) (v : Snapshot.Vitals) : Prop where
  /-- The server is another one and its name cannot be told. -/
  | name (other : isOther t v) (long : ¬v.name.writable)
  /-- The memory is too large for a double. -/
  | memory (expected : ¬isOther t v) (large : ¬Value.FitsDouble v.memory)
  /-- The number of connections is too large for a double. -/
  | connections (expected : ¬isOther t v) (large : ¬Value.FitsDouble v.connections)
  /-- The thresholds of the use of processors cannot be shown in the log. -/
  | cpuLimits (expected : ¬isOther t v) (long : Unwritable t.cpu)
  /-- The thresholds of memory cannot be shown in the log. -/
  | memoryLimits (expected : ¬isOther t v) (long : Unwritable t.memory)

/-- The log entry on an evaluation stops exactly if the thresholds are invalid and one of them
cannot be written. -/
theorem stops_note (limits : Limits) (e : Evaluation) :
    Stops (note limits e) ↔
      e.valid = false ∧ ¬(limits.warning.writable ∧ limits.critical.writable) := by
  have htexts : Stops (limits.warning.text >>= fun _ => limits.critical.text >>= fun _ =>
      (pure () : Except Fault Unit)) ↔ ¬(limits.warning.writable ∧ limits.critical.writable) := by
    rw [stops_bind_of_iff fun _ => stops_bind_pure, Value.stops_text, Value.stops_text, not_and_or]
  unfold note
  cases e.valid with
  | false => simpa using htexts
  | true => simp

/-- Thresholds of which one is not set suit every policy. -/
theorem isSet_of_not_valid {p : Policy} {warn crit : Value} (h : p.isValid warn crit = .ok false) :
    warn.isNull = false ∧ crit.isNull = false := by
  rw [← Bool.or_eq_false_iff]
  -- A threshold that is not set makes every policy suit.
  by_contra hnull
  rw [Bool.not_eq_false] at hnull
  unfold Policy.isValid at h
  rw [if_pos hnull] at h
  cases h

/-- Measuring a metric stops only where thresholds that do not suit their policy cannot be shown. -/
theorem Metric.measure_stopsWhen (m : Metric) {limits : Limits} {scale : Scale}
    (hlimits : scale.BoundsLimits limits) {value : Value} (hvalue : scale.Measures value)
    (display : String) :
    StopsWhen (m.measure limits value display)
      (m.policy.isValid limits.warning limits.critical = .ok false ∧
        ¬(limits.warning.writable ∧ limits.critical.writable)) := by
  have hevaluate : Stops (Threshold.evaluate value limits.warning limits.critical m.policy m.label
      (some display)) ↔ False := by
    rw [Threshold.stops_evaluate hvalue hlimits]
    simp [Threshold.displayText]
  have hrecord : ∀ e, Threshold.evaluate value limits.warning limits.critical m.policy m.label
      (some display) = .ok e → StopsWhen (obtain (note limits e) >>= fun _ => change (.record e))
        (m.policy.isValid limits.warning limits.critical = .ok false ∧
          ¬(limits.warning.writable ∧ limits.critical.writable)) := by
    intro e he
    refine (StopsWhen.obtain_bind (stops_note limits e) fun _ _ => .record e).congr ?_
    rcases Threshold.evaluate_ok he with ⟨hvalid, heValid⟩ | ⟨hvalid, heValid, -⟩
    · simp [hvalid, heValid]
    · simp [hvalid, heValid]
  refine StopsWhen.congr
    (.onlyIf ((StopsWhen.measure _).seq (.obtain_bind hevaluate hrecord))) ?_
  -- Thresholds that do not suit their policy are both set, so the metric is measured.
  rw [false_or, false_or, and_iff_right_iff_imp]
  rintro ⟨hvalid, -⟩
  obtain ⟨hwarning, -⟩ := isSet_of_not_valid hvalid
  simp [hwarning]

/-- A requirement never stops. -/
theorem require_stopsWhen (required present : Value) (met unmet : String) :
    StopsWhen (require required present met unmet) False := by
  refine ⟨(require_plain required present met unmet).additive, iff_false_intro ?_⟩
  unfold require
  split
  · split
    · exact not_stops_ok ()
    · exact not_stops_ok ()
  · exact not_stops_ok ()

/-- Spans of time can be written. -/
theorem writable_of_span {v : Value} (h : Scale.span.Bounds v) : v.writable := by
  rcases h with rfl | ⟨d, rfl⟩
  · rfl
  · rfl

/-- The measurements of a server stop at numbers that are too large. -/
theorem measureServer_stopsWhen {t : Config.Vitals}
    (ht : Config.AllHold (Config.declared .vitals) t.fields) (v : Snapshot.Vitals) :
    StopsWhen (measureServer t v)
      (Unwritable t.cpu ∨ ¬Value.FitsDouble v.memory ∨ Unwritable t.memory ∨
        ¬Value.FitsDouble v.connections) := by
  obtain ⟨huptime, hcpu, hmemory, hconnections⟩ := Config.Vitals.bounds_of_allHold ht
  have huptimeStops := uptime.measure_stopsWhen huptime
    (show Scale.span.Measures (.duration v.uptime) from ⟨_, rfl⟩) v.uptime.humanize
  have hcpuStops := cpu.measure_stopsWhen hcpu
    (show Scale.number.Measures (.float v.cpu) from rfl) (v.cpu.fixed 2)
  have hmemoryStops := memory.measure_stopsWhen hmemory
    (show Scale.number.Measures (.int v.memory) from rfl)
  have hconnectionsStops := connections.measure_stopsWhen hconnections
    (show Scale.number.Measures (.int v.connections) from rfl)
  have hparts := (require_stopsWhen t.requireJetstream v.jetstream "JetStream enabled"
    "JetStream not enabled").seq <| (require_stopsWhen t.requireTls v.tls "TLS required"
    "TLS not required").seq <| (require_stopsWhen t.requireAuth v.auth "Authentication required"
    "Authentication not required").seq <| huptimeStops.seq <| hcpuStops.seq <|
    StopsWhen.obtain_bind (Value.stops_fixed_int 2 v.memory) fun shown _ =>
      (hmemoryStops shown).seq <|
        StopsWhen.obtain_bind (Value.stops_fixed_int 2 v.connections) fun shown _ =>
          hconnectionsStops shown
  refine StopsWhen.congr hparts ?_
  -- The thresholds of the time since the start are spans, and those of connections suit in any
  -- order.
  have huptimeWritable : t.uptime.warning.writable ∧ t.uptime.critical.writable :=
    ⟨writable_of_span huptime.warning, writable_of_span huptime.critical⟩
  have hauto :
      connections.policy.isValid t.connections.warning t.connections.critical = .ok true := by
    simp [connections, Policy.isValid]
  simp only [huptimeWritable, hauto, Unwritable, Except.ok.injEq, reduceCtorEq, false_and,
    not_true_eq_false, and_self, and_false, or_false, false_or]
  rfl

/-- A check of a server that is another one stops with a finding, if the name can be told. -/
theorem expectServer_outcome (t : Config.Vitals) (v : Snapshot.Vitals) :
    (expectServer t v).outcome =
      if isOther t v then v.name.text >>= fun name => .error (.wrongTarget name) else .ok () := by
  unfold expectServer
  cases hother : isOther t v with
  | true =>
    rw [show (t.serverName.truthy && !v.name.equals t.serverName) = true from hother]
    cases v.name.text <;> rfl
  | false =>
    rw [show (t.serverName.truthy && !v.name.equals t.serverName) = false from hother]
    rfl

/-- A server that is another one breaks its check if its name cannot be told; one that is not, if a
measurement stops. -/
theorem vitals_breaks_iff {t : Config.Vitals}
    (ht : Config.AllHold (Config.declared .vitals) t.fields) (v : Snapshot.Vitals) :
    Breaks (vitals t (some v)).outcome ↔ VitalsBreak t v := by
  have hserver := measureServer_stopsWhen ht v
  have hplain := measureServer_plain t v
  rw [vitals_some, (expectServer_additive t v).outcome_bind fun _ => hserver.additive,
    expectServer_outcome]
  by_cases hother : isOther t v
  · rw [if_pos hother]
    have hbreak : VitalsBreak t v ↔ Stops v.name.text := by
      rw [Value.stops_text]
      constructor
      · rintro (⟨-, hlong⟩ | ⟨hexpected, -⟩ | ⟨hexpected, -⟩ | ⟨hexpected, -⟩ | ⟨hexpected, -⟩)
        · exact hlong
        all_goals exact absurd hother hexpected
      · exact .name hother
    rw [hbreak]
    cases htext : v.name.text with
    | error fault =>
      have hdata : fault.isData := Value.text_failsWith v.name fault htext
      exact iff_of_true ⟨fault, rfl, Fault.isOfCheck_of_isData hdata⟩ (stops_error fault)
    | ok name =>
      -- A name that can be told gives a finding.
      refine iff_of_false ?_ (not_stops_ok name)
      rintro ⟨fault, ⟨⟩, ⟨⟩⟩
  · rw [if_neg hother]
    change Breaks (measureServer t v).outcome ↔ _
    rw [hplain.failsWith.breaks_iff, hserver.stops_iff]
    constructor
    · rintro (hcpu | hlarge | hmemory | hlarge)
      · exact .cpuLimits hother hcpu
      · exact .memory hother hlarge
      · exact .memoryLimits hother hmemory
      · exact .connections hother hlarge
    · rintro (⟨hexpected, -⟩ | ⟨-, hlarge⟩ | ⟨-, hlarge⟩ | ⟨-, hcpu⟩ | ⟨-, hmemory⟩)
      · exact absurd hexpected hother
      · exact .inr (.inl hlarge)
      · exact .inr (.inr (.inr hlarge))
      · exact .inl hcpu
      · exact .inr (.inr (.inl hmemory))

/-! ## Accounts -/

/-- A percentage that is judged against thresholds that rise is too large to be written. -/
def ShareBreak (t : Config.Account) (a : Snapshot.Account) (r : Snapshot.Resource) : Prop :=
  isJudged t a r ∧
    Policy.ascending.isValid (t.limits r).warning (t.limits r).critical = .ok true ∧
    ¬(Value.int (a.usage r).percent).writable

/-- The judgement of a resource stops exactly at a share that breaks it. -/
theorem resource_stopsWhen {t : Config.Account} {r : Snapshot.Resource}
    (hlimits : Scale.number.BoundsLimits (t.limits r)) (a : Snapshot.Account) :
    StopsWhen (resource t a r) (ShareBreak t a r) := by
  have hevaluate : Stops (evaluateShare t a r) ↔
      Policy.ascending.isValid (t.limits r).warning (t.limits r).critical = .ok true ∧
        ¬(Value.int (a.usage r).percent).writable := by
    have hvalue : Scale.number.Measures (.int (a.usage r).percent) := rfl
    rw [evaluateShare, Threshold.stops_evaluate hvalue hlimits, Threshold.displayText,
      Value.stops_text]
  have hfile : ∀ e, evaluateShare t a r = .ok e →
      StopsWhen (fileShare r.name (a.usage r).percent e) False := by
    intro e he
    refine .ite (fun _ => .critical _) fun hvalid => ?_
    -- The judgement has written the percentage already, so it can be written once more.
    have hshown : Stops (Value.intText (a.usage r).percent) ↔ False := by
      rw [Value.stops_intText, iff_false]
      intro hlong
      rcases Threshold.evaluate_ok he with ⟨-, hinvalid⟩ | ⟨hrise, -⟩
      · simp [hinvalid] at hvalid
      · obtain ⟨fault, hfault⟩ := hevaluate.mpr ⟨hrise, hlong⟩
        rw [hfault] at he
        cases he
    exact (StopsWhen.obtain_bind hshown fun _ _ => .file _ _).congr (or_self_iff)
  rw [resource_eq]
  have htext : Stops (.ok (r.name ++ ": exceed server limits") : Except Fault String) ↔ False := by
    simp
  refine ((StopsWhen.measure _).seq ((StopsWhen.measure _).seq ((StopsWhen.criticalIf htext).seq
    (.onlyIf (.obtain_bind hevaluate hfile))))).congr ?_
  simp [ShareBreak]

/-! ## Credentials -/

/-- The judgement of a credential that expires never stops. -/
theorem expiring_stopsWhen {t : Config.Credential} (hlimits : Scale.span.BoundsLimits t.validity)
    (clock expiry : Instant) : StopsWhen (expiring t clock expiry) False := by
  have hvalue : Scale.span.Measures (.duration (expiry - clock)) := ⟨_, rfl⟩
  have hevaluate : Stops (Threshold.evaluate (.duration (expiry - clock)) t.validity.warning
      t.validity.critical .descending "credential" none) ↔ False := by
    rw [Threshold.stops_evaluate hvalue hlimits, Threshold.displayText, Value.stops_text]
    simp [Value.writable]
  -- A threshold that is breached is set, so it is a span and has the human form.
  have hspan : ∀ {v : Value}, Scale.span.Bounds v → v.isNull = false →
      (Stops (humanizedSetting v) ↔ False) := by
    intro v hv hset
    obtain ⟨d, rfl⟩ := hv.measures hset
    simp [humanizedSetting]
  refine StopsWhen.congr (p := False ∨ False ∨ False)
    ((StopsWhen.measure _).seq (.obtain_bind hevaluate fun e he => ?_)) (by simp)
  refine .ite (fun _ => .critical _) fun hvalid => ?_
  rcases Threshold.evaluate_ok he with ⟨-, hinvalid⟩ | ⟨-, -, d, hstatus⟩
  · simp [hinvalid] at hvalid
  · split
    · rename_i hcritical
      rw [hcritical] at hstatus
      exact (StopsWhen.obtain_bind (hspan hlimits.critical (Threshold.critical_ne_null hstatus))
        fun _ _ => .critical _).congr (or_self_iff)
    · rename_i hwarning
      rw [hwarning] at hstatus
      exact (StopsWhen.obtain_bind (hspan hlimits.warning (Threshold.warning_ne_null hstatus))
        fun _ _ => .warning _).congr (or_self_iff)
    · exact .ok _

/-- The judgement of a credential that never expires never stops. -/
theorem lasting_stopsWhen (t : Config.Credential) : StopsWhen (lasting t) False :=
  .ite (fun _ => .critical _) fun _ => .ok _

/-! ## Messages -/

/-- A message that is to tell its own time is no text. -/
def MessageBreak (t : Config.Message) (m : Snapshot.Message) : Prop :=
  t.bodyAsTimestamp.truthy ∧ ∀ content, m.body ≠ .bytes content

/-- The judgement of a message of known age never stops. -/
theorem aged_stopsWhen {t : Config.Message} (hlimits : Scale.span.BoundsLimits t.age)
    (hstream : ¬Stops t.stream.text) (hsubject : ¬Stops t.subject.text) (age : Duration) :
    StopsWhen (aged t age) False := by
  have hvalue : Scale.span.Measures (.duration age) := ⟨_, rfl⟩
  have hevaluate : Stops (Threshold.evaluate (.duration age) t.age.warning t.age.critical .ascending
      "Message age" (some age.humanize)) ↔ False := by
    rw [Threshold.stops_evaluate hvalue hlimits]
    simp [Threshold.displayText]
  refine StopsWhen.congr (p := False ∨ False ∨ False)
    ((StopsWhen.measure _).seq (.obtain_bind hevaluate fun e _ => ?_)) (by simp)
  refine .ite (fun _ => .critical _) fun _ => .ite (fun _ => ?_) fun _ => .record e
  -- The stream and the subject are texts, so the finding can be written.
  have htexts := StopsWhen.obtain_bind (iff_false_intro hstream) fun stream _ =>
    .obtain_bind (iff_false_intro hsubject) fun subject _ =>
      .ok ("Valid message on " ++ stream ++ " > " ++ subject)
  exact htexts.congr (by simp)

/-- The judgement of a message by its body stops exactly if the body is not of bytes. -/
theorem selfTimed_stopsWhen {t : Config.Message} (hlimits : Scale.span.BoundsLimits t.age)
    (hstream : ¬Stops t.stream.text) (hsubject : ¬Stops t.subject.text) (clock : Instant)
    (m : Snapshot.Message) :
    StopsWhen (selfTimed t clock m) (∀ content, m.body ≠ .bytes content) := by
  have hbody : Stops (bodyText m.body) ↔ ∀ content, m.body ≠ .bytes content := by
    cases m.body <;> simp [bodyText]
  refine StopsWhen.congr (.obtain_bind (q := False) hbody fun body _ => ?_) (by simp)
  split
  · exact aged_stopsWhen hlimits hstream hsubject _
  · exact .critical _

/-! ## All kinds -/

/-- Plain work breaks where it stops. -/
theorem breaks_iff_of_plain {work : Checking Unit} {p : Prop} (h : Plain work)
    (hstops : StopsWhen work p) : Breaks work.outcome ↔ p :=
  h.failsWith.breaks_iff.trans hstops.stops_iff

/-- The check of an account breaks at a resource. -/
theorem account_breaks_iff {t : Config.Account}
    (ht : Config.AllHold (Config.declared .account) t.fields) (a : Snapshot.Account) :
    Breaks (account t (some a)).outcome ↔ ∃ r, ShareBreak t a r := by
  have hstops := StopsWhen.forM
    (fun r => resource_stopsWhen (Config.Account.bounds_of_allHold ht r) a) Snapshot.Resource.all
  refine breaks_iff_of_plain (.forM (resource_plain t a) _) (hstops.congr ?_)
  have hall (r : Snapshot.Resource) : r ∈ Snapshot.Resource.all := by
    cases r <;> simp [Snapshot.Resource.all]
  simp [hall]

/-- The check of a cluster breaks only if the cluster has a leader. -/
theorem cluster_breaks_iff {t : Config.Cluster}
    (ht : Config.AllHold (Config.declared .cluster) t.fields)
    (hseen : ∃ silence, t.seenCritical = .duration silence) (c : Snapshot.Cluster) :
    Breaks (cluster t (some c)).outcome ↔ c.leader.truthy ∧ LedClusterBreak t c := by
  obtain ⟨silence, hseen⟩ := hseen
  have hlag := Config.Cluster.lagCritical_of_allHold ht
  change Breaks (if c.leader.truthy then ledCluster t c else critical "No leader").outcome ↔ _
  by_cases hled : c.leader.truthy
  · rw [if_pos hled, and_iff_right hled]
    exact breaks_iff_of_plain (ledCluster_plain t c) (ledCluster_stopsWhen hseen hlag c)
  · rw [if_neg hled, breaks_iff_of_plain (.critical _) (.critical _)]
    exact iff_of_false not_false fun h => hled h.1

/-- The check of a credential does not break. -/
theorem not_credential_breaks {t : Config.Credential}
    (ht : Config.AllHold (Config.declared .credential) t.fields) (clock : Instant)
    (c : Snapshot.Credential) : ¬Breaks (credential t clock (some c)).outcome := by
  rw [← iff_false]
  rcases c with ⟨_ | expiry⟩
  · exact breaks_iff_of_plain (lasting_plain t) (lasting_stopsWhen t)
  · have hlimits := Config.Credential.bounds_of_allHold ht
    exact breaks_iff_of_plain (expiring_plain t clock expiry)
      (expiring_stopsWhen hlimits clock expiry)

/-- The check of a message breaks only if the message is to tell its own time. -/
theorem message_breaks_iff {t : Config.Message}
    (ht : Config.AllHold (Config.declared .message) t.fields) (clock : Instant)
    (m : Snapshot.Message) : Breaks (message t clock (some m)).outcome ↔ MessageBreak t m := by
  change Breaks (if t.bodyAsTimestamp.truthy then selfTimed t clock m
    else aged t (clock - m.published)).outcome ↔ _
  obtain ⟨hlimits, hstream, hsubject⟩ := Config.Message.bounds_of_allHold ht
  unfold MessageBreak
  by_cases hself : t.bodyAsTimestamp.truthy
  · rw [if_pos hself, and_iff_right hself]
    exact breaks_iff_of_plain (selfTimed_plain t clock m)
      (selfTimed_stopsWhen hlimits hstream hsubject clock m)
  · rw [if_neg hself,
      breaks_iff_of_plain (aged_plain t _) (aged_stopsWhen hlimits hstream hsubject _)]
    exact iff_of_false not_false fun h => hself h.1

end Check

open Check Checking

/-- How the check of a kind breaks. Without a snapshot it never does. -/
def Kind.CheckBreaks : (k : Kind) → k.Settings → Option k.Snapshot → Prop
  | .vitals, t, some v => VitalsBreak t v
  | .account, t, some a => ∃ r, ShareBreak t a r
  | .cluster, t, some c => c.leader.truthy ∧ LedClusterBreak t c
  | .message, t, some m => MessageBreak t m
  | _, _, _ => False

/-- On settings that are unset or of their types, with a span for the silence of replicas, a check
breaks exactly in the ways of its kind. -/
theorem Kind.check_breaks_iff {config : Config} {k : Kind}
    (hsettings : Config.AllHold (Config.declared k) (config.fieldsOf k))
    (hseen : ∃ silence, config.cluster.seenCritical = .duration silence) (clock : Instant)
    (s : Option k.Snapshot) :
    Breaks (k.check (config.settings k) clock s).outcome ↔ k.CheckBreaks (config.settings k) s := by
  -- A missing snapshot is a finding, by itself or in the report.
  have hnoData : ¬Breaks (stop .noData : Checking Unit).outcome := by
    rintro ⟨fault, ⟨⟩, ⟨⟩⟩
  have hcritical (message : String) : ¬Breaks (critical message).outcome := by
    rintro ⟨fault, ⟨⟩, -⟩
  cases k with
  | vitals =>
    cases s with
    | none => exact iff_false_intro hnoData
    | some v => exact vitals_breaks_iff hsettings v
  | account =>
    cases s with
    | none => exact iff_false_intro hnoData
    | some a => exact account_breaks_iff hsettings a
  | cluster =>
    cases s with
    | none => exact iff_false_intro (hcritical _)
    | some c => exact cluster_breaks_iff hsettings hseen c
  | credential =>
    cases s with
    | none => exact iff_false_intro hnoData
    | some c => exact iff_false_intro (not_credential_breaks hsettings clock c)
  | message =>
    cases s with
    | none => exact iff_false_intro (hcritical _)
    | some m => exact message_breaks_iff hsettings clock m

namespace Monitor

/-- A check on settings of the declared types breaks exactly in the ways that are told by
`Kind.CheckBreaks`. In all other cases it comes to its end or stops with a finding. -/
theorem run_breaks_iff {data : Value} {config : Config} (hfits : Config.FitsDeclarations data)
    (hconfig : Config.ofData data = .ok config) (k : Kind) (clock : Instant)
    (s : Option k.Snapshot) :
    Breaks (run k config clock s).1 ↔ k.CheckBreaks (config.settings k) s := by
  rw [run, runOn, (k.check_tidy (config.settings k) clock s).additive]
  exact k.check_breaks_iff (Config.allHold_of_ofData hfits hconfig k)
    (Config.seenCritical_of_ofData hconfig) clock s

/-- How far replicas may be behind is null, and there is a replica, whether it is behind or not. -/
theorem run_breaks_lag_null :
    let data : Value := .map [(.str "cluster", .map [(.str "lag_critical", .null)])]
    let replica : Snapshot.Peer := ⟨.str "n2", .bool true, .bool false, .zero, 0⟩
    let clock : Instant := ⟨Instant.epoch, by decide⟩
    Config.FitsDeclarations data ∧
      ∃ config, Config.ofData data = .ok config ∧
        Breaks (run .cluster config clock (some ⟨.str "n1", [replica]⟩)).1 := by
  intro data replica clock
  have hfits : Config.FitsDeclarations data := by
    intro k part hpart s _ v hv
    left
    cases k with
    | cluster =>
      obtain rfl : Value.map [(.str "lag_critical", .null)] = part := Except.ok.inj hpart
      simp only [Value.get?, Value.lookup, Except.ok.injEq] at hv
      split at hv
      · exact (Option.some.inj hv).symm
      · cases hv
    | _ =>
      cases hpart
      cases hv
  refine ⟨hfits, _, rfl, ?_⟩
  refine (run_breaks_iff hfits rfl .cluster clock _).mpr ⟨rfl, ?_⟩
  exact .unlimited (by simp) rfl

end Monitor

end Vigil
