import Vigil.Monitor
import Vigil.Proofs.Check.Additive
import Vigil.Proofs.Value.Faults

/-!
# The parts of the checks

Every check is a sequence of plain work, once it has found that it can work on its snapshot. The
parts of a resource, of a cluster and of its replicas are written here as such sequences
(`resource_eq`, `ledCluster_eq`, `filePeers_eq`), and every part is shown to be plain.

Whether a cluster is in order is decided by what its own check has added: `ledCluster` is a verdict
over the work `inspect`.
-/

namespace Vigil.Check

open Checking

/-! ## Accounts -/

/-- Whether the percentage of a resource in use is judged: there must be a limit and a threshold. -/
def isJudged (t : Config.Account) (a : Snapshot.Account) (r : Snapshot.Resource) : Bool :=
  0 < (a.usage r).limit && !((t.limits r).warning.isNull && (t.limits r).critical.isNull)

/-- The judgement of the percentage of a resource in use. -/
def evaluateShare (t : Config.Account) (a : Snapshot.Account) (r : Snapshot.Resource) :
    Except Fault Evaluation :=
  Threshold.evaluate (.int (a.usage r).percent) (t.limits r).warning (t.limits r).critical
    .ascending r.name none

/-- The check of a resource measures it, looks whether the limit is exceeded, and judges the
percentage. -/
theorem resource_eq (t : Config.Account) (a : Snapshot.Account) (r : Snapshot.Resource) :
    resource t a r = (do
      measure { label := r.name, value := .int (a.usage r).used, unit := resourceUnit r }
      measure {
        label := r.name ++ "_pct", value := .int (a.usage r).percent, unit := .percent
        warn := (t.limits r).warning, crit := (t.limits r).critical }
      criticalIf (a.usage r).exceeded (.ok (r.name ++ ": exceed server limits"))
      onlyIf (isJudged t a r)
        (obtain (evaluateShare t a r) >>= fileShare r.name (a.usage r).percent)) := by
  unfold resource
  simp only [ite_critical_bind]
  rfl

/-- Filing the finding on a share is plain work. -/
theorem fileShare_plain (name : String) (percent : Int) (e : Evaluation) :
    Plain (fileShare name percent e) := by
  refine .ite (.critical _) ?_
  exact (Plain.obtain (Value.intText_failsWith percent)).bind fun _ => .file _ _

/-- Judging a resource of an account is plain work. -/
theorem resource_plain (t : Config.Account) (a : Snapshot.Account) (r : Snapshot.Resource) :
    Plain (resource t a r) := by
  rw [resource_eq]
  refine (Plain.measure _).bind fun _ => (Plain.measure _).bind fun _ => ?_
  refine (Plain.criticalIf (.ok _)).bind fun _ => .onlyIf ?_
  exact (Plain.obtain (Threshold.evaluate_failsWith _ _ _ _ _ _)).bind fun _ => fileShare_plain ..

/-! ## Clusters -/

/-- A replica can be shown in the log unless an integer of it has too many digits. -/
theorem Peer.note_tooLong (p : Snapshot.Peer) :
    FailsWith (· = .value .tooLongToWrite) (Peer.note p) := by
  refine (Value.text_tooLong p.name).bind fun _ => ?_
  refine (Value.text_tooLong p.current).bind fun _ => ?_
  refine (Value.text_tooLong p.offline).bind fun _ => ?_
  exact (Value.intText_tooLong p.lag).bind fun _ => .pure _

/-- The log entry on a replica fails with faults of data only. -/
theorem Peer.note_failsWith (p : Snapshot.Peer) : FailsWith (·.isData) (Peer.note p) :=
  (Peer.note_tooLong p).mono fun _ h => h ▸ rfl

/-- Counting one replica fails with faults of data only. -/
theorem PeerCounts.add_failsWith (t : Config.Cluster) (counts : PeerCounts) (p : Snapshot.Peer) :
    FailsWith (·.isData) (counts.add t p) := by
  refine (Value.gt_failsWith _ _).bind fun _ => (Value.gt_failsWith _ _).bind fun _ => ?_
  exact (Peer.note_failsWith p).bind fun _ => .pure _

/-- Counting the replicas fails with faults of data only. -/
theorem countPeers_failsWith (t : Config.Cluster) (peers : List Snapshot.Peer) :
    FailsWith (·.isData) (countPeers t peers) := .foldlM (PeerCounts.add_failsWith t) peers {}

/-- Writing a time of the configuration fails with faults of data only. -/
theorem shortSetting_failsWith (v : Value) : FailsWith (·.isData) (shortSetting v) := by
  cases v <;> simp [shortSetting, Fault.isData]

/-- The number of servers is a finding if it is not the expected one. -/
theorem expectPeers_eq (t : Config.Cluster) (peers : Nat) :
    expectPeers t peers =
      criticalIf (t.expectedPeers.truthy && !(Value.int peers).equals t.expectedPeers)
        ((toString peers ++ " peers of expected " ++ ·) <$> t.expectedPeers.text) := by
  unfold expectPeers
  rw [ite_obtain_critical]

/-- The findings of a cluster are one for each fault that some replica has. -/
theorem filePeers_eq (t : Config.Cluster) (counts : PeerCounts) :
    filePeers t counts = (do
      criticalIf (0 < counts.notCurrent) (.ok (toString counts.notCurrent ++ " not current"))
      criticalIf (0 < counts.inactive)
        ((toString counts.inactive ++ " inactive more than " ++ ·) <$> shortSetting t.seenCritical)
      criticalIf (0 < counts.offline) (.ok (toString counts.offline ++ " offline"))
      criticalIf (0 < counts.lagged)
        ((toString counts.lagged ++ " lagged more than " ++ · ++ " ops") <$>
          t.lagCritical.text)) := by
  unfold filePeers
  simp only [ite_critical_bind, ite_obtain_critical_bind, ite_obtain_critical]

/-- What is done about a cluster that has a leader before the verdict. -/
def inspect (t : Config.Cluster) (c : Snapshot.Cluster) : Checking Unit := do
  expectPeers t c.peerCount
  let counts ← obtain (countPeers t c.replicas)
  measurePeers t c.peerCount counts
  filePeers t counts

/-- The finding for a cluster that is in order. -/
def fileLeader (c : Snapshot.Cluster) : Checking Unit := do
  ok (toString c.peerCount ++ " peers led by " ++ (← obtain c.leader.text))

/-- The check of a cluster is a verdict over its own findings. -/
theorem ledCluster_eq (t : Config.Cluster) (c : Snapshot.Cluster) :
    ledCluster t c = unlessCritical (inspect t c) (fileLeader c) := by
  simp only [ledCluster, unlessCritical, inspect, fileLeader, bind_assoc]

/-- Comparing the number of replicas with the expected one is plain work. -/
theorem expectPeers_plain (t : Config.Cluster) (peers : Nat) : Plain (expectPeers t peers) := by
  rw [expectPeers_eq]
  exact .criticalIf ((Value.text_failsWith _).map _)

/-- Measuring the replicas is plain work. -/
theorem measurePeers_plain (t : Config.Cluster) (peers : Nat) (counts : PeerCounts) :
    Plain (measurePeers t peers counts) := by
  refine (Plain.measure _).bind fun _ => (Plain.measure _).bind fun _ => ?_
  exact (Plain.measure _).bind fun _ => (Plain.measure _).bind fun _ => .measure _

/-- Filing the findings on the replicas is plain work. -/
theorem filePeers_plain (t : Config.Cluster) (counts : PeerCounts) :
    Plain (filePeers t counts) := by
  rw [filePeers_eq]
  refine (Plain.criticalIf (.ok _)).bind fun _ => ?_
  refine (Plain.criticalIf ((shortSetting_failsWith _).map _)).bind fun _ => ?_
  refine (Plain.criticalIf (.ok _)).bind fun _ => ?_
  exact .criticalIf ((Value.text_failsWith _).map _)

/-- Inspecting the replicas of a cluster is plain work. -/
theorem inspect_plain (t : Config.Cluster) (c : Snapshot.Cluster) : Plain (inspect t c) := by
  refine (expectPeers_plain t _).bind fun _ => ?_
  refine (Plain.obtain (countPeers_failsWith t _)).bind fun counts => ?_
  exact (measurePeers_plain t _ counts).bind fun _ => filePeers_plain t counts

/-- Filing the finding on the leader is plain work. -/
theorem fileLeader_plain (c : Snapshot.Cluster) : Plain (fileLeader c) :=
  (Plain.obtain (Value.text_failsWith _)).bind fun _ => .ok _

/-- The check of a cluster with a leader is plain work. -/
theorem ledCluster_plain (t : Config.Cluster) (c : Snapshot.Cluster) : Plain (ledCluster t c) := by
  rw [ledCluster_eq]
  exact (inspect_plain t c).unlessCritical (fileLeader_plain c)

/-! ## Credentials -/

/-- Writing a time of the configuration in words fails with faults of data only. -/
theorem humanizedSetting_failsWith (v : Value) : FailsWith (·.isData) (humanizedSetting v) := by
  cases v <;> simp [humanizedSetting, Fault.isData]

/-- Filing the finding on an expiry is plain work. -/
theorem fileExpiry_plain (t : Config.Credential) (expiry : Instant) (e : Evaluation) :
    Plain (fileExpiry t expiry e) := by
  refine .ite (.critical _) ?_
  split
  · exact (Plain.obtain (humanizedSetting_failsWith _)).bind fun _ => .critical _
  · exact (Plain.obtain (humanizedSetting_failsWith _)).bind fun _ => .warning _
  · exact .ok _

/-- Judging a credential that expires is plain work. -/
theorem expiring_plain (t : Config.Credential) (clock expiry : Instant) :
    Plain (expiring t clock expiry) := by
  refine (Plain.measure _).bind fun _ => ?_
  exact (Plain.obtain (Threshold.evaluate_failsWith _ _ _ _ _ _)).bind fun _ => fileExpiry_plain ..

/-- Judging a credential that never expires is plain work. -/
theorem lasting_plain (t : Config.Credential) : Plain (lasting t) := .ite (.critical _) (.ok _)

/-! ## Messages -/

/-- Reading the text of a body fails with faults of data only. -/
theorem bodyText_failsWith (v : Value) : FailsWith (·.isData) (bodyText v) := by
  cases v <;> simp [bodyText, Fault.isData]

/-- The judgement of an age. -/
def evaluateAge (t : Config.Message) (age : Duration) : Except Fault Evaluation :=
  Threshold.evaluate (.duration age) t.age.warning t.age.critical .ascending "Message age"
    (some age.humanize)

/-- Files the finding for an age that was judged. -/
def fileAge (t : Config.Message) (e : Evaluation) : Checking Unit :=
  if !e.valid then critical "message: invalid thresholds"
  else if e.status = .ok then do
    ok ("Valid message on " ++ (← obtain t.stream.text) ++ " > " ++ (← obtain t.subject.text))
  else change (.record e)

/-- The check of an age measures it and judges it. -/
theorem aged_eq (t : Config.Message) (age : Duration) :
    aged t age = (do
      measure {
        label := "age", value := .duration age, unit := .seconds
        warn := t.age.warning, crit := t.age.critical }
      obtain (evaluateAge t age) >>= fileAge t) := rfl

/-- Evaluating an age fails with faults of data only. -/
theorem evaluateAge_failsWith (t : Config.Message) (age : Duration) :
    FailsWith (·.isData) (evaluateAge t age) := Threshold.evaluate_failsWith _ _ _ _ _ _

/-- Filing the finding on an age is plain work. -/
theorem fileAge_plain (t : Config.Message) (e : Evaluation) : Plain (fileAge t e) := by
  refine .ite (.critical _) (.ite ?_ (.record e))
  refine (Plain.obtain (Value.text_failsWith _)).bind fun _ => ?_
  exact (Plain.obtain (Value.text_failsWith _)).bind fun _ => .ok _

/-- Judging a message of known age is plain work. -/
theorem aged_plain (t : Config.Message) (age : Duration) : Plain (aged t age) := by
  rw [aged_eq]
  refine (Plain.measure _).bind fun _ => ?_
  exact (Plain.obtain (evaluateAge_failsWith t age)).bind (fileAge_plain t)

/-- A body that is a text tells a time or is quoted. -/
theorem selfTimed_of_body {t : Config.Message} {clock : Instant} {m : Snapshot.Message}
    {body : String} (h : bodyText m.body = .ok body) :
    selfTimed t clock m =
      match instantOfBody? body with
      | some instant => aged t (clock - instant)
      | none => critical ("invalid timestamp body: " ++ body) := by
  rw [selfTimed, h]
  rfl

/-- Judging a message that tells its time in its body is plain work. -/
theorem selfTimed_plain (t : Config.Message) (clock : Instant) (m : Snapshot.Message) :
    Plain (selfTimed t clock m) := by
  refine (Plain.obtain (bodyText_failsWith _)).bind fun body => ?_
  split
  · exact aged_plain t _
  · exact .critical _

/-! ## Servers -/

/-- A requirement on a value is plain work. -/
theorem require_plain (required present : Value) (met unmet : String) :
    Plain (require required present met unmet) := .onlyIf (.ite (.ok _) (.critical _))

/-- The log entry on an evaluation fails with faults of data only. -/
theorem note_failsWith (limits : Limits) (e : Evaluation) :
    FailsWith (·.isData) (note limits e) := by
  refine .ite (fun _ => ?_) fun _ => .pure _
  refine (Value.text_failsWith _).bind fun _ => (Value.text_failsWith _).bind fun _ => .pure _

/-- The measurement of a metric is plain work. -/
theorem Metric.measure_plain (m : Metric) (limits : Limits) (value : Value) (display : String) :
    Plain (m.measure limits value display) := by
  refine .onlyIf ((Plain.measure _).bind fun _ => ?_)
  refine (Plain.obtain (Threshold.evaluate_failsWith _ _ _ _ _ _)).bind fun e => ?_
  exact (Plain.obtain (note_failsWith limits e)).bind fun _ => .record e

/-- What is done about a server once it is the expected one. -/
def measureServer (t : Config.Vitals) (v : Snapshot.Vitals) : Checking Unit := do
  require t.requireJetstream v.jetstream "JetStream enabled" "JetStream not enabled"
  require t.requireTls v.tls "TLS required" "TLS not required"
  require t.requireAuth v.auth "Authentication required" "Authentication not required"
  uptime.measure t.uptime (.duration v.uptime) v.uptime.humanize
  cpu.measure t.cpu (.float v.cpu) (v.cpu.fixed 2)
  memory.measure t.memory (.int v.memory) (← obtain ((Value.int v.memory).fixed 2))
  connections.measure t.connections (.int v.connections)
    (← obtain ((Value.int v.connections).fixed 2))

/-- The vitals check of a snapshot is its requirements and then its measurements. -/
theorem vitals_some (t : Config.Vitals) (v : Snapshot.Vitals) :
    vitals t (some v) = expectServer t v >>= fun _ => measureServer t v := rfl

/-- The measurements of a server are plain work. -/
theorem measureServer_plain (t : Config.Vitals) (v : Snapshot.Vitals) :
    Plain (measureServer t v) := by
  refine (require_plain ..).bind fun _ => (require_plain ..).bind fun _ => ?_
  refine (require_plain ..).bind fun _ => (Metric.measure_plain ..).bind fun _ => ?_
  refine (Metric.measure_plain ..).bind fun _ => ?_
  refine (Plain.obtain (Value.fixed_failsWith 2 _)).bind fun _ => ?_
  refine (Metric.measure_plain ..).bind fun _ => ?_
  exact (Plain.obtain (Value.fixed_failsWith 2 _)).bind fun _ => Metric.measure_plain ..

end Vigil.Check
