import Vigil.Proofs.Check.Adding
import Vigil.Proofs.Check.Replicas
import Vigil.Proofs.Check.Shared
import Vigil.Proofs.Threshold.Severity

/-!
# The health of a cluster

What the check of a cluster that has a leader reports, when its settings have the kinds that they
are declared with: there may be an expected number of servers, and there is a duration after which
a replica counts as inactive and a number of operations that it may be behind.

The main statement is `Monitor.run_ledCluster`. The run stops exactly if a number that it has to
show has too many digits (`Showable`). Every other run measures the cluster and files a critical
finding for each fault in a fixed order (`Check.clusterFaults`), or that all is well if there is
none; and that is so exactly if the number of servers is the expected one and every replica is in
order.
-/

namespace Vigil

namespace Check

open Checking

/-- A finding that begins with a number, if the number is not zero. -/
def counted (n : Nat) (words : String) : List String :=
  if 0 < n then [toString n ++ words] else []

/-- The finding about the number of servers, if another number is expected. To expect 0 is to expect
no number. -/
def unexpected (expected : Option Int) (peers : Nat) : List String :=
  match expected with
  | none => []
  | some e =>
    if e = 0 ∨ e = peers then []
    else [toString peers ++ " peers of expected " ++ Decimal.ofInt e]

/-- The findings about the faults of replicas in their order. -/
def peerFaults (silence : Duration) (allowed : Int) (faulty : PeerCounts) : List String :=
  counted faulty.notCurrent " not current" ++
    (counted faulty.inactive (" inactive more than " ++ silence.short) ++
      (counted faulty.offline " offline" ++
        counted faulty.lagged (" lagged more than " ++ Decimal.ofInt allowed ++ " ops")))

/-- The findings about the faults of a cluster in their order. -/
def clusterFaults (expected : Option Int) (silence : Duration) (allowed : Int)
    (c : Snapshot.Cluster) : List String :=
  unexpected expected c.peerCount ++ peerFaults silence allowed (tally silence allowed c.replicas)

/-- What is measured of a cluster. -/
def clusterPerf (expected : Option Int) (peers : Nat) (faulty : PeerCounts) : List Perf.Datum :=
  [{ label := "peers", value := .int peers
     warn := Gauge.int.bound expected, crit := Gauge.int.bound expected },
    { label := "peer_offline", value := .int faulty.offline },
    { label := "peer_not_current", value := .int faulty.notCurrent },
    { label := "peer_inactive", value := .int faulty.inactive },
    { label := "peer_lagged", value := .int faulty.lagged }]

/-- All numbers that the check of a cluster shows have few enough digits. -/
structure Showable (expected : Option Int) (allowed : Int) (c : Snapshot.Cluster) : Prop where
  /-- The expected number of servers is shown if there is another one. -/
  expected : ∀ e ∈ expected, e ≠ 0 → e ≠ c.peerCount → (Value.int e).writable
  /-- Every replica is shown in the log. -/
  peers : ∀ p ∈ c.replicas, Peer.writable p
  /-- How far a replica may be behind is shown if one is farther behind. -/
  allowed : ∀ p ∈ c.replicas, allowed < p.lag → (Value.int allowed).writable

variable {t : Config.Cluster} {c : Snapshot.Cluster} {expected : Option Int} {silence : Duration}
  {allowed : Int} {leader : String}

/-! ## The number of servers -/

/-- Integers are equal as values exactly if they are equal. -/
theorem equals_int (m n : Int) : (Value.int m).equals (.int n) = decide (m = n) := by
  rw [Value.equals]
  · simp [Value.numeric?, Value.Numeric.compare?]
  all_goals simp

/-- A number of servers is unexpected if another one that is not 0 is set. -/
theorem isUnexpected_iff (hexpected : t.expectedPeers = Gauge.int.bound expected) :
    isUnexpected t c ↔ ∃ e ∈ expected, e ≠ 0 ∧ e ≠ c.peerCount := by
  unfold isUnexpected
  rw [hexpected]
  cases expected with
  | none => exact iff_of_false Bool.false_ne_true (by simp)
  | some e =>
    change (decide (e ≠ 0) && !(Value.int c.peerCount).equals (.int e)) = true ↔ _
    rw [equals_int, Bool.and_eq_true, decide_eq_true_eq, Bool.not_eq_true', decide_eq_false_iff_not]
    constructor
    · rintro ⟨hzero, hne⟩
      exact ⟨e, rfl, hzero, Ne.symm hne⟩
    · rintro ⟨_, ⟨⟩, hzero, hne⟩
      exact ⟨hzero, Ne.symm hne⟩

/-- The number of replicas is no finding exactly if none is expected, or zero, or the number
found. -/
theorem unexpected_eq_nil_iff {peers : Nat} :
    unexpected expected peers = [] ↔
      expected = none ∨ expected = some 0 ∨ expected = some (peers : Int) := by
  cases expected with
  | none => exact iff_of_true rfl (.inl rfl)
  | some e =>
    unfold unexpected
    by_cases h : e = 0 ∨ e = peers
    · simp [h]
    · simp [not_or.mp h]

/-- The number of servers is filed if it is not the expected one. -/
theorem expectPeers_adds (hexpected : t.expectedPeers = Gauge.int.bound expected)
    (hshow : Showable expected allowed c) :
    Adds (expectPeers t c.peerCount) { criticals := unexpected expected c.peerCount } := by
  rw [expectPeers_eq]
  change Adds (criticalIf (isUnexpected t c) _) _
  by_cases hother : isUnexpected t c
  · -- The expected number is set, so it has to be shown and can be.
    obtain ⟨e, rfl, hzero, hne⟩ := (isUnexpected_iff hexpected).mp hother
    have htext : (toString c.peerCount ++ " peers of expected " ++ ·) <$> t.expectedPeers.text =
        .ok (toString c.peerCount ++ " peers of expected " ++ Decimal.ofInt e) := by
      rw [hexpected]
      exact congrArg _ (Value.intText_of_writable (hshow.expected e rfl hzero hne))
    have hfile := Adds.criticalIf fun _ : isUnexpected t c => htext
    rw [if_pos hother] at hfile
    rwa [unexpected, if_neg (not_or.mpr ⟨hzero, hne⟩)]
  · have hnone : unexpected expected c.peerCount = [] := by
      rw [isUnexpected_iff hexpected] at hother
      rw [unexpected_eq_nil_iff]
      cases expected with
      | none => exact .inl rfl
      | some e => simpa [or_iff_not_imp_left] using hother
    rw [hnone]
    exact Adds.criticalIf_of_not hother

/-! ## The replicas -/

/-- A fault is no finding exactly if no replica has it. -/
theorem counted_eq_nil_iff {n : Nat} {words : String} : counted n words = [] ↔ n = 0 := by
  unfold counted
  by_cases h : 0 < n
  · simp [h, h.ne']
  · simp [Nat.eq_zero_of_not_pos h]

/-- The finding of a fault is filed if some replica has it. -/
theorem counted_adds {n : Nat} {words : String} {text : Except Fault String}
    (h : 0 < n → text = .ok (toString n ++ words)) :
    Adds (criticalIf (0 < n) text) { criticals := counted n words } := Adds.criticalIf h

/-- The findings on the replicas are added in their order. -/
theorem filePeers_adds (hseen : t.seenCritical = .duration silence)
    (hlag : t.lagCritical = .int allowed) (faulty : PeerCounts)
    (hallowed : 0 < faulty.lagged → (Value.int allowed).writable) :
    Adds (filePeers t faulty) { criticals := peerFaults silence allowed faulty } := by
  have hinactive : (toString faulty.inactive ++ " inactive more than " ++ ·) <$>
      shortSetting t.seenCritical =
        .ok (toString faulty.inactive ++ (" inactive more than " ++ silence.short)) := by
    rw [hseen, ← String.append_assoc]
    rfl
  -- The lag is only written where a peer lags, so only then it has to be writable.
  have hlagged (hsome : 0 < faulty.lagged) :
      (toString faulty.lagged ++ " lagged more than " ++ · ++ " ops") <$> t.lagCritical.text =
        .ok (toString faulty.lagged ++
          (" lagged more than " ++ Decimal.ofInt allowed ++ " ops")) := by
    have htext : t.lagCritical.text = .ok (Decimal.ofInt allowed) := by
      rw [hlag]
      exact Value.intText_of_writable (hallowed hsome)
    rw [htext, ← String.append_assoc, ← String.append_assoc]
    rfl
  rw [filePeers_eq]
  exact (counted_adds fun _ => rfl).seq <| (counted_adds fun _ => hinactive).seq <|
    (counted_adds fun _ => rfl).seq <| counted_adds hlagged

/-- The measurements of the replicas are added in their order. -/
theorem measurePeers_adds (hexpected : t.expectedPeers = Gauge.int.bound expected) (peers : Nat)
    (faulty : PeerCounts) :
    Adds (measurePeers t peers faulty) { perf := clusterPerf expected peers faulty } := by
  unfold measurePeers
  rw [hexpected]
  exact (Adds.measure _).seq <| (Adds.measure _).seq <| (Adds.measure _).seq <|
    (Adds.measure _).seq <| Adds.measure _

/-- Looking at a cluster measures it and files its faults. -/
theorem inspect_adds (hexpected : t.expectedPeers = Gauge.int.bound expected)
    (hseen : t.seenCritical = .duration silence) (hlag : t.lagCritical = .int allowed)
    (hshow : Showable expected allowed c) :
    Adds (inspect t c) {
      criticals := clusterFaults expected silence allowed c
      perf := clusterPerf expected c.peerCount (tally silence allowed c.replicas) } := by
  have hcount := countPeers_eq hseen hlag hshow.peers
  have hallowed : 0 < (tally silence allowed c.replicas).lagged → (Value.int allowed).writable := by
    intro hsome
    obtain ⟨p, hp, hbehind⟩ := List.countP_pos_iff.mp hsome
    exact hshow.allowed p hp (of_decide_eq_true hbehind)
  -- Counting is a calculation; what is filed afterwards depends on its result.
  have hrest : Adds (obtain (countPeers t c.replicas) >>= fun faulty =>
      measurePeers t c.peerCount faulty >>= fun _ => filePeers t faulty) _ :=
    .obtain_bind hcount
      ((measurePeers_adds hexpected _ _).seq (filePeers_adds hseen hlag _ hallowed))
  exact (expectPeers_adds hexpected hshow).seq hrest

/-- The faults of a cluster are none exactly if it is in order. -/
theorem clusterFaults_eq_nil_iff :
    clusterFaults expected silence allowed c = [] ↔
      (expected = none ∨ expected = some 0 ∨ expected = some (c.peerCount : Int)) ∧
      ∀ p ∈ c.replicas, p.current.truthy ∧ ¬p.offline.truthy ∧ p.active ≤ silence ∧
        p.lag ≤ allowed := by
  unfold clusterFaults peerFaults
  simp only [List.append_eq_nil_iff, unexpected_eq_nil_iff, counted_eq_nil_iff]
  refine and_congr_right fun _ => ?_
  -- A count is zero exactly if no replica has the fault.
  simp only [tally, List.countP_eq_zero, decide_eq_true_eq, not_lt, Bool.not_eq_eq_eq_not,
    Bool.not_true, Bool.not_eq_false]
  constructor
  · rintro ⟨hcurrent, hactive, hoffline, hlag⟩ p hp
    exact ⟨hcurrent p hp, hoffline p hp, hactive p hp, hlag p hp⟩
  · intro h
    exact ⟨fun p hp => (h p hp).1, fun p hp => (h p hp).2.2.1, fun p hp => (h p hp).2.1,
      fun p hp => (h p hp).2.2.2⟩

/-- The check of a cluster with a leader adds its findings to the measurements: its faults, or that
all is well. -/
theorem ledCluster_adds (hexpected : t.expectedPeers = Gauge.int.bound expected)
    (hseen : t.seenCritical = .duration silence) (hlag : t.lagCritical = .int allowed)
    (hleader : c.leader = .str leader) (hshow : Showable expected allowed c) :
    Adds (ledCluster t c) {
      criticals := clusterFaults expected silence allowed c
      oks :=
        if clusterFaults expected silence allowed c = [] then
          [toString c.peerCount ++ " peers led by " ++ leader]
        else []
      perf := clusterPerf expected c.peerCount (tally silence allowed c.replicas) } := by
  have htext : c.leader.text = .ok leader := by
    rw [hleader]
    rfl
  have hfinish : Adds (fileLeader c) _ := .obtain_bind htext (.ok _)
  have hverdict := (inspect_adds hexpected hseen hlag hshow).unlessCritical hfinish
  rw [ledCluster_eq]
  -- The finding that all is well is appended only to a report without faults.
  by_cases hnone : clusterFaults expected silence allowed c = []
  · rw [if_pos hnone]
    rw [if_pos hnone] at hverdict
    convert hverdict using 1
    exact Report.eq_of_fields rfl rfl rfl (by simp) (by simp)
  · rw [if_neg hnone]
    rw [if_neg hnone, Report.append_empty] at hverdict
    exact hverdict

/-- The check of a cluster breaks exactly if a number that it has to show cannot be written. -/
theorem ledClusterBreak_iff (hexpected : t.expectedPeers = Gauge.int.bound expected)
    (hlag : t.lagCritical = .int allowed) (hleader : c.leader = .str leader) :
    LedClusterBreak t c ↔ ¬Showable expected allowed c := by
  constructor
  -- Each way to break contradicts one part of being showable, and the other way round.
  · rintro (⟨hother, hlong⟩ | ⟨-, hnull⟩ | ⟨p, hp, hlong⟩ | ⟨p, hp, a, ha, hbehind, hlong⟩ |
      ⟨-, -, hlong⟩) hshow
    · obtain ⟨e, rfl, hzero, hne⟩ := (isUnexpected_iff hexpected).mp hother
      rw [hexpected] at hlong
      exact hlong (hshow.expected e rfl hzero hne)
    · rw [hlag] at hnull
      cases hnull
    · exact hlong (hshow.peers p hp)
    · rw [hlag] at ha
      cases ha
      exact hlong (hshow.allowed p hp hbehind)
    · rw [hleader] at hlong
      exact hlong rfl
  · intro hshow
    by_contra hbreak
    refine hshow ⟨fun e he hzero hne => ?_, fun p hp => ?_, fun p hp hbehind => ?_⟩
    · by_contra hlong
      refine hbreak (.expected ((isUnexpected_iff hexpected).mpr ⟨e, he, hzero, hne⟩) ?_)
      obtain rfl := Option.mem_def.mp he
      rw [hexpected]
      exact hlong
    · by_contra hlong
      exact hbreak (.peer p hp hlong)
    · by_contra hlong
      exact hbreak (.lagging p hp allowed hlag hbehind hlong)

end Check

namespace Monitor

open Check

/-- What is reported about a cluster that has a leader.

The run stops exactly if a number that it has to show has too many digits. Every other run comes to
its end. It adds the five measurements with the number of servers and the numbers of replicas that
have each fault, no warnings, and either its faults in their order or the one finding that all is
well, which tells that there is the expected number of servers, if one is expected, and that every
replica is current, can be reached, has been heard of lately and is not too far behind. -/
theorem run_ledCluster {config : Config} {expected : Option Int} {silence : Duration}
    {allowed : Int} {c : Snapshot.Cluster} {leader : String}
    (hexpected : config.cluster.expectedPeers = Gauge.int.bound expected)
    (hseen : config.cluster.seenCritical = .duration silence)
    (hlag : config.cluster.lagCritical = .int allowed)
    (hleader : c.leader = .str leader) (hname : leader ≠ "") (clock : Instant) :
    let after := run .cluster config clock (some c)
    let faulty (hasFault : Snapshot.Peer → Bool) := c.replicas.countP hasFault
    let notCurrent := faulty fun p => !p.current.truthy
    let inactive := faulty fun p => silence < p.active
    let offline := faulty fun p => p.offline.truthy
    let lagged := faulty fun p => allowed < p.lag
    (Stops after.1 ↔ ¬Showable expected allowed c) ∧
    (Showable expected allowed c →
      after.1 = .ok () ∧
      after.2.warnings = [] ∧
      after.2.criticals = unexpected expected c.peerCount ++
        (counted notCurrent " not current" ++
          (counted inactive (" inactive more than " ++ silence.short) ++
            (counted offline " offline" ++
              counted lagged (" lagged more than " ++ Decimal.ofInt allowed ++ " ops")))) ∧
      (after.2.oks = if after.2.criticals = [] then
        [toString c.peerCount ++ " peers led by " ++ leader] else []) ∧
      after.2.perf = clusterPerf expected c.peerCount ⟨offline, notCurrent, inactive, lagged⟩ ∧
      (after.2.status = .ok ↔
        (expected = none ∨ expected = some 0 ∨ expected = some (c.peerCount : Int)) ∧
        ∀ p ∈ c.replicas, p.current.truthy ∧ ¬p.offline.truthy ∧ p.active ≤ silence ∧
          p.lag ≤ allowed)) := by
  intro after faulty notCurrent inactive offline lagged
  have hcheck : Check.cluster config.cluster (some c) = ledCluster config.cluster c := by
    have hled : c.leader.truthy := by
      rw [hleader]
      exact decide_eq_true hname
    simp only [Check.cluster, hled, if_true]
  have hafter : after = ((ledCluster config.cluster c).outcome,
      { (ledCluster config.cluster c).added with check := Kind.cluster.name }) := by
    rw [← hcheck]
    exact run_eq .cluster config clock (some c)
  refine ⟨?_, fun hshow => ?_⟩
  · rw [hafter, (ledCluster_stopsWhen hseen (.inr ⟨allowed, hlag⟩) c).stops_iff]
    exact ledClusterBreak_iff hexpected hlag hleader
  · have hadds := ledCluster_adds hexpected hseen hlag hleader hshow
    rw [hafter, hadds.outcome_eq, hadds.added_eq]
    refine ⟨rfl, rfl, rfl, rfl, rfl, ?_⟩
    -- Nothing but criticals can keep such a report from being in order.
    rw [← clusterFaults_eq_nil_iff, Report.status]
    cases clusterFaults expected silence allowed c with
    | nil => simp
    | cons message rest => simp

/-- A cluster of two servers under the usual settings: with a replica that is in order, and with one
that is too many operations behind for their number to be written. -/
theorem run_ledCluster_two_servers :
    let clock : Instant := ⟨Instant.epoch, by decide⟩
    let replica (lag : Int) : Snapshot.Peer := ⟨.str "n2", .bool true, .bool false, .seconds 1, lag⟩
    let after (lag : Int) := run .cluster {} clock (some ⟨.str "n1", [replica lag]⟩)
    (after 7).1 = .ok () ∧ (after 7).2.oks = ["2 peers led by n1"] ∧ (after 7).2.status = .ok ∧
      Stops (after (10 ^ 4300)).1 := by
  intro clock replica after
  have hrun (lag : Int) := @run_ledCluster {} none (.seconds 10) 100 ⟨.str "n1", [replica lag]⟩ "n1"
    rfl rfl rfl rfl (by decide) clock
  have hshow : Showable none 100 ⟨.str "n1", [replica 7]⟩ := by
    refine ⟨by simp, ?_, ?_⟩
    · rintro p hp
      obtain rfl := List.mem_singleton.mp hp
      have hlag : (Value.int 7).writable :=
        Value.writable_of_lt_pow (k := 1) (by decide) (by decide)
      exact Bool.and_eq_true_iff.mpr ⟨rfl, hlag⟩
    · exact fun _ _ _ => Value.writable_of_lt_pow (k := 3) (by decide) (by decide)
  obtain ⟨hout, -, hcriticals, hoks, -, hstatus⟩ := (hrun 7).2 hshow
  have hnone : (after 7).2.criticals = [] := by
    rw [hcriticals]
    rfl
  refine ⟨hout, ?_, ?_, (hrun _).1.mpr fun hlong => ?_⟩
  · rw [hoks, if_pos hnone]
    decide
  · refine hstatus.mpr ⟨.inl rfl, fun p hp => ?_⟩
    obtain rfl := List.mem_singleton.mp hp
    decide
  · have hlag := hlong.peers _ (List.mem_singleton.mpr rfl)
    exact Value.not_writable_pow le_rfl (Bool.and_eq_true_iff.mp hlag).2

end Monitor

end Vigil
