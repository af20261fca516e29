import Mathlib.Data.List.Forall2
import Vigil.Proofs.Check.Health

/-!
# Clusters with other replicas

How what is reported about a cluster changes with its replicas.

The faults of replicas are counted, so the order of the replicas makes no difference to the check of
a cluster (`Check.cluster_perm`), not even where it stops: all that can be wrong with a replica is a
number of too many digits, whichever replica has it. The counts of two groups of replicas add up
(`Check.tally_append`). A cluster in order stays in order when replicas leave it, unless a number of
servers is expected, and when its replicas get better (`Check.clusterFaults_of_append`,
`Check.clusterFaults_of_worsened`). The main statement is `Monitor.run_replicas`.
-/

namespace Vigil

/-- The value that is measured under a label, if there is one. -/
def Report.measured? (label : String) (r : Report) : Option Value :=
  (r.perf.find? (·.label = label)).map (·.value)

/-- What a replica was before and what it is after a change by which no fault of it goes away. -/
structure Snapshot.Peer.Worsened (before after : Snapshot.Peer) : Prop where
  /-- The leader has heard of the replica as long ago, or longer. -/
  active : before.active ≤ after.active
  /-- The replica is as many operations behind, or more. -/
  lag : before.lag ≤ after.lag
  /-- The replica has not become current. -/
  current : after.current.truthy → before.current.truthy
  /-- The replica has not become reachable. -/
  offline : before.offline.truthy → after.offline.truthy

namespace Check

open Checking
open Snapshot.Peer (Worsened)

variable {t : Config.Cluster} {expected : Option Int} {silence : Duration} {allowed : Int}
  {xs ys : List Snapshot.Peer}

/-! ## The order of replicas -/

/-- Counting a replica fails only at a number that is too long to be written. -/
theorem PeerCounts.add_tooLong (hseen : t.seenCritical = .duration silence)
    (hlag : t.lagCritical = .int allowed) (counts : PeerCounts) (p : Snapshot.Peer) :
    FailsWith (· = .value .tooLongToWrite) (counts.add t p) := by
  unfold add
  rw [hseen, hlag, gt_duration, gt_int]
  exact (Peer.note_tooLong p).bind fun _ => .pure _

/-- Counting the replicas fails only at a number that is too long to be written. -/
theorem countPeers_tooLong (hseen : t.seenCritical = .duration silence)
    (hlag : t.lagCritical = .int allowed) (peers : List Snapshot.Peer) :
    FailsWith (· = .value .tooLongToWrite) (countPeers t peers) :=
  .foldlM (PeerCounts.add_tooLong hseen hlag) peers {}

/-- The counts of replicas do not depend on their order. -/
theorem tally_perm (h : xs.Perm ys) : tally silence allowed xs = tally silence allowed ys := by
  simp only [tally, h.countP_eq]

/-- Counting replicas comes to the same in any order. -/
theorem countPeers_perm (hseen : t.seenCritical = .duration silence)
    (hlag : t.lagCritical = .int allowed) (h : xs.Perm ys) :
    countPeers t xs = countPeers t ys := by
  have hmem (p : Snapshot.Peer) : p ∈ xs ↔ p ∈ ys := h.mem_iff
  by_cases hxs : ∀ p ∈ xs, Peer.writable p
  · have hys : ∀ p ∈ ys, Peer.writable p := fun p hp => hxs p ((hmem p).mpr hp)
    rw [countPeers_eq hseen hlag hxs, countPeers_eq hseen hlag hys, tally_perm h]
  · -- In another order another replica may be the first that cannot be shown, with the same fault.
    have hfault (peers : List Snapshot.Peer) (hlong : ∃ p ∈ peers, ¬Peer.writable p) :
        countPeers t peers = .error (.value .tooLongToWrite) := by
      obtain ⟨p, hp, hp'⟩ := hlong
      obtain ⟨fault, hstop⟩ :=
        (stops_countPeers hseen (.inr ⟨allowed, hlag⟩) peers).mpr ⟨p, hp, .inr hp'⟩
      rw [hstop, countPeers_tooLong hseen hlag peers fault hstop]
    push Not at hxs
    obtain ⟨p, hp, hlong⟩ := hxs
    rw [hfault xs ⟨p, hp, hlong⟩, hfault ys ⟨p, (hmem p).mp hp, hlong⟩]

/-- The order of the replicas makes no difference to the check of a cluster. -/
theorem cluster_perm (hseen : t.seenCritical = .duration silence)
    (hlag : t.lagCritical = .int allowed) (leader : Value) (h : xs.Perm ys) :
    cluster t (some ⟨leader, xs⟩) = cluster t (some ⟨leader, ys⟩) := by
  simp only [cluster, ledCluster, Snapshot.Cluster.peerCount, h.length_eq,
    countPeers_perm hseen hlag h]

/-! ## More replicas -/

/-- The counts of two groups of replicas together. -/
instance : Add PeerCounts where
  add a b := {
    offline := a.offline + b.offline
    notCurrent := a.notCurrent + b.notCurrent
    inactive := a.inactive + b.inactive
    lagged := a.lagged + b.lagged }

/-- The faults of two groups of replicas add up. -/
theorem tally_append (xs ys : List Snapshot.Peer) :
    tally silence allowed (xs ++ ys) = tally silence allowed xs + tally silence allowed ys := by
  simp only [tally, List.countP_append]
  rfl

/-- Each of the four counters of faulty replicas is measured under its label, and adds up. -/
theorem exists_counter {label : String}
    (h : label ∈ ["peer_offline", "peer_not_current", "peer_inactive", "peer_lagged"]) :
    ∃ counter : PeerCounts → Nat,
      (∀ a b, counter (a + b) = counter a + counter b) ∧
      ∀ (r : Report) (peers : Nat) (faulty : PeerCounts),
        r.perf = clusterPerf expected peers faulty →
        r.measured? label = some (.int (counter faulty)) := by
  simp only [List.mem_cons, List.not_mem_nil, or_false] at h
  rcases h with rfl | rfl | rfl | rfl
  · exact ⟨(·.offline), fun _ _ => rfl, fun r _ _ h => by rw [Report.measured?, h]; rfl⟩
  · exact ⟨(·.notCurrent), fun _ _ => rfl, fun r _ _ h => by rw [Report.measured?, h]; rfl⟩
  · exact ⟨(·.inactive), fun _ _ => rfl, fun r _ _ h => by rw [Report.measured?, h]; rfl⟩
  · exact ⟨(·.lagged), fun _ _ => rfl, fun r _ _ h => by rw [Report.measured?, h]; rfl⟩

/-- If no number of servers is expected, what can be shown of a cluster can be shown of a part of
it. -/
theorem Showable.of_append {leader : Value} (hfree : expected = none ∨ expected = some 0)
    (h : Showable expected allowed ⟨leader, xs ++ ys⟩) :
    Showable expected allowed ⟨leader, xs⟩ where
  expected := by
    rcases hfree with rfl | rfl
    · simp
    · rintro _ ⟨⟩ hzero
      exact absurd rfl hzero
  peers p hp := h.peers p (List.mem_append_left ys hp)
  allowed p hp := h.allowed p (List.mem_append_left ys hp)

/-- If no number of servers is expected, a part of a cluster in order is in order. -/
theorem clusterFaults_of_append {leader : Value} (hfree : expected = none ∨ expected = some 0)
    (h : clusterFaults expected silence allowed ⟨leader, xs ++ ys⟩ = []) :
    clusterFaults expected silence allowed ⟨leader, xs⟩ = [] := by
  rw [clusterFaults_eq_nil_iff] at h ⊢
  exact ⟨or_assoc.mp (.inl hfree), fun p hp => h.2 p (List.mem_append_left ys hp)⟩

/-! ## Worse replicas -/

/-- A cluster that is in order after its replicas have become worse was in order before. -/
theorem clusterFaults_of_worsened {leader : Value} (hworse : List.Forall₂ Worsened xs ys)
    (h : clusterFaults expected silence allowed ⟨leader, ys⟩ = []) :
    clusterFaults expected silence allowed ⟨leader, xs⟩ = [] := by
  rw [clusterFaults_eq_nil_iff] at h ⊢
  obtain ⟨hpeers, horder⟩ := h
  refine ⟨?_, fun p hp => ?_⟩
  · rwa [Snapshot.Cluster.peerCount, hworse.length_eq]
  · -- What became of a replica is in order, so no fault of the replica can have been there before.
    obtain ⟨i, hi, rfl⟩ := List.getElem_of_mem hp
    have hi' : i < ys.length := hworse.length_eq ▸ hi
    have hrel : Worsened xs[i] ys[i] := hworse.get hi hi'
    obtain ⟨hcurrent, hoffline, hactive, hlag⟩ := horder ys[i] (List.getElem_mem hi')
    exact ⟨hrel.current hcurrent, mt hrel.offline hoffline, hrel.active.trans hactive,
      hrel.lag.trans hlag⟩

end Check

namespace Monitor

open Check
open Snapshot.Peer (Worsened)

section Led

variable {config : Config} {expected : Option Int} {silence : Duration} {allowed : Int}
  {c : Snapshot.Cluster} {leader : String}

/-- The check of a cluster with a leader judges its replicas. -/
theorem cluster_led (hleader : c.leader = .str leader) (hname : leader ≠ "") :
    Check.cluster config.cluster (some c) = ledCluster config.cluster c := by
  have hled : c.leader.truthy := by
    rw [hleader]
    exact decide_eq_true hname
  simp only [Check.cluster, hled, if_true]

/-- The check of a cluster with a leader stops exactly if a number that it has to show has too many
digits. -/
theorem stops_run_led (hexpected : config.cluster.expectedPeers = Gauge.int.bound expected)
    (hseen : config.cluster.seenCritical = .duration silence)
    (hlag : config.cluster.lagCritical = .int allowed) (hleader : c.leader = .str leader)
    (hname : leader ≠ "") (clock : Instant) :
    Stops (run .cluster config clock (some c)).1 ↔ ¬Showable expected allowed c := by
  have hstops := ledCluster_stopsWhen hseen (.inr ⟨allowed, hlag⟩) c
  rw [← cluster_led hleader hname] at hstops
  rw [run_eq]
  exact hstops.stops_iff.trans (ledClusterBreak_iff hexpected hlag hleader)

/-- The check of a cluster with a leader measures its replicas, and its exit code tells whether the
cluster has faults. -/
theorem run_led (hexpected : config.cluster.expectedPeers = Gauge.int.bound expected)
    (hseen : config.cluster.seenCritical = .duration silence)
    (hlag : config.cluster.lagCritical = .int allowed) (hleader : c.leader = .str leader)
    (hname : leader ≠ "") (hshow : Showable expected allowed c) (clock : Instant) :
    let report := (run .cluster config clock (some c)).2
    report.perf = clusterPerf expected c.peerCount (tally silence allowed c.replicas) ∧
      report.status.exitCode = if clusterFaults expected silence allowed c = [] then 0 else 2 := by
  have hadds := ledCluster_adds hexpected hseen hlag hleader hshow
  rw [← cluster_led hleader hname] at hadds
  have hrun : run .cluster config clock (some c) = _ := run_of_adds hadds
  rw [hrun]
  refine ⟨rfl, ?_⟩
  cases h : clusterFaults expected silence allowed c with
  | nil => simp [Report.status, Status.exitCode]
  | cons message rest => simp [Report.status, Status.exitCode]

end Led

/-- How what is reported about a cluster changes with its replicas.

Their order makes no difference, whoever the leader is. If there is a leader, the run comes to its
end exactly if all numbers that it has to show have few enough digits. Of the runs that do, that on
two groups of replicas together measures the sums of what the runs on the groups measure; its exit
code is not lower than that of the run on the first group, unless a number of servers is expected;
and the exit code is not lower after some replicas have become worse. -/
theorem run_replicas {config : Config} {expected : Option Int} {silence : Duration} {allowed : Int}
    (hexpected : config.cluster.expectedPeers = Gauge.int.bound expected)
    (hseen : config.cluster.seenCritical = .duration silence)
    (hlag : config.cluster.lagCritical = .int allowed) (clock : Instant) :
    let after (leader : Value) (replicas : List Snapshot.Peer) :=
      run .cluster config clock (some ⟨leader, replicas⟩)
    (∀ leader xs ys, xs.Perm ys → after leader xs = after leader ys) ∧
    ∀ name, name ≠ "" →
      let ends (replicas : List Snapshot.Peer) := ¬Stops (after (.str name) replicas).1
      let report (replicas : List Snapshot.Peer) := (after (.str name) replicas).2
      (∀ xs, ends xs ↔ Showable expected allowed ⟨.str name, xs⟩) ∧
      (∀ xs ys, ends xs → ends ys → ends (xs ++ ys) →
        ∀ label ∈ ["peer_offline", "peer_not_current", "peer_inactive", "peer_lagged"],
          ∃ m n : Nat,
            (report xs).measured? label = some (.int m) ∧
            (report ys).measured? label = some (.int n) ∧
            (report (xs ++ ys)).measured? label = some (.int (m + n))) ∧
      (expected = none ∨ expected = some 0 → ∀ xs ys, ends (xs ++ ys) →
        ends xs ∧ (report xs).status.exitCode ≤ (report (xs ++ ys)).status.exitCode) ∧
      ∀ xs ys, List.Forall₂ Worsened xs ys → ends xs → ends ys →
        (report xs).status.exitCode ≤ (report ys).status.exitCode := by
  intro after
  refine ⟨fun leader xs ys h => ?_, fun name hname => ?_⟩
  · -- The run is determined by the check, and the check does not see the order.
    have hcheck : Kind.cluster.check (config.settings .cluster) clock (some ⟨leader, xs⟩) =
        Kind.cluster.check (config.settings .cluster) clock (some ⟨leader, ys⟩) :=
      cluster_perm hseen hlag leader h
    simp only [after, run_eq, hcheck]
  intro ends report
  have hends (xs : List Snapshot.Peer) :
      ends xs ↔ Showable expected allowed ⟨.str name, xs⟩ :=
    (not_congr (stops_run_led hexpected hseen hlag rfl hname clock)).trans not_not
  have hrun (xs : List Snapshot.Peer) (h : ends xs) :=
    run_led hexpected hseen hlag rfl hname ((hends xs).mp h) clock
  -- The exit code is that of all being well or that of a critical finding.
  have hcode (xs ys : List Snapshot.Peer) (hxs : ends xs) (hys : ends ys)
      (h : clusterFaults expected silence allowed ⟨.str name, ys⟩ = [] →
        clusterFaults expected silence allowed ⟨.str name, xs⟩ = []) :
      (report xs).status.exitCode ≤ (report ys).status.exitCode := by
    rw [(hrun xs hxs).2, (hrun ys hys).2]
    by_cases hx : clusterFaults expected silence allowed ⟨.str name, xs⟩ = []
    · rw [if_pos hx]
      exact Nat.zero_le _
    · rw [if_neg hx, if_neg (mt h hx)]
  refine ⟨hends, ?_, ?_, ?_⟩
  · -- The measured counters are those of the tallies, and the tallies add up.
    intro xs ys hxs hys hboth label hlabel
    obtain ⟨counter, hadd, hcounter⟩ := exists_counter hlabel
    refine ⟨_, _, hcounter _ _ _ (hrun xs hxs).1, hcounter _ _ _ (hrun ys hys).1, ?_⟩
    rw [hcounter _ _ _ (hrun _ hboth).1, tally_append, hadd, Nat.cast_add]
  · intro hfree xs ys hboth
    have hxs : ends xs := (hends xs).mpr (((hends _).mp hboth).of_append hfree)
    exact ⟨hxs, hcode xs _ hxs hboth (clusterFaults_of_append hfree)⟩
  · intro xs ys hworse hxs hys
    exact hcode xs ys hxs hys (clusterFaults_of_worsened hworse)

/-- What one more replica does to the check of a cluster of which one replica is not current, under
the usual settings: its lag is counted, and a lag of too many digits stops the check, although there
is a critical finding without it. -/
theorem run_replicas_joined :
    let clock : Instant := ⟨Instant.epoch, by decide⟩
    let replica (current : Bool) (lag : Int) : Snapshot.Peer :=
      ⟨.str "n2", .bool current, .bool false, .seconds 1, lag⟩
    let after (replicas : List Snapshot.Peer) :=
      run .cluster {} clock (some ⟨.str "n1", replicas⟩)
    let code (replicas : List Snapshot.Peer) := (after replicas).2.status.exitCode
    let stale := replica false 0
    let behind := replica true 101
    after [stale, behind] = after [behind, stale] ∧
      (∃ m n : Nat,
        (after [stale]).2.measured? "peer_lagged" = some (.int m) ∧
        (after [behind]).2.measured? "peer_lagged" = some (.int n) ∧
        (after [stale, behind]).2.measured? "peer_lagged" = some (.int (m + n))) ∧
      code [stale] ≤ code [stale, behind] ∧ code [replica true 7] ≤ code [behind] ∧
      code [stale] = 2 ∧ Stops (after [stale, replica true (10 ^ 4300)]).1 := by
  intro clock replica after code stale behind
  obtain ⟨hperm, hled⟩ := @run_replicas {} none (.seconds 10) 100 rfl rfl rfl clock
  obtain ⟨hends, hsum, happend, hworse⟩ := hled "n1" (by decide)
  have hwritable (current : Bool) (lag : Int) (hlag : lag.natAbs < 10 ^ 3) :
      Peer.writable (replica current lag) := by
    have hlag : (Value.int lag).writable := Value.writable_of_lt_pow hlag (by decide)
    exact Bool.and_eq_true_iff.mpr ⟨by cases current <;> rfl, hlag⟩
  have hshow (replicas : List Snapshot.Peer) (h : ∀ p ∈ replicas, Peer.writable p) :
      Showable none 100 ⟨.str "n1", replicas⟩ :=
    ⟨by simp, h, fun _ _ _ => Value.writable_of_lt_pow (k := 3) (by decide) (by decide)⟩
  have hstale := hshow [stale] (List.forall_mem_singleton.mpr (hwritable false 0 (by decide)))
  have hbehind := hshow [behind] (List.forall_mem_singleton.mpr (hwritable true 101 (by decide)))
  have hseven := hshow [replica true 7]
    (List.forall_mem_singleton.mpr (hwritable true 7 (by decide)))
  have hboth := hshow [stale, behind]
    (List.forall_mem_cons.mpr ⟨hstale.peers _ (.head _), hbehind.peers⟩)
  refine ⟨hperm _ _ _ (.swap ..), ?_, ?_, ?_, ?_, ?_⟩
  · exact hsum [stale] [behind] ((hends _).mpr hstale) ((hends _).mpr hbehind)
      ((hends _).mpr hboth) "peer_lagged" (by simp)
  · exact (happend (.inl rfl) [stale] [behind] ((hends _).mpr hboth)).2
  · exact hworse [replica true 7] [behind] (.cons ⟨le_rfl, by decide, id, id⟩ .nil)
      ((hends _).mpr hseven) ((hends _).mpr hbehind)
  · have hcode := (@run_led {} none (.seconds 10) 100 ⟨.str "n1", [stale]⟩ "n1" rfl rfl rfl rfl
      (by decide) hstale clock).2
    exact hcode.trans rfl
  · -- The replica that lags behind so far cannot be shown.
    refine not_not.mp (mt (hends _).mp fun hlong => ?_)
    have hlag := hlong.peers (replica true (10 ^ 4300)) (.tail _ (.head _))
    exact Value.not_writable_pow le_rfl (Bool.and_eq_true_iff.mp hlag).2

end Monitor

end Vigil
