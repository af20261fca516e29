import Vigil.Proofs.Check.Parts
import Vigil.Proofs.Check.Stopping
import Vigil.Proofs.Value.Writing

/-!
# Replicas

The replicas of a cluster are counted by their faults (`countPeers_eq`), unless one of them cannot
be judged or shown (`stops_countPeers`). With that, `ledCluster_stopsWhen` tells when the check of
a cluster that has a leader stops.
-/

namespace Vigil.Check

open Checking

/-- Whether the number of servers is not the expected one, if one is expected. -/
def isUnexpected (t : Config.Cluster) (c : Snapshot.Cluster) : Bool :=
  t.expectedPeers.truthy && !(Value.int c.peerCount).equals t.expectedPeers

/-- Whether all that the log shows of a replica can be written. -/
def Peer.writable (p : Snapshot.Peer) : Bool :=
  p.name.writable && p.current.writable && p.offline.writable && (Value.int p.lag).writable

/-- A replica without a fault. -/
structure Peer.InOrder (t : Config.Cluster) (p : Snapshot.Peer) : Prop where
  /-- The replica has all operations. -/
  current : p.current.truthy
  /-- The replica can be reached. -/
  reachable : ¬p.offline.truthy
  /-- The leader has heard of the replica lately. -/
  active : ∀ silence, t.seenCritical = .duration silence → p.active.micros ≤ silence.micros
  /-- The replica is not too many operations behind. -/
  caughtUp : ∀ allowed, t.lagCritical = .int allowed → p.lag ≤ allowed

/-- How the check of a cluster that has a leader breaks. -/
inductive LedClusterBreak (t : Config.Cluster) (c : Snapshot.Cluster) : Prop where
  /-- The number of servers is not the expected one, and that one is too large to be written. -/
  | expected (unexpected : isUnexpected t c) (long : ¬t.expectedPeers.writable)
  /-- There are replicas, and how far they may be behind is null. -/
  | unlimited (replicas : c.replicas ≠ []) (null : t.lagCritical = .null)
  /-- A replica cannot be shown in the log. -/
  | peer (p : Snapshot.Peer) (mem : p ∈ c.replicas) (long : ¬Peer.writable p)
  /-- A replica is farther behind than it may be, and how far it may be is too large to be
  written. -/
  | lagging (p : Snapshot.Peer) (mem : p ∈ c.replicas) (allowed : Int)
      (limit : t.lagCritical = .int allowed) (behind : allowed < p.lag)
      (long : ¬(Value.int allowed).writable)
  /-- All is well, and the name of the leader cannot be told. -/
  | leader (expected : ¬isUnexpected t c) (inOrder : ∀ p ∈ c.replicas, Peer.InOrder t p)
      (long : ¬c.leader.writable)

variable {t : Config.Cluster} {silence : Duration} {allowed : Int}

/-- Durations are compared by their microseconds. -/
theorem gt_duration (a b : Duration) :
    (Value.duration a).gt (.duration b) = .ok (decide (b.micros < a.micros)) := by
  simp [Value.gt, Value.order, bind, Except.bind, pure, Except.pure, compare_gt_iff_gt]

/-- Integers are compared as such. -/
theorem gt_int (m n : Int) : (Value.int m).gt (.int n) = .ok (decide (n < m)) := by
  simp [Value.gt, Value.order, Value.numeric?, Value.Numeric.compare?, bind, Except.bind, pure,
    Except.pure, compare_gt_iff_gt]

/-- The log entry on a replica stops exactly if its numbers cannot be written. -/
theorem stops_note_peer (p : Snapshot.Peer) : Stops (Peer.note p) ↔ ¬Peer.writable p := by
  unfold Peer.note Peer.writable
  rw [stops_bind_of_iff fun _ => stops_bind_of_iff fun _ => stops_bind_of_iff fun _ =>
      stops_bind_pure,
    Value.stops_text, Value.stops_text, Value.stops_text, Value.stops_intText]
  simp only [Bool.and_eq_true, not_and_or, or_assoc]

/-- A replica can be counted unless how far it may be behind is null or it cannot be shown. -/
theorem PeerCounts.stops_add (hseen : t.seenCritical = .duration silence)
    (hlag : t.lagCritical = .null ∨ ∃ allowed, t.lagCritical = .int allowed) (counts : PeerCounts)
    (p : Snapshot.Peer) :
    Stops (counts.add t p) ↔ t.lagCritical = .null ∨ ¬Peer.writable p := by
  unfold add
  rw [hseen, gt_duration, stops_bind_of_iff fun _ => stops_bind_of_iff fun _ => stops_bind_pure,
    stops_note_peer]
  rcases hlag with hnull | ⟨allowed, hallowed⟩
  · simp [hnull, Value.gt, Value.order, Value.numeric?]
  · simp [hallowed, Value.gt, Value.order, Value.numeric?]

/-- How many of some replicas have each fault. -/
def tally (silence : Duration) (allowed : Int) (peers : List Snapshot.Peer) : PeerCounts where
  offline := peers.countP fun p => p.offline.truthy
  notCurrent := peers.countP fun p => !p.current.truthy
  inactive := peers.countP fun p => silence.micros < p.active.micros
  lagged := peers.countP fun p => allowed < p.lag

/-- A replica that can be shown is counted for each of its faults. -/
theorem PeerCounts.add_eq (hseen : t.seenCritical = .duration silence)
    (hlag : t.lagCritical = .int allowed) (counts : PeerCounts) {p : Snapshot.Peer}
    (hp : Peer.writable p) :
    counts.add t p = .ok {
      offline := bump p.offline.truthy counts.offline
      notCurrent := bump (!p.current.truthy) counts.notCurrent
      inactive := bump (silence.micros < p.active.micros) counts.inactive
      lagged := bump (allowed < p.lag) counts.lagged } := by
  have hnote : Peer.note p = .ok () := by
    obtain ⟨_, hnote⟩ := not_stops_iff.mp (mt (stops_note_peer p).mp (not_not.mpr hp))
    exact hnote
  unfold add
  rw [hseen, hlag, gt_duration, gt_int, hnote]
  rfl

/-- Counting replicas adds them to what has been counted before. -/
theorem foldlM_add_eq (hseen : t.seenCritical = .duration silence)
    (hlag : t.lagCritical = .int allowed) (peers : List Snapshot.Peer)
    (hpeers : ∀ p ∈ peers, Peer.writable p) (counts : PeerCounts) :
    peers.foldlM (PeerCounts.add t) counts = .ok {
      offline := (tally silence allowed peers).offline + counts.offline
      notCurrent := (tally silence allowed peers).notCurrent + counts.notCurrent
      inactive := (tally silence allowed peers).inactive + counts.inactive
      lagged := (tally silence allowed peers).lagged + counts.lagged } := by
  -- The counts so far are any for the induction.
  induction peers generalizing counts with
  | nil => simp [tally, pure, Except.pure]
  | cons p peers ih =>
    rw [List.foldlM_cons, PeerCounts.add_eq hseen hlag counts (hpeers p (by simp))]
    change peers.foldlM (PeerCounts.add t) _ = _
    rw [ih fun q hq => hpeers q (by simp [hq])]
    simp only [tally, List.countP_cons, bump]
    grind

/-- Replicas that can be shown are counted. -/
theorem countPeers_eq (hseen : t.seenCritical = .duration silence)
    (hlag : t.lagCritical = .int allowed) {peers : List Snapshot.Peer}
    (hpeers : ∀ p ∈ peers, Peer.writable p) :
    countPeers t peers = .ok (tally silence allowed peers) :=
  foldlM_add_eq hseen hlag peers hpeers {}

/-- Counting replicas stops at a replica that cannot be judged or shown. -/
theorem stops_countPeers (hseen : t.seenCritical = .duration silence)
    (hlag : t.lagCritical = .null ∨ ∃ allowed, t.lagCritical = .int allowed)
    (peers : List Snapshot.Peer) :
    Stops (countPeers t peers) ↔ ∃ p ∈ peers, t.lagCritical = .null ∨ ¬Peer.writable p :=
  stops_foldlM (fun counts p => PeerCounts.stops_add hseen hlag counts p) peers {}

/-- If the replicas have been counted, then either how far they may be behind is known, or there are
none. -/
theorem countPeers_ok (hseen : t.seenCritical = .duration silence)
    (hlag : t.lagCritical = .null ∨ ∃ allowed, t.lagCritical = .int allowed)
    {peers : List Snapshot.Peer} {counts : PeerCounts} (h : countPeers t peers = .ok counts) :
    (∃ allowed, t.lagCritical = .int allowed ∧ counts = tally silence allowed peers) ∨
      (peers = [] ∧ counts = {}) := by
  -- Counting has come to its end, so no replica has stopped it.
  have hrun : ¬Stops (countPeers t peers) := by
    rw [h]
    exact not_stops_ok counts
  rw [stops_countPeers hseen hlag] at hrun
  push Not at hrun
  rcases hlag with hnull | ⟨allowed, hallowed⟩
  · have hnone : peers = [] := List.eq_nil_iff_forall_not_mem.mpr fun p hp => (hrun p hp).1 hnull
    rw [hnone] at h
    cases h
    exact .inr ⟨hnone, rfl⟩
  · rw [countPeers_eq hseen hallowed fun p hp => (hrun p hp).2] at h
    cases h
    exact .inl ⟨allowed, hallowed, rfl⟩

/-! ## Stopping -/

/-- The comparison of the number of replicas stops exactly if it is not met and the expected one
cannot be written. -/
theorem expectPeers_stopsWhen (t : Config.Cluster) (c : Snapshot.Cluster) :
    StopsWhen (expectPeers t c.peerCount) (isUnexpected t c ∧ ¬t.expectedPeers.writable) := by
  rw [expectPeers_eq]
  exact .criticalIf (by rw [stops_map, Value.stops_text])

/-- Measuring the replicas never stops. -/
theorem measurePeers_stopsWhen (t : Config.Cluster) (peers : Nat) (counts : PeerCounts) :
    StopsWhen (measurePeers t peers counts) False :=
  StopsWhen.congr ((StopsWhen.measure _).seq ((StopsWhen.measure _).seq
    ((StopsWhen.measure _).seq ((StopsWhen.measure _).seq (.measure _))))) (by simp)

/-- The findings on the replicas stop exactly if one lags and the limit of the lag cannot be
written. -/
theorem filePeers_stopsWhen (hseen : t.seenCritical = .duration silence) (counts : PeerCounts) :
    StopsWhen (filePeers t counts) (0 < counts.lagged ∧ ¬t.lagCritical.writable) := by
  have htext (message : String) : Stops (.ok message : Except Fault String) ↔ False :=
    iff_false_intro (not_stops_ok message)
  have hsilence (wording : String → String) :
      Stops (wording <$> shortSetting t.seenCritical) ↔ False := by
    rw [hseen, stops_map]
    exact htext _
  have hallowed (wording : String → String) :
      Stops (wording <$> t.lagCritical.text) ↔ ¬t.lagCritical.writable := by
    rw [stops_map, Value.stops_text]
  -- Of the four findings only the last shows a setting that may be too long.
  rw [filePeers_eq]
  refine ((StopsWhen.criticalIf (htext _)).seq ((StopsWhen.criticalIf (hsilence _)).seq
    ((StopsWhen.criticalIf (htext _)).seq (.criticalIf (hallowed _))))).congr ?_
  simp

/-- The findings on the replicas are quiet exactly if none of the four faults is counted. -/
theorem quiet_filePeers (t : Config.Cluster) (counts : PeerCounts) :
    Quiet (filePeers t counts) ↔
      ¬0 < counts.notCurrent ∧ ¬0 < counts.inactive ∧ ¬0 < counts.offline ∧ ¬0 < counts.lagged := by
  rw [filePeers_eq,
    Additive.criticalIf.quiet_seq
      (.bind .criticalIf fun _ => .bind .criticalIf fun _ => .criticalIf),
    Additive.criticalIf.quiet_seq (.bind .criticalIf fun _ => .criticalIf),
    Additive.criticalIf.quiet_seq .criticalIf]
  simp only [quiet_criticalIf]

/-- Nothing critical is found about the replicas exactly if each of them is in order. -/
theorem quiet_filePeers_iff (hseen : t.seenCritical = .duration silence)
    (hlag : t.lagCritical = .null ∨ ∃ allowed, t.lagCritical = .int allowed)
    {peers : List Snapshot.Peer} {counts : PeerCounts} (h : countPeers t peers = .ok counts) :
    Quiet (filePeers t counts) ↔ ∀ p ∈ peers, Peer.InOrder t p := by
  rw [quiet_filePeers]
  rcases countPeers_ok hseen hlag h with ⟨allowed, hallowed, rfl⟩ | ⟨rfl, rfl⟩
  · -- A count is zero exactly if no replica has the fault.
    simp only [tally, not_lt, Nat.le_zero, List.countP_eq_zero, decide_eq_true_eq,
      Bool.not_eq_eq_eq_not, Bool.not_true, Bool.not_eq_false]
    constructor
    · rintro ⟨hcurrent, hactive, hoffline, hbehind⟩ p hp
      refine ⟨hcurrent p hp, hoffline p hp, ?_, ?_⟩
      · rintro other hother
        rw [hseen] at hother
        cases hother
        exact hactive p hp
      · rintro other hother
        rw [hallowed] at hother
        cases hother
        exact hbehind p hp
    · intro h
      exact ⟨fun p hp => (h p hp).current, fun p hp => (h p hp).active silence hseen,
        fun p hp => (h p hp).reachable, fun p hp => (h p hp).caughtUp allowed hallowed⟩
  · simp

/-- Looking at a cluster stops where what must be shown cannot be, or where replicas cannot be
judged. -/
theorem inspect_stopsWhen (hseen : t.seenCritical = .duration silence)
    (hlag : t.lagCritical = .null ∨ ∃ allowed, t.lagCritical = .int allowed)
    (c : Snapshot.Cluster) :
    StopsWhen (inspect t c) (isUnexpected t c ∧ ¬t.expectedPeers.writable ∨
      (∃ p ∈ c.replicas, t.lagCritical = .null ∨ ¬Peer.writable p) ∨
      ∃ p ∈ c.replicas, ∃ allowed, t.lagCritical = .int allowed ∧ allowed < p.lag ∧
        ¬(Value.int allowed).writable) := by
  refine (expectPeers_stopsWhen t c).seq
    (.obtain_bind (stops_countPeers hseen hlag c.replicas) fun counts hcounts => ?_)
  refine ((measurePeers_stopsWhen t _ counts).seq (filePeers_stopsWhen hseen counts)).congr ?_
  -- The findings are filed only after the counting, which tells what the limit is.
  rcases countPeers_ok hseen hlag hcounts with ⟨allowed, hallowed, rfl⟩ | ⟨hnone, rfl⟩
  · simp [tally, List.countP_pos_iff, hallowed, ← and_assoc]
  · simp [hnone]

/-- Nothing critical is found about a cluster exactly if it has the expected number of servers and
its replicas can be counted and are in order. -/
theorem quiet_inspect (hseen : t.seenCritical = .duration silence)
    (hlag : t.lagCritical = .null ∨ ∃ allowed, t.lagCritical = .int allowed)
    (c : Snapshot.Cluster) :
    Quiet (inspect t c) ↔ ¬isUnexpected t c ∧ ¬Stops (countPeers t c.replicas) ∧
      ∀ p ∈ c.replicas, Peer.InOrder t p := by
  have hmeasure (counts : PeerCounts) : Quiet (measurePeers t c.peerCount counts) := ⟨rfl, rfl⟩
  have hrest (counts : PeerCounts) :
      Additive (measurePeers t c.peerCount counts >>= fun _ => filePeers t counts) :=
    ((measurePeers_plain t _ counts).bind fun _ => filePeers_plain t counts).additive
  have hunexpected : Quiet (expectPeers t c.peerCount) ↔ ¬isUnexpected t c := by
    rw [expectPeers_eq]
    exact quiet_criticalIf
  unfold inspect
  rw [(expectPeers_plain t _).additive.quiet_seq ((Additive.obtain _).bind hrest),
    hunexpected, quiet_obtain_bind, not_stops_iff]
  refine and_congr_right fun _ => ?_
  -- Measurements are never critical, so what is left are the findings about replicas.
  constructor
  · rintro ⟨counts, hcounts, hquiet⟩
    rw [(measurePeers_plain t _ counts).additive.quiet_seq (filePeers_plain t counts).additive,
      quiet_filePeers_iff hseen hlag hcounts] at hquiet
    exact ⟨⟨counts, hcounts⟩, hquiet.2⟩
  · rintro ⟨⟨counts, hcounts⟩, horder⟩
    refine ⟨counts, hcounts, ?_⟩
    rw [(measurePeers_plain t _ counts).additive.quiet_seq (filePeers_plain t counts).additive,
      quiet_filePeers_iff hseen hlag hcounts]
    exact ⟨hmeasure counts, horder⟩

/-- The check of a cluster that has a leader stops in one of the ways in which it breaks. -/
theorem ledCluster_stopsWhen (hseen : t.seenCritical = .duration silence)
    (hlag : t.lagCritical = .null ∨ ∃ allowed, t.lagCritical = .int allowed)
    (c : Snapshot.Cluster) : StopsWhen (ledCluster t c) (LedClusterBreak t c) := by
  have hleader : StopsWhen (fileLeader c) (¬c.leader.writable) :=
    (StopsWhen.obtain_bind (Value.stops_text c.leader) fun _ _ => .ok _).congr (by simp)
  -- The leader is filed only after a look at the cluster that finds nothing critical.
  rw [ledCluster_eq]
  refine ((inspect_stopsWhen hseen hlag c).unlessCritical hleader).congr ?_
  rw [quiet_inspect hseen hlag, stops_countPeers hseen hlag]
  constructor
  · rintro ((⟨hunexpected, hlong⟩ | ⟨p, hp, hnull | hlong⟩ |
      ⟨p, hp, allowed, hlimit, hbehind, hlong⟩) | ⟨⟨hexpected, -, horder⟩, hlong⟩)
    · exact .expected hunexpected hlong
    · exact .unlimited (List.ne_nil_of_mem hp) hnull
    · exact .peer p hp hlong
    · exact .lagging p hp allowed hlimit hbehind hlong
    · exact .leader hexpected horder hlong
  · rintro (⟨hunexpected, hlong⟩ | ⟨hsome, hnull⟩ | ⟨p, hp, hlong⟩ |
      ⟨p, hp, allowed, hlimit, hbehind, hlong⟩ | ⟨hexpected, horder, hlong⟩)
    · exact .inl (.inl ⟨hunexpected, hlong⟩)
    · obtain ⟨p, hp⟩ := List.exists_mem_of_ne_nil _ hsome
      exact .inl (.inr (.inl ⟨p, hp, .inl hnull⟩))
    · exact .inl (.inr (.inl ⟨p, hp, .inr hlong⟩))
    · exact .inl (.inr (.inr ⟨p, hp, allowed, hlimit, hbehind, hlong⟩))
    · -- If the replicas cannot be counted, the check stops there, before it comes to the leader.
      by_cases hcount : ∃ p ∈ c.replicas, t.lagCritical = .null ∨ ¬Peer.writable p
      · exact .inl (.inr (.inl hcount))
      · exact .inr ⟨⟨hexpected, hcount, horder⟩, hlong⟩

end Vigil.Check
