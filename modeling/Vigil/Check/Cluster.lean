import Vigil.Check

/-!
# The check of a cluster

A cluster has a leader and the expected number of servers, and its replicas are current, can be
reached, have been heard of lately and do not lag behind.
-/

namespace Vigil.Check

open Checking

/-- How many replicas have each fault. -/
structure PeerCounts where
  /-- Replicas that cannot be reached. -/
  offline : Nat := 0
  /-- Replicas that do not have all operations. -/
  notCurrent : Nat := 0
  /-- Replicas that the leader has not heard of lately. -/
  inactive : Nat := 0
  /-- Replicas that are too many operations behind. -/
  lagged : Nat := 0
  deriving DecidableEq, Repr

/-- One more if something holds. -/
def bump (holds : Bool) (n : Nat) : Nat := if holds then n + 1 else n

/-- Every replica is shown in the log, so its fields must have a text. -/
def Peer.note (p : Snapshot.Peer) : Except Fault Unit := do
  let _ ← p.name.text
  let _ ← p.current.text
  let _ ← p.offline.text
  let _ ← Value.intText p.lag

/-- Counts the faults of one more replica. -/
def PeerCounts.add (t : Config.Cluster) (counts : PeerCounts) (p : Snapshot.Peer) :
    Except Fault PeerCounts := do
  let inactive ← (Value.duration p.active).gt t.seenCritical
  let lagged ← (Value.int p.lag).gt t.lagCritical
  Peer.note p
  return {
    offline := bump p.offline.truthy counts.offline
    notCurrent := bump (!p.current.truthy) counts.notCurrent
    inactive := bump inactive counts.inactive
    lagged := bump lagged counts.lagged }

/-- Counts the faults of replicas. -/
def countPeers (t : Config.Cluster) (peers : List Snapshot.Peer) : Except Fault PeerCounts :=
  peers.foldlM (PeerCounts.add t) {}

/-- The number of servers must be the expected one, if one is expected. -/
def expectPeers (t : Config.Cluster) (peers : Nat) : Checking Unit := do
  if t.expectedPeers.truthy && !(Value.int peers).equals t.expectedPeers then
    critical (toString peers ++ " peers of expected " ++ (← obtain t.expectedPeers.text))

/-- Adds the measured numbers of servers. -/
def measurePeers (t : Config.Cluster) (peers : Nat) (counts : PeerCounts) : Checking Unit := do
  measure
    { label := "peers", value := .int peers, warn := t.expectedPeers, crit := t.expectedPeers }
  measure { label := "peer_offline", value := .int counts.offline }
  measure { label := "peer_not_current", value := .int counts.notCurrent }
  measure { label := "peer_inactive", value := .int counts.inactive }
  measure { label := "peer_lagged", value := .int counts.lagged }

/-- Files a finding for each fault that some replica has. -/
def filePeers (t : Config.Cluster) (counts : PeerCounts) : Checking Unit := do
  if 0 < counts.notCurrent then critical (toString counts.notCurrent ++ " not current")
  if 0 < counts.inactive then
    critical (toString counts.inactive ++ " inactive more than " ++
      (← obtain (shortSetting t.seenCritical)))
  if 0 < counts.offline then critical (toString counts.offline ++ " offline")
  if 0 < counts.lagged then
    let allowed ← obtain t.lagCritical.text
    critical (toString counts.lagged ++ " lagged more than " ++ allowed ++ " ops")

/-- Checks a cluster that has a leader. It is in order if nothing critical has been found since the
check began. -/
def ledCluster (t : Config.Cluster) (c : Snapshot.Cluster) : Checking Unit := do
  let before ← criticalCount
  expectPeers t c.peerCount
  let counts ← obtain (countPeers t c.replicas)
  measurePeers t c.peerCount counts
  filePeers t counts
  if (← criticalCount) = before then
    ok (toString c.peerCount ++ " peers led by " ++ (← obtain c.leader.text))

/-- Checks a cluster. Neither a missing snapshot nor a missing leader is a fault of the check. -/
def cluster (t : Config.Cluster) : Option Snapshot.Cluster → Checking Unit
  | none => critical "no cluster information"
  | some c => if c.leader.truthy then ledCluster t c else critical "No leader"

end Vigil.Check
