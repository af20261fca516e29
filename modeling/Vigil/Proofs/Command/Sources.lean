import Vigil.Command.Standard
import Vigil.Proofs.Telemetry.Agreement
import Vigil.Proofs.Yaml.Reading

/-!
# Sources of snapshots

A check looks at a snapshot that was asked for or at one from a file. If both tell the same of a
server or of a cluster, each in its own names and units, then it is the same snapshot and so the
same report (`Command.asked_iff_filed`).
-/

namespace Vigil.Command

open Telemetry

variable {host : Host} {config : Config} {e : Endpoint} {file : List (Value × Value)}
  {asked filed : CheckRequest}

/-- One request asks an endpoint, and another one reads a file that holds a mapping. -/
structure Sources (k : Kind) (host : Host) (config : Config) (e : Endpoint)
    (file : List (Value × Value)) (asked filed : CheckRequest) : Prop where
  /-- The one request names no file. -/
  unfiled : asked.snapshot = none
  /-- The endpoint is the one that it asks. -/
  endpoint : endpoint host asked config = .ok e
  /-- The other one names a file that holds the mapping. -/
  document : ∃ name, filed.snapshot = some name ∧
    Snapshot.documentOf host.codec k.name host.files (.ofText name) = .ok (.map file)

section Found

variable {request : CheckRequest}

/-- A document that is read gives the snapshot. -/
theorem snapshotFor_of_document {k : Kind} {name : String} {document : Value}
    (hname : request.snapshot = some name)
    (hdocument : Snapshot.documentOf host.codec k.name host.files (.ofText name) = .ok document) :
    snapshotFor host request config k =
      orStop (k.snapshotOfDocument host.clock document) := by
  unfold snapshotFor Kind.load Snapshot.load
  rw [hname]
  dsimp only
  rw [hdocument]
  rfl

variable (hname : request.snapshot = none) (hendpoint : endpoint host request config = .ok e)
include hname hendpoint

/-- A check of vitals looks at those that its endpoint tells. -/
theorem snapshotFor_vitals {v : Snapshot.Vitals} (hv : vitals e = .ok v) :
    snapshotFor host request config .vitals = .ok (some v) := by
  unfold snapshotFor
  rw [hname]
  dsimp only [live]
  rw [hendpoint]
  change orStop (vitals e >>= fun v => pure (some v)) = _
  rw [hv]
  rfl

/-- A check of a cluster looks at the one that its endpoint tells. -/
theorem snapshotFor_cluster {c : Option Snapshot.Cluster} (hc : cluster e = .ok c) :
    snapshotFor host request config .cluster = .ok c := by
  unfold snapshotFor
  rw [hname]
  dsimp only [live]
  rw [hendpoint]
  change orStop (cluster e) = _
  rw [hc]
  rfl

end Found

/-- A snapshot that is read from a file is the one of its mapping. -/
theorem Sources.snapshotFor_filed {k : Kind} (h : Sources k host config e file asked filed)
    {s : k.Snapshot} (hs : k.snapshotOfData host.clock (.map file) = .ok s) :
    snapshotFor host filed config k = .ok (some s) := by
  obtain ⟨name, hname, hdocument⟩ := h.document
  rw [snapshotFor_of_document hname hdocument, Kind.snapshotOfDocument, Snapshot.ofDocument, hs]
  rfl

/-- What a server tells and what a snapshot file says of it give the same snapshot.

If a document of vitals has its time, and what it tells about streams is nothing or a mapping, then
there are vitals exactly if there are vitals in a file with the same members under the names of
snapshot files, and they are the same ones; every document has such a file. A document of a cluster
that is not empty gives the cluster of a file with the same leader and the same replicas, if these
have names, integers of operations, and silences that are whole microseconds, up to two to the power
of 53 of them. The checks of both kinds report the same, whether the snapshot is asked for or
read, whatever client asks and whatever codec reads the file. -/
theorem asked_iff_filed (e : Endpoint) (entries : List (Value × Value)) :
    (e.Tells "varz" (.map entries) → (Value.lookup "now" entries).isSome → MapsStreams entries →
      SameVitals entries (fileVitals entries) ∧
      ∀ file, SameVitals entries file →
        (∀ present v,
          vitals e = .ok v ↔ Snapshot.Vitals.ofData present (.map file) = .ok v) ∧
        ∀ host config asked filed, Sources .vitals host config e file asked filed →
          (∃ v, vitals e = .ok v) →
          reportOf .vitals config host.clock (snapshotFor host asked config .vitals) =
            reportOf .vitals config host.clock (snapshotFor host filed config .vitals)) ∧
    (e.Tells "jsz" (.map entries) → ∀ state,
      Value.lookup "meta_cluster" entries = some (.map state) → state ≠ [] →
      ∀ file, SameCluster state file →
        (∃ c, cluster e = .ok (some c) ∧ Snapshot.Cluster.ofData (.map file) = .ok c) ∧
        ∀ host config asked filed, Sources .cluster host config e file asked filed →
          reportOf .cluster config host.clock (snapshotFor host asked config .cluster) =
            reportOf .cluster config host.clock (snapshotFor host filed config .cluster)) := by
  refine ⟨?_, ?_⟩
  · intro htells hnow hstreams
    refine ⟨sameVitals_fileVitals entries, fun file hsame => ?_⟩
    -- Both ways read the same fields, so it is all about these two readers of a snapshot.
    have hiff (present : Instant) (v : Snapshot.Vitals) :
        vitals e = .ok v ↔ Snapshot.Vitals.ofData present (.map file) = .ok v := by
      rw [vitals_of_tells htells]
      exact vitalsOf_ok_iff_ofData hstreams hnow hsame present
    refine ⟨hiff, ?_⟩
    rintro host config asked filed hsources ⟨v, hv⟩
    rw [snapshotFor_vitals hsources.unfiled hsources.endpoint hv,
      hsources.snapshotFor_filed ((hiff host.clock v).mp hv)]
  · intro htells state hstate hne file hsame
    obtain ⟨c, hcluster, hfile⟩ := exists_cluster hstate hne hsame
    have hasked : cluster e = .ok (some c) := (cluster_of_tells htells).trans hcluster
    refine ⟨⟨c, hasked, hfile⟩, ?_⟩
    intro host config asked filed hsources
    rw [snapshotFor_cluster hsources.unfiled hsources.endpoint hasked,
      hsources.snapshotFor_filed hfile]

/-- A server whose time is the beginning of 1970 and that heard of a replica nine microseconds ago,
a file of its vitals, and the members of one that tells the replica with a duration. -/
theorem asked_iff_filed_nine_micros :
    let body : List UInt8 := [
      0x7b, 0x22, 0x6e, 0x6f, 0x77, 0x22, 0x3a, 0x30, 0x2c, 0x22, 0x6d, 0x65, 0x74, 0x61, 0x5f,
      0x63, 0x6c, 0x75, 0x73, 0x74, 0x65, 0x72, 0x22, 0x3a, 0x7b, 0x22, 0x72, 0x65, 0x70, 0x6c,
      0x69, 0x63, 0x61, 0x73, 0x22, 0x3a, 0x5b, 0x7b, 0x22, 0x6e, 0x61, 0x6d, 0x65, 0x22, 0x3a,
      0x22, 0x62, 0x22, 0x2c, 0x22, 0x61, 0x63, 0x74, 0x69, 0x76, 0x65, 0x22, 0x3a, 0x39, 0x30,
      0x30, 0x30, 0x7d, 0x5d, 0x7d, 0x7d]
    let page : List UInt8 := [
      0x6e, 0x6f, 0x77, 0x3a, 0x20, 0x30, 0x0a, 0x6a, 0x65, 0x74, 0x73, 0x74, 0x72, 0x65, 0x61,
      0x6d, 0x5f, 0x65, 0x6e, 0x61, 0x62, 0x6c, 0x65, 0x64, 0x3a, 0x20, 0x66, 0x61, 0x6c, 0x73,
      0x65, 0x0a]
    let file : List (Value × Value) :=
      [(.str "now", .int 0), (.str "jetstream_enabled", .bool false)]
    let silence : Duration := ⟨9, by decide⟩
    let clusterFile : List (Value × Value) :=
      [(.str "replicas",
        .list [.map [(.str "name", .str "b"), (.str "active", .duration silence)]])]
    let host : Host := .standard ⟨[(["vitals.yaml"], .file page)]⟩ (fun _ => none)
      ⟨Instant.epoch, by decide⟩ fun _ => .answered 200 body
    let e : Endpoint := .ofUrl "http://nats-1:8222" host.client
    let asked : CheckRequest := { kind := .vitals, url := some "http://nats-1:8222" }
    let filed : CheckRequest := { kind := .vitals, snapshot := some "vitals.yaml" }
    (∃ v, vitals e = .ok v ∧ Snapshot.Vitals.ofData host.clock (.map file) = .ok v) ∧
    reportOf .vitals {} host.clock (snapshotFor host asked {} .vitals) =
      reportOf .vitals {} host.clock (snapshotFor host filed {} .vitals) ∧
    ∃ c, cluster e = .ok (some c) ∧ Snapshot.Cluster.ofData (.map clusterFile) = .ok c := by
  intro body page file silence clusterFile host e asked filed
  let peer : List (Value × Value) := [(.str "name", .str "b"), (.str "active", .int 9000)]
  let state : List (Value × Value) := [(.str "replicas", .list [.map peer])]
  let entries : List (Value × Value) := [(.str "now", .int 0), (.str "meta_cluster", .map state)]
  -- The document that the server replies to every request, and that of the file.
  have hbody : host.client.decode body = .ok (.object [("now", .int 0), ("meta_cluster", .object
      [("replicas", .list [.object [("name", .str "b"), ("active", .int 9000)]])])]) := by rfl
  have htells (path : String) (address : Address)
      (haddress : Address.read ("http://nats-1:8222" ++ "/" ++ path) = .ok address) :
      e.Tells path (.map entries) :=
    ⟨_, _, Client.get_ofReplies _ haddress, ⟨by decide, hbody⟩, rfl⟩
  have hpage : host.codec.read page = .ok (.map file) := by
    let tokens : List Yaml.Token :=
      [.blockMappingStart, .key, .scalar "now" true, .value, .scalar "0" true, .key,
        .scalar "jetstream_enabled" true, .value, .scalar "false" true, .blockEnd]
    let node : Yaml.Node := .mapping .map [(.scalar .str "now", .scalar .int "0"),
      (.scalar .str "jetstream_enabled", .scalar .bool "false")]
    have htext : Text.Utf8.decode page = .ok "now: 0\njetstream_enabled: false\n" := by rfl
    have htokens : Yaml.tokensOf (Yaml.oneLineEnd "now: 0\njetstream_enabled: false\n".toList) =
        .ok tokens := by rfl
    have hcompose : Yaml.Node.ofTokens tokens = .ok (some node) := by rfl
    have hentries : node.merged.valueAt 0 = .ok (.map (Yaml.mapOf file)) := by rfl
    have hmap : Yaml.mapOf file = file := by
      simp [file, Yaml.mapOf, Yaml.setEntry, Value.equals]
    have hvalue : node.value = .ok (.map file) := by
      rw [Yaml.Node.value, hentries, hmap]
    exact (Yaml.readBytes_of_node htext (by rfl) htokens hcompose).trans hvalue
  have hsame : SameVitals entries file := by
    refine ⟨rfl, rfl, rfl, fun key hkey => ?_⟩
    simp only [sharedMembers, List.mem_cons, List.not_mem_nil, or_false] at hkey
    rcases hkey with rfl | rfl | rfl | rfl | rfl | rfl <;> rfl
  have hsources : Sources .vitals host {} e file asked filed :=
    ⟨rfl, rfl, _, rfl, Snapshot.documentOf_of_read rfl hpage⟩
  obtain ⟨hvitals, hcluster⟩ := asked_iff_filed e entries
  obtain ⟨-, hfiles⟩ := hvitals (htells "varz" _ rfl) rfl (.inl rfl)
  obtain ⟨hiff, hreports⟩ := hfiles file hsame
  have hholds : HoldsVitals entries := {
    jetstream := by rintro ⟨⟩
    cpu := Value.fitsDouble_ofBit false
    connections := trivial
    memory := trivial
    now := ⟨_, rfl, show Instant.InCalendar (0 * 1000000) by decide⟩
    start := by rintro _ ⟨⟩ }
  have hv : ∃ v, vitals e = .ok v := by
    rw [vitals_of_tells (htells "varz" _ rfl)]
    exact not_stops_iff.mp (mt (stops_vitalsOf_map entries).mp (not_not.mpr hholds))
  obtain ⟨v, hasked⟩ := hv
  have hpeer : SamePeer peer [(.str "name", .str "b"), (.str "active", .duration silence)] :=
    ⟨rfl, rfl, rfl, rfl, rfl, ⟨0, rfl⟩, silence, by decide, rfl, rfl⟩
  have hclusterFile : SameCluster state clusterFile :=
    ⟨rfl, [peer], [_], rfl, rfl, .cons hpeer .nil⟩
  have hstate : state ≠ [] := by simp [state]
  exact ⟨⟨v, hasked, (hiff host.clock v).mp hasked⟩,
    hreports host {} asked filed hsources ⟨v, hasked⟩,
    (hcluster (htells "jsz" _ rfl) state rfl hstate clusterFile hclusterFile).1⟩

end Vigil.Command
