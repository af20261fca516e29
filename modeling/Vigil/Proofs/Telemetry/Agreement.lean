import Vigil.Proofs.Snapshot.Loading
import Vigil.Proofs.Telemetry.Collecting

/-!
# Telemetry and files

A server tells its vitals and the state of its cluster under names and in units of its own, and a
snapshot file has others.
-/

namespace Vigil.Telemetry

/-! ## Vitals -/

/-- Whether a server tells that streams are stored: there is a `config` among what it tells about
them, and it counts as true. -/
def tellsStreams (entries : List (Value × Value)) : Bool :=
  match entry entries "jetstream" .null with
  | .map inner => (entry inner "config" .null).truthy
  | _ => false

/-- What a document of a server tells about streams is missing, null or a mapping. -/
def MapsStreams (entries : List (Value × Value)) : Prop :=
  entry entries "jetstream" .null = .null ∨
    ∃ inner, entry entries "jetstream" .null = .map inner

/-- The members of a document of a server that a snapshot file has under the same names. -/
def sharedMembers : List String :=
  ["tls_required", "auth_required", "cpu", "connections", "now", "start"]

/-- The entries of a snapshot file say the same of a server as those of its document. -/
structure SameVitals (entries file : List (Value × Value)) : Prop where
  /-- The name of the server is told under another name. -/
  name : Value.lookup "name" file = Value.lookup "server_name" entries
  /-- So is the memory in use. -/
  memory : Value.lookup "memory" file = Value.lookup "mem" entries
  /-- The file says itself whether streams are stored. -/
  jetstream : Value.lookup "jetstream_enabled" file = some (.bool (tellsStreams entries))
  /-- All other members are the same, and are missing in both if they are in one. -/
  shared : ∀ key ∈ sharedMembers, Value.lookup key file = Value.lookup key entries

/-- The name that a member of a document of a server has in a snapshot file, if it is kept. What
has one of the new names in the document already is not what a snapshot file means by it. -/
def fileName? : String → Option String
  | "server_name" => some "name"
  | "mem" => some "memory"
  | "name" | "memory" | "jetstream_enabled" => none
  | key => some key

/-- An entry of a document of a server as it stands in a snapshot file. -/
def renamed? : Value × Value → Option (Value × Value)
  | (.str key, v) => (fileName? key).map fun name => (.str name, v)
  | other => some other

/-- The vitals that a document of a server tells, as a snapshot file has them. -/
def fileVitals (entries : List (Value × Value)) : List (Value × Value) :=
  (.str "jetstream_enabled", .bool (tellsStreams entries)) :: entries.filterMap renamed?

/-- A member is found under its new name, and only that one is. -/
theorem lookup_filterMap_renamed {key name : String}
    (h : ∀ other, fileName? other = some name ↔ other = key) (entries : List (Value × Value)) :
    Value.lookup name (entries.filterMap renamed?) = Value.lookup key entries := by
  induction entries with
  | nil => rfl
  | cons first entries ih =>
    obtain ⟨k, v⟩ := first
    cases k with
    | str other =>
      by_cases hkey : other = key
      · have hfirst : renamed? (.str other, v) = some (.str name, v) := by
          rw [renamed?, (h other).mpr hkey]
          rfl
        rw [List.filterMap_cons_some hfirst]
        simp [Value.lookup, Value.isText, hkey]
      · have hlookup :
            Value.lookup key ((.str other, v) :: entries) = Value.lookup key entries := by
          simp [Value.lookup, Value.isText, hkey]
        rw [hlookup, ← ih]
        -- An entry of another name is left out, or it gets a name that is not looked for.
        cases hother : fileName? other with
        | none => rw [List.filterMap_cons_none (by simp [renamed?, hother])]
        | some named =>
          have hne : named ≠ name := by
            rintro rfl
            exact hkey ((h other).mp hother)
          have hfirst : renamed? (.str other, v) = some (.str named, v) := by
            rw [renamed?, hother]
            rfl
          rw [List.filterMap_cons_some hfirst]
          simp [Value.lookup, Value.isText, hne]
    | _ => exact ih

/-- A member that is told under a new name is found under it, and the others under their own. -/
theorem fileName?_eq_some_iff {key name : String} (hname : fileName? key = some name) :
    ∀ other, fileName? other = some name ↔ other = key := by
  intro other
  refine ⟨fun h => ?_, fun h => h ▸ hname⟩
  unfold fileName? at h hname
  split at h <;> cases h <;> split at hname <;> simp_all

/-- What a document of a server says stands in a file in the same words. -/
theorem sameVitals_fileVitals (entries : List (Value × Value)) :
    SameVitals entries (fileVitals entries) where
  name := lookup_filterMap_renamed (fileName?_eq_some_iff rfl) entries
  memory := lookup_filterMap_renamed (fileName?_eq_some_iff rfl) entries
  jetstream := rfl
  shared := by
    intro key hkey
    have hshared : fileName? key = some key ∧ key ≠ "jetstream_enabled" := by
      revert key
      decide
    rw [fileVitals, Value.lookup, if_neg (by simpa [Value.isText, eq_comm] using hshared.2)]
    exact lookup_filterMap_renamed (fileName?_eq_some_iff hshared.1) entries

section Vitals

variable {entries file : List (Value × Value)} {v : Snapshot.Vitals}

/-- What a server tells about streams can be looked at if it is nothing or a mapping. -/
theorem exists_config (h : MapsStreams entries) :
    ∃ config, (orEmpty (entry entries "jetstream" .null)).getD "config" .null = .ok config ∧
      config.truthy = tellsStreams entries := by
  unfold tellsStreams
  rcases h with h | ⟨inner, h⟩
  · rw [h]
    exact ⟨.null, rfl, rfl⟩
  · rw [h]
    cases inner with
    | nil => exact ⟨.null, rfl, rfl⟩
    | cons first rest => exact ⟨_, rfl, rfl⟩

/-- The vitals of a document, read from its members in any order. -/
theorem vitalsOf_ok_iff (h : MapsStreams entries) :
    vitalsOf (.map entries) = .ok v ↔
      v.name = entry entries "server_name" (.str "") ∧ v.jetstream = .bool (tellsStreams entries) ∧
      v.tls = entry entries "tls_required" (.bool false) ∧
      v.auth = entry entries "auth_required" (.bool false) ∧
      (entry entries "cpu" (.int 0)).toDouble = .ok v.cpu ∧
      (entry entries "connections" (.int 0)).toInt = .ok v.connections ∧
      (entry entries "mem" (.int 0)).toInt = .ok v.memory ∧
      timeOf entries "now" = .ok v.now ∧
      Snapshot.instantIfTrue (.map entries) "start" = .ok v.start := by
  obtain ⟨config, hconfig, htruthy⟩ := exists_config h
  rw [vitalsOf_map, hconfig]
  simp only [bind_eq_ok_iff, Except.ok.injEq, exists_eq_left', pure, Except.pure, htruthy]
  constructor
  · rintro ⟨cpu, hcpu, connections, hconnections, memory, hmemory, now, hnow, start, hstart, rfl⟩
    exact ⟨rfl, rfl, rfl, rfl, hcpu, hconnections, hmemory, hnow, hstart⟩
  · rintro ⟨hname, hjetstream, htls, hauth, hcpu, hconnections, hmemory, hnow, hstart⟩
    obtain ⟨name, jetstream, tls, auth, cpu, connections, memory, now, start⟩ := v
    subst hname hjetstream htls hauth
    exact ⟨_, hcpu, _, hconnections, _, hmemory, _, hnow, _, hstart, rfl⟩

/-- The vitals of a file, read from its members in any order. -/
theorem ofData_ok_iff {present : Instant} :
    Snapshot.Vitals.ofData present (.map file) = .ok v ↔
      v.name = entry file "name" (.str "") ∧
      v.jetstream = entry file "jetstream_enabled" (.bool false) ∧
      v.tls = entry file "tls_required" (.bool false) ∧
      v.auth = entry file "auth_required" (.bool false) ∧
      (entry file "cpu" (.int 0)).toDouble = .ok v.cpu ∧
      (entry file "connections" (.int 0)).toInt = .ok v.connections ∧
      (entry file "memory" (.int 0)).toInt = .ok v.memory ∧
      Snapshot.instantOrNow (.map file) "now" present = .ok v.now ∧
      Snapshot.instantIfTrue (.map file) "start" = .ok v.start := by
  unfold Snapshot.Vitals.ofData
  simp only [getD_map, bind_eq_ok_iff, Except.ok.injEq, exists_eq_left', pure, Except.pure]
  constructor
  · rintro ⟨now, hnow, start, hstart, cpu, hcpu, connections, hconnections, memory, hmemory, rfl⟩
    exact ⟨rfl, rfl, rfl, rfl, hcpu, hconnections, hmemory, hnow, hstart⟩
  · rintro ⟨hname, hjetstream, htls, hauth, hcpu, hconnections, hmemory, hnow, hstart⟩
    obtain ⟨name, jetstream, tls, auth, cpu, connections, memory, now, start⟩ := v
    subst hname hjetstream htls hauth
    exact ⟨_, hnow, _, hstart, _, hcpu, _, hconnections, _, hmemory, rfl⟩

/-- A time that is there is read, whether it could be missing or not. -/
theorem timeOf_eq_instantOrNow {key : String} (hkey : (Value.lookup key entries).isSome)
    (hsame : Value.lookup key file = Value.lookup key entries) (present : Instant) :
    timeOf entries key = Snapshot.instantOrNow (.map file) key present := by
  obtain ⟨t, ht⟩ := Option.isSome_iff_exists.mp hkey
  rw [Snapshot.instantOrNow_map, hsame, timeOf, ht, Value.member, ht]
  rfl

/-- A document of a server and a file that says the same give the same vitals, or none both. -/
theorem vitalsOf_ok_iff_ofData (h : MapsStreams entries)
    (hnow : (Value.lookup "now" entries).isSome) (hsame : SameVitals entries file)
    (present : Instant) :
    vitalsOf (.map entries) = .ok v ↔ Snapshot.Vitals.ofData present (.map file) = .ok v := by
  have hshared (key : String) (default : Value) (hkey : key ∈ sharedMembers := by decide) :
      entry file key default = entry entries key default := by
    rw [entry, hsame.shared key hkey, entry]
  have hname : entry file "name" (.str "") = entry entries "server_name" (.str "") := by
    rw [entry, hsame.name, entry]
  have hmemory : entry file "memory" (.int 0) = entry entries "mem" (.int 0) := by
    rw [entry, hsame.memory, entry]
  have hjetstream :
      entry file "jetstream_enabled" (.bool false) = .bool (tellsStreams entries) := by
    rw [entry, hsame.jetstream, Option.getD_some]
  have hstart : Snapshot.instantIfTrue (.map file) "start" =
      Snapshot.instantIfTrue (.map entries) "start" := by
    rw [Snapshot.instantIfTrue_map, Snapshot.instantIfTrue_map, hsame.shared "start" (by decide)]
  rw [vitalsOf_ok_iff h, ofData_ok_iff, hname, hmemory, hjetstream, hstart,
    timeOf_eq_instantOrNow hnow (hsame.shared "now" (by decide)) present, hshared "tls_required",
    hshared "auth_required", hshared "cpu", hshared "connections"]

end Vitals

/-! ## Clusters -/

/-- The entries of a snapshot file say the same of a replica as those of the document of a server,
which counts in nanoseconds how long ago it heard of the replica. -/
structure SamePeer (entries file : List (Value × Value)) : Prop where
  /-- The replica has a name. -/
  named : (Value.lookup "name" entries).isSome
  /-- The name is the same. -/
  name : Value.lookup "name" file = Value.lookup "name" entries
  /-- So is whether it has all operations, if that is told. -/
  current : Value.lookup "current" file = Value.lookup "current" entries
  /-- So is whether it can be reached. -/
  offline : Value.lookup "offline" file = Value.lookup "offline" entries
  /-- So is the number of operations that it is behind. -/
  lag : Value.lookup "lag" file = Value.lookup "lag" entries
  /-- This number is an integer. -/
  counted : ∃ n, entry entries "lag" (.int 0) = .int n
  /-- The silence is a whole number of microseconds, up to two to the power of 53, and the file
  tells a duration of that length, in whatever form. -/
  active : ∃ d : Duration, d.micros.natAbs ≤ 2 ^ 53 ∧
    entry entries "active" (.int 0) = .int (d.micros * 1000) ∧
    (entry file "active" (.int 0)).toDuration = .ok d

/-- The entries of a snapshot file say the same of a cluster as the state that a server tells. -/
structure SameCluster (state file : List (Value × Value)) : Prop where
  /-- The leader is the same, if there is one. -/
  leader : Value.lookup "leader" file = Value.lookup "leader" state
  /-- The replicas are the same ones, in order. -/
  replicas : ∃ told filed : List (List (Value × Value)),
    entry state "replicas" (.list []) = .list (told.map .map) ∧
    entry file "replicas" (.list []) = .list (filed.map .map) ∧
    List.Forall₂ SamePeer told filed

section Cluster

variable {entries file state : List (Value × Value)}

/-- The silence of a replica is read exactly, and a missing one is none. -/
theorem nanoseconds_entry {d : Duration} (hd : d.micros.natAbs ≤ 2 ^ 53)
    (h : entry entries "active" (.int 0) = .int (d.micros * 1000)) :
    nanoseconds (entry entries "active" .null) = .ok d := by
  have hexact := nanoseconds_int hd
  rw [← h] at hexact
  unfold entry at hexact ⊢
  cases hactive : Value.lookup "active" entries with
  | none =>
    rw [hactive] at hexact
    exact hexact
  | some v =>
    rw [hactive] at hexact
    exact hexact

/-- Both readers read the same replica from entries that agree. -/
theorem exists_peer (h : SamePeer entries file) :
    ∃ p, peerOf (.map entries) = .ok p ∧ Snapshot.Peer.ofData (.map file) = .ok p := by
  obtain ⟨name, hname⟩ := Option.isSome_iff_exists.mp h.named
  obtain ⟨n, hlag⟩ := h.counted
  obtain ⟨d, hd, hactive, hduration⟩ := h.active
  -- Field by field, the file holds what the server told.
  have hmember : (Value.map file).member "name" = .ok name := by
    rw [Value.member, h.name, hname]
  have hcurrent : entry file "current" (.bool false) = entry entries "current" (.bool false) := by
    rw [entry, h.current, entry]
  have hoffline : entry file "offline" (.bool false) = entry entries "offline" (.bool false) := by
    rw [entry, h.offline, entry]
  have hfileLag : entry file "lag" (.int 0) = .int n := by
    rw [entry, h.lag, ← hlag, entry]
  refine ⟨⟨name, entry entries "current" (.bool false), entry entries "offline" (.bool false), d,
    n⟩, ?_, ?_⟩
  · unfold peerOf
    simp only [getD_map, bind_eq_ok_iff, Except.ok.injEq, exists_eq_left', pure, Except.pure]
    refine ⟨d, nanoseconds_entry hd hactive, n, ?_, ?_⟩
    · rw [hlag]
      rfl
    · rw [entry, hname, Option.getD_some]
  · unfold Snapshot.Peer.ofData
    simp only [getD_map, bind_eq_ok_iff, Except.ok.injEq, exists_eq_left', pure, Except.pure]
    refine ⟨name, hmember, d, hduration, n, ?_, ?_⟩
    · rw [hfileLag]
      rfl
    · rw [hcurrent, hoffline]

/-- Replicas of which the same is said are the same, one by one. -/
theorem exists_peers {told filed : List (List (Value × Value))}
    (h : List.Forall₂ SamePeer told filed) :
    ∃ replicas, (told.map .map).mapM peerOf = .ok replicas ∧
      (filed.map .map).mapM Snapshot.Peer.ofData = .ok replicas := by
  induction h with
  | nil => exact ⟨[], rfl, rfl⟩
  | cons hpeer _ ih =>
    obtain ⟨p, hserver, hfile⟩ := exists_peer hpeer
    obtain ⟨replicas, hservers, hfiles⟩ := ih
    refine ⟨p :: replicas, ?_, ?_⟩
    · rw [List.map_cons, List.mapM_cons, hserver, hservers]
      rfl
    · rw [List.map_cons, List.mapM_cons, hfile, hfiles]
      rfl

/-- Whether the replicas are missing or an empty list, there are none. -/
theorem peersOf_entry {items : List Value} (h : entry state "replicas" (.list []) = .list items) :
    peersOf (entry state "replicas" .null) = items.mapM peerOf := by
  unfold entry at h ⊢
  cases hreplicas : Value.lookup "replicas" state with
  | none =>
    rw [hreplicas, Option.getD_none, Value.list.injEq] at h
    subst h
    rfl
  | some v =>
    rw [hreplicas, Option.getD_some] at h
    subst h
    cases items <;> rfl

/-- The state of a cluster and a file that says the same give the same cluster. -/
theorem exists_cluster (hstate : Value.lookup "meta_cluster" entries = some (.map state))
    (hne : state ≠ []) (hsame : SameCluster state file) :
    ∃ c, clusterOf (.map entries) = .ok (some c) ∧ Snapshot.Cluster.ofData (.map file) = .ok c := by
  obtain ⟨told, filed, htold, hfiled, hpeers⟩ := hsame.replicas
  obtain ⟨replicas, hservers, hfiles⟩ := exists_peers hpeers
  -- Both readers take the leader as it stands, and the replicas one by one.
  have hleader : entry file "leader" (.str "") = entry state "leader" (.str "") := by
    rw [entry, hsame.leader, entry]
  have htrue : (Value.map state).truthy := by simpa [Value.truthy] using hne
  refine ⟨⟨entry state "leader" (.str ""), replicas⟩, ?_, ?_⟩
  · rw [clusterOf_eq, getD_map, entry, hstate, Option.getD_some]
    change (if (Value.map state).truthy then stateOf (.map state) else _) = _
    rw [if_pos htrue, stateOf, getD_map, getD_map]
    change (peersOf (entry state "replicas" .null) >>= _) = _
    rw [peersOf_entry htold, hservers]
    rfl
  · unfold Snapshot.Cluster.ofData
    rw [getD_map, getD_map, hleader, hfiled]
    change ((filed.map Value.map).mapM Snapshot.Peer.ofData >>= _) = _
    rw [hfiles]
    rfl

end Cluster

end Vigil.Telemetry
