import Vigil.Snapshot
import Vigil.Value.Text

/-!
# Snapshots from data

Each kind of snapshot is read from a mapping. Numbers and times are converted; what is not there has
a default, and the present moment takes the place of a time that is not there.
-/

namespace Vigil.Snapshot

/-- The instant of a key, if its value counts as true. -/
def instantIfTrue (data : Value) (key : String) : Except Fault (Option Instant) := do
  let v ← data.getD key .null
  if v.truthy then return some (← (← data.member key).toInstant) else return none

/-- The instant of a key, or the present one if there is no such key. -/
def instantOrNow (data : Value) (key : String) (present : Instant) : Except Fault Instant := do
  if ← data.contains key then (← data.member key).toInstant else return present

namespace Vitals

/-- Reads the vitals of a server. -/
def ofData (present : Instant) (data : Value) : Except Fault Vitals := do
  let now ← instantOrNow data "now" present
  let start ← instantIfTrue data "start"
  let name ← data.getD "name" (.str "")
  let jetstream ← data.getD "jetstream_enabled" (.bool false)
  let tls ← data.getD "tls_required" (.bool false)
  let auth ← data.getD "auth_required" (.bool false)
  let cpu ← (← data.getD "cpu" (.int 0)).toDouble
  let connections ← (← data.getD "connections" (.int 0)).toInt
  let memory ← (← data.getD "memory" (.int 0)).toInt
  return { name, jetstream, tls, auth, cpu, connections, memory, now, start }

end Vitals

/-- Reads the use of a resource. -/
def usageOfData (data : Value) : Except Fault Usage := do
  let used ← (← data.getD "used" (.int 0)).toInt
  let limit ← (← data.getD "limit" (.int 0)).toInt
  return { used, limit }

/-- Reads the use of the resources of an account. -/
def Account.ofData (data : Value) : Except Fault Account := do
  let memory ← usageOfData (← data.getD "memory" (.map []))
  let storage ← usageOfData (← data.getD "storage" (.map []))
  let streams ← usageOfData (← data.getD "streams" (.map []))
  let consumers ← usageOfData (← data.getD "consumers" (.map []))
  return { memory, storage, streams, consumers }

/-- Reads a replica; it must have a name. -/
def Peer.ofData (data : Value) : Except Fault Peer := do
  let name ← data.member "name"
  let current ← data.getD "current" (.bool false)
  let offline ← data.getD "offline" (.bool false)
  let active ← (← data.getD "active" (.int 0)).toDuration
  let lag ← (← data.getD "lag" (.int 0)).toInt
  return { name, current, offline, active, lag }

/-- Reads a cluster. -/
def Cluster.ofData (data : Value) : Except Fault Cluster := do
  let leader ← data.getD "leader" (.str "")
  let replicas ← (← (← data.getD "replicas" (.list [])).items).mapM Peer.ofData
  return { leader, replicas }

/-- Reads the expiry of a credential. -/
def Credential.ofData (data : Value) : Except Fault Credential :=
  return { expiresAt := ← instantIfTrue data "expires_at" }

/-- The body of a message: texts and integers are its bytes, anything else is kept. -/
def bodyOf : Value → Except Fault Value
  | .str s => .ok (.bytes (Text.Utf8.encode s))
  | .int n => return .bytes (Text.Utf8.encode (← Value.intText n))
  | .bool b => return .bytes (Text.Utf8.encode (← (Value.bool b).text))
  | v => .ok v

/-- Reads a message. -/
def Message.ofData (present : Instant) (data : Value) : Except Fault Message := do
  let body ← bodyOf (← data.getD "data" (.bytes []))
  let subject ← data.getD "subject" (.str "")
  let published ← instantOrNow data "published" present
  return { subject, body, published }

end Vigil.Snapshot

namespace Vigil.Kind

/-- Reads a snapshot of a kind. -/
def snapshotOfData (present : Instant) (data : Value) : (k : Kind) → Except Fault k.Snapshot
  | .vitals => Snapshot.Vitals.ofData present data
  | .account => Snapshot.Account.ofData data
  | .cluster => Snapshot.Cluster.ofData data
  | .credential => Snapshot.Credential.ofData data
  | .message => Snapshot.Message.ofData present data

/-- The kind of snapshots of a name; there are no others. -/
def ofSnapshotName (name : String) : Except Fault Kind :=
  match ofName? name with
  | some k => .ok k
  | none => .error (.missingKey (Text.quoted name))

end Vigil.Kind
