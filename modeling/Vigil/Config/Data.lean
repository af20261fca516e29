import Vigil.Config

/-!
# Configurations as data

A configuration is read from a mapping of sections and written as one. Durations are written in the
short form. Settings that are null are left out, except in the section for accounts, where leaving
them out would bring the defaults back.
-/

namespace Vigil.Config

/-! ## Reading -/

/-- The duration of a key, null if there is none. -/
def durationIn (data : Value) (key : String) : Except Fault Value := do
  let v ← data.getD key .null
  if v.isNull then return .null else return .duration (← v.toDuration)

/-- The durations that are the thresholds of a metric. -/
def durationLimits (data : Value) (metric : String) : Except Fault Limits := do
  let warning ← durationIn data (metric ++ "_warning")
  let critical ← durationIn data (metric ++ "_critical")
  return { warning, critical }

/-- The thresholds of a metric, which may have defaults. -/
def limitsIn (data : Value) (metric : String) (usual : Limits) : Except Fault Limits := do
  let warning ← data.getD (metric ++ "_warning") usual.warning
  let critical ← data.getD (metric ++ "_critical") usual.critical
  return { warning, critical }

/-- Reads the section for servers. -/
def Vitals.ofData (data : Value) : Except Fault Vitals := do
  let serverName ← data.getD "server_name" .null
  let requireJetstream ← data.getD "require_jetstream" (.bool false)
  let requireTls ← data.getD "require_tls" (.bool false)
  let requireAuth ← data.getD "require_auth" (.bool false)
  let uptime ← durationLimits data "uptime"
  let cpu ← limitsIn data "cpu" {}
  let memory ← limitsIn data "memory" {}
  let connections ← limitsIn data "connections" {}
  return { serverName, requireJetstream, requireTls, requireAuth, uptime, cpu, memory, connections }

/-- Reads the section for accounts. -/
def Account.ofData (data : Value) : Except Fault Account := do
  let memory ← limitsIn data "memory" usualShare
  let storage ← limitsIn data "storage" usualShare
  let streams ← limitsIn data "streams" {}
  let consumers ← limitsIn data "consumers" {}
  return { memory, storage, streams, consumers }

/-- Reads the section for clusters. -/
def Cluster.ofData (data : Value) : Except Fault Cluster := do
  let expectedPeers ← data.getD "expected_peers" .null
  let seen ← durationIn data "seen_critical"
  let lagCritical ← data.getD "lag_critical" (.int 100)
  return { expectedPeers, seenCritical := if seen.isNull then usualSilence else seen, lagCritical }

/-- Reads the section for credentials. -/
def Credential.ofData (data : Value) : Except Fault Credential := do
  let path ← data.getD "path" .null
  let requireExpiry ← data.getD "require_expiry" (.bool false)
  let validity ← durationLimits data "validity"
  return { path, requireExpiry, validity }

/-- Reads the section for messages. -/
def Message.ofData (data : Value) : Except Fault Message := do
  let stream ← data.getD "stream" (.str "")
  let subject ← data.getD "subject" (.str "")
  let age ← durationLimits data "age"
  let bodyAsTimestamp ← data.getD "body_as_timestamp" (.bool false)
  return { stream, subject, age, bodyAsTimestamp }

/-- The section of a name; what counts as false is an empty one. -/
def sectionIn (data : Value) (name : String) : Except Fault Value := do
  let v ← data.getD name .null
  return if v.truthy then v else .map []

/-- Reads a configuration. -/
def ofData (data : Value) : Except Fault Config := do
  let vitals ← Vitals.ofData (← sectionIn data "vitals")
  let account ← Account.ofData (← sectionIn data "account")
  let cluster ← Cluster.ofData (← sectionIn data "cluster")
  let credential ← Credential.ofData (← sectionIn data "credential")
  let message ← Message.ofData (← sectionIn data "message")
  let monitorUrl ← data.getD "monitor_url" (.str "http://localhost:8222")
  let logLevel ← data.getD "log_level" (.str "WARNING")
  return { vitals, account, cluster, credential, message, monitorUrl, logLevel }

/-! ## Writing -/

/-- A setting as it is written: durations in the short form. -/
def written : Value → Value
  | .duration d => .str d.short
  | v => v

/-- Settings as they are written, those that are null left out. -/
def writtenFields (fields : List (String × Value)) : Value :=
  .ofFields ((fields.filter fun f => !f.2.isNull).map fun (name, v) => (name, written v))

/-- The configuration as data. -/
def toData (c : Config) : Value :=
  .ofFields [
    ("monitor_url", c.monitorUrl),
    ("log_level", c.logLevel),
    ("vitals", writtenFields (c.vitals.fields ++ c.vitals.extras)),
    ("account", .ofFields (c.account.fields ++ c.account.extras)),
    ("cluster", writtenFields (c.cluster.fields ++ c.cluster.extras)),
    ("credential", writtenFields (c.credential.fields ++ c.credential.extras)),
    ("message", writtenFields (c.message.fields ++ c.message.extras))]

end Vigil.Config
