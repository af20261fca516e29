import Vigil.Snapshot

/-!
# Configurations

What checks require of the things they look at. A configuration has a section for each kind of
check; the settings are kept as the document has them, except that durations are durations. Settings
of unknown names may be added to a section and are saved with it.
-/

namespace Vigil

/-- The thresholds of a metric, null where there is none. -/
structure Limits where
  /-- From where on a value deserves attention. -/
  warning : Value := .null
  /-- From where on a value is critical. -/
  critical : Value := .null

/-- The settings of thresholds, named for their metric. -/
def Limits.fields (metric : String) (l : Limits) : List (String × Value) :=
  [(metric ++ "_warning", l.warning), (metric ++ "_critical", l.critical)]

namespace Config

/-- Settings of unknown names. -/
abbrev Extras := List (String × Value)

/-- Adds a setting; one that is there already keeps its place. -/
def Extras.insert (name : String) (v : Value) : Extras → Extras
  | [] => [(name, v)]
  | (n, w) :: rest => if n = name then (n, v) :: rest else (n, w) :: insert name v rest

/-- What is required of a server. A metric is measured only if it has a threshold. -/
structure Vitals where
  /-- The name of the server. -/
  serverName : Value := .null
  /-- Whether streams must be stored. -/
  requireJetstream : Value := .bool false
  /-- Whether connections must be encrypted. -/
  requireTls : Value := .bool false
  /-- Whether clients must identify themselves. -/
  requireAuth : Value := .bool false
  /-- Thresholds of the time since the start. -/
  uptime : Limits := {}
  /-- Thresholds of the use of processors, in percent. -/
  cpu : Limits := {}
  /-- Thresholds of memory, in bytes. -/
  memory : Limits := {}
  /-- Thresholds of the number of connections. -/
  connections : Limits := {}
  /-- Settings of unknown names. -/
  extras : Extras := []

/-- The thresholds of memory and storage that an account has by itself: three quarters and nine
tenths. -/
def usualShare : Limits := ⟨.int 75, .int 90⟩

/-- Thresholds of the resources of an account, in percent of their limits. -/
structure Account where
  /-- Thresholds of memory. -/
  memory : Limits := usualShare
  /-- Thresholds of storage. -/
  storage : Limits := usualShare
  /-- Thresholds of streams. -/
  streams : Limits := {}
  /-- Thresholds of consumers. -/
  consumers : Limits := {}
  /-- Settings of unknown names. -/
  extras : Extras := []

/-- How long a replica may be silent by default. -/
def usualSilence : Value := .duration (.seconds 10)

/-- What is expected of a cluster. -/
structure Cluster where
  /-- The number of servers. -/
  expectedPeers : Value := .null
  /-- How long ago the leader may have heard of a replica. -/
  seenCritical : Value := usualSilence
  /-- How many operations a replica may be behind. -/
  lagCritical : Value := .int 100
  /-- Settings of unknown names. -/
  extras : Extras := []

/-- What is required of a credential. -/
structure Credential where
  /-- The file that holds the credential. -/
  path : Value := .null
  /-- Whether the credential must expire. -/
  requireExpiry : Value := .bool false
  /-- Thresholds of the time up to the expiry. -/
  validity : Limits := {}
  /-- Settings of unknown names. -/
  extras : Extras := []

/-- What is required of the last message of a subject. -/
structure Message where
  /-- The stream that stores the message. -/
  stream : Value := .str ""
  /-- The subject of the message. -/
  subject : Value := .str ""
  /-- Thresholds of the age of the message. -/
  age : Limits := {}
  /-- Whether the message itself tells its time. -/
  bodyAsTimestamp : Value := .bool false
  /-- Settings of unknown names. -/
  extras : Extras := []

/-! ## Settings by name -/

/-- The settings of a section for servers, in order. -/
def Vitals.fields (t : Vitals) : List (String × Value) :=
  [("server_name", t.serverName), ("require_jetstream", t.requireJetstream),
    ("require_tls", t.requireTls), ("require_auth", t.requireAuth)] ++
  t.uptime.fields "uptime" ++ t.cpu.fields "cpu" ++ t.memory.fields "memory" ++
  t.connections.fields "connections"

/-- The settings of a section for accounts, in order. -/
def Account.fields (t : Account) : List (String × Value) :=
  t.memory.fields "memory" ++ t.storage.fields "storage" ++ t.streams.fields "streams" ++
  t.consumers.fields "consumers"

/-- The settings of a section for clusters, in order. -/
def Cluster.fields (t : Cluster) : List (String × Value) :=
  [("expected_peers", t.expectedPeers), ("seen_critical", t.seenCritical),
    ("lag_critical", t.lagCritical)]

/-- The settings of a section for credentials, in order. -/
def Credential.fields (t : Credential) : List (String × Value) :=
  [("path", t.path), ("require_expiry", t.requireExpiry)] ++ t.validity.fields "validity"

/-- The settings of a section for messages, in order. -/
def Message.fields (t : Message) : List (String × Value) :=
  [("stream", t.stream), ("subject", t.subject)] ++ t.age.fields "age" ++
  [("body_as_timestamp", t.bodyAsTimestamp)]

/-- Changes a setting of a section for servers. -/
def Vitals.set (name : String) (v : Value) (t : Vitals) : Vitals :=
  match name with
  | "server_name" => { t with serverName := v }
  | "require_jetstream" => { t with requireJetstream := v }
  | "require_tls" => { t with requireTls := v }
  | "require_auth" => { t with requireAuth := v }
  | "uptime_warning" => { t with uptime.warning := v }
  | "uptime_critical" => { t with uptime.critical := v }
  | "cpu_warning" => { t with cpu.warning := v }
  | "cpu_critical" => { t with cpu.critical := v }
  | "memory_warning" => { t with memory.warning := v }
  | "memory_critical" => { t with memory.critical := v }
  | "connections_warning" => { t with connections.warning := v }
  | "connections_critical" => { t with connections.critical := v }
  | name => { t with extras := t.extras.insert name v }

/-- Changes a setting of a section for accounts. -/
def Account.set (name : String) (v : Value) (t : Account) : Account :=
  match name with
  | "memory_warning" => { t with memory.warning := v }
  | "memory_critical" => { t with memory.critical := v }
  | "storage_warning" => { t with storage.warning := v }
  | "storage_critical" => { t with storage.critical := v }
  | "streams_warning" => { t with streams.warning := v }
  | "streams_critical" => { t with streams.critical := v }
  | "consumers_warning" => { t with consumers.warning := v }
  | "consumers_critical" => { t with consumers.critical := v }
  | name => { t with extras := t.extras.insert name v }

/-- Changes a setting of a section for clusters. -/
def Cluster.set (name : String) (v : Value) (t : Cluster) : Cluster :=
  match name with
  | "expected_peers" => { t with expectedPeers := v }
  | "seen_critical" => { t with seenCritical := v }
  | "lag_critical" => { t with lagCritical := v }
  | name => { t with extras := t.extras.insert name v }

/-- Changes a setting of a section for credentials. -/
def Credential.set (name : String) (v : Value) (t : Credential) : Credential :=
  match name with
  | "path" => { t with path := v }
  | "require_expiry" => { t with requireExpiry := v }
  | "validity_warning" => { t with validity.warning := v }
  | "validity_critical" => { t with validity.critical := v }
  | name => { t with extras := t.extras.insert name v }

/-- Changes a setting of a section for messages. -/
def Message.set (name : String) (v : Value) (t : Message) : Message :=
  match name with
  | "stream" => { t with stream := v }
  | "subject" => { t with subject := v }
  | "age_warning" => { t with age.warning := v }
  | "age_critical" => { t with age.critical := v }
  | "body_as_timestamp" => { t with bodyAsTimestamp := v }
  | name => { t with extras := t.extras.insert name v }

/-- The thresholds of a resource of an account. -/
def Account.limits (t : Account) : Snapshot.Resource → Limits
  | .memory => t.memory
  | .storage => t.storage
  | .streams => t.streams
  | .consumers => t.consumers

/-- The thresholds of the resource of a name. -/
def Account.limitsOf (t : Account) (resource : String) : Except Fault Limits :=
  match Snapshot.Resource.ofName? resource with
  | some r => .ok (t.limits r)
  | none => .error (.attribute "account" (resource ++ "_warning"))

end Config

/-- A configuration. -/
structure Config where
  /-- What is required of servers. -/
  vitals : Config.Vitals := {}
  /-- What is required of accounts. -/
  account : Config.Account := {}
  /-- What is required of clusters. -/
  cluster : Config.Cluster := {}
  /-- What is required of credentials. -/
  credential : Config.Credential := {}
  /-- What is required of messages. -/
  message : Config.Message := {}
  /-- Where a server tells about itself. -/
  monitorUrl : Value := .str "http://localhost:8222"
  /-- How much is written to the log. -/
  logLevel : Value := .str "WARNING"

/-- The section of a kind of check. -/
abbrev Kind.Settings : Kind → Type
  | .vitals => Config.Vitals
  | .account => Config.Account
  | .cluster => Config.Cluster
  | .credential => Config.Credential
  | .message => Config.Message

namespace Config

/-- The section of a configuration for a kind of check. -/
def settings (c : Config) : (k : Kind) → k.Settings
  | .vitals => c.vitals
  | .account => c.account
  | .cluster => c.cluster
  | .credential => c.credential
  | .message => c.message

/-- The settings of a section, in order. -/
def fieldsOf (c : Config) : Kind → List (String × Value)
  | .vitals => c.vitals.fields
  | .account => c.account.fields
  | .cluster => c.cluster.fields
  | .credential => c.credential.fields
  | .message => c.message.fields

/-- Changes a setting of a section. -/
def set (k : Kind) (name : String) (v : Value) (c : Config) : Config :=
  match k with
  | .vitals => { c with vitals := c.vitals.set name v }
  | .account => { c with account := c.account.set name v }
  | .cluster => { c with cluster := c.cluster.set name v }
  | .credential => { c with credential := c.credential.set name v }
  | .message => { c with message := c.message.set name v }

/-- A configuration that shows what can be configured. -/
def sample : Config where
  vitals := {
    serverName := .str "nats-1"
    requireJetstream := .bool true
    requireTls := .bool true
    uptime := ⟨.duration (.seconds 1200), .duration (.seconds 600)⟩
    cpu := ⟨.float (.ofInt 70), .float (.ofInt 90)⟩
    connections := ⟨.int 1300, .int 1500⟩ }
  cluster := { expectedPeers := .int 3 }
  credential := {
    path := .str "~/.nkeys/creds/monitor.creds"
    requireExpiry := .bool true
    validity := ⟨.duration (.seconds 2592000), .duration (.seconds 604800)⟩ }
  message := {
    stream := .str "ORDERS"
    subject := .str "ORDERS.heartbeat"
    age := ⟨.duration (.seconds 300), .duration (.seconds 900)⟩
    bodyAsTimestamp := .bool true }

end Config

end Vigil
