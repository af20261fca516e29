import Vigil.Usage

/-!
# Snapshots

What is known about a deployment at a moment: the vitals of a server, the resource usage of an
account, the peers of a cluster, the expiry of a credential, the last message of a stream. Names and
flags are kept as the document has them.
-/

namespace Vigil

/-- What a check looks at. -/
inductive Kind where
  | vitals | account | cluster | credential | message
  deriving DecidableEq, Repr

namespace Kind

/-- The word for a kind. -/
def name : Kind → String
  | .vitals => "vitals"
  | .account => "account"
  | .cluster => "cluster"
  | .credential => "credential"
  | .message => "message"

/-- The kind of a word. -/
def ofName? : String → Option Kind
  | "vitals" => some .vitals
  | "account" => some .account
  | "cluster" => some .cluster
  | "credential" => some .credential
  | "message" => some .message
  | _ => none

/-- The word for a kind names it. -/
theorem ofName?_name (k : Kind) : ofName? k.name = some k := by cases k <;> rfl

end Kind

namespace Snapshot

/-- The variables of a single server. -/
structure Vitals where
  /-- The name of the server. -/
  name : Value
  /-- Whether streams are stored. -/
  jetstream : Value
  /-- Whether connections must be encrypted. -/
  tls : Value
  /-- Whether clients must identify themselves. -/
  auth : Value
  /-- The use of processors in percent. -/
  cpu : Double
  /-- The number of connections. -/
  connections : Int
  /-- The bytes of memory in use. -/
  memory : Int
  /-- When the variables were read. -/
  now : Instant
  /-- When the server was started, if that is known. -/
  start : Option Instant

/-- How long the server has been up; no time at all if its start is not known. -/
def Vitals.uptime (v : Vitals) : Duration :=
  match v.start with
  | some start => v.now - start
  | none => .zero

/-- The resources of an account, each with its limit. -/
structure Account where
  /-- Bytes of memory. -/
  memory : Usage
  /-- Bytes of storage. -/
  storage : Usage
  /-- Streams. -/
  streams : Usage
  /-- Consumers. -/
  consumers : Usage
  deriving DecidableEq

/-- A resource of an account. -/
inductive Resource where
  | memory | storage | streams | consumers
  deriving DecidableEq, Repr

namespace Resource

/-- The resources in the order in which they are reported. -/
def all : List Resource := [.memory, .storage, .streams, .consumers]

/-- The word for a resource. -/
def name : Resource → String
  | .memory => "memory"
  | .storage => "storage"
  | .streams => "streams"
  | .consumers => "consumers"

/-- The resource of a word. -/
def ofName? : String → Option Resource
  | "memory" => some .memory
  | "storage" => some .storage
  | "streams" => some .streams
  | "consumers" => some .consumers
  | _ => none

end Resource

/-- The use of a resource. -/
def Account.usage (a : Account) : Resource → Usage
  | .memory => a.memory
  | .storage => a.storage
  | .streams => a.streams
  | .consumers => a.consumers

/-- A replica that takes part in the cluster. -/
structure Peer where
  /-- The name of the replica. -/
  name : Value
  /-- Whether it has all operations. -/
  current : Value
  /-- Whether it cannot be reached. -/
  offline : Value
  /-- How long ago the leader heard of it. -/
  active : Duration
  /-- The operations that it is behind the leader. -/
  lag : Int

/-- A cluster as one of its servers sees it. -/
structure Cluster where
  /-- The name of the leader. -/
  leader : Value
  /-- The other servers. -/
  replicas : List Peer

/-- The number of servers: the replicas and the reporting one. -/
def Cluster.peerCount (c : Cluster) : Nat := c.replicas.length + 1

/-- The expiry of a user credential. -/
structure Credential where
  /-- When the credential expires, if ever. -/
  expiresAt : Option Instant
  deriving DecidableEq

/-- The last message stored for a subject. -/
structure Message where
  /-- The subject of the message. -/
  subject : Value
  /-- What the message says. -/
  body : Value
  /-- When it was stored. -/
  published : Instant

end Snapshot

/-- The snapshots of a kind. -/
abbrev Kind.Snapshot : Kind → Type
  | .vitals => Snapshot.Vitals
  | .account => Snapshot.Account
  | .cluster => Snapshot.Cluster
  | .credential => Snapshot.Credential
  | .message => Snapshot.Message

end Vigil
