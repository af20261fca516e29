import Vigil.Snapshot.Reading
import Vigil.Telemetry.Reply

/-!
# Telemetry

Snapshots from the monitoring endpoint of a server: its vitals, and the state of its cluster if it
is in one.
-/

namespace Vigil

/-- A monitoring endpoint: its base address, and what requests are made with. -/
structure Endpoint where
  /-- The base address, without a slash at its end. -/
  base : String
  /-- What makes the requests. -/
  client : Client

namespace Endpoint

/-- The endpoint at an address, whose final slashes do not matter. -/
def ofUrl (url : String) (client : Client) : Endpoint where
  base := String.ofList (url.toList.reverse.dropWhile (· = '/')).reverse
  client := client

/-- The address of a path below the base address. -/
def url (e : Endpoint) (path : String) : String := e.base ++ "/" ++ path

/-- The document at a path below the base address. -/
def fetch (e : Endpoint) (path : String) : Except Fault Value :=
  match e.client.get (e.url path) with
  | .error reason => .error (.address reason)
  | .ok reply => return (← reply.document e.client (e.url path)).toValue

end Endpoint

namespace Telemetry

/-- A value, or an empty mapping if it counts as false. -/
def orEmpty (v : Value) : Value := if v.truthy then v else .map []

/-- The vitals that a document of a server tells. -/
def vitalsOf (data : Value) : Except Fault Snapshot.Vitals := do
  let streaming := orEmpty (← data.getD "jetstream" .null)
  let name ← data.getD "server_name" (.str "")
  let jetstream := Value.bool (← streaming.getD "config" .null).truthy
  let tls ← data.getD "tls_required" (.bool false)
  let auth ← data.getD "auth_required" (.bool false)
  let cpu ← (← data.getD "cpu" (.int 0)).toDouble
  let connections ← (← data.getD "connections" (.int 0)).toInt
  let memory ← (← data.getD "mem" (.int 0)).toInt
  let now ← (← data.member "now").toInstant
  let start ← Snapshot.instantIfTrue data "start"
  return { name, jetstream, tls, auth, cpu, connections, memory, now, start }

/-- A thousandth of a number, rounded once. -/
def thousandth : Value → Except Fault Double
  | .float x => .ok (x.div (Double.ofInt 1000))
  | .bool b => .ok (Double.ofRatio false (Value.ofBit b).natAbs 1000)
  | .int n =>
    let x := Double.ofRatio (n < 0) n.natAbs 1000
    if x.isFinite then .ok x else .error (.range .quotient)
  | v => .error (.kind (.unsupportedOperands "/" v.kindName "int"))

/-- The duration of so many nanoseconds; what counts as false is none at all. -/
def nanoseconds (v : Value) : Except Fault Duration := do
  Duration.ofMicroseconds? (← thousandth (if v.truthy then v else .int 0))

/-- The replica that a document tells. -/
def peerOf (data : Value) : Except Fault Snapshot.Peer := do
  let name ← data.getD "name" (.str "")
  let current ← data.getD "current" (.bool false)
  let offline ← data.getD "offline" (.bool false)
  let active ← nanoseconds (← data.getD "active" .null)
  let lag ← (← data.getD "lag" (.int 0)).toInt
  return { name, current, offline, active, lag }

/-- The replicas that a document lists; what counts as false lists none. -/
def peersOf (data : Value) : Except Fault (List Snapshot.Peer) := do
  if data.truthy then (← data.items).mapM peerOf else return []

/-- The cluster that a document of a server tells, if the server is in one. -/
def clusterOf (data : Value) : Except Fault (Option Snapshot.Cluster) := do
  let state ← data.getD "meta_cluster" .null
  if state.truthy then
    let replicas ← peersOf (← state.getD "replicas" .null)
    let leader ← state.getD "leader" (.str "")
    return some { leader, replicas }
  else return none

/-- Asks an endpoint for the vitals of its server. -/
def vitals (e : Endpoint) : Except Fault Snapshot.Vitals := do vitalsOf (← e.fetch "varz")

/-- Asks an endpoint for the state of its cluster. -/
def cluster (e : Endpoint) : Except Fault (Option Snapshot.Cluster) := do
  clusterOf (← e.fetch "jsz")

end Telemetry

end Vigil
