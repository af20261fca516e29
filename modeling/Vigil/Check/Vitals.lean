import Vigil.Check

/-!
# The check of a server

Seven parts that do not depend on each other: three requirements, and four metrics, each of which is
measured if it has a threshold.
-/

namespace Vigil.Check

open Checking

/-- A requirement: if it is made, a finding tells whether it is met. -/
def require (required present : Value) (met unmet : String) : Checking Unit := do
  if required.truthy then
    if present.truthy then ok met else critical unmet

/-- A metric of a server. -/
structure Metric where
  /-- The name of the metric in performance data. -/
  key : String
  /-- The name of the metric in findings. -/
  label : String
  /-- The unit in which it is counted. -/
  unit : Perf.Unit
  /-- Which values are worse. -/
  policy : Policy

/-- How long the server is up. A short time is worse, since a server that starts again and again
never gets beyond it. -/
def uptime : Metric := ⟨"uptime", "Up", .seconds, .descending⟩

/-- The use of processors. -/
def cpu : Metric := ⟨"cpu", "CPU", .percent, .ascending⟩

/-- The use of memory. -/
def memory : Metric := ⟨"mem", "Memory", .bytes, .ascending⟩

/-- The number of connections. Few ones can be worse, where clients have gone elsewhere. -/
def connections : Metric := ⟨"connections", "Connections", .count, .auto⟩

/-- Thresholds that do not suit their policy are shown in the log, so they must have a text. -/
def note (limits : Limits) (e : Evaluation) : Except Fault Unit := do
  if !e.valid then
    let _ ← limits.warning.text
    let _ ← limits.critical.text

/-- Measures a metric against its thresholds; without any, nothing is measured. -/
def Metric.measure (m : Metric) (limits : Limits) (value : Value) (display : String) :
    Checking Unit := do
  if !(limits.warning.isNull && limits.critical.isNull) then
    Checking.measure {
      label := m.key, value := value, unit := m.unit
      warn := limits.warning, crit := limits.critical }
    let e ← obtain
      (Threshold.evaluate value limits.warning limits.critical m.policy m.label (some display))
    obtain (note limits e)
    change (.record e)

/-- The name of the server must be the expected one, if one is expected. -/
def expectServer (t : Config.Vitals) (v : Snapshot.Vitals) : Checking Unit := do
  if t.serverName.truthy && !v.name.equals t.serverName then
    stop (.wrongTarget (← obtain v.name.text))

/-- Checks a server. -/
def vitals (t : Config.Vitals) : Option Snapshot.Vitals → Checking Unit
  | none => stop .noData
  | some v => do
    expectServer t v
    require t.requireJetstream v.jetstream "JetStream enabled" "JetStream not enabled"
    require t.requireTls v.tls "TLS required" "TLS not required"
    require t.requireAuth v.auth "Authentication required" "Authentication not required"
    uptime.measure t.uptime (.duration v.uptime) v.uptime.humanize
    cpu.measure t.cpu (.float v.cpu) (v.cpu.fixed 2)
    memory.measure t.memory (.int v.memory) (← obtain ((Value.int v.memory).fixed 2))
    connections.measure t.connections (.int v.connections)
      (← obtain ((Value.int v.connections).fixed 2))

end Vigil.Check
