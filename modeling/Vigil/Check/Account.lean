import Vigil.Check

/-!
# The check of an account

Each resource is compared with its limit, and the percentage in use with the thresholds.
-/

namespace Vigil.Check

open Checking

/-- The unit of a resource. -/
def resourceUnit : Snapshot.Resource → Perf.Unit
  | .memory | .storage => .bytes
  | .streams | .consumers => .count

/-- Files the finding for a percentage in use. -/
def fileShare (name : String) (percent : Int) (e : Evaluation) : Checking Unit := do
  if !e.valid then critical (name ++ ": invalid thresholds")
  else file e.status ((← obtain (Value.intText percent)) ++ "% " ++ name)

/-- Checks one resource. Without a limit it is measured only. -/
def resource (t : Config.Account) (a : Snapshot.Account) (r : Snapshot.Resource) :
    Checking Unit := do
  let limits := t.limits r
  let usage := a.usage r
  let percent := usage.percent
  measure { label := r.name, value := .int usage.used, unit := resourceUnit r }
  measure {
    label := r.name ++ "_pct", value := .int percent, unit := .percent
    warn := limits.warning, crit := limits.critical }
  if usage.exceeded then critical (r.name ++ ": exceed server limits")
  if 0 < usage.limit && !(limits.warning.isNull && limits.critical.isNull) then
    let e ← obtain
      (Threshold.evaluate (.int percent) limits.warning limits.critical .ascending r.name none)
    fileShare r.name percent e

/-- Checks an account. -/
def account (t : Config.Account) : Option Snapshot.Account → Checking Unit
  | none => stop .noData
  | some a => Snapshot.Resource.all.forM (resource t a)

end Vigil.Check
