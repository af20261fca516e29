import Vigil.Check

/-!
# The check of a credential

A credential must stay valid for longer than the thresholds say.
-/

namespace Vigil.Check

open Checking

/-- Files the finding for a credential that expires at `expiry`. -/
def fileExpiry (t : Config.Credential) (expiry : Instant) (e : Evaluation) : Checking Unit := do
  if !e.valid then critical "credential: invalid thresholds"
  else
    match e.status with
    | .critical =>
      critical ("expires sooner than " ++ (← obtain (humanizedSetting t.validity.critical)))
    | .warning =>
      warning ("expires sooner than " ++ (← obtain (humanizedSetting t.validity.warning)))
    | _ => ok ("expires in " ++ expiry.text)

/-- Checks a credential that expires at `expiry`. -/
def expiring (t : Config.Credential) (clock expiry : Instant) : Checking Unit := do
  let remaining := Value.duration (expiry - clock)
  measure {
    label := "expiry", value := remaining, unit := .seconds
    warn := t.validity.warning, crit := t.validity.critical }
  let e ← obtain
    (Threshold.evaluate remaining t.validity.warning t.validity.critical .descending "credential"
      none)
  fileExpiry t expiry e

/-- Checks a credential that does not expire. -/
def lasting (t : Config.Credential) : Checking Unit :=
  if t.requireExpiry.truthy then critical "never expires" else ok "never expires"

/-- Checks a credential. -/
def credential (t : Config.Credential) (clock : Instant) :
    Option Snapshot.Credential → Checking Unit
  | none => stop .noData
  | some c =>
    match c.expiresAt with
    | none => lasting t
    | some expiry => expiring t clock expiry

end Vigil.Check
