import Vigil.Check

/-!
# The check of a message

The last message of a subject must not be too old. Its age counts from the time when it was stored,
or from the seconds since 1970 that the message itself tells.
-/

namespace Vigil.Check

open Checking

/-- The text of a message: its bytes, without white space around them. -/
def bodyText : Value → Except Fault String
  | .bytes content => .ok (Text.trimmed (Text.Utf8.decodeLossy content))
  | v => .error (.attribute v.kindName "decode")

/-- The instant that a text tells as seconds since 1970. -/
def instantOfBody? (body : String) : Option Instant :=
  match (Value.str body).toInt with
  | .ok n => (Instant.ofUnix n 0).toOption
  | .error _ => none

/-- Checks the age of a message that is `age` old. -/
def aged (t : Config.Message) (age : Duration) : Checking Unit := do
  measure {
    label := "age", value := .duration age, unit := .seconds
    warn := t.age.warning, crit := t.age.critical }
  let e ← obtain (Threshold.evaluate (.duration age) t.age.warning t.age.critical .ascending
    "Message age" (some age.humanize))
  if !e.valid then critical "message: invalid thresholds"
  else if e.status = .ok then
    ok ("Valid message on " ++ (← obtain t.stream.text) ++ " > " ++ (← obtain t.subject.text))
  else change (.record e)

/-- Checks a message that tells its own time. -/
def selfTimed (t : Config.Message) (clock : Instant) (m : Snapshot.Message) : Checking Unit := do
  let body ← obtain (bodyText m.body)
  match instantOfBody? body with
  | some instant => aged t (clock - instant)
  | none => critical ("invalid timestamp body: " ++ body)

/-- Checks a message. A missing one is a finding. -/
def message (t : Config.Message) (clock : Instant) : Option Snapshot.Message → Checking Unit
  | none => critical "no message found"
  | some m =>
    if t.bodyAsTimestamp.truthy then selfTimed t clock m else aged t (clock - m.published)

end Vigil.Check
