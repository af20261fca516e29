import Vigil.Status
import Vigil.Value.Order
import Vigil.Value.Text

/-!
# Thresholds

A measured value is classified against a warning and a critical threshold. A policy says in which
direction values become worse: upwards, downwards, or as the two thresholds stand to each other. A
value equal to a threshold belongs to the worse side, and a threshold that is not set is never
breached.
-/

namespace Vigil

/-- Which values of a metric are worse. -/
inductive Policy where
  /-- Higher ones; usable only if the warning threshold is less than the critical one. -/
  | ascending
  /-- Lower ones; usable only if the critical threshold is less than the warning one. -/
  | descending
  /-- Higher ones if the critical threshold is at least the warning one, else lower ones. -/
  | auto
  deriving DecidableEq, Repr

/-- The direction in which the values of a metric become worse. -/
inductive Direction where
  /-- Higher values are worse. -/
  | up
  /-- Lower values are worse. -/
  | down
  deriving DecidableEq, Repr

namespace Policy

/-- The word for a policy. -/
def name : Policy → String
  | .ascending => "ascending"
  | .descending => "descending"
  | .auto => "auto"

/-- The policy of a word. -/
def ofName? : String → Option Policy
  | "ascending" => some .ascending
  | "descending" => some .descending
  | "auto" => some .auto
  | _ => none

/-- Whether a pair of thresholds suits the policy. A pair of which one is not set always does. -/
def isValid (p : Policy) (warn crit : Value) : Except Fault Bool :=
  if warn.isNull || crit.isNull then .ok true
  else
    match p with
    | .ascending => warn.lt crit
    | .descending => crit.lt warn
    | .auto => .ok true

/-- The direction of a policy for a pair of thresholds. -/
def direction (p : Policy) (warn crit : Value) : Except Fault Direction :=
  match p with
  | .ascending => .ok .up
  | .descending => .ok .down
  | .auto =>
    if warn.isNull || crit.isNull then .ok .up
    else return if ← crit.ge warn then .up else .down

end Policy

/-- The policy of a direction. -/
def Direction.policy : Direction → Policy
  | .up => .ascending
  | .down => .descending

/-- What became of a measured value. -/
structure Evaluation where
  /-- The severity of the value. -/
  status : Status
  /-- What a report says of it. -/
  message : String
  /-- Whether the thresholds suited the policy. -/
  valid : Bool
  deriving DecidableEq, Repr

namespace Threshold

/-- Whether a value is as bad as a threshold, or worse. -/
def breached (value threshold : Value) (d : Direction) : Except Fault Bool :=
  if threshold.isNull then .ok false
  else
    match d with
    | .up => value.ge threshold
    | .down => value.le threshold

/-- The severity of a value in a direction. -/
def severity (value warn crit : Value) (d : Direction) : Except Fault Status := do
  if ← breached value crit d then return .critical
  if ← breached value warn d then return .warning
  return .ok

/-- The text that a message shows for a value: the given one, or that of the value itself. -/
def displayText (value : Value) : Option String → Except Fault String
  | some text => .ok text
  | none => value.text

/-- Classifies a value. The message is the label with the value, or says that the thresholds do not
suit the policy. -/
def evaluate (value warn crit : Value) (p : Policy) (label : String) (display : Option String) :
    Except Fault Evaluation := do
  if ← p.isValid warn crit then
    let d ← p.direction warn crit
    let shown ← displayText value display
    return ⟨← severity value warn crit d, label ++ " " ++ shown, true⟩
  else return ⟨.critical, label ++ " invalid thresholds", false⟩

end Threshold

end Vigil
