import Vigil.Value.Basic

/-!
# Equality and order of values

Numbers of all kinds are compared by their exact values; sequences are compared by their first items
that differ. Values of kinds that stand in no order are a fault, and what is not a number is neither
less than, nor equal to, nor greater than anything.
-/

namespace Vigil.Value

/-- A number: an integer or a floating-point one. -/
inductive Numeric where
  | int (n : Int)
  | float (x : Double)

/-- The number that a value is, truth values included. -/
def numeric? : Value → Option Numeric
  | .bool b => some (.int (ofBit b))
  | .int n => some (.int n)
  | .float x => some (.float x)
  | _ => none

/-- The exact order of two numbers. -/
def Numeric.compare? : Numeric → Numeric → Option Ordering
  | .int m, .int n => some (compare m n)
  | .int m, .float y => (y.compareInt? m).map Ordering.swap
  | .float x, .int n => x.compareInt? n
  | .float x, .float y => x.compare? y

/-- The microseconds of a timestamp in UTC. -/
def utcMicros (t : Timestamp) : Int := t.micros - t.offset.getD 0

/-- The order of two texts by code points. -/
def compareTexts (s t : String) : Ordering := compareOfLessAndEq s t

/-- The order of bytes. -/
def compareBytes : List UInt8 → List UInt8 → Ordering
  | [], [] => .eq
  | [], _ :: _ => .lt
  | _ :: _, [] => .gt
  | a :: as, b :: bs => (compare a b).then (compareBytes as bs)

mutual

/-- Whether two values are equal. -/
def equals : Value → Value → Bool
  | .null, .null => true
  | .str s, .str t => s = t
  | .bytes a, .bytes b => a = b
  | .duration a, .duration b => a = b
  | .timestamp a, .timestamp b =>
    if a.offset.isSome = b.offset.isSome then utcMicros a = utcMicros b else false
  | .date a, .date b => a = b
  | .list as, .list bs => equalItems as bs
  | .tuple as, .tuple bs => equalItems as bs
  | .map as, .map bs => as.length = bs.length && equalEntries as bs
  | .set as, .set bs => as.length = bs.length && allAmong as bs
  | a, b =>
    match a.numeric?, b.numeric? with
    | some m, some n => m.compare? n = some .eq
    | _, _ => false

/-- Whether two sequences have equal items. -/
def equalItems : List Value → List Value → Bool
  | [], [] => true
  | a :: as, b :: bs => equals a b && equalItems as bs
  | _, _ => false

/-- Whether all entries of one mapping are entries of another. -/
def equalEntries : List (Value × Value) → List (Value × Value) → Bool
  | [], _ => true
  | (k, v) :: rest, bs =>
    bs.any (fun (k', v') => equals k k' && equals v v') && equalEntries rest bs

/-- Whether all of some values are among others. -/
def allAmong : List Value → List Value → Bool
  | [], _ => true
  | a :: as, bs => bs.any (equals a ·) && allAmong as bs

end

/-- The fault of comparing two values that stand in no order. -/
def unordered (operator : String) (a b : Value) : Fault :=
  match a, b with
  | .timestamp _, .timestamp _ => .kind .mixedOffsets
  | .timestamp _, .date _ | .date _, .timestamp _ => .kind (.dateAgainstTime a.kindName b.kindName)
  | _, _ => .kind (.unordered operator a.kindName b.kindName)

mutual

/-- The order of two values, nothing if one of them is not a number. -/
def order (operator : String) : Value → Value → Except Fault (Option Ordering)
  | .str s, .str t => .ok (some (compareTexts s t))
  | .bytes a, .bytes b => .ok (some (compareBytes a b))
  | .duration a, .duration b => .ok (some (compare a.micros b.micros))
  | a@(.timestamp s), b@(.timestamp t) =>
    if s.offset.isSome = t.offset.isSome then .ok (some (compare (utcMicros s) (utcMicros t)))
    else .error (unordered operator a b)
  | .date a, .date b => .ok (some (compare a.days b.days))
  | .list as, .list bs => orderItems operator as bs
  | .tuple as, .tuple bs => orderItems operator as bs
  | a, b =>
    match a.numeric?, b.numeric? with
    | some m, some n => .ok (m.compare? n)
    | _, _ => .error (unordered operator a b)

/-- The order of two sequences: that of the first items that differ, or of the lengths. -/
def orderItems (operator : String) : List Value → List Value → Except Fault (Option Ordering)
  | [], [] => .ok (some .eq)
  | [], _ :: _ => .ok (some .lt)
  | _ :: _, [] => .ok (some .gt)
  | a :: as, b :: bs => if equals a b then orderItems operator as bs else order operator a b

end

/-- Whether one value is less than another. -/
def lt (a b : Value) : Except Fault Bool := return (← order "<" a b) = some .lt

/-- Whether one value is greater than another. -/
def gt (a b : Value) : Except Fault Bool := return (← order ">" a b) = some .gt

/-- Whether one value is at most another. -/
def le (a b : Value) : Except Fault Bool :=
  return match ← order "<=" a b with
    | some .lt | some .eq => true
    | _ => false

/-- Whether one value is at least another. -/
def ge (a b : Value) : Except Fault Bool :=
  return match ← order ">=" a b with
    | some .gt | some .eq => true
    | _ => false

end Vigil.Value
