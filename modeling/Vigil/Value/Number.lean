import Vigil.Value.Basic

/-!
# Numbers and times from values

The conversions that snapshots and configurations apply to the data they are read from, and the two
number formats of performance data.
-/

namespace Vigil.Value

/-- The characters with the code points of bytes. -/
def asciiOf (content : List UInt8) : List Char := content.map fun b => Char.ofNat b.toNat

/-- The result of reading an integer, with the fault of a text that is none. -/
def intOf (shown : String) : Except Literal.IntFault Int → Except Fault Int
  | .ok n => .ok n
  | .error .malformed => .error (.value (.intText shown))
  | .error (.tooManyDigits count) => .error (.value (.tooManyDigits count))

/-- The result of reading a floating-point number, with the fault of a text that is none. -/
def doubleOf (shown : String) : Option Double → Except Fault Double
  | some x => .ok x
  | none => .error (.value (.floatText shown))

/-- The double nearest to an integer, which must not be too large. -/
def intToDouble (n : Int) : Except Fault Double :=
  let x := Double.ofInt n
  if x.isFinite then .ok x else .error (.range .intToDouble)

/-- The integer that a value is converted to: numbers lose what is after the point, texts are
read. -/
def toInt : Value → Except Fault Int
  | .bool b => .ok (ofBit b)
  | .int n => .ok n
  | .float x => Duration.integerPart x
  | .str s => intOf (Text.quoted s) (Literal.readInt s.toList)
  | .bytes content => intOf (Text.quotedBytes content) (Literal.readAsciiInt (asciiOf content))
  | v => .error (.kind (.intArgument v.kindName))

/-- The floating-point number that a value is converted to: texts are read. -/
def toDouble : Value → Except Fault Double
  | .bool b => intToDouble (ofBit b)
  | .int n => intToDouble n
  | .float x => .ok x
  | .str s => doubleOf (Text.quoted s) (Literal.readDouble s.toList)
  | .bytes content =>
    doubleOf (Text.quotedBytes content) (Literal.readAsciiDouble (asciiOf content))
  | v => .error (.kind (.floatArgument v.kindName))

/-- The duration of so many whole seconds. -/
def secondsToDuration (n : Int) : Except Fault Duration :=
  Duration.liftRange (Duration.ofMicros? (n * 1000000))

/-- The duration that a value is converted to: numbers are seconds, texts are read. -/
def toDuration : Value → Except Fault Duration
  | .duration d => .ok d
  | .bool b => secondsToDuration (ofBit b)
  | .int n => secondsToDuration n
  | .float x => Duration.ofSeconds? x
  | .str s => Duration.parse s
  | .bytes content =>
    match Literal.readAsciiDouble (asciiOf content) with
    | some .nan => .error (.kind .textExpected)
    | some x => Duration.ofSeconds? x
    | none => .error (.kind .textExpected)
  | v => .error (.attribute v.kindName "strip")

/-- The instant that a value is converted to: numbers are seconds since 1970, texts are read, and
timestamps without an offset are in UTC. -/
def toInstant : Value → Except Fault Instant
  | .timestamp t => t.toInstant?
  | .bool b => Instant.ofUnix (ofBit b) 0
  | .int n => Instant.ofUnix n 0
  | .float x => Instant.ofUnixSeconds x
  | .str s => Iso.readInstant s
  | .bytes _ => .error (.kind .bytesExpected)
  | v => .error (.attribute v.kindName "strip")

/-- The instant of a number of seconds since 1970. -/
def unixInstant : Value → Except Fault Instant
  | .bool b => Instant.ofUnix (ofBit b) 0
  | .int n => Instant.ofUnix n 0
  | .float x => Instant.ofUnixSeconds x
  | v => .error (.kind (.intArgument v.kindName))

/-- The integer part of a number. -/
def truncated : Value → Except Fault Int
  | .bool b => .ok (ofBit b)
  | .int n => .ok n
  | .float x => Duration.integerPart x
  | v => .error (.kind (.noIntegerPart v.kindName))

/-- A value with a fixed number of digits after the point. Dates and times take the format itself
for a pattern, in which nothing stands for a part of them. -/
def fixed (places : Nat) : Value → Except Fault String
  | .bool b => return (← intToDouble (ofBit b)).fixed places
  | .int n => return (← intToDouble n).fixed places
  | .float x => .ok (x.fixed places)
  | .str _ => .error (.value (.formatCode "str"))
  | .timestamp _ | .date _ => .ok s!".{places}f"
  | v => .error (.kind (.unformattable v.kindName))

/-- An integer in decimal; one of more than 4300 digits is not written. -/
def intText (n : Int) : Except Fault String :=
  if Literal.maxDigits < Decimal.length n.natAbs then .error (.value .tooLongToWrite)
  else .ok (Decimal.ofInt n)

end Vigil.Value
