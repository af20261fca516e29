import Vigil.Time.Calendar
import Vigil.Time.Duration

/-!
# Instants, timestamps and dates

An `Instant` is a point in time from the beginning of year 1 to the end of year 9999 in UTC. A
`Timestamp` is what a document writes: a civil date and time with or without an offset from UTC.
`Timestamp.toInstant?` subtracts the offset.
-/

namespace Vigil

example : Calendar.dayCount * Duration.microsPerDay = 315537897600000000 := by decide

/-- A point in time. -/
structure Instant where
  /-- The microseconds since 0001-01-01 00:00:00 UTC. -/
  micros : Nat
  /-- The instant lies in the years 1 to 9999. -/
  inRange : micros < 315537897600000000
  deriving DecidableEq

/-- A date of the civil calendar. -/
structure Date where
  /-- The days since 0001-01-01. -/
  days : Nat
  /-- The date lies in the years 1 to 9999. -/
  inRange : days < 3652059
  deriving DecidableEq

/-- A civil date and time of day, with the offset from UTC if there is one. -/
structure Timestamp where
  /-- The microseconds since 0001-01-01 00:00:00 on the local clock. -/
  micros : Nat
  /-- The local time lies in the years 1 to 9999. -/
  inRange : micros < 315537897600000000
  /-- The microseconds that the local clock is ahead of UTC. -/
  offset : Option Int
  deriving DecidableEq

/-- The date of a calendar date. -/
def Date.ofCivil (c : Calendar.Civil) : Date :=
  if h : c.toDays < 3652059 then ⟨c.toDays, h⟩ else ⟨0, by decide⟩

/-- The year, month and day of a date. -/
def Date.civil (d : Date) : Calendar.Civil := Calendar.civil d.days

namespace Instant

instance : LE Instant := ⟨fun a b => a.micros ≤ b.micros⟩
instance : LT Instant := ⟨fun a b => a.micros < b.micros⟩
instance (a b : Instant) : Decidable (a ≤ b) := inferInstanceAs (Decidable (a.micros ≤ b.micros))
instance (a b : Instant) : Decidable (a < b) := inferInstanceAs (Decidable (a.micros < b.micros))

/-- The microseconds from the beginning of year 1 to that of 1970, from where seconds are
counted. -/
def epoch : Nat := 62135596800000000

/-- The instant of so many microseconds since the beginning of year 1, if it is one. -/
def ofMicros? (micros : Int) : Option Instant :=
  if h : 0 ≤ micros ∧ micros < 315537897600000000 then
    some ⟨micros.toNat, by omega⟩
  else none

/-- The time from `b` to `a`. -/
def since (a b : Instant) : Duration :=
  ⟨(a.micros : Int) - b.micros, by
    have := a.inRange
    have := b.inRange
    omega⟩

instance : HSub Instant Instant Duration := ⟨since⟩

/-- The year of so many seconds since the beginning of year 1; also before that and after year
9999. -/
def yearOfSeconds (seconds : Int) : Int :=
  let days := Int.fdiv seconds 86400
  let eras := Int.fdiv days 146097
  eras * 400 + (Calendar.yearAndDay (Int.fmod days 146097).toNat).1

/-- The instant of so many seconds and microseconds since 1970. Seconds must fit 64 bits, and the
years since 1900 must fit 32 bits; a year that does not fit 32 bits itself is reported modulo `2 ^
32`. -/
def ofUnix (seconds : Int) (micros : Nat) : Except Fault Instant :=
  if seconds < -9223372036854775808 ∨ 9223372036854775807 < seconds then
    .error (.range .instantSeconds)
  else
    let total := seconds + 62135596800
    let year := yearOfSeconds total
    if year - 1900 < -2147483648 ∨ 2147483647 < year - 1900 then .error (.file .calendar)
    else
      match ofMicros? (total * 1000000 + micros) with
      | some t => .ok t
      | none => .error (.value (.year (if 2147483647 < year then year - 4294967296 else year)))

/-- The instant of so many seconds since 1970, the part after the point rounded to microseconds, a
tie going to the even one. -/
def ofUnixSeconds (x : Double) : Except Fault Instant :=
  match x with
  | .nan => .error (.value .nanInstant)
  | .infinite _ => .error (.range .instantSeconds)
  | .finite .. =>
    let micros := ((x.fract * .ofInt 1000000).roundEven?).getD 0
    ofUnix (x.trunc?.getD 0 + Int.fdiv micros 1000000) (Int.fmod micros 1000000).toNat

end Instant

namespace Timestamp

/-- The timestamp of an instant in UTC. -/
def ofInstant (t : Instant) : Timestamp := ⟨t.micros, t.inRange, some 0⟩

/-- The instant of a timestamp, one without an offset being in UTC. -/
def toInstant? (t : Timestamp) : Except Fault Instant :=
  match Instant.ofMicros? (t.micros - t.offset.getD 0) with
  | some i => .ok i
  | none => .error (.range .date)

/-- The timestamp of a date and a time of day. -/
def ofParts (days microsOfDay : Nat) (offset : Option Int) : Timestamp :=
  if h : days * 86400000000 + microsOfDay < 315537897600000000 then ⟨_, h, offset⟩
  else ⟨0, by decide, offset⟩

/-! ## Text forms -/

/-- The year, month and day of a civil date as it is written. -/
def dateText (c : Calendar.Civil) : List Char :=
  Decimal.padded 4 c.year ++ '-' :: Decimal.padded 2 c.month ++ '-' :: Decimal.padded 2 c.day

/-- Hours, minutes and seconds, and the microseconds if there are any. -/
def timeText (microsOfDay : Nat) : List Char :=
  let seconds := microsOfDay / 1000000
  let text :=
    Decimal.padded 2 (seconds / 3600) ++ ':' :: Decimal.padded 2 (seconds / 60 % 60) ++
      ':' :: Decimal.padded 2 (seconds % 60)
  if microsOfDay % 1000000 = 0 then text
  else text ++ '.' :: Decimal.padded 6 (microsOfDay % 1000000)

/-- An offset: a sign, hours and minutes, and what is smaller if it is not zero. -/
def offsetText (offset : Int) : List Char :=
  let n := offset.natAbs
  let seconds := n / 1000000
  let text :=
    (if offset < 0 then '-' else '+') :: Decimal.padded 2 (seconds / 3600) ++
      ':' :: Decimal.padded 2 (seconds / 60 % 60)
  if n % 1000000 ≠ 0 then
    text ++ ':' :: Decimal.padded 2 (seconds % 60) ++ '.' :: Decimal.padded 6 (n % 1000000)
  else if seconds % 60 ≠ 0 then text ++ ':' :: Decimal.padded 2 (seconds % 60)
  else text

/-- A timestamp in ISO form, with `separator` between date and time. -/
def isoText (separator : Char) (t : Timestamp) : String :=
  String.ofList <|
    dateText (Calendar.civil (t.micros / 86400000000)) ++
      separator :: timeText (t.micros % 86400000000) ++
      (match t.offset with
        | some offset => offsetText offset
        | none => [])

/-- The form in messages that show data. -/
def shown (t : Timestamp) : String :=
  let c := Calendar.civil (t.micros / 86400000000)
  let ofDay := t.micros % 86400000000
  let seconds := ofDay / 1000000
  let fields : List Nat :=
    [c.year, c.month, c.day, seconds / 3600, seconds / 60 % 60] ++
      (if ofDay % 60000000 = 0 then []
        else if ofDay % 1000000 = 0 then [seconds % 60]
        else [seconds % 60, ofDay % 1000000])
  let zone :=
    match t.offset with
    | none => []
    | some offset =>
      if offset = 0 then ["tzinfo=datetime.timezone.utc"]
      else
        match Duration.ofMicros? offset with
        | .ok d => [s!"tzinfo=datetime.timezone({d.shown})"]
        | .error _ => []
  let numbers := fields.map fun (n : Nat) => Decimal.ofInt n
  "datetime.datetime(" ++ ", ".intercalate (numbers ++ zone) ++ ")"

end Timestamp

/-- A date as it is written. -/
def Date.text (d : Date) : String := String.ofList (Timestamp.dateText d.civil)

/-- A date in messages that show data. -/
def Date.shown (d : Date) : String :=
  let c := d.civil
  s!"datetime.date({c.year}, {c.month}, {c.day})"

/-- An instant in the form `2100-01-01 00:00:00 +0000 UTC`. The year is not filled up with zeros and
fractions of a second are dropped. -/
def Instant.text (t : Instant) : String :=
  let c := Calendar.civil (t.micros / 86400000000)
  let seconds := t.micros % 86400000000 / 1000000
  String.ofList <|
    Decimal.digits c.year ++ '-' :: Decimal.padded 2 c.month ++ '-' :: Decimal.padded 2 c.day ++
      ' ' :: Timestamp.timeText (seconds * 1000000) ++ " +0000 UTC".toList

end Vigil
