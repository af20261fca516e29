import Vigil.Fault
import Vigil.Number.Literal

/-!
# Durations

Spans of time in whole microseconds, with three text forms: the human form `1y2d3h4m5s`, the short
form of thresholds `1m30s`, and the clock form `1 day, 0:00:01`. `Duration.parse` reads numbers of
seconds and sequences of numbers with units.
-/

namespace Vigil

/-- A span of time, of less than a billion days in either direction. -/
structure Duration where
  /-- The length in microseconds. -/
  micros : Int
  /-- The days of the span, rounded down, have at most nine digits. -/
  inRange : -86399999913600000000 ≤ micros ∧ micros ≤ 86399999999999999999
  deriving DecidableEq

namespace Duration

/-- The microseconds of a second. -/
def microsPerSecond : Nat := 1000000

/-- The microseconds of a day. -/
def microsPerDay : Nat := 86400000000

/-- No time at all. -/
def zero : Duration := ⟨0, by decide⟩

/-- The duration of so many microseconds. -/
def ofMicros? (micros : Int) : Except RangeFault Duration :=
  if h : -86399999913600000000 ≤ micros ∧ micros ≤ 86399999999999999999 then .ok ⟨micros, h⟩
  else
    let days := Int.fdiv micros microsPerDay
    if days < -2147483648 ∨ 2147483647 < days then .error .dayCount
    else .error (.durationDays days)

/-- A duration is the one of its microseconds. -/
theorem ofMicros?_micros (d : Duration) : ofMicros? d.micros = .ok d := by
  rw [ofMicros?, dif_pos d.inRange]

/-- A whole number of seconds, up to a day. -/
def seconds (n : Nat) (h : n ≤ 86400 * 366 := by decide) : Duration :=
  ⟨n * 1000000, by omega⟩

instance : LE Duration := ⟨fun a b => a.micros ≤ b.micros⟩
instance : LT Duration := ⟨fun a b => a.micros < b.micros⟩
instance (a b : Duration) : Decidable (a ≤ b) := inferInstanceAs (Decidable (a.micros ≤ b.micros))
instance (a b : Duration) : Decidable (a < b) := inferInstanceAs (Decidable (a.micros < b.micros))

/-- The length in seconds, rounded to the nearest double. -/
def toSeconds (d : Duration) : Double :=
  .ofRatio (d.micros < 0) d.micros.natAbs microsPerSecond

/-- Lifts a fault of range. -/
def liftRange {α : Type} : Except RangeFault α → Except Fault α
  | .ok a => .ok a
  | .error e => .error (.range e)

/-- The integer part of a number. -/
def integerPart (x : Double) : Except Fault Int :=
  match x with
  | .nan => .error (.value .nanToInt)
  | .infinite _ => .error (.range .infinityToInt)
  | .finite .. => .ok (x.trunc?.getD 0)

/-- The duration of so many seconds, rounded to whole microseconds: the part after the point is
multiplied first and the product then rounded to the nearest integer, a tie going to the even
one. -/
def ofSeconds? (x : Double) : Except Fault Duration := do
  let whole ← integerPart x
  let micros := ((Double.ofInt microsPerSecond * x.fract).roundEven?).getD 0
  liftRange (ofMicros? (whole * microsPerSecond + micros))

/-- The duration nearest to so many microseconds. -/
def ofMicroseconds? (x : Double) : Except Fault Duration := do
  let _ ← integerPart x
  liftRange (ofMicros? (x.roundEven?.getD 0))

/-! ## Text forms -/

/-- A duration of at least a second in the human form, from its whole seconds: the fields from the
first one that is not zero on. -/
def humanFields (total : Nat) : List (Nat × Char) :=
  let minutes := total / 60
  let hours := minutes / 60
  let days := hours / 24
  let years := days / 365
  if 0 < years then
    [(years, 'y'), (days % 365, 'd'), (hours % 24, 'h'), (minutes % 60, 'm'), (total % 60, 's')]
  else if 0 < days then [(days, 'd'), (hours % 24, 'h'), (minutes % 60, 'm'), (total % 60, 's')]
  else if 0 < hours then [(hours, 'h'), (minutes % 60, 'm'), (total % 60, 's')]
  else if 0 < minutes then [(minutes, 'm'), (total % 60, 's')]
  else []

/-- The text of fields, each a number and the letter of its unit. -/
def fieldText (fields : List (Nat × Char)) : List Char :=
  fields.flatMap fun (n, letter) => Decimal.digits n ++ [letter]

/-- A duration that is not negative in the human form. -/
def humanMagnitude (total : Double) : String :=
  let fields := humanFields ((total.trunc?).getD 0).toNat
  if fields.isEmpty then total.fixed 2 ++ "s" else String.ofList (fieldText fields)

/-- The human form: `1y2d3h4m5s`, or seconds with two places below one minute. -/
def humanize (d : Duration) : String :=
  if d.micros < 0 then "-" ++ humanMagnitude (-d.toSeconds) else humanMagnitude d.toSeconds

/-- The short form, as in thresholds: `500ms`, `1s`, `1m30s`, `2h0m0s`. -/
def short (d : Duration) : String :=
  let total := d.toSeconds
  if 0 < d.micros ∧ d.micros < 1000000 then
    if 1000 ≤ d.micros then (total * .ofInt 1000).general ++ "ms"
    else (total * .ofInt 1000000).general ++ "us"
  else if d.micros < 60000000 then total.general ++ "s"
  else
    let whole := ((total.trunc?).getD 0).toNat
    let hours := whole / 3600
    let minutes := whole % 3600 / 60
    let seconds := total - .ofInt (hours * 3600) - .ofInt (minutes * 60)
    let tail := s!"{minutes}m" ++ seconds.general ++ "s"
    if hours = 0 then tail else s!"{hours}h" ++ tail

/-- The clock form: hours, minutes and seconds after the days, rounded down, that are not zero. -/
def clock (d : Duration) : String :=
  let days := Int.fdiv d.micros microsPerDay
  let rest := (Int.fmod d.micros microsPerDay).toNat
  let micros := rest % 1000000
  let seconds := rest / 1000000
  let time :=
    Decimal.digits (seconds / 3600) ++ ':' :: Decimal.padded 2 (seconds / 60 % 60) ++
      ':' :: Decimal.padded 2 (seconds % 60)
  let time := if micros = 0 then time else time ++ '.' :: Decimal.padded 6 micros
  let unit := if days = 1 ∨ days = -1 then " day, " else " days, "
  (if days = 0 then "" else Decimal.ofInt days ++ unit) ++ String.ofList time

/-- The form in messages that show data: the days, seconds and microseconds that are not zero. -/
def shown (d : Duration) : String :=
  let rest := (Int.fmod d.micros microsPerDay).toNat
  let parts : List (String × Int) :=
    [("days=", Int.fdiv d.micros microsPerDay), ("seconds=", rest / 1000000),
      ("microseconds=", rest % 1000000)]
  let parts := (parts.filter (·.2 ≠ 0)).map fun (name, n) => name ++ Decimal.ofInt n
  "datetime.timedelta(" ++ (if parts.isEmpty then "0" else ", ".intercalate parts) ++ ")"

/-! ## Reading -/

/-- The units of a duration text. -/
inductive Unit where
  | nano | micro | milli | second | minute | hour | day | week | year
  deriving DecidableEq

namespace Unit

/-- The unit as it is written. -/
def text : Unit → List Char
  | .nano => ['n', 's']
  | .micro => ['u', 's']
  | .milli => ['m', 's']
  | .second => ['s']
  | .minute => ['m']
  | .hour => ['h']
  | .day => ['d']
  | .week => ['w']
  | .year => ['y']

/-- The seconds of a unit. -/
def seconds : Unit → Double
  | .nano => Decimal.toDouble false 1 (-9)
  | .micro => Decimal.toDouble false 1 (-6)
  | .milli => Decimal.toDouble false 1 (-3)
  | .second => .ofInt 1
  | .minute => .ofInt 60
  | .hour => .ofInt 3600
  | .day => .ofInt 86400
  | .week => .ofInt (7 * 86400)
  | .year => .ofInt (365 * 86400)

/-- The unit that a text begins with, and the rest; of two units the longer one. -/
def read? : List Char → Option (Unit × List Char)
  | 'n' :: 's' :: rest => some (.nano, rest)
  | 'u' :: 's' :: rest => some (.micro, rest)
  | 'm' :: 's' :: rest => some (.milli, rest)
  | 's' :: rest => some (.second, rest)
  | 'm' :: rest => some (.minute, rest)
  | 'h' :: rest => some (.hour, rest)
  | 'd' :: rest => some (.day, rest)
  | 'w' :: rest => some (.week, rest)
  | 'y' :: rest => some (.year, rest)
  | _ => none

end Unit

/-- A number, as it is written, with a unit. -/
structure Part where
  /-- The digits before the point. -/
  whole : List Char
  /-- The digits after the point, if there is one. -/
  places : Option (List Char)
  /-- The unit. -/
  unit : Unit

/-- A part as it is written. -/
def Part.text (p : Part) : List Char :=
  p.whole ++ (match p.places with
    | some ds => '.' :: ds
    | none => []) ++ p.unit.text

/-- The seconds of a part: its number times its unit, rounded once each. -/
def Part.seconds (p : Part) : Double :=
  let number := p.whole ++ (match p.places with
    | some ds => '.' :: ds
    | none => [])
  ((Literal.readDouble number).getD .nan) * p.unit.seconds

/-- The first part of a text and the rest. -/
def Part.read? (cs : List Char) : Option (Part × List Char) :=
  let whole := cs.takeWhile Text.isDecimalDigit
  let rest := cs.dropWhile Text.isDecimalDigit
  if whole.isEmpty then none
  else
    let (places, rest) :=
      match rest with
      | '.' :: after =>
        if (after.takeWhile Text.isDecimalDigit).isEmpty then (none, rest)
        else (some (after.takeWhile Text.isDecimalDigit), after.dropWhile Text.isDecimalDigit)
      | _ => (none, rest)
    (Unit.read? rest).map fun (unit, rest) => (⟨whole, places, unit⟩, rest)

/-- The parts that a whole text consists of; at most `fuel` are read. -/
def partsFrom : Nat → List Char → Option (List Part)
  | _, [] => some []
  | 0, _ :: _ => none
  | fuel + 1, cs =>
    match Part.read? cs with
    | none => none
    | some (p, rest) => (partsFrom fuel rest).map (p :: ·)

/-- The parts that a whole text consists of, one at least. -/
def parts? (cs : List Char) : Option (List Part) :=
  if cs.isEmpty then none else partsFrom cs.length cs

/-- The seconds of parts, added from the left. -/
def totalSeconds (parts : List Part) : Double :=
  parts.foldl (fun sum p => sum + p.seconds) (.ofInt 0)

/-- Reads a duration: a number of seconds, or numbers with units one after the other. White space
around them is skipped. -/
def parse (s : String) : Except Fault Duration :=
  let cs := Text.trim s.toList
  match Literal.readDouble cs with
  | some .nan => .error (.value (.duration (Text.quoted s)))
  | some x => ofSeconds? x
  | none =>
    match parts? cs with
    | some parts => ofSeconds? (totalSeconds parts)
    | none => .error (.value (.duration (Text.quoted s)))

end Duration

end Vigil
