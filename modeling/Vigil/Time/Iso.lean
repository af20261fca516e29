import Vigil.Time.Instant

/-!
# Times in ISO form

Reading dates and times such as `2024-06-01T12:00:00.25+02:00`. The date is a calendar date or a
week date, with or without hyphens; any one character stands between date and time; the time has
hours and perhaps minutes, seconds and a fraction, with or without colons; an offset may follow. The
reader works on positions in the text, the character at a position beyond the end being the null
character.
-/

namespace Vigil.Iso

-- Powers are those of the natural numbers themselves.
attribute [local instance (high)] instPowNat

open Calendar

/-- The character at a position. -/
def charAt (cs : List Char) (i : Nat) : Char := cs.getD i '\x00'

/-- The number that `count` digits from a position on make. -/
def digitsAt (cs : List Char) (i count : Nat) : Option Nat :=
  let ds := (List.range count).map fun k => charAt cs (i + k)
  if ds.all Literal.isDigit then some (Decimal.value ds) else none

/-- The position of the character between date and time, or the end of a text that is all date. -/
def separatorAt (cs : List Char) : Option Nat :=
  let size := cs.length
  if size = 7 then some 7
  else if charAt cs 4 = '-' then
    if charAt cs 5 = 'W' then
      if 8 < size && charAt cs 8 = '-' then
        if size = 9 then none
        else if 10 < size && Literal.isDigit (charAt cs 10) then some 8
        else some 10
      else some 8
    else some 10
  else if charAt cs 4 = 'W' then
    let stop := 7 + ((cs.drop 7).takeWhile Literal.isDigit).length
    if stop < 9 then some stop else if stop % 2 = 0 then some 7 else some 8
  else some 8

/-- What a date text says, before the year, month and day are known to make a date. -/
inductive DateText where
  /-- A year, a month and a day. -/
  | civil (c : Civil)
  /-- A year, a week and a day of the week, from 1. -/
  | week (year week day : Nat)

/-- Reads the date that ends at a position. -/
def readDate (cs : List Char) (stop : Nat) : Option DateText := do
  let year ← digitsAt cs 0 4
  let hyphens := charAt cs 4 = '-'
  let i := if hyphens then 5 else 4
  if charAt cs i = 'W' then
    let week ← digitsAt cs (i + 1) 2
    let i := i + 3
    if i < stop then
      if hyphens then
        if charAt cs i = '-' then some (.week year week (← digitsAt cs (i + 1) 1)) else none
      else some (.week year week (← digitsAt cs i 1))
    else some (.week year week 1)
  else
    let month ← digitsAt cs i 2
    let i := i + 2
    if hyphens then
      if charAt cs i = '-' then some (.civil ⟨year, month, ← digitsAt cs (i + 1) 2⟩) else none
    else some (.civil ⟨year, month, ← digitsAt cs i 2⟩)

/-- Whether a week date names a week and a day that its year has. -/
def isWeekDate (year week day : Nat) : Bool :=
  1 ≤ week && (week < 53 || (week = 53 && 1 ≤ year && hasLongYear year)) && 1 ≤ day && day ≤ 7

/-- Hours, minutes, seconds and microseconds as they are written. -/
structure TimeText where
  /-- The hours. -/
  hour : Nat := 0
  /-- The minutes. -/
  minute : Nat := 0
  /-- The seconds. -/
  second : Nat := 0
  /-- The microseconds. -/
  micros : Nat := 0
  /-- Whether something other than the end of the text follows. -/
  more : Bool := false

/-- Reads the fraction of a second from position `i` up to `stop`: six digits at most count, digits
after them are skipped. -/
def readFraction (cs : List Char) (i stop : Nat) (t : TimeText) : Option TimeText := do
  let count := min (stop - i) 6
  let n ← digitsAt cs i count
  let after := i + count + ((cs.drop (i + count)).takeWhile Literal.isDigit).length
  return { t with micros := n * 10 ^ (6 - count), more := charAt cs after ≠ '\x00' }

/-- The fields of a time that are still to be read. -/
inductive Field where
  | hour | minute | second

/-- A time with one of its fields set. -/
def TimeText.set (t : TimeText) (n : Nat) : Field → TimeText
  | .hour => { t with hour := n }
  | .minute => { t with minute := n }
  | .second => { t with second := n }

/-- Reads the fields of a time from position `i` up to `stop`; `colons` tells whether they are
divided by colons, which the first field decides. A single ASCII character may follow the last
field. -/
def readFields (cs : List Char) (stop : Nat) :
    List Field → Nat → Option Bool → TimeText → Option TimeText
  | [], i, _, t => readFraction cs i stop t
  | field :: rest, i, colons, t => do
    let n ← digitsAt cs i 2
    let t := t.set n field
    let c := charAt cs (i + 2)
    let divided := colons.getD (c = ':')
    if stop ≤ i + 3 then
      if c.toNat < 128 then return { t with more := c ≠ '\x00' } else none
    else if divided && c = ':' then readFields cs stop rest (i + 3) (some divided) t
    else if c = '.' || c = ',' then readFraction cs (i + 3) stop t
    else if divided then none
    else readFields cs stop rest (i + 2) (some divided) t

/-- Reads hours, minutes, seconds and a fraction. -/
def readClock (cs : List Char) (stop : Nat) : Option TimeText :=
  readFields cs stop [.hour, .minute, .second] 0 none {}

/-- The seconds of a time. -/
def TimeText.seconds (t : TimeText) : Nat := t.hour * 3600 + t.minute * 60 + t.second

/-- Reads a time of day and the offset after it, the offset in microseconds. -/
def readTime (cs : List Char) : Option (TimeText × Option Int) := do
  let zoneAt := (cs.takeWhile fun c => c ≠ '+' && c ≠ '-' && c ≠ 'Z').length
  let t ← readClock cs zoneAt
  match cs.drop zoneAt with
  | [] => if t.more then none else some (t, none)
  | sign :: zone =>
    if sign = 'Z' then if zone.isEmpty then some (t, some 0) else none
    else
      let z ← readClock zone zone.length
      if z.more then none
      else if z.seconds = 0 then some (t, some 0)
      else
        let n : Nat := z.seconds * 1000000 + z.micros
        some (t, some (if sign = '-' then -(n : Int) else n))

/-- The day number of a date text. -/
def DateText.toDays : DateText → Except ValueFault Nat
  | .civil c =>
    if c.year < 1 ∨ 9999 < c.year then .error (.year c.year)
    else if c.month < 1 ∨ 12 < c.month then .error .month
    else if c.day < 1 ∨ daysInMonth c.year c.month < c.day then .error .day
    else .ok c.toDays
  | .week y w d =>
    if y = 0 then .error .month
    else
      let days := (firstMonday y).toNat + (w - 1) * 7 + (d - 1)
      if days < dayCount then .ok days else .error (.year 10000)

/-- The microseconds of a time of day. -/
def TimeText.toMicros (t : TimeText) : Except ValueFault Nat :=
  if 23 < t.hour then .error .hour
  else if 59 < t.minute then .error .minute
  else if 59 < t.second then .error .second
  else .ok (t.seconds * 1000000 + t.micros)

/-- Whether a date text is well-formed. -/
def DateText.isWellFormed : DateText → Bool
  | .civil _ => true
  | .week y w d => isWeekDate y w d

/-- Reads a date and what may follow it. -/
def readText (cs : List Char) : Option (DateText × TimeText × Option Int) := do
  if cs.length < 7 then none
  else
    let stop ← separatorAt cs
    let date ← readDate cs stop
    if !date.isWellFormed then none
    else if cs.length ≤ stop then some (date, {}, none)
    else
      let (time, offset) ← readTime (cs.drop (stop + 1))
      some (date, time, offset)

/-- Reads a timestamp in ISO form. An offset of a day or more is refused before the date and the
time are looked at. -/
def read (s : String) : Except Fault Timestamp := do
  match readText s.toList with
  | none => throw (.value (.isoText (Text.quoted s)))
  | some (date, time, offset) =>
    let n := offset.getD 0
    if n.natAbs ≥ 86400000000 then
      match Duration.ofMicros? n with
      | .ok d => throw (.value (.offset d.shown))
      | .error e => throw (.range e)
    else
      match date.toDays with
      | .error e => throw (.value e)
      | .ok days =>
        match time.toMicros with
        | .error e => throw (.value e)
        | .ok micros => return Timestamp.ofParts days micros offset

/-- Text with every fraction of more than six digits cut to six; `run` counts the digits since the
last point, if there are only digits since then. -/
def cutFractions (run : Option Nat) : List Char → List Char
  | [] => []
  | c :: rest =>
    if c = '.' then c :: cutFractions (some 0) rest
    else if Text.isDecimalDigit c then
      match run with
      | some n => if n < 6 then c :: cutFractions (some (n + 1)) rest else cutFractions run rest
      | none => c :: cutFractions none rest
    else c :: cutFractions none rest

/-- Text with a `Z` at its end written as an offset of zero. -/
def spellUtc (cs : List Char) : List Char :=
  if cs.getLast? = some 'Z' then cs.dropLast ++ ['+', '0', '0', ':', '0', '0'] else cs

/-- Reads an instant: a timestamp in ISO form with white space around it and a fraction of any
length, in UTC if it has no offset. -/
def readInstant (s : String) : Except Fault Instant := do
  let cs := cutFractions none (spellUtc (Text.trim s.toList))
  (← read (String.ofList cs)).toInstant?

end Vigil.Iso
