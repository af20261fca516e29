import Vigil.Number.Literal
import Vigil.Text.Split
import Vigil.Time.Instant

/-!
# The types of plain texts

A plain text in a YAML document may be a null, a truth value, a number or a time. The forms of each
are given here: truth values are written in words, integers in five notations, and floating-point
numbers always have a point.
-/

namespace Vigil.Yaml

/-- What a node is. -/
inductive Tag where
  /-- Nothing. -/
  | null
  /-- A truth value. -/
  | bool
  /-- An integer. -/
  | int
  /-- A floating-point number. -/
  | float
  /-- Bytes. -/
  | binary
  /-- A date, or a date and time. -/
  | timestamp
  /-- A text. -/
  | str
  /-- A sequence. -/
  | seq
  /-- A mapping. -/
  | map
  /-- A sequence of mappings with one entry each, whose keys differ. -/
  | omap
  /-- A sequence of mappings with one entry each. -/
  | pairs
  /-- A mapping whose values do not matter. -/
  | set
  /-- The key whose value is merged into a mapping. -/
  | merge
  /-- The key of the value of a mapping. -/
  | value
  /-- Anything else. -/
  | other (name : String)
  deriving DecidableEq, Repr

/-- What the names of the tags of this language begin with. -/
def Tag.family : String := "tag:yaml.org,2002:"

/-- The names of tags in the language. -/
def Tag.names : List (String × Tag) :=
  [("null", .null), ("bool", .bool), ("int", .int), ("float", .float), ("binary", .binary),
    ("timestamp", .timestamp), ("str", .str), ("seq", .seq), ("map", .map), ("omap", .omap),
    ("pairs", .pairs), ("set", .set), ("merge", .merge), ("value", .value)]

/-- The tag of a full name. -/
def Tag.ofName (name : String) : Tag :=
  match names.find? fun (short, _) => family ++ short = name with
  | some (_, t) => t
  | none => .other name

namespace Plain

/-- The words of truth values. -/
def boolWords : List String :=
  ["yes", "Yes", "YES", "no", "No", "NO", "true", "True", "TRUE", "false", "False", "FALSE",
    "on", "On", "ON", "off", "Off", "OFF"]

/-- The words of nothing. -/
def nullWords : List String := ["~", "null", "Null", "NULL", ""]

/-- Whether a text is one of some words. -/
def among (words : List String) (cs : List Char) : Bool := words.any (·.toList = cs)

/-- A digit or an underscore. -/
def isDigitOrBar (c : Char) : Bool := Literal.isDigit c || c = '_'

/-- A text without its sign. -/
def unsigned : List Char → List Char
  | '+' :: rest => rest
  | '-' :: rest => rest
  | cs => cs

/-- Whether a text is a number from 0 to 59 of one or two digits. -/
def isSixtieth : List Char → Bool
  | [a] => Literal.isDigit a
  | [a, b] => '0' ≤ a && a ≤ '5' && Literal.isDigit b
  | _ => false

/-- Whether a text is a number of digits and then, after colons, sixtieths, one at least. -/
def isSexagesimal (firstDigit : Char → Bool) (cs : List Char) : Bool :=
  match Text.fields ':' cs with
  | (c :: digits) :: part :: more =>
    firstDigit c && digits.all isDigitOrBar && isSixtieth part && more.all isSixtieth
  | _ => false

/-- A digit that is not zero. -/
def isLeadingDigit (c : Char) : Bool := '1' ≤ c && c ≤ '9'

/-- Whether a text without sign is an integer. -/
def isUnsignedInt (cs : List Char) : Bool :=
  match cs with
  | '0' :: 'b' :: c :: rest => (c :: rest).all fun c => c = '0' || c = '1' || c = '_'
  | '0' :: 'x' :: c :: rest =>
    (c :: rest).all fun c =>
      isDigitOrBar c || ('a' ≤ c && c ≤ 'f') || ('A' ≤ c && c ≤ 'F')
  | ['0'] => true
  | '0' :: rest => rest.all fun c => ('0' ≤ c && c ≤ '7') || c = '_'
  | c :: rest =>
    (isLeadingDigit c && rest.all isDigitOrBar) || isSexagesimal isLeadingDigit cs
  | [] => false

/-- Whether a text is an integer. -/
def isInt (cs : List Char) : Bool := isUnsignedInt (unsigned cs)

/-- Whether a text is an exponent with its sign, or empty. -/
def isExponent : List Char → Bool
  | [] => true
  | e :: sign :: d :: rest =>
    (e = 'e' || e = 'E') && (sign = '+' || sign = '-') && (d :: rest).all Literal.isDigit
  | _ => false

/-- Whether a text is what follows the point of a floating-point number. -/
def isFraction (cs : List Char) : Bool := isExponent (cs.dropWhile isDigitOrBar)

/-- Whether a text without sign has the form of a floating-point number that begins with a digit. -/
def isUnsignedFloat (cs : List Char) : Bool :=
  match cs with
  | c :: _ =>
    let whole := cs.takeWhile isDigitOrBar
    match cs.dropWhile isDigitOrBar with
    | '.' :: rest => Literal.isDigit c && isFraction rest
    | ':' :: _ =>
      let before := cs.takeWhile (· ≠ '.')
      match cs.dropWhile (· ≠ '.') with
      | '.' :: rest =>
        !whole.isEmpty && isSexagesimal Literal.isDigit before && rest.all isDigitOrBar
      | _ => false
    | _ => false
  | [] => false

/-- Whether a text is a floating-point number. -/
def isFloat (cs : List Char) : Bool :=
  isUnsignedFloat (unsigned cs) ||
    (match cs with
      | '.' :: c :: rest => Literal.isDigit c && isFraction rest
      | _ => false) ||
    among [".inf", ".Inf", ".INF"] (unsigned cs) ||
    among [".nan", ".NaN", ".NAN"] cs

/-! ## Times -/

/-- The parts of a time as it is written. -/
structure Moment where
  /-- Year, month and day. -/
  date : Nat × Nat × Nat
  /-- Hour, minute, second and the digits after the point, if there is a time of day. -/
  time : Option (Nat × Nat × Nat × List Char)
  /-- Whether the offset is negative, and its hours and minutes; there is none in UTC. -/
  zone : Option (Option (Bool × Nat × Nat))

/-- A number of some digits, at least `least` and at most `most`, and the rest. -/
def number (least most : Nat) (cs : List Char) : Option (Nat × List Char) :=
  let ds := (cs.takeWhile Literal.isDigit).take most
  if ds.length < least then none else some (Decimal.value ds, cs.drop ds.length)

/-- A character that must come next, and the rest. -/
def expect (c : Char) : List Char → Option (List Char)
  | d :: rest => if d = c then some rest else none
  | [] => none

/-- The offset at the end of a time. -/
def zone : List Char → Option (Option (Option (Bool × Nat × Nat)))
  | [] => some none
  | ['Z'] => some (some none)
  | sign :: rest =>
    if sign = '+' || sign = '-' then
      (number 1 2 rest).bind fun (hours, rest) =>
        match rest with
        | [] => some (some (some (sign = '-', hours, 0)))
        | ':' :: rest =>
          (number 2 2 rest).bind fun (minutes, rest) =>
            if rest.isEmpty then some (some (some (sign = '-', hours, minutes))) else none
        | _ => none
    else none

/-- Whether a blank or a tab. -/
def isSpace (c : Char) : Bool := c = ' ' || c = '\t'

/-- What follows the time of day: blanks and an offset, or nothing. -/
def zoneAfter (cs : List Char) : Option (Option (Option (Bool × Nat × Nat))) :=
  if cs.isEmpty then some none
  else
    match cs.dropWhile isSpace with
    | [] => none
    | rest => zone rest

/-- The time of day after a date, with its offset. -/
def timeOfDay (cs : List Char) :
    Option ((Nat × Nat × Nat × List Char) × Option (Option (Bool × Nat × Nat))) := do
  let (hour, rest) ← number 1 2 cs
  let (minute, rest) ← number 2 2 (← expect ':' rest)
  let (second, rest) ← number 2 2 (← expect ':' rest)
  let (places, rest) := match rest with
    | '.' :: after => (after.takeWhile Literal.isDigit, after.dropWhile Literal.isDigit)
    | _ => ([], rest)
  return ((hour, minute, second, places), ← zoneAfter rest)

/-- What stands between a date and a time of day. -/
def afterDate : List Char → Option (List Char)
  | c :: rest =>
    if c = 'T' || c = 't' then some rest
    else if isSpace c then some (rest.dropWhile isSpace)
    else none
  | [] => none

/-- The parts of a time. `strict` asks for two digits of month and day where there is no time of
day. -/
def moment? (strict : Bool) (cs : List Char) : Option Moment := do
  let (year, rest) ← number 4 4 cs
  let afterYear ← expect '-' rest
  let (month, rest) ← number 1 2 afterYear
  let (day, rest) ← number 1 2 (← expect '-' rest)
  if rest.isEmpty then
    if strict && cs.length ≠ 10 then none
    else return ⟨(year, month, day), none, none⟩
  else
    let (time, zone) ← timeOfDay (← afterDate rest)
    return ⟨(year, month, day), some time, zone⟩

/-- Whether a text is a date or a time. -/
def isTimestamp (cs : List Char) : Bool := (moment? true cs).isSome

/-- What a plain text is. -/
def tagOf (cs : List Char) : Tag :=
  if among boolWords cs then .bool
  else if isFloat cs then .float
  else if isInt cs then .int
  else if cs = ['<', '<'] then .merge
  else if among nullWords cs then .null
  else if isTimestamp cs then .timestamp
  else if cs = ['='] then .value
  else .str

end Plain

end Vigil.Yaml
