import Vigil.Number.Decimal
import Vigil.Text.Blank
import Vigil.Text.DecimalDigit

/-!
# Number literals

Reading integers and floating-point numbers that stand alone in a text. Digits of every script count
as digits, white space around the number is skipped, and a single underscore may stand between two
digits.
-/

namespace Vigil.Literal

/-- An ASCII digit. -/
def isDigit (c : Char) : Bool := '0' ≤ c && c ≤ '9'

/-- A text with the digits and the white space of all scripts replaced by those of ASCII; the text
stops at the first character beyond ASCII that is neither, which a `?` stands for. -/
def toAscii : List Char → List Char
  | [] => []
  | c :: rest =>
    if c.toNat < 127 then c :: toAscii rest
    else if Text.isBlank c then ' ' :: toAscii rest
    else
      match Text.decimalDigit? c with
      | some d => Text.asciiDigit d :: toAscii rest
      | none => ['?']

/-- The body of a literal of ASCII characters: what is left without white space around it. -/
def body (cs : List Char) : List Char := Text.trimBy Text.isAsciiBlank cs

/-- A sign and what follows it. -/
def splitSign : List Char → Bool × List Char
  | '-' :: rest => (true, rest)
  | '+' :: rest => (false, rest)
  | cs => (false, cs)

/-- Text without underscores, if each of them stands between two digits; `afterDigit` tells whether
the character before was a digit. -/
def dropUnderscores (afterDigit : Bool) : List Char → Option (List Char)
  | [] => some []
  | '_' :: c :: rest =>
    if afterDigit && isDigit c then (dropUnderscores true rest).map (c :: ·) else none
  | c :: rest => if c = '_' then none else (dropUnderscores (isDigit c) rest).map (c :: ·)

/-- Why a text is no integer. -/
inductive IntFault where
  /-- It has not the form of an integer. -/
  | malformed
  /-- It has more digits than are read. -/
  | tooManyDigits (count : Nat)

/-- The largest number of digits that an integer is read from or written with. -/
def maxDigits : Nat := 4300

/-- The digits at the beginning of a text, single underscores between them dropped, and the rest;
none if an underscore is not followed by a digit. -/
def digitRun : List Char → Option (List Char × List Char)
  | '_' :: c :: rest =>
    if isDigit c then (digitRun rest).map fun (ds, after) => (c :: ds, after) else none
  | c :: rest =>
    if isDigit c then (digitRun rest).map fun (ds, after) => (c :: ds, after)
    else if c = '_' then none else some ([], c :: rest)
  | [] => some ([], [])

/-- Reads an integer in decimal from ASCII characters. -/
def readAsciiInt (cs : List Char) : Except IntFault Int :=
  let (negative, rest) := splitSign (body cs)
  if rest.head? = some '_' then .error .malformed
  else
    match digitRun rest with
    | none => .error .malformed
    | some (ds, after) =>
      if maxDigits < ds.length then .error (.tooManyDigits ds.length)
      else if ds.isEmpty || !after.isEmpty then .error .malformed
      else
        let n : Nat := Decimal.value ds
        .ok (if negative then -(n : Int) else n)

/-- Reads an integer in decimal. -/
def readInt (cs : List Char) : Except IntFault Int := readAsciiInt (toAscii cs)

/-- The exponent of a floating-point literal, if the text has the form of one or is empty. -/
def readExponent : List Char → Option Int
  | [] => some 0
  | e :: rest =>
    if e = 'e' || e = 'E' then
      let (negative, ds) := splitSign rest
      if ds.isEmpty || !ds.all isDigit then none
      else
        let n : Nat := Decimal.value ds
        some (if negative then -(n : Int) else n)
    else none

/-- Whether a text is one of some words, letters of both cases being equal. -/
def isWord (words : List String) (cs : List Char) : Bool :=
  words.any fun word => word.toList = cs.map Char.toLower

/-- Reads a floating-point number without underscores. -/
def readPlainDouble (cs : List Char) : Option Double :=
  let (negative, rest) := splitSign cs
  if isWord ["inf", "infinity"] rest then some (.infinite negative)
  else if isWord ["nan"] rest then some .nan
  else
    let whole := rest.takeWhile isDigit
    let rest := rest.dropWhile isDigit
    let (places, rest) :=
      match rest with
      | '.' :: after => (after.takeWhile isDigit, after.dropWhile isDigit)
      | _ => ([], rest)
    if whole.isEmpty && places.isEmpty then none
    else
      (readExponent rest).map fun exponent =>
        Decimal.toDouble negative (Decimal.value (whole ++ places)) (exponent - places.length)

/-- Reads a floating-point number from ASCII characters. -/
def readAsciiDouble (cs : List Char) : Option Double :=
  (dropUnderscores false (body cs)).bind readPlainDouble

/-- Reads a floating-point number. -/
def readDouble (cs : List Char) : Option Double := readAsciiDouble (toAscii cs)

end Vigil.Literal
