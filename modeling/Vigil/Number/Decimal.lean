import Vigil.Number.Double

/-!
# Decimal text of numbers

The decimal forms in which numbers are written: all digits of an integer, a fixed number of places,
a fixed number of significant digits with trailing zeros dropped, and the fewest digits that read
back as the same number. The reader of decimal digits stands beside them.
-/

namespace Vigil

-- Powers are those of the natural numbers themselves.
attribute [local instance (high)] instPowNat

namespace Decimal

/-- The digits of a natural number, the most significant first. -/
def digits (n : Nat) : List Char := Nat.toDigits 10 n

/-- The number written with these decimal digits. -/
def value (cs : List Char) : Nat := cs.foldl (fun n c => n * 10 + (c.toNat - 48)) 0

/-- How many digits a natural number has. -/
def length (n : Nat) : Nat := (digits n).length

/-- The digits of a number, filled up with zeros on the left to a width. -/
def padded (width n : Nat) : List Char :=
  let ds := digits n
  List.replicate (width - ds.length) '0' ++ ds

/-- Digits without the zeros at their end. -/
def dropTrailingZeros (cs : List Char) : List Char := (cs.reverse.dropWhile (· = '0')).reverse

/-- An integer in decimal. -/
def ofInt (n : Int) : String :=
  String.ofList (if n < 0 then '-' :: digits n.natAbs else digits n.natAbs)

/-- The exponent of ten of the first digit of `num / den`, both positive. -/
def leadingExponent (num den : Nat) : Int :=
  if den ≤ num then (length (num / den) : Int) - 1
  else
    let inverse := den / num
    let size := length inverse
    if inverse = 10 ^ (size - 1) ∧ den % num = 0 then -((size : Int) - 1) else -(size : Int)

/-- `num / den` as a fraction of `10 ^ exponent`. -/
def scaleBy (num den : Nat) (exponent : Int) : Nat × Nat :=
  match exponent with
  | .ofNat e => (num, den * 10 ^ e)
  | .negSucc e => (num * 10 ^ (e + 1), den)

/-- The significant digits of a positive number: `mantissa` has exactly `count` digits and stands
for the number `mantissa * 10 ^ (exponent - count + 1)`. -/
structure Significant where
  /-- The digits, read as a natural number. -/
  mantissa : Nat
  /-- The power of ten of the first digit. -/
  exponent : Int

/-- `num / den` rounded to `count` significant digits, a tie going to the even digit. -/
def significant (count num den : Nat) : Significant :=
  let exponent := leadingExponent num den
  let (a, b) := scaleBy num den (exponent - (count : Int) + 1)
  let mantissa := roundDiv a b
  if mantissa = 10 ^ count then ⟨10 ^ (count - 1), exponent + 1⟩ else ⟨mantissa, exponent⟩

/-- The double nearest to `mantissa * 10 ^ exponent`. -/
def toDouble (negative : Bool) (mantissa : Nat) (exponent : Int) : Double :=
  if mantissa = 0 then .zero negative
  else
    let size := exponent + length mantissa
    if size > 400 then .infinite negative
    else if size < -400 then .zero negative
    else
      match exponent with
      | .ofNat e => .ofRatio negative (mantissa * 10 ^ e) 1
      | .negSucc e => .ofRatio negative mantissa (10 ^ (e + 1))

/-- The fewest digits of a positive `num / den` that read back as the double `x`: on the coarsest
grid of decimals that has a point which reads back, the nearest such point. -/
def shortestFrom (x : Double) (num den : Nat) (exponent : Int) : Nat → Nat → Significant
  | count, 0 => ⟨(significant count num den).mantissa, exponent⟩
  | count, fuel + 1 =>
    let place := exponent - (count : Int) + 1
    let (a, b) := scaleBy num den place
    let below := a / b
    let fits (m : Nat) : Bool := toDouble false m place = x
    let nearest := roundDiv a b
    let other := if nearest = below then below + 1 else below
    let done (m : Nat) : Significant :=
      if m = 10 ^ count then ⟨10 ^ (count - 1), exponent + 1⟩ else ⟨m, exponent⟩
    if fits nearest then done nearest
    else if fits other then done other
    else shortestFrom x num den exponent (count + 1) fuel

/-- The exponent part of a number: a sign and at least two digits. -/
def exponentText (e : Int) : List Char :=
  'e' :: (if e < 0 then '-' else '+') :: padded 2 e.natAbs

/-- Significant digits in positional notation. -/
def positional (ds : List Char) (exponent : Int) : List Char × List Char :=
  match exponent with
  | .ofNat e =>
    (ds.take (e + 1) ++ List.replicate (e + 1 - ds.length) '0', ds.drop (e + 1))
  | .negSucc e => (['0'], List.replicate e '0' ++ ds)

/-- A whole part and the digits after the point, with no point where there are none. -/
def withPoint (parts : List Char × List Char) : List Char :=
  if parts.2.isEmpty then parts.1 else parts.1 ++ '.' :: parts.2

end Decimal

namespace Double

/-- The text of numbers that are not finite. -/
def unusualText : Double → Option String
  | .nan => some "nan"
  | .infinite false => some "inf"
  | .infinite true => some "-inf"
  | .finite .. => none

/-- The magnitude of a finite number, in smallest positive numbers. -/
def magnitude : Double → Nat
  | .finite _ mantissa unit _ => mantissa * 2 ^ unit
  | _ => 0

/-- Digits with the sign of a number. -/
def signed (x : Double) (cs : List Char) : String :=
  String.ofList (if x.isNegative then '-' :: cs else cs)

/-- The digits of a number with exactly `places` of them after the point, the exact value being
rounded and a tie going to the even digit. -/
def fixedDigits (places magnitude : Nat) : List Char :=
  let n := roundDiv (magnitude * 10 ^ places) unitsPerOne
  Decimal.digits (n / 10 ^ places) ++
    (if places = 0 then [] else '.' :: Decimal.padded places (n % 10 ^ places))

/-- A number with exactly `places` digits after the point. -/
def fixed (places : Nat) (x : Double) : String :=
  x.unusualText.getD (x.signed (fixedDigits places x.magnitude))

/-- A number with six significant digits and no zeros at the end; positional from `0.0001` up to one
million, with an exponent otherwise. -/
def general (x : Double) : String :=
  x.unusualText.getD <| x.signed <|
    if x.magnitude = 0 then ['0']
    else
      let ⟨mantissa, exponent⟩ := Decimal.significant 6 x.magnitude unitsPerOne
      if -4 ≤ exponent ∧ exponent < 6 then
        let (whole, rest) := Decimal.positional (Decimal.digits mantissa) exponent
        Decimal.withPoint (whole, Decimal.dropTrailingZeros rest)
      else
        let ds := Decimal.dropTrailingZeros (Decimal.digits mantissa)
        Decimal.withPoint (ds.take 1, ds.drop 1) ++ Decimal.exponentText exponent

/-- The fewest significant digits that read back as this positive magnitude. -/
def shortestDigits (x : Double) : List Char × Int :=
  let ⟨mantissa, exponent⟩ :=
    Decimal.shortestFrom (if x.isNegative then -x else x) x.magnitude unitsPerOne
      (Decimal.leadingExponent x.magnitude unitsPerOne) 1 16
  (Decimal.dropTrailingZeros (Decimal.digits mantissa), exponent)

/-- A number with the fewest digits that read back as the same number; positional from `0.0001` up
to `10 ^ 16`, with an exponent otherwise. A positional number always has a digit after the point. -/
def shortest (x : Double) : String :=
  x.unusualText.getD <| x.signed <|
    if x.magnitude = 0 then ['0', '.', '0']
    else
      let (ds, exponent) := x.shortestDigits
      if -4 ≤ exponent ∧ exponent < 16 then
        let (whole, rest) := Decimal.positional ds exponent
        whole ++ '.' :: (if rest.isEmpty then ['0'] else rest)
      else Decimal.withPoint (ds.take 1, ds.drop 1) ++ Decimal.exponentText exponent

end Double

end Vigil
