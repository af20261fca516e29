/-!
# Binary floating-point numbers

An exact model of the 64-bit binary floating-point numbers. A finite number is a whole multiple of
the smallest positive one, so comparing, adding and multiplying finite numbers are computations on
integers. Every operation computes its exact result and rounds it once, to the nearest number, a tie
going to the one with the even mantissa.
-/

namespace Vigil

-- Powers are those of the natural numbers themselves.
attribute [local instance (high)] instPowNat

/-- `num / den` rounded to the nearest natural number, a tie going to the even neighbour. -/
def roundDiv (num den : Nat) : Nat :=
  let quotient := num / den
  let twice := 2 * (num % den)
  if twice < den ∨ (twice = den ∧ quotient % 2 = 0) then quotient else quotient + 1

/-- Rounding an exact multiple gives the factor. -/
theorem roundDiv_mul_left (quotient : Nat) {den : Nat} (h : 0 < den) :
    roundDiv (quotient * den) den = quotient := by
  simp [roundDiv, Nat.mul_div_cancel _ h, h]

/-- `num / den` rounded to the nearest integer, a tie going to the even neighbour. -/
def roundDivInt (num : Int) (den : Nat) : Int :=
  if num < 0 then -(roundDiv num.natAbs den : Int) else roundDiv num.natAbs den

/-- A 64-bit binary floating-point number. A finite one has the value
`± mantissa * 2 ^ unit` times the smallest positive number, which is `2 ^ -1074`. -/
inductive Double where
  /-- Not a number. -/
  | nan
  /-- An infinity and its sign. -/
  | infinite (negative : Bool)
  /-- A finite number; each has exactly one mantissa and unit. -/
  | finite (negative : Bool) (mantissa unit : Nat)
      (canonical : mantissa < 2 ^ (53 : Nat) ∧ unit ≤ 2045 ∧ (2 ^ (52 : Nat) ≤ mantissa ∨ unit = 0))
  deriving DecidableEq

namespace Double

/-- The number of smallest positive numbers in one. -/
def unitsPerOne : Nat := 2 ^ (1074 : Nat)

/-- Zero with a sign. -/
def zero (negative : Bool) : Double := .finite negative 0 0 (by decide)

/-- The number with this mantissa and unit, an infinity if they are too large to be one. -/
def ofParts (negative : Bool) (mantissa unit : Nat) : Double :=
  if h : mantissa < 2 ^ (53 : Nat) ∧ unit ≤ 2045 ∧ (2 ^ (52 : Nat) ≤ mantissa ∨ unit = 0) then
    .finite negative mantissa unit h
  else .infinite negative

/-- The number nearest to `num / den` smallest positive numbers. -/
def roundUnits (negative : Bool) (num den : Nat) : Double :=
  let unit := Nat.log2 (num / den) - 52
  let mantissa := roundDiv num (den * 2 ^ unit)
  if mantissa = 2 ^ (53 : Nat) then ofParts negative (2 ^ (52 : Nat)) (unit + 1)
  else ofParts negative mantissa unit

/-- The number nearest to `num / den`. -/
def ofRatio (negative : Bool) (num den : Nat) : Double :=
  roundUnits negative (num * unitsPerOne) den

/-- The number nearest to an integer, an infinity if the integer is too large. -/
def ofInt (n : Int) : Double := ofRatio (n < 0) n.natAbs 1

/-- Whether this is a finite number. -/
def isFinite : Double → Bool
  | .finite .. => true
  | _ => false

/-- Whether the sign is negative; zeros have a sign too. -/
def isNegative : Double → Bool
  | .nan => false
  | .infinite negative => negative
  | .finite negative .. => negative

/-- A finite number as an integer count of smallest positive numbers. -/
def units? : Double → Option Int
  | .finite negative mantissa unit _ =>
    let magnitude : Nat := mantissa * 2 ^ unit
    some (if negative then -(magnitude : Int) else magnitude)
  | _ => none

/-- The number nearest to an integer over a natural number, in smallest positive numbers;
`negative` is the sign of an exact zero. -/
def ofUnits (num : Int) (den : Nat) (negative : Bool) : Double :=
  roundUnits (if num = 0 then negative else num < 0) num.natAbs den

/-- The number with the opposite sign. -/
def neg : Double → Double
  | .nan => .nan
  | .infinite negative => .infinite (!negative)
  | .finite negative mantissa unit h => .finite (!negative) mantissa unit h

instance : Neg Double := ⟨neg⟩

/-- The sum, rounded once. A zero sum is negative only when both parts are. -/
def add : Double → Double → Double
  | .nan, _ => .nan
  | _, .nan => .nan
  | .infinite s, .infinite t => if s = t then .infinite s else .nan
  | .infinite s, _ => .infinite s
  | _, .infinite t => .infinite t
  | x@(.finite s ..), y@(.finite t ..) =>
    match x.units?, y.units? with
    | some a, some b => ofUnits (a + b) 1 (s && t)
    | _, _ => .nan

instance : Add Double := ⟨add⟩

/-- The difference, rounded once. -/
def sub (x y : Double) : Double := x + -y

instance : Sub Double := ⟨sub⟩

/-- Whether this is a zero of either sign. -/
def isZero (x : Double) : Bool := x.units? = some 0

/-- The product, rounded once. -/
def mul (x y : Double) : Double :=
  let negative := x.isNegative != y.isNegative
  match x.units?, y.units? with
  | some a, some b => ofUnits (a * b) unitsPerOne negative
  | _, _ =>
    if x = .nan ∨ y = .nan ∨ x.isZero ∨ y.isZero then .nan else .infinite negative

instance : Mul Double := ⟨mul⟩

/-- The quotient of two finite numbers, the divisor not being zero, rounded once. -/
def divFinite (a b : Int) (negative : Bool) : Double :=
  roundUnits negative (a.natAbs * unitsPerOne) b.natAbs

/-- The quotient, rounded once; a quotient by zero is an infinity or not a number. -/
def div (x y : Double) : Double :=
  let negative := x.isNegative != y.isNegative
  match x.units?, y.units? with
  | some a, some b =>
    if b = 0 then (if a = 0 then .nan else .infinite negative) else divFinite a b negative
  | some _, none => if y = .nan then .nan else zero negative
  | none, some _ => if x = .nan then .nan else .infinite negative
  | none, none => .nan

instance : Div Double := ⟨div⟩

/-- The order of two numbers, zeros being equal; no number stands in an order to `nan`. -/
def compare? (x y : Double) : Option Ordering :=
  match x, y with
  | .nan, _ => none
  | _, .nan => none
  | .infinite s, .infinite t => some (compare t.toNat s.toNat)
  | .infinite s, .finite .. => some (if s then .lt else .gt)
  | .finite .., .infinite t => some (if t then .gt else .lt)
  | .finite .., .finite .. =>
    match x.units?, y.units? with
    | some a, some b => some (compare a b)
    | _, _ => none

/-- The exact order of a number and an integer. -/
def compareInt? (x : Double) (n : Int) : Option Ordering :=
  match x with
  | .nan => none
  | .infinite s => some (if s then .lt else .gt)
  | .finite .. =>
    match x.units? with
    | some a => some (compare a (n * (unitsPerOne : Int)))
    | none => none

/-- The integer part of a finite number, toward zero. -/
def trunc? (x : Double) : Option Int := x.units?.map (Int.tdiv · (unitsPerOne : Int))

/-- The part of a finite number after the point, with the sign of the number; exact. -/
def fract (x : Double) : Double :=
  match x.units? with
  | some a => ofUnits (Int.tmod a (unitsPerOne : Int)) 1 x.isNegative
  | none => x

/-- Whether this is a finite number with nothing after the point. -/
def isInteger (x : Double) : Bool :=
  match x.units? with
  | some a => Int.tmod a (unitsPerOne : Int) = 0
  | none => false

/-- The integer nearest to a finite number, a tie going to the even neighbour. -/
def roundEven? (x : Double) : Option Int := x.units?.map (roundDivInt · unitsPerOne)

/-- The largest whole number not above this one. -/
def floor (x : Double) : Double :=
  match x.units? with
  | some a => ofUnits (Int.fdiv a (unitsPerOne : Int) * (unitsPerOne : Int)) 1 x.isNegative
  | none => x

/-- The quotient rounded down to a whole number, for a divisor that is not zero: the exact remainder
is taken off first, the difference divided with one rounding, and the result rounded to the whole
number it is next to. -/
def floorDiv (x y : Double) : Double :=
  match x.units?, y.units? with
  | some a, some b =>
    let remainder := Int.fmod a b
    let quotient := (x - ofUnits (Int.tmod a b) 1 x.isNegative) / y
    let quotient := if remainder ≠ Int.tmod a b then quotient - ofInt 1 else quotient
    if quotient.isZero then zero (x.isNegative != y.isNegative)
    else
      let whole := quotient.floor
      if (quotient - whole).compare? (ofRatio false 1 2) = some .gt then whole + ofInt 1 else whole
  | some a, none =>
    if y = .nan then .nan
    else if a = 0 then zero (x.isNegative != y.isNegative)
    else if x.isNegative = y.isNegative then zero false else -ofInt 1
  | none, _ => .nan

end Double

end Vigil
