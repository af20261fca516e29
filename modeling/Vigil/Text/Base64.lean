/-!
# Base64

Bytes written with 64 characters, four of them for three bytes. Reading is lenient: what is none of
the characters is skipped, and what follows complete padding is not looked at.
-/

namespace Vigil.Text.Base64

/-- The character of a number below 64. -/
def digit (n : Nat) : Char :=
  if n < 26 then Char.ofNat (65 + n)
  else if n < 52 then Char.ofNat (71 + n)
  else if n < 62 then Char.ofNat (n - 4)
  else if n = 62 then '+'
  else '/'

/-- The number of a character. -/
def digit? (c : Char) : Option Nat :=
  if 'A' ≤ c && c ≤ 'Z' then some (c.toNat - 65)
  else if 'a' ≤ c && c ≤ 'z' then some (c.toNat - 71)
  else if '0' ≤ c && c ≤ '9' then some (c.toNat + 4)
  else if c = '+' then some 62
  else if c = '/' then some 63
  else none

/-- Bytes as they are written, with padding. -/
def encode : List UInt8 → List Char
  | a :: b :: c :: rest =>
    let n := (a.toNat * 256 + b.toNat) * 256 + c.toNat
    digit (n / 262144) :: digit (n / 4096 % 64) :: digit (n / 64 % 64) :: digit (n % 64) ::
      encode rest
  | [a, b] =>
    let n := (a.toNat * 256 + b.toNat) * 4
    [digit (n / 4096), digit (n / 64 % 64), digit (n % 64), '=']
  | [a] =>
    let n := a.toNat * 16
    [digit (n / 64), digit (n % 64), '=', '=']
  | [] => []

/-- Why a text is not read. -/
inductive Misfit where
  /-- The last group lacks characters and padding. -/
  | padding
  /-- The last group has a single character; there are so many altogether. -/
  | single (count : Nat)
  deriving DecidableEq, Repr

/-- The wording of a misfit. -/
def Misfit.message : Misfit → String
  | .padding => "Incorrect padding"
  | .single count =>
    s!"Invalid base64-encoded string: number of data characters ({count}) cannot be 1 more than " ++
      "a multiple of 4"

/-- The characters of a group that has begun, and the bits of the last one that belong to the next
byte. -/
inductive Group where
  /-- A group begins. -/
  | zero
  /-- One character was read. -/
  | one (bits : Nat)
  /-- Two characters were read. -/
  | two (bits : Nat)
  /-- Three characters were read. -/
  | three (bits : Nat)
  deriving DecidableEq

/-- The number of characters of a group that were read. -/
def Group.size : Group → Nat
  | .zero => 0
  | .one _ => 1
  | .two _ => 2
  | .three _ => 3

/-- One more character of a group: the byte that it completes, if it does, and the group after
it. -/
def Group.add (n : Nat) : Group → Option UInt8 × Group
  | .zero => (none, .one n)
  | .one bits => (some (UInt8.ofNat (bits * 4 + n / 16)), .two (n % 16))
  | .two bits => (some (UInt8.ofNat (bits * 16 + n / 4)), .three (n % 4))
  | .three bits => (some (UInt8.ofNat (bits * 64 + n)), .zero)

/-- What the end of a text means for a group, so many bytes having been read. -/
def Group.finish (read : Nat) : Group → Except Misfit (List UInt8)
  | .zero => .ok []
  | .one _ => .error (.single (read / 3 * 4 + 1))
  | .two _ | .three _ => .error .padding

/-- Reads from a group on; `pads` padding characters have just been read, and `read` bytes
before. -/
def decodeFrom (g : Group) (pads read : Nat) : List Char → Except Misfit (List UInt8)
  | [] => g.finish read
  | c :: rest =>
    if c = '=' then
      if 2 ≤ g.size then
        if 4 ≤ g.size + (pads + 1) then .ok [] else decodeFrom g (pads + 1) read rest
      else decodeFrom g pads read rest
    else
      match digit? c with
      | none => decodeFrom g pads read rest
      | some n =>
        match g.add n with
        | (some b, g') => return b :: (← decodeFrom g' 0 (read + 1) rest)
        | (none, g') => decodeFrom g' 0 read rest

/-- Reads bytes. -/
def decode (cs : List Char) : Except Misfit (List UInt8) := decodeFrom .zero 0 0 cs

/-- The character that is written in place of another one where texts stand in addresses. -/
def ofUrl (c : Char) : Char := if c = '-' then '+' else if c = '_' then '/' else c

end Vigil.Text.Base64
