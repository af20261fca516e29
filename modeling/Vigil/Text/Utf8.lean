import Vigil.Text.Quoted

/-!
# UTF-8

Reading bytes as UTF-8 text. The strict reader names the first bytes that are no text and why; the
lenient one puts a replacement character in the place of each such run. A run ends where the bytes
stop being the beginning of a well-formed character.
-/

namespace Vigil.Text

/-- The first bytes that an encoding cannot read. -/
structure Undecodable where
  /-- The name of the encoding. -/
  codec : String
  /-- The position of the first of the bytes. -/
  start : Nat
  /-- How many bytes there are. -/
  width : Nat
  /-- The first of the bytes. -/
  byte : UInt8
  /-- What is wrong with them. -/
  reason : String
  deriving DecidableEq

/-- The text that reports unreadable bytes. -/
def Undecodable.message (u : Undecodable) : String :=
  let place :=
    if u.width = 1 then
      s!"byte 0x{String.ofList (hex 2 u.byte.toNat)} in position {u.start}"
    else s!"bytes in position {u.start}-{u.start + u.width - 1}"
  s!"'{u.codec}' codec can't decode {place}: {u.reason}"

namespace Utf8

/-- What stands at the beginning of some bytes. -/
inductive Step where
  /-- A character written with `width` bytes. -/
  | char (c : Char) (width : Nat)
  /-- A run of `width` bytes that is no character. -/
  | bad (reason : String) (width : Nat)

/-- A byte that continues a character. -/
def isContinuation (b : UInt8) : Bool := 0x80 ≤ b && b < 0xC0

/-- The six bits that a continuing byte carries. -/
def payload (b : UInt8) : Nat := b.toNat % 64

/-- Whether a byte may follow the first byte of a character: no second byte may make the character
one that fewer bytes write, a surrogate, or one beyond the last code point. -/
def mayFollow (first second : UInt8) : Bool :=
  isContinuation second &&
    !(first = 0xE0 && second < 0xA0) && !(first = 0xED && 0xA0 ≤ second) &&
    !(first = 0xF0 && second < 0x90) && !(first = 0xF4 && 0x90 ≤ second)

/-- Reason for a byte that no character begins with. -/
def badStart : String := "invalid start byte"

/-- Reason for a byte that does not continue the character begun. -/
def badContinuation : String := "invalid continuation byte"

/-- Reason for a character that the bytes end in. -/
def cutShort : String := "unexpected end of data"

/-- The character or the unreadable run that a first byte and the bytes after it begin with. -/
def first (b : UInt8) (rest : List UInt8) : Step :=
  if b < 0x80 then .char (Char.ofNat b.toNat) 1
  else if b < 0xC2 || 0xF5 ≤ b then .bad badStart 1
  else
    match rest with
    | [] => .bad cutShort 1
    | second :: rest =>
      if !mayFollow b second then .bad badContinuation 1
      else if b < 0xE0 then .char (Char.ofNat (b.toNat % 32 * 64 + payload second)) 2
      else
        match rest with
        | [] => .bad cutShort 2
        | third :: rest =>
          if !isContinuation third then .bad badContinuation 2
          else if b < 0xF0 then
            .char (Char.ofNat (b.toNat % 16 * 4096 + payload second * 64 + payload third)) 3
          else
            match rest with
            | [] => .bad cutShort 3
            | fourth :: _ =>
              if !isContinuation fourth then .bad badContinuation 3
              else
                .char (Char.ofNat (b.toNat % 8 * 262144 + payload second * 4096 +
                  payload third * 64 + payload fourth)) 4

/-- Every step reads at least one byte. -/
def Step.width : Step → Nat
  | .char _ width => width
  | .bad _ width => width

/-- Reads at most `fuel` characters strictly; `position` is that of the first byte and `done` holds
what has been read, last character first. -/
def decodeFrom : Nat → Nat → List Char → List UInt8 → Except Undecodable (List Char)
  | 0, _, done, _ => .ok done.reverse
  | _, _, done, [] => .ok done.reverse
  | fuel + 1, position, done, b :: rest =>
    match first b rest with
    | .char c width => decodeFrom fuel (position + width) (c :: done) (rest.drop (width - 1))
    | .bad reason width => .error ⟨"utf-8", position, width, b, reason⟩

/-- Bytes read as text; the first that are no text are an error. -/
def decode (bytes : List UInt8) : Except Undecodable String :=
  (decodeFrom bytes.length 0 [] bytes).map String.ofList

/-- Reads at most `fuel` characters leniently. -/
def decodeLossyFrom : Nat → List UInt8 → List Char
  | 0, _ => []
  | _, [] => []
  | fuel + 1, b :: rest =>
    match first b rest with
    | .char c width => c :: decodeLossyFrom fuel (rest.drop (width - 1))
    | .bad _ width => '\uFFFD' :: decodeLossyFrom fuel (rest.drop (width - 1))

/-- Bytes read as text, with a replacement character for each run of bytes that is no text. -/
def decodeLossy (bytes : List UInt8) : String := String.ofList (decodeLossyFrom bytes.length bytes)

/-- The bytes of a text. -/
def encode (s : String) : List UInt8 := s.toUTF8.toList

end Utf8

end Vigil.Text
