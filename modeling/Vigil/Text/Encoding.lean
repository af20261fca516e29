import Vigil.Text.Utf8

/-!
# Encodings of data

The encoding of a document whose first characters are ASCII is told by its byte order mark or by
where zero bytes stand among the first four. A surrogate that stands alone is no character; a
replacement character takes its place.
-/

namespace Vigil.Text

/-- An encoding of text. -/
inductive Encoding where
  /-- One to four bytes a character; a mark may precede them. -/
  | utf8 (marked : Bool)
  /-- Two or four bytes a character. -/
  | utf16 (bigEndian : Bool)
  /-- Four bytes a character. -/
  | utf32 (bigEndian : Bool)
  deriving DecidableEq, Repr

namespace Encoding

/-- The encoding of bytes without a mark. -/
def detectUnmarked : List UInt8 → Encoding
  | a :: b :: c :: d :: _ =>
    if a = 0 then (if b = 0 then .utf32 true else .utf16 true)
    else if b = 0 then (if c = 0 && d = 0 then .utf32 false else .utf16 false)
    else .utf8 false
  | [a, b] => if a = 0 then .utf16 true else if b = 0 then .utf16 false else .utf8 false
  | _ => .utf8 false

/-- The encoding of bytes, and the number of bytes of their mark. -/
def detect : List UInt8 → Encoding × Nat
  | 0x00 :: 0x00 :: 0xFE :: 0xFF :: _ => (.utf32 true, 4)
  | 0xFF :: 0xFE :: 0x00 :: 0x00 :: _ => (.utf32 false, 4)
  | 0xFE :: 0xFF :: _ => (.utf16 true, 2)
  | 0xFF :: 0xFE :: _ => (.utf16 false, 2)
  | 0xEF :: 0xBB :: 0xBF :: _ => (.utf8 true, 3)
  | bytes => (detectUnmarked bytes, 0)

/-- A code point as a character, a surrogate being replaced. -/
def charOf (code : Nat) : Char :=
  if 0xD800 ≤ code && code < 0xE000 then '\uFFFD' else Char.ofNat code

/-- Whether bytes begin with a surrogate written as if it were a character. -/
def beginsWithSurrogate : List UInt8 → Bool
  | 0xED :: second :: third :: _ => 0xA0 ≤ second && second < 0xC0 && Utf8.isContinuation third
  | _ => false

/-- Reads at most `fuel` characters of one to four bytes. -/
def decodeUtf8 : Nat → Nat → List UInt8 → Except Undecodable (List Char)
  | 0, _, _ => .ok []
  | _, _, [] => .ok []
  | fuel + 1, position, b :: rest =>
    match Utf8.first b rest with
    | .char c width => return c :: (← decodeUtf8 fuel (position + width) (rest.drop (width - 1)))
    | .bad reason width =>
      if beginsWithSurrogate (b :: rest) then
        return '\uFFFD' :: (← decodeUtf8 fuel (position + 3) (rest.drop 2))
      else .error ⟨"utf-8", position, width, b, reason⟩

/-- The name of an encoding of a byte order. -/
def orderedName (name : String) (bigEndian : Bool) : String :=
  name ++ if bigEndian then "-be" else "-le"

/-- The two-byte units of bytes; `position` is that of the first byte. -/
def units16 (bigEndian : Bool) : Nat → List UInt8 → Except Undecodable (List Nat)
  | _, [] => .ok []
  | position, [a] => .error ⟨orderedName "utf-16" bigEndian, position, 1, a, "truncated data"⟩
  | position, a :: b :: rest => do
    let unit := if bigEndian then a.toNat * 256 + b.toNat else b.toNat * 256 + a.toNat
    return unit :: (← units16 bigEndian (position + 2) rest)

/-- The characters of two-byte units. -/
def charsOfUnits16 : List Nat → List Char
  | [] => []
  | high :: low :: rest =>
    if 0xD800 ≤ high && high < 0xDC00 && 0xDC00 ≤ low && low < 0xE000 then
      Char.ofNat (0x10000 + (high - 0xD800) * 1024 + (low - 0xDC00)) :: charsOfUnits16 rest
    else charOf high :: charsOfUnits16 (low :: rest)
  | [unit] => [charOf unit]

/-- Reads characters of four bytes each; `position` is that of the first byte. -/
def decodeUtf32 (bigEndian : Bool) : Nat → List UInt8 → Except Undecodable (List Char)
  | _, [] => .ok []
  | position, a :: b :: c :: d :: rest => do
    let high := (if bigEndian then a else d).toNat * 256 + (if bigEndian then b else c).toNat
    let low := (if bigEndian then c else b).toNat * 256 + (if bigEndian then d else a).toNat
    if high < 0x11 then
      return charOf (high * 65536 + low) :: (← decodeUtf32 bigEndian (position + 4) rest)
    else
      .error ⟨orderedName "utf-32" bigEndian, position, 4, a, "code point not in range(0x110000)"⟩
  | position, a :: rest =>
    .error ⟨orderedName "utf-32" bigEndian, position, rest.length + 1, a, "truncated data"⟩

/-- The text of bytes whose encoding is told by themselves. -/
def decodeDetected (bytes : List UInt8) : Except Undecodable (List Char) :=
  let (encoding, mark) := detect bytes
  let body := bytes.drop mark
  match encoding with
  | .utf8 _ => decodeUtf8 body.length 0 body
  | .utf16 bigEndian => return charsOfUnits16 (← units16 bigEndian mark body)
  | .utf32 bigEndian => decodeUtf32 bigEndian mark body

end Encoding

end Vigil.Text
