import Vigil.Json.Basic
import Vigil.Text.Encoding

/-!
# Reading JSON

A document is one value with white space around it. What is wrong with a text is told with the
place: line, column and number of the character. Beside finite numbers `NaN`, `Infinity` and
`-Infinity` are read. Lists and objects may stand one within the other up to a depth that the caller
allows; what lies deeper is not read at all.
-/

namespace Vigil.Json

/-- What is wrong at a place of a text. -/
inductive Misreading where
  /-- There is no value. -/
  | value
  /-- There is no member name. -/
  | name
  /-- There is no colon after a member name. -/
  | colon
  /-- There is no comma after a value. -/
  | comma
  /-- There is something after the document. -/
  | extra
  /-- A text has no end. -/
  | unterminated
  /-- A text holds a control character. -/
  | control
  /-- A backslash with an unknown letter. -/
  | escape
  /-- A character number without four digits. -/
  | unicodeEscape
  deriving DecidableEq, Repr

/-- The wording of a misreading. -/
def Misreading.message : Misreading → String
  | .value => "Expecting value"
  | .name => "Expecting property name enclosed in double quotes"
  | .colon => "Expecting ':' delimiter"
  | .comma => "Expecting ',' delimiter"
  | .extra => "Extra data"
  | .unterminated => "Unterminated string starting at"
  | .control => "Invalid control character at"
  | .escape => "Invalid \\escape"
  | .unicodeEscape => "Invalid \\uXXXX escape"

/-- Why a text is not read. -/
inductive ReadFault where
  /-- Something is wrong where so many characters are left. -/
  | misread (what : Misreading) (left : Nat)
  /-- An integer has too many digits. -/
  | tooManyDigits (count : Nat)
  /-- A list begins within as many lists and objects as are allowed. -/
  | deepList
  /-- So does an object. -/
  | deepObject
  deriving DecidableEq, Repr

/-- Why a text describes no value. -/
inductive Refusal where
  /-- The text is not well-formed, or it holds an integer of too many digits. -/
  | invalid (reason : String)
  /-- Its lists and objects are nested too deep. -/
  | nesting (reason : String)
  deriving DecidableEq, Repr

/-- The wording of a refusal. -/
def Refusal.message : Refusal → String
  | .invalid reason => reason
  | .nesting reason => reason

/-- A place of a text: line and column from 1 on, and the number of the characters before it. -/
def placeText (cs : List Char) (position : Nat) : String :=
  let before := cs.take position
  let line := before.count '\n' + 1
  let column := (before.reverse.takeWhile (· ≠ '\n')).length + 1
  s!"line {line} column {column} (char {position})"

/-- The wording of nesting that is too deep, for a kind of collection. -/
def nestingText (collection : String) : String :=
  s!"maximum recursion depth exceeded while decoding a JSON {collection} from a unicode string"

/-- What a fault says of a text. -/
def ReadFault.refusal (cs : List Char) : ReadFault → Refusal
  | .misread what left => .invalid s!"{what.message}: {placeText cs (cs.length - left)}"
  | .tooManyDigits count => .invalid (ValueFault.tooManyDigits count).message
  | .deepList => .nesting (nestingText "array")
  | .deepObject => .nesting (nestingText "object")

/-- What a part of a text says, and the rest of the text. -/
abbrev Reading (α : Type) := α × List Char

/-- Fails at the beginning of a text. -/
def fail {α : Type} (what : Misreading) (cs : List Char) : Except ReadFault α :=
  .error (.misread what cs.length)

/-- White space between the parts of a document. -/
def isSpace (c : Char) : Bool := c = ' ' || c = '\t' || c = '\n' || c = '\r'

/-- A text without the white space at its beginning. -/
def skip (cs : List Char) : List Char := cs.dropWhile isSpace

/-! ## Texts -/

/-- The number that four hexadecimal digits write, if something follows them. -/
def hexNumber? : List Char → Option (Nat × List Char)
  | a :: b :: c :: d :: rest =>
    if rest.isEmpty then none
    else
      match Text.hexValue? a, Text.hexValue? b, Text.hexValue? c, Text.hexValue? d with
      | some a, some b, some c, some d => some (((a * 16 + b) * 16 + c) * 16 + d, rest)
      | _, _, _, _ => none
  | _ => none

/-- The character that a letter after a backslash stands for. -/
def simpleEscape? : Char → Option Char
  | '"' => some '"'
  | '\\' => some '\\'
  | '/' => some '/'
  | 'b' => some '\x08'
  | 'f' => some '\x0c'
  | 'n' => some '\n'
  | 'r' => some '\r'
  | 't' => some '\t'
  | _ => none

/-- The second half of a character that is written as a pair of numbers, where a whole one can
follow. -/
def secondHalf (high : Nat) (cs : List Char) : Except ReadFault (Reading Char) :=
  match cs with
  | '\\' :: 'u' :: rest =>
    if rest.length ≤ 4 then .ok (Text.Encoding.charOf high, cs)
    else
      match hexNumber? rest with
      | none => fail .unicodeEscape ('u' :: rest)
      | some (low, after) =>
        if 0xDC00 ≤ low && low < 0xE000 then
          .ok (Char.ofNat (0x10000 + (high - 0xD800) * 1024 + (low - 0xDC00)), after)
        else .ok (Text.Encoding.charOf high, cs)
  | _ => .ok (Text.Encoding.charOf high, cs)

/-- The character that is written by a number; the text begins at the letter before the digits. -/
def readNumbered (cs : List Char) : Except ReadFault (Reading Char) :=
  match hexNumber? (cs.drop 1) with
  | none => fail .unicodeEscape cs
  | some (code, rest) =>
    if 0xD800 ≤ code && code < 0xDC00 then secondHalf code rest
    else .ok (Text.Encoding.charOf code, rest)

/-- The characters of a text up to its closing quote; at most `fuel` are read. `start` is the number
of characters left where the text began, and `done` holds what has been read, last character
first. -/
def readChars (start : Nat) : Nat → List Char → List Char → Except ReadFault (Reading String)
  | 0, _, _ => .error (.misread .unterminated start)
  | _, _, [] => .error (.misread .unterminated start)
  | fuel + 1, done, c :: rest =>
    if c = '"' then .ok (String.ofList done.reverse, rest)
    else if c = '\\' then
      match rest with
      | [] => .error (.misread .unterminated start)
      | letter :: after =>
        if letter = 'u' then do
          let (d, rest) ← readNumbered rest
          readChars start fuel (d :: done) rest
        else
          match simpleEscape? letter with
          | some d => readChars start fuel (d :: done) after
          | none => fail .escape (c :: rest)
    else if c.toNat < 32 then fail .control (c :: rest)
    else readChars start fuel (c :: done) rest

/-- Reads a text after its opening quote. -/
def readText (cs : List Char) : Except ReadFault (Reading String) :=
  readChars (cs.length + 1) cs.length [] cs

/-! ## Numbers -/

/-- The digits at the beginning of a text, and the rest. -/
def spanDigits (cs : List Char) : List Char × List Char :=
  (cs.takeWhile Literal.isDigit, cs.dropWhile Literal.isDigit)

/-- The digits before the point: a zero, or digits that begin with another one. -/
def spanWhole : List Char → List Char × List Char
  | '0' :: rest => (['0'], rest)
  | cs => spanDigits cs

/-- The digits after a point, if there are any; otherwise the point belongs to the rest. -/
def spanPlaces (cs : List Char) : Option (List Char) × List Char :=
  match cs with
  | '.' :: after =>
    let (ds, rest) := spanDigits after
    if ds.isEmpty then (none, cs) else (some ds, rest)
  | _ => (none, cs)

/-- An exponent, if there is one with digits; otherwise its letter belongs to the rest. -/
def spanExponent (cs : List Char) : Option Int × List Char :=
  match cs with
  | e :: after =>
    if e = 'e' || e = 'E' then
      let (negative, digits) := Literal.splitSign after
      let (ds, rest) := spanDigits digits
      if ds.isEmpty then (none, cs)
      else
        let n : Nat := Decimal.value ds
        (some (if negative then -(n : Int) else n), rest)
    else (none, cs)
  | [] => (none, cs)

/-- The number that its parts write. -/
def numberOf (negative : Bool) (whole : List Char) (places : Option (List Char))
    (exponent : Option Int) : Except ReadFault Json :=
  match places, exponent with
  | none, none =>
    if Literal.maxDigits < whole.length then .error (.tooManyDigits whole.length)
    else
      let n : Nat := Decimal.value whole
      .ok (.int (if negative then -(n : Int) else n))
  | _, _ =>
    let ds := places.getD []
    .ok (.float (Decimal.toDouble negative (Decimal.value (whole ++ ds))
      (exponent.getD 0 - ds.length)))

/-- Reads a number; if there is none, the fault is that of the text given as `start`. -/
def readNumber (start : List Char) (negative : Bool) (cs : List Char) :
    Except ReadFault (Reading Json) :=
  let (whole, rest) := spanWhole cs
  if whole.isEmpty then fail .value start
  else
    let (places, rest) := spanPlaces rest
    let (exponent, rest) := spanExponent rest
    (numberOf negative whole places exponent).map (·, rest)

/-! ## Documents -/

/-- A value that is written as a word. -/
def word? (cs : List Char) : Option (Json × List Char) :=
  let words : List (String × Json) :=
    [("null", .null), ("true", .bool true), ("false", .bool false), ("NaN", .float .nan),
      ("Infinity", .float (.infinite false)), ("-Infinity", .float (.infinite true))]
  words.findSome? fun (w, j) =>
    if w.toList.isPrefixOf cs then some (j, cs.drop w.length) else none

/-- Reads a value that is neither list nor object. -/
def readScalar (cs : List Char) : Except ReadFault (Reading Json) :=
  match word? cs with
  | some found => .ok found
  | none =>
    match cs with
    | '"' :: rest => (readText rest).map fun (s, rest) => (.str s, rest)
    | '-' :: rest => readNumber cs true rest
    | _ => readNumber cs false cs

mutual

/-- Reads a value in which lists and objects are nested at most `depth` deep; at most `fuel` values
are read one within the other or one after the other. -/
def readValue (depth : Nat) : Nat → List Char → Except ReadFault (Reading Json)
  | 0, cs => fail .value cs
  | fuel + 1, cs =>
    match cs, depth with
    | '[' :: _, 0 => .error .deepList
    | '[' :: rest, depth + 1 =>
      match skip rest with
      | ']' :: rest => .ok (.list [], rest)
      | rest => do
        let (items, rest) ← readItems depth fuel rest
        return (.list items, rest)
    | '\x7b' :: _, 0 => .error .deepObject
    | '\x7b' :: rest, depth + 1 =>
      match skip rest with
      | '\x7d' :: rest => .ok (.object [], rest)
      | rest => do
        let (members, rest) ← readMembers depth fuel rest
        return (.object (mergeMembers members), rest)
    | cs, _ => readScalar cs

/-- Reads the items of a list up to its end. -/
def readItems (depth : Nat) : Nat → List Char → Except ReadFault (Reading (List Json))
  | 0, cs => fail .value cs
  | fuel + 1, cs => do
    let (item, rest) ← readValue depth fuel cs
    match skip rest with
    | ']' :: rest => return ([item], rest)
    | ',' :: rest =>
      let (items, rest) ← readItems depth fuel (skip rest)
      return (item :: items, rest)
    | rest => fail .comma rest

/-- Reads the members of an object up to its end. -/
def readMembers (depth : Nat) : Nat → List Char →
    Except ReadFault (Reading (List (String × Json)))
  | 0, cs => fail .name cs
  | fuel + 1, cs =>
    match cs with
    | '"' :: rest => do
      let (name, rest) ← readText rest
      match skip rest with
      | ':' :: rest =>
        let (v, rest) ← readValue depth fuel (skip rest)
        match skip rest with
        | '\x7d' :: rest => return ([(name, v)], rest)
        | ',' :: rest =>
          let (members, rest) ← readMembers depth fuel (skip rest)
          return ((name, v) :: members, rest)
        | rest => fail .comma rest
      | rest => fail .colon rest
    | cs => fail .name cs

end

/-- Reads a document. -/
def readChars? (depth : Nat) (cs : List Char) : Except ReadFault Json := do
  let (j, rest) ← readValue depth (2 * cs.length + 2) (skip cs)
  match skip rest with
  | [] => return j
  | rest => fail .extra rest

/-- Reads a document; a fault is told in words. -/
def read (depth : Nat) (cs : List Char) : Except Refusal Json :=
  match readChars? depth cs with
  | .ok j => .ok j
  | .error fault => .error (fault.refusal cs)

/-- Reads a document from bytes in an encoding that is told by themselves. -/
def readBytes (depth : Nat) (bytes : List UInt8) : Except Refusal Json :=
  match Text.Encoding.decodeDetected bytes with
  | .ok cs => read depth cs
  | .error fault => .error (.invalid fault.message)

end Vigil.Json
