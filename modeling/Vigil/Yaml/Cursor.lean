import Vigil.Fault

/-!
# Places in a YAML text

A cursor is what is left of a text together with the line and the column where it begins. The end of
the text reads as a null character, which no text holds.
-/

namespace Vigil.Yaml

/-- The fault of a text that is not well-formed. What is wrong with it is not told. -/
def malformed : Fault := .document ""

/-- The character that the end of a text reads as. -/
def endMark : Char := '\x00'

/-- A character that ends a line. -/
def isBreak (c : Char) : Bool :=
  c = '\n' || c = '\r' || c = '\x85' || c = '\u2028' || c = '\u2029'

/-- A character that ends a line, or the end of the text. -/
def isLineEnd (c : Char) : Bool := c = endMark || isBreak c

/-- A blank that ends a word, or the end of a line. -/
def isWordEnd (c : Char) : Bool := c = ' ' || isLineEnd c

/-- A blank or a tab that ends a word, or the end of a line. -/
def isGap (c : Char) : Bool := c = '\t' || isWordEnd c

/-- A blank or a tab. -/
def isWhite (c : Char) : Bool := c = ' ' || c = '\t'

/-- A letter, a digit, a hyphen or an underscore of ASCII. -/
def isNameChar (c : Char) : Bool :=
  ('0' ≤ c && c ≤ '9') || ('A' ≤ c && c ≤ 'Z') || ('a' ≤ c && c ≤ 'z') || c = '-' || c = '_'

/-- A place in a text. -/
structure Cursor where
  /-- What is left of the text. -/
  rest : List Char
  /-- The number of characters before the place. -/
  index : Nat := 0
  /-- The number of line ends before the place. -/
  line : Nat := 0
  /-- The number of characters before the place in its line. -/
  column : Nat := 0

namespace Cursor

/-- The character at the place. -/
def peek (c : Cursor) : Char := c.rest.headD endMark

/-- A character after the place. -/
def peekAt (n : Nat) (c : Cursor) : Char := c.rest.getD n endMark

/-- The place after a character and before the rest of the text. A mark of byte order takes no
column. -/
def after (c : Cursor) (ch : Char) (rest : List Char) : Cursor :=
  if ch = '\r' && rest.head? = some '\n' then
    { c with rest := rest, index := c.index + 1, column := c.column + 1 }
  else if isBreak ch then { rest := rest, index := c.index + 1, line := c.line + 1, column := 0 }
  else if ch = '\uFEFF' then { c with rest := rest, index := c.index + 1 }
  else { c with rest := rest, index := c.index + 1, column := c.column + 1 }

/-- The place some characters later. -/
def advance : Nat → Cursor → Cursor
  | 0, c => c
  | n + 1, c =>
    match c.rest with
    | [] => c
    | ch :: rest => advance n (c.after ch rest)

/-- The characters at the place that satisfy a condition. -/
def run (p : Char → Bool) (c : Cursor) : List Char := c.rest.takeWhile p

/-- The place after the characters that satisfy a condition. -/
def skip (p : Char → Bool) (c : Cursor) : Cursor := c.advance (c.run p).length

/-- The place after the rest of a line. -/
def skipLine (c : Cursor) : Cursor := c.skip fun ch => !isLineEnd ch

/-- The place after a comment, if there is one. -/
def skipComment (c : Cursor) : Cursor := if c.peek = '#' then c.skipLine else c

/-- A line end at the place, as it counts in texts, and the place after it. -/
def lineEnd? (c : Cursor) : Option (Char × Cursor) :=
  match c.rest with
  | '\r' :: '\n' :: _ => some ('\n', c.advance 2)
  | ch :: _ =>
    if ch = '\n' || ch = '\r' || ch = '\x85' then some ('\n', c.advance 1)
    else if isBreak ch then some (ch, c.advance 1)
    else none
  | [] => none

/-- The place after a line end, if there is one. -/
def skipLineEnd (c : Cursor) : Cursor :=
  match c.lineEnd? with
  | some (_, next) => next
  | none => c

/-- Whether a line at whose beginning the place is begins or ends a document. -/
def atDocumentMark (c : Cursor) : Bool :=
  (c.rest.take 3 = ['-', '-', '-'] || c.rest.take 3 = ['.', '.', '.']) && isGap (c.peekAt 3)

end Cursor

end Vigil.Yaml
