import Vigil.Number.Literal
import Vigil.Yaml.Cursor

/-!
# Texts in a YAML document

The five ways of writing a text: plain, between single or double quotes, and as a literal or folded
block. Each reader returns the text and the place after it.
-/

namespace Vigil.Yaml

namespace Cursor

/-- The line ends, with blanks before them, that follow a line end inside quotes. A line that begins
or ends a document must not be among them. -/
def quotedBreaks : Nat → Cursor → Except Fault (List Char × Cursor)
  | 0, c => .ok ([], c)
  | fuel + 1, c =>
    if c.atDocumentMark then .error malformed
    else
      let c := c.skip isWhite
      match c.lineEnd? with
      | some (ch, next) => do
        let (more, last) ← quotedBreaks fuel next
        return (ch :: more, last)
      | none => .ok ([], c)

/-- A line end as it counts with those that follow it: the first one of several is left out, and a
single one becomes a blank. -/
def foldedBreaks (first : Char) (more : List Char) : List Char :=
  if first ≠ '\n' then first :: more else if more.isEmpty then [' '] else more

/-- The blanks and line ends at the place inside quotes. -/
def quotedSpaces (c : Cursor) : Except Fault (List Char × Cursor) :=
  let blanks := c.run isWhite
  let c := c.skip isWhite
  if c.rest.isEmpty then .error malformed
  else
    match c.lineEnd? with
    | some (ch, next) => do
      let (more, last) ← quotedBreaks next.rest.length next
      return (foldedBreaks ch more, last)
    | none => .ok (blanks, c)

end Cursor

/-- The character that a letter after a backslash stands for. -/
def escapedLetter? : Char → Option Char
  | '0' => some '\x00'
  | 'a' => some '\x07'
  | 'b' => some '\x08'
  | 't' => some '\t'
  | '\t' => some '\t'
  | 'n' => some '\n'
  | 'v' => some '\x0b'
  | 'f' => some '\x0c'
  | 'r' => some '\r'
  | 'e' => some '\x1b'
  | ' ' => some ' '
  | '"' => some '"'
  | '\\' => some '\\'
  | '/' => some '/'
  | 'N' => some '\x85'
  | '_' => some '\xa0'
  | 'L' => some '\u2028'
  | 'P' => some '\u2029'
  | _ => none

/-- The number of hexadecimal digits after a letter that stands for a code point. -/
def codeWidth? : Char → Option Nat
  | 'x' => some 2
  | 'u' => some 4
  | 'U' => some 8
  | _ => none

/-- The value of a hexadecimal digit. -/
def hexDigit? (c : Char) : Option Nat :=
  if '0' ≤ c && c ≤ '9' then some (c.toNat - 48)
  else if 'a' ≤ c && c ≤ 'f' then some (c.toNat - 87)
  else if 'A' ≤ c && c ≤ 'F' then some (c.toNat - 55)
  else none

/-- The number that hexadecimal digits write. -/
def hexNumber? (cs : List Char) : Option Nat :=
  cs.foldl (fun n c => n.bind fun n => (hexDigit? c).map (n * 16 + ·)) (some 0)

/-- A code point as a character. There are none beyond the last one, and half of a character that is
written in two is none either. -/
def codeChar (code : Nat) : Except Fault Char :=
  if 0x80000000 ≤ code then .error (.range .codePoint)
  else if 0x110000 ≤ code then .error (.value .codePoint)
  else if 0xD800 ≤ code && code < 0xE000 then .error (.value .surrogate)
  else .ok (Char.ofNat code)

/-- The character of a number of hexadecimal digits at the place. -/
def Cursor.codePoint (width : Nat) (c : Cursor) : Except Fault (Char × Cursor) :=
  let digits := c.rest.take width
  match hexNumber? digits with
  | none => .error malformed
  | some code =>
    if digits.length < width then .error malformed
    else return (← codeChar code, c.advance width)

/-- What a backslash between double quotes stands for; the place is after it. -/
def Cursor.escape (c : Cursor) : Except Fault (List Char × Cursor) :=
  match c.rest with
  | [] => .error malformed
  | letter :: _ =>
    match escapedLetter? letter with
    | some ch => .ok ([ch], c.advance 1)
    | none =>
      match codeWidth? letter with
      | some width => do
        let (ch, next) ← (c.advance 1).codePoint width
        return ([ch], next)
      | none =>
        match c.lineEnd? with
        | some (_, next) => next.quotedBreaks next.rest.length
        | none => .error malformed

namespace Cursor

/-- The text up to the closing quote; the place is after the opening one. -/
def quotedFrom (double : Bool) : Nat → Cursor → Except Fault (List Char × Cursor)
  | 0, _ => .error malformed
  | fuel + 1, c =>
    match c.rest with
    | [] => .error malformed
    | ch :: rest =>
      if ch = '\'' && !double then
        if rest.head? = some '\'' then do
          let (more, last) ← quotedFrom double fuel (c.advance 2)
          return ('\'' :: more, last)
        else .ok ([], c.advance 1)
      else if ch = '"' && double then .ok ([], c.advance 1)
      else if ch = '\\' && double then do
        let (cs, next) ← (c.advance 1).escape
        let (more, last) ← quotedFrom double fuel next
        return (cs ++ more, last)
      else if isGap ch then do
        let (cs, next) ← c.quotedSpaces
        let (more, last) ← quotedFrom double fuel next
        return (cs ++ more, last)
      else do
        let (more, last) ← quotedFrom double fuel (c.advance 1)
        return (ch :: more, last)

/-- A text between quotes; the place is at the opening one. -/
def quoted (c : Cursor) : Except Fault (String × Cursor) := do
  let (cs, next) ← (c.advance 1).quotedFrom (c.peek = '"') c.rest.length
  return (String.ofList cs, next)

end Cursor

/-! ## Plain texts -/

/-- Whether a colon in a plain text ends it, by what follows; `flow` tells whether the text stands
between brackets. -/
def colonEnds (flow : Bool) (next : Char) : Bool :=
  isGap next || (flow && (next = ',' || next = '[' || next = ']' || next = '\x7b' || next = '\x7d'))

/-- Whether a character ends a plain text between brackets. -/
def flowEnds (c : Char) : Bool :=
  c = ',' || c = '?' || c = '[' || c = ']' || c = '\x7b' || c = '\x7d'

/-- The characters of a plain text up to the next blank. -/
def plainWord (flow : Bool) : List Char → List Char
  | [] => []
  | c :: rest =>
    if isGap c || (c = ':' && colonEnds flow (rest.headD endMark)) || (flow && flowEnds c) then []
    else c :: plainWord flow rest

/-- What stands between two words of a plain text. -/
structure PlainGap where
  /-- How the gap counts; nothing if the text ends here. -/
  text : List Char
  /-- Whether a line ended in the gap. -/
  broken : Bool
  /-- The place after the gap. -/
  next : Cursor

namespace Cursor

/-- The line ends, with blanks between them, after a line end in a plain text; nothing if a document
begins or ends there. -/
def plainBreaks : Nat → Cursor → Option (List Char) × Cursor
  | 0, c => (some [], c)
  | fuel + 1, c =>
    if c.peek = ' ' then plainBreaks fuel (c.advance 1)
    else
      match c.lineEnd? with
      | none => (some [], c)
      | some (ch, next) =>
        if next.atDocumentMark then (none, next)
        else
          let (more, last) := plainBreaks fuel next
          (more.map (ch :: ·), last)

/-- The gap at the place in a plain text. -/
def plainGap (c : Cursor) : PlainGap :=
  let blanks := c.run (· = ' ')
  let c := c.skip (· = ' ')
  match c.lineEnd? with
  | none => ⟨blanks, false, c⟩
  | some (ch, next) =>
    if next.atDocumentMark then ⟨[], true, next⟩
    else
      match plainBreaks next.rest.length next with
      | (none, last) => ⟨[], true, last⟩
      | (some more, last) => ⟨foldedBreaks ch more, true, last⟩

/-- The words of a plain text from the place on, `gap` standing before the first one. The text ends
at a comment, at a gap that ends it, and outside of brackets in a line that is not indented. The
third result tells whether a line ended after the last word. -/
def plainFrom (flow : Bool) (indent : Int) : Nat → List Char → Bool → Cursor →
    List Char × Cursor × Bool
  | 0, _, broken, c => ([], c, broken)
  | fuel + 1, gap, broken, c =>
    let word := plainWord flow c.rest
    if c.peek = '#' || word.isEmpty then ([], c, broken)
    else
      let g := (c.advance word.length).plainGap
      if g.text.isEmpty || g.next.peek = '#' || (!flow && (g.next.column : Int) < indent) then
        (gap ++ word, g.next, g.broken)
      else
        let (more, last, after) := plainFrom flow indent fuel g.text g.broken g.next
        (gap ++ word ++ more, last, after)

/-- A plain text, the place after it, and whether a line ended behind it. -/
def plain (flow : Bool) (indent : Int) (c : Cursor) : String × Cursor × Bool :=
  let (cs, next, broken) := plainFrom flow indent c.rest.length [] false c
  (String.ofList cs, next, broken)

end Cursor

/-! ## Blocks -/

/-- What becomes of the line ends at the end of a block. -/
inductive Chomping where
  /-- One of them is kept. -/
  | clip
  /-- None is kept. -/
  | strip
  /-- All are kept. -/
  | keep
  deriving DecidableEq

/-- The chomping that a character stands for. -/
def Chomping.ofChar? : Char → Option Chomping
  | '+' => some .keep
  | '-' => some .strip
  | _ => none

/-- The indentation that a digit stands for. -/
def indentDigit? (c : Char) : Option Nat :=
  if Literal.isDigit c then some (c.toNat - 48) else none

namespace Cursor

/-- The signs after the character that begins a block, in either order. -/
def blockSigns (c : Cursor) : Chomping × Option Nat × Cursor :=
  match Chomping.ofChar? c.peek with
  | some chomping =>
    match indentDigit? (c.peekAt 1) with
    | some n => (chomping, some n, c.advance 2)
    | none => (chomping, none, c.advance 1)
  | none =>
    match indentDigit? c.peek with
    | some n =>
      match Chomping.ofChar? (c.peekAt 1) with
      | some chomping => (chomping, some n, c.advance 2)
      | none => (.clip, some n, c.advance 1)
    | none => (.clip, none, c)

/-- The place after the rest of a line that may only hold a comment. -/
def ignoredLine (c : Cursor) : Except Fault Cursor :=
  let c := (c.skip (· = ' ')).skipComment
  if isLineEnd c.peek then .ok c.skipLineEnd else .error malformed

/-- The empty lines before the first line of a block, and the widest indentation seen. -/
def blockIndentation : Nat → Nat → Cursor → List Char × Nat × Cursor
  | 0, widest, c => ([], widest, c)
  | fuel + 1, widest, c =>
    match c.lineEnd? with
    | some (ch, next) =>
      let (more, w, last) := blockIndentation fuel widest next
      (ch :: more, w, last)
    | none =>
      if c.peek = ' ' then
        let next := c.advance 1
        blockIndentation fuel (max widest next.column) next
      else ([], widest, c)

/-- The place after the blanks of an indentation. -/
def skipIndent (indent : Nat) (c : Cursor) : Cursor :=
  c.advance ((c.run (· = ' ')).take (indent - c.column)).length

/-- The empty lines between two lines of a block. -/
def blockBreaks (indent : Nat) : Nat → Cursor → List Char × Cursor
  | 0, c => ([], c)
  | fuel + 1, c =>
    let c := c.skipIndent indent
    match c.lineEnd? with
    | some (ch, next) =>
      let (more, last) := blockBreaks indent fuel next
      (ch :: more, last)
    | none => ([], c)

/-- The line end after a line of a block, the empty lines after it being `breaks`: in a folded block
the one between two lines that begin with no blank becomes a blank, unless empty lines follow. -/
def blockJoint (folded : Bool) (lineEnd : List Char) (breaks : List Char) (first next : Char) :
    List Char :=
  if folded && lineEnd = ['\n'] && !isWhite first && !isWhite next then
    if breaks.isEmpty then [' '] else []
  else lineEnd

/-- The lines of a block from the place on, `breaks` standing for the empty lines before the first
one. The results are the text, the last line end, the empty lines after it, and the place after the
block. -/
def blockLines (folded : Bool) (indent : Nat) : Nat → List Char → List Char → Cursor →
    List Char × List Char × List Char × Cursor
  | 0, breaks, lineEnd, c => ([], lineEnd, breaks, c)
  | fuel + 1, breaks, lineEnd, c =>
    if c.column = indent && !c.rest.isEmpty then
      let line := c.run fun ch => !isLineEnd ch
      let ended := c.skipLine
      let (lineEnd, next) := match ended.lineEnd? with
        | some (ch, next) => ([ch], next)
        | none => ([], ended)
      let (after, last) := next.blockBreaks indent (next.rest.length + 1)
      if last.column = indent && !last.rest.isEmpty then
        let joint := blockJoint folded lineEnd after c.peek last.peek
        let (more, l, b, final) := blockLines folded indent fuel after lineEnd last
        (breaks ++ line ++ joint ++ more, l, b, final)
      else (breaks ++ line, lineEnd, after, last)
    else ([], lineEnd, breaks, c)

/-- The block at the place, which is at its first character; `parent` is the indentation of what it
belongs to. -/
def block (parent : Int) (c : Cursor) : Except Fault (String × Cursor) := do
  let (chomping, digit, signs) := (c.advance 1).blockSigns
  if digit = some 0 || !isWordEnd signs.peek then .error malformed
  else
    let start ← signs.ignoredLine
    let least := (max (parent + 1) 1).toNat
    let (breaks, indent, first) :=
      match digit with
      | some n =>
        let indent := least + n - 1
        let (breaks, first) := start.blockBreaks indent (start.rest.length + 1)
        (breaks, indent, first)
      | none =>
        let (breaks, widest, first) := start.blockIndentation start.rest.length 0
        (breaks, max least widest, first)
    let (text, lineEnd, after, last) :=
      first.blockLines (c.peek = '>') indent (first.rest.length + 1) breaks []
    let tail := match chomping with
      | .strip => []
      | .clip => lineEnd
      | .keep => lineEnd ++ after
    return (String.ofList (text ++ tail), last)

end Cursor

end Vigil.Yaml
