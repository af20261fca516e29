import Vigil.Yaml.Token

/-!
# From text to tokens

Tokens are read one after the other. What may turn out to be a key is remembered until a colon
follows in the same line; the token that precedes a key is then put before it.
-/

namespace Vigil.Yaml

/-- A token that is a key if a colon follows. -/
structure PossibleKey where
  /-- The number of tokens before it. -/
  number : Nat
  /-- Whether it can be nothing but a key, where it stands. -/
  required : Bool
  /-- The number of characters before it. -/
  index : Nat
  /-- The line it stands in. -/
  line : Nat
  /-- The column it begins at. -/
  column : Nat

/-- The state of reading tokens. -/
structure Lexer where
  /-- The place in the text. -/
  cursor : Cursor
  /-- The tokens read, the last one first. -/
  done : List Token := []
  /-- The number of tokens read. -/
  count : Nat := 0
  /-- The indentation of the innermost collection that is not between brackets. -/
  indent : Int := -1
  /-- The indentations of the collections around it. -/
  indents : List Int := []
  /-- The number of brackets that are open. -/
  flow : Nat := 0
  /-- Whether a key may begin at the place. -/
  keyAllowed : Bool := true
  /-- What may turn out to be a key, one token at most for each number of open brackets. -/
  keys : List (Nat × PossibleKey) := []

namespace Lexer

/-- Adds a token. -/
def push (t : Token) (s : Lexer) : Lexer := { s with done := t :: s.done, count := s.count + 1 }

/-- Puts a token before one that has been read already. -/
def insert (number : Nat) (t : Token) (s : Lexer) : Lexer :=
  { s with done := s.done.insertIdx (s.count - number) t, count := s.count + 1 }

/-- Whether a colon would come too late for a key. -/
def isStale (s : Lexer) (k : PossibleKey) : Bool :=
  k.line ≠ s.cursor.line || 1024 < s.cursor.index - k.index

/-- Forgets the keys for which a colon would come too late. -/
def dropStale (s : Lexer) : Except Fault Lexer :=
  if s.keys.any fun (_, k) => s.isStale k && k.required then .error malformed
  else .ok { s with keys := s.keys.filter fun (_, k) => !s.isStale k }

/-- What may turn out to be a key between the innermost brackets. -/
def possibleKey? (s : Lexer) : Option PossibleKey := s.keys.lookup s.flow

/-- Forgets what may have turned out to be a key. -/
def forgetKey (s : Lexer) : Except Fault Lexer :=
  match s.possibleKey? with
  | some k =>
    if k.required then .error malformed
    else .ok { s with keys := s.keys.filter fun (level, _) => level ≠ s.flow }
  | none => .ok s

/-- Remembers that a key may begin at the place. -/
def saveKey (s : Lexer) : Except Fault Lexer :=
  if s.keyAllowed then do
    let s ← s.forgetKey
    let k : PossibleKey := {
      number := s.count
      required := s.flow = 0 && s.indent = (s.cursor.column : Int)
      index := s.cursor.index
      line := s.cursor.line
      column := s.cursor.column }
    return { s with keys := (s.flow, k) :: s.keys }
  else .ok s

/-- The number of collections that end where a line is indented less. -/
def endCount (column : Int) : Int → List Int → Nat
  | _, [] => 0
  | indent, outer :: rest => if column < indent then endCount column outer rest + 1 else 0

/-- Ends the collections that are indented more than a column. Between brackets, indentation tells
nothing. -/
def unwind (column : Int) (s : Lexer) : Lexer :=
  if s.flow ≠ 0 then s
  else
    let n := endCount column s.indent s.indents
    { s with
      done := List.replicate n .blockEnd ++ s.done
      count := s.count + n
      indent := (s.indent :: s.indents).getD n (-1)
      indents := s.indents.drop n }

/-- Whether a collection begins at a column. -/
def indents? (column : Nat) (s : Lexer) : Bool := s.indent < (column : Int)

/-- Begins a collection at a column. -/
def addIndent (column : Nat) (s : Lexer) : Lexer :=
  { s with indents := s.indent :: s.indents, indent := column }

/-- Moves the place. -/
def moveTo (c : Cursor) (s : Lexer) : Lexer := { s with cursor := c }

/-- Moves the place by some characters. -/
def step (n : Nat) (s : Lexer) : Lexer := s.moveTo (s.cursor.advance n)

/-- Says whether a key may begin. -/
def allow (b : Bool) (s : Lexer) : Lexer := { s with keyAllowed := b }

/-! ## Single tokens -/

/-- Reads a line that begins or ends a document. -/
def documentMark (t : Token) (s : Lexer) : Except Fault Lexer :=
  return ((← (s.unwind (-1)).forgetKey).allow false).step 3 |>.push t

/-- Reads an instruction. -/
def directive (s : Lexer) : Except Fault Lexer := do
  let s ← (s.unwind (-1)).forgetKey
  let (d, next) ← s.cursor.directive
  return ((s.allow false).moveTo next).push (.directive d)

/-- Reads an opening bracket, which may begin a key. -/
def openBracket (t : Token) (s : Lexer) : Except Fault Lexer := do
  let s ← s.saveKey
  return (({ s with flow := s.flow + 1 }.allow true).step 1).push t

/-- Reads a closing bracket; one must be open. -/
def closeBracket (t : Token) (s : Lexer) : Except Fault Lexer := do
  let s ← s.forgetKey
  if s.flow = 0 then .error malformed
  else return (({ s with flow := s.flow - 1 }.allow false).step 1).push t

/-- Reads a comma. -/
def comma (s : Lexer) : Except Fault Lexer :=
  return ((← (s.allow true).forgetKey).step 1).push .flowEntry

/-- Begins a collection in a block, if the column says so. -/
def beginBlock (t : Token) (s : Lexer) : Lexer :=
  if s.indents? s.cursor.column then (s.addIndent s.cursor.column).push t else s

/-- Reads the hyphen before an item. -/
def hyphen (s : Lexer) : Except Fault Lexer :=
  if s.flow = 0 && !s.keyAllowed then .error malformed
  else
    let s := if s.flow = 0 then s.beginBlock .blockSequenceStart else s
    return ((← (s.allow true).forgetKey).step 1).push .blockEntry

/-- Reads the question mark before a key. -/
def questionMark (s : Lexer) : Except Fault Lexer :=
  if s.flow = 0 && !s.keyAllowed then .error malformed
  else
    let s := if s.flow = 0 then s.beginBlock .blockMappingStart else s
    return ((← (s.allow (s.flow = 0)).forgetKey).step 1).push .key

/-- Reads a colon after what thereby is a key. -/
def colonAfterKey (k : PossibleKey) (s : Lexer) : Lexer :=
  let s := { s with keys := s.keys.filter fun (level, _) => level ≠ s.flow }
  let s := s.insert k.number .key
  let s := if s.flow = 0 && s.indents? k.column then
      (s.addIndent k.column).insert k.number .blockMappingStart
    else s
  ((s.allow false).step 1).push .value

/-- Reads a colon. -/
def colon (s : Lexer) : Except Fault Lexer :=
  match s.possibleKey? with
  | some k => .ok (s.colonAfterKey k)
  | none =>
    if s.flow = 0 && !s.keyAllowed then .error malformed
    else
      let s := if s.flow = 0 then s.beginBlock .blockMappingStart else s
      return ((← (s.allow (s.flow = 0)).forgetKey).step 1).push .value

/-- Reads the name of a node or the use of one. -/
def nodeName (token : String → Token) (s : Lexer) : Except Fault Lexer := do
  let s ← s.saveKey
  let (name, next) ← s.cursor.nodeName
  return ((s.allow false).moveTo next).push (token name)

/-- Reads a tag. -/
def tag (s : Lexer) : Except Fault Lexer := do
  let s ← s.saveKey
  let (t, next) ← s.cursor.rawTag
  return ((s.allow false).moveTo next).push (.tag t)

/-- Reads a block; a key may follow it. -/
def block (s : Lexer) : Except Fault Lexer := do
  let s ← (s.allow true).forgetKey
  let (text, next) ← s.cursor.block s.indent
  return (s.moveTo next).push (.scalar text false)

/-- Reads a text between quotes. -/
def quoted (s : Lexer) : Except Fault Lexer := do
  let s ← s.saveKey
  let (text, next) ← s.cursor.quoted
  return ((s.allow false).moveTo next).push (.scalar text false)

/-- Reads a plain text; a key may follow if the text has ended with its line. -/
def plain (s : Lexer) : Except Fault Lexer := do
  let s ← s.saveKey
  let (text, next, broken) := s.cursor.plain (s.flow ≠ 0) (s.indent + 1)
  return ((s.allow broken).moveTo next).push (.scalar text true)

/-! ## All tokens -/

/-- The place of the next token, and whether a line ended before it. -/
def nextPlace : Nat → Bool → Cursor → Cursor × Bool
  | 0, broken, c => (c, broken)
  | fuel + 1, broken, c =>
    let c := (c.skip (· = ' ')).skipComment
    match c.lineEnd? with
    | some (_, next) => nextPlace fuel true next
    | none => (c, broken)

/-- Moves to the next token. A key may begin in a new line, except between brackets. -/
def seek (s : Lexer) : Lexer :=
  let (c, broken) := nextPlace (s.cursor.rest.length + 1) false s.cursor
  { s with cursor := c, keyAllowed := s.keyAllowed || (broken && s.flow = 0) }

/-- A character that no plain text begins with. -/
def isIndicator (c : Char) : Bool :=
  isGap c || "-?:,[]\x7b\x7d#&*!|>'\"%@\x60".toList.contains c

/-- Whether a plain text begins at the place. -/
def beginsPlain (s : Lexer) : Bool :=
  let c := s.cursor.peek
  !isIndicator c ||
    (!isGap (s.cursor.peekAt 1) && (c = '-' || (s.flow = 0 && (c = '?' || c = ':'))))

/-- Whether the place is at a mark of three characters that begins a line. -/
def atMark (mark : List Char) (s : Lexer) : Bool :=
  s.cursor.column = 0 && s.cursor.rest.take 3 = mark && isGap (s.cursor.peekAt 3)

/-- Reads the token at the place, which is not the end of the text. -/
def token (s : Lexer) : Except Fault Lexer :=
  let c := s.cursor.peek
  let spaced := isGap (s.cursor.peekAt 1)
  if c = '%' && s.cursor.column = 0 then s.directive
  else if s.atMark ['-', '-', '-'] then s.documentMark .documentStart
  else if s.atMark ['.', '.', '.'] then s.documentMark .documentEnd
  else if c = '[' then s.openBracket .flowSequenceStart
  else if c = '\x7b' then s.openBracket .flowMappingStart
  else if c = ']' then s.closeBracket .flowSequenceEnd
  else if c = '\x7d' then s.closeBracket .flowMappingEnd
  else if c = ',' then s.comma
  else if c = '-' && spaced then s.hyphen
  else if c = '?' && (s.flow ≠ 0 || spaced) then s.questionMark
  else if c = ':' && (s.flow ≠ 0 || spaced) then s.colon
  else if c = '*' then s.nodeName .alias
  else if c = '&' then s.nodeName .anchor
  else if c = '!' then s.tag
  else if (c = '|' || c = '>') && s.flow = 0 then s.block
  else if c = '\'' || c = '"' then s.quoted
  else if s.beginsPlain then s.plain
  else .error malformed

/-- Ends all collections at the end of the text. -/
def finish (s : Lexer) : Except Fault Lexer := (s.unwind (-1)).forgetKey

/-- Reads at most `fuel` tokens. -/
def tokens : Nat → Lexer → Except Fault Lexer
  | 0, s => .ok s
  | fuel + 1, s => do
    let s ← s.seek.dropStale
    let s := s.unwind s.cursor.column
    if s.cursor.rest.isEmpty then s.finish else tokens fuel (← s.token)

end Lexer

/-- A text without the mark of byte order that it may begin with. -/
def dropByteOrderMark : List Char → List Char
  | '\uFEFF' :: rest => rest
  | cs => cs

/-- The tokens of a text. -/
def tokensOf (cs : List Char) : Except Fault (List Token) := do
  let cs := dropByteOrderMark cs
  return (← Lexer.tokens (cs.length + 1) { cursor := { rest := cs } }).done.reverse

end Vigil.Yaml
