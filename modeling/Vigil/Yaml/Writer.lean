import Vigil.Text.Base64
import Vigil.Text.Quoted
import Vigil.Value.Number
import Vigil.Yaml.Schema

/-!
# Writing YAML

Documents are written in ASCII, one entry or item a line, and lines are broken after about eighty
characters. A text is written plain where it reads back as a text, between single quotes where it
does not, and between double quotes where it holds characters that must be escaped.
-/

namespace Vigil.Yaml

/-! ## Texts -/

/-- A character that ends a line of a text. -/
def endsLine (c : Char) : Bool := c = '\n' || c = '\x85' || c = '\u2028' || c = '\u2029'

/-- White space, or what reads as the end of a text. -/
def isSpaceOrEnd (c : Char) : Bool := c = '\x00' || c = ' ' || c = '\t' || c = '\r' || endsLine c

/-- A character that is written as it is in every way of writing a text. -/
def isOrdinary (c : Char) : Bool := c = '\n' || (' ' ≤ c && c ≤ '~')

/-- Whether a condition holds of some character and the one after it. -/
def someNeighbours (p : Char → Char → Bool) (cs : List Char) : Bool :=
  (cs.zip (cs.drop 1)).any fun (a, b) => p a b

/-- Whether a text that begins with a character has another meaning. -/
def beginsWithIndicator (cs : List Char) : Bool :=
  match cs with
  | [] => false
  | c :: rest =>
    "#,[]\x7b\x7d&*!|>'\"%@\x60".toList.contains c ||
      ((c = '?' || c = ':' || c = '-') && isSpaceOrEnd (rest.headD ' ')) ||
      cs.take 3 = ['-', '-', '-'] || cs.take 3 = ['.', '.', '.']

/-- Whether a colon before white space or a number sign after it gives a text another meaning. -/
def holdsIndicator (cs : List Char) : Bool :=
  someNeighbours (fun a b => (a = ':' && isSpaceOrEnd b) || (isSpaceOrEnd a && b = '#')) cs ||
    cs.getLast? = some ':'

/-- Whether a text can be written plain, its type apart. -/
def allowsPlain (cs : List Char) : Bool :=
  !(cs.head? = some ' ' || cs.getLast? = some ' ') && !cs.any endsLine && cs.all isOrdinary &&
    !beginsWithIndicator cs && !holdsIndicator cs

/-- Whether a text can be written between single quotes. -/
def allowsSingle (cs : List Char) : Bool :=
  cs.all isOrdinary && !someNeighbours (fun a b => endsLine a && b = ' ') cs &&
    !someNeighbours (fun a b => a = ' ' && endsLine b) cs

/-- A way of writing a text. -/
inductive Style where
  | plain | single | double | literal
  deriving DecidableEq, Repr

/-- A text to be written, with its tag. -/
structure Written where
  /-- The tag. -/
  tag : Tag
  /-- The text. -/
  text : List Char
  /-- Whether the text is to be written as a block. -/
  asBlock : Bool := false

namespace Written

/-- Whether a plain text would have the tag. -/
def plainTag (w : Written) : Bool := Plain.tagOf w.text = w.tag

/-- The way of writing a text; `key` tells that it is the key of an entry in one line. -/
def style (w : Written) (key : Bool) : Style :=
  let broken := w.text.any endsLine
  if w.asBlock then if !key && !w.text.isEmpty then .literal else .double
  else if w.plainTag && allowsPlain w.text && !(key && w.text.isEmpty) then .plain
  else if allowsSingle w.text && !(key && broken) then .single
  else .double

/-- The tag as it is written before a text. -/
def tagText (t : Tag) : String :=
  match Tag.names.find? fun (_, u) => u = t with
  | some (short, _) => "!!" ++ short
  | none => match t with
    | .other name => "!!" ++ name
    | _ => "!!"

/-- Whether the tag is left out. -/
def tagImplied (w : Written) (s : Style) : Bool := if s = .plain then w.plainTag else w.tag = .str

/-- Whether a text can be the key of an entry in one line. -/
def fitsKey (w : Written) : Bool :=
  (tagText w.tag).length + w.text.length < 128 && !w.text.isEmpty && !w.text.any endsLine

end Written

/-! ## Output -/

/-- What has been written. -/
structure Output where
  /-- The text, last character first. -/
  done : List Char := []
  /-- The number of characters in the last line. -/
  column : Nat := 0
  /-- Whether white space was written last. -/
  spaced : Bool := true
  /-- Whether the last line holds nothing but indentation and signs of structure. -/
  indenting : Bool := true

/-- A step of writing. -/
abbrev Writing := StateM Output

namespace Writing

/-- The number of characters after which lines are broken. -/
def width : Nat := 80

/-- Writes characters that end no line. -/
def put (cs : List Char) : Writing Unit :=
  modify fun o => { o with done := cs.reverse ++ o.done, column := o.column + cs.length }

/-- Tells what has been written last. -/
def mark (spaced indenting : Bool) : Writing Unit :=
  modify fun o => { o with spaced := spaced, indenting := indenting }

/-- Ends a line. -/
def newline : Writing Unit :=
  modify fun o => { done := '\n' :: o.done, column := 0, spaced := true, indenting := true }

/-- Begins a line at an indentation, unless only such a beginning has been written. -/
def indent (n : Nat) : Writing Unit := do
  let o ← get
  if !o.indenting || n < o.column || (o.column = n && !o.spaced) then newline
  let o ← get
  if o.column < n then
    put (List.replicate (n - o.column) ' ')
    modify fun o => { o with spaced := true }

/-- Writes a sign, with a blank before it if one is needed. -/
def sign (s : String) (needsBlank spaced indenting : Bool) : Writing Unit := do
  let o ← get
  put (if o.spaced || !needsBlank then s.toList else ' ' :: s.toList)
  mark spaced (o.indenting && indenting)

/-- Runs of characters that agree in a property. -/
def runs (p : Char → Nat) (cs : List Char) : List (List Char) :=
  cs.foldr (fun c parts =>
    match parts with
    | (d :: run) :: more => if p c = p d then (c :: d :: run) :: more else [c] :: parts
    | _ => [c] :: parts) []

/-! ### Plain texts and single quotes -/

/-- Writes a run of blanks or of other characters of a plain text. A single blank beyond the width
of a line becomes a line break. -/
def plainRun (split : Bool) (n : Nat) (run : List Char) : Writing Unit := do
  if run = [' '] && width < (← get).column && split then
    indent n
    mark false false
  else put run

/-- Writes a plain text. -/
def plain (split : Bool) (n : Nat) (cs : List Char) : Writing Unit := do
  if !cs.isEmpty then
    if !(← get).spaced then put [' ']
    mark false false
    (runs (fun c => if c = ' ' then 0 else 1) cs).forM (plainRun split n)

/-- The kinds of characters between single quotes. -/
def singleKind (c : Char) : Nat :=
  if c = ' ' then 0 else if endsLine c then 1 else if c = '\'' then 2 else 3

/-- Writes a run of characters of one kind; `inner` tells that characters precede and follow it. -/
def singleRun (split inner : Bool) (n : Nat) (run : List Char) : Writing Unit := do
  match run.head?.map singleKind with
  | some 0 =>
    if run = [' '] && width < (← get).column && split && inner then indent n else put run
  | some 1 =>
    newline
    run.forM fun _ => newline
    indent n
  | some 2 => put (run ++ run)
  | _ => put run

/-- Writes runs of characters; `first` tells that none precedes. -/
def singleRuns (split : Bool) (n : Nat) (first : Bool) : List (List Char) → Writing Unit
  | [] => pure ()
  | run :: rest => do
    singleRun split (!first && !rest.isEmpty) n run
    singleRuns split n false rest

/-- Writes a text between single quotes. -/
def single (split : Bool) (n : Nat) (cs : List Char) : Writing Unit := do
  sign "'" true false false
  singleRuns split n true (runs singleKind cs)
  sign "'" false false false

/-! ### Double quotes -/

/-- The letter that stands for a character after a backslash. -/
def escapeLetter? : Char → Option Char
  | '\x00' => some '0'
  | '\x07' => some 'a'
  | '\x08' => some 'b'
  | '\t' => some 't'
  | '\n' => some 'n'
  | '\x0b' => some 'v'
  | '\x0c' => some 'f'
  | '\r' => some 'r'
  | '\x1b' => some 'e'
  | '"' => some '"'
  | '\\' => some '\\'
  | '\x85' => some 'N'
  | '\xa0' => some '_'
  | '\u2028' => some 'L'
  | '\u2029' => some 'P'
  | _ => none

/-- A number in hexadecimal with capital letters. -/
def capitalHex (places n : Nat) : List Char := (Text.hex places n).map Char.toUpper

/-- A character as it is written after a backslash. -/
def escaped (c : Char) : List Char :=
  match escapeLetter? c with
  | some letter => ['\\', letter]
  | none =>
    if c.toNat < 0x100 then '\\' :: 'x' :: capitalHex 2 c.toNat
    else if c.toNat < 0x10000 then '\\' :: 'u' :: capitalHex 4 c.toNat
    else '\\' :: 'U' :: capitalHex 8 c.toNat

/-- Whether a character is escaped between double quotes. -/
def isEscaped (c : Char) : Bool := c = '"' || c = '\\' || !(' ' ≤ c && c ≤ '~')

/-- Breaks a line between double quotes, `next` being the character after the break. -/
def breakDouble (n : Nat) (next : Char) : Writing Unit := do
  put ['\\']
  indent n
  mark false false
  if next = ' ' then put ['\\']

/-- Writes characters between double quotes; `pending` holds those that have been passed but not
written, last one first, and `first` tells that none precedes. -/
def doubleFrom (split : Bool) (n : Nat) (first : Bool) (pending : List Char) :
    List Char → Writing Unit
  | [] => put pending.reverse
  | c :: rest => do
    let inner := !first && !rest.isEmpty && split
    if isEscaped c then
      put pending.reverse
      put (escaped c)
      if inner && width + 1 < (← get).column then breakDouble n (rest.headD c)
      doubleFrom split n false [] rest
    else if inner && (c = ' ' || pending.isEmpty) && width < (← get).column + pending.length then
      put pending.reverse
      breakDouble n c
      doubleFrom split n false [c] rest
    else doubleFrom split n false (c :: pending) rest

/-- Writes a text between double quotes. -/
def double (split : Bool) (n : Nat) (cs : List Char) : Writing Unit := do
  sign "\"" true false false
  doubleFrom split n true [] cs
  sign "\"" false false false

/-! ### Blocks -/

/-- Writes lines of a block, each of which ends. -/
def blockLines (n : Nat) (lines : List (List Char)) : Writing Unit :=
  lines.forM fun line => do
    if !line.isEmpty then
      indent n
      put line
    newline

/-- Writes a text whose lines all end and are not empty as a block. -/
def literal (n : Nat) (cs : List Char) : Writing Unit := do
  sign "|" true false false
  newline
  blockLines n (Text.fields '\n' cs).dropLast

/-! ### Documents -/

/-- Writes a text; `n` is the indentation of its lines, and `key` tells that it is the key of an
entry in one line. -/
def scalar (n : Nat) (key : Bool) (w : Written) : Writing Unit := do
  let style := w.style key
  if !w.tagImplied style then sign (Written.tagText w.tag) true false false
  match style with
  | .plain => plain (!key) n w.text
  | .single => single (!key) n w.text
  | .double => double (!key) n w.text
  | .literal => literal n w.text

end Writing

/-- The bytes as they are written, seventy-six characters a line. -/
def bytesText (content : List UInt8) : List Char :=
  let rec lines : Nat → List UInt8 → List Char
    | 0, _ => []
    | _, [] => []
    | fuel + 1, bs => Text.Base64.encode (bs.take 57) ++ '\n' :: lines fuel (bs.drop 57)
  lines content.length content

/-- A floating-point number as it is written: always with a point. -/
def floatText : Double → String
  | .nan => ".nan"
  | .infinite negative => if negative then "-.inf" else ".inf"
  | x =>
    let cs := x.shortest.toList
    let mantissa := cs.takeWhile (· ≠ 'e')
    if cs.contains '.' || !cs.contains 'e' then String.ofList cs
    else String.ofList (mantissa ++ ['.', '0'] ++ cs.dropWhile (· ≠ 'e'))

/-- The text that a value is written as, if it is no collection. -/
def writtenText? : Value → Except Fault (Option Written)
  | .null => .ok (some { tag := .null, text := ['n', 'u', 'l', 'l'] })
  | .bool b => .ok (some { tag := .bool, text := (if b then "true" else "false").toList })
  | .int n => return some { tag := .int, text := (← Value.intText n).toList }
  | .float x => .ok (some { tag := .float, text := (floatText x).toList })
  | .str s => .ok (some { tag := .str, text := s.toList })
  | .bytes content => .ok (some { tag := .binary, text := bytesText content, asBlock := true })
  | .timestamp t => .ok (some { tag := .timestamp, text := (t.isoText ' ').toList })
  | .date d => .ok (some { tag := .timestamp, text := d.text.toList })
  | _ => .ok none

/-- A document to be written. -/
inductive Sheet where
  /-- A text. -/
  | text (w : Written)
  /-- A sequence. -/
  | sequence (tag : Tag) (items : List Sheet)
  /-- A mapping. -/
  | mapping (tag : Tag) (entries : List (Sheet × Sheet))

namespace Sheet

/-- A number. -/
def int (n : Int) : Sheet := .text { tag := .int, text := (Decimal.ofInt n).toList }

/-- A duration, which has no tag in the language: days, seconds and microseconds under a tag of its
own. -/
def duration (d : Duration) : Sheet :=
  let rest := (Int.fmod d.micros Duration.microsPerDay).toNat
  .sequence (.other "python/object/apply:datetime.timedelta")
    [int (Int.fdiv d.micros Duration.microsPerDay), int (rest / 1000000 : Nat),
      int (rest % 1000000 : Nat)]

mutual

/-- The document of a value. -/
def ofValue (v : Value) : Except Fault Sheet :=
  match v with
  | .duration d => .ok (duration d)
  | .list items => return .sequence .seq (← ofValues items)
  | .tuple items => return .sequence (.other "python/tuple") (← ofValues items)
  | .map entries => return .mapping .map (← ofEntries entries)
  | .set items => return .mapping .set (← ofMembers items)
  | v => return match ← writtenText? v with
    | some w => .text w
    | none => .sequence .seq []

/-- The documents of values. -/
def ofValues : List Value → Except Fault (List Sheet)
  | [] => .ok []
  | v :: rest => return (← ofValue v) :: (← ofValues rest)

/-- The documents of entries. -/
def ofEntries : List (Value × Value) → Except Fault (List (Sheet × Sheet))
  | [] => .ok []
  | (k, v) :: rest => return (← ofValue k, ← ofValue v) :: (← ofEntries rest)

/-- The documents of members of a set, as keys without values. -/
def ofMembers : List Value → Except Fault (List (Sheet × Sheet))
  | [] => .ok []
  | v :: rest =>
    return (← ofValue v, .text { tag := .null, text := ['n', 'u', 'l', 'l'] }) :: (← ofMembers rest)

end

/-- Whether a document can be a key in one line. -/
def fitsKey : Sheet → Bool
  | .text w => w.fitsKey
  | .sequence _ items => items.isEmpty
  | .mapping _ entries => entries.isEmpty

/-- Where a document stands. -/
inductive Context where
  /-- In no other one, or in a sequence. -/
  | loose
  /-- In a mapping. -/
  | entry
  /-- As the key of an entry in one line. -/
  | key
  deriving DecidableEq

/-- The indentation of a document in another one; `none` stands for that of no other one. -/
def deeper : Option Nat → Nat
  | none => 0
  | some n => n + 2

open Writing in
/-- Writes the tag of a collection. -/
def writeTag (t usual : Tag) : Writing Unit := do
  if t ≠ usual then sign (Written.tagText t) true false false

open Writing in
/-- Writes an empty collection. -/
def writeEmpty (opening closing : String) : Writing Unit := do
  sign opening true true false
  sign closing false false false

/-- The indentation of a sequence: that of the mapping it belongs to, if it begins after a colon in
the same line. -/
def sequenceIndent (outer : Option Nat) (context : Context) (indenting : Bool) : Nat :=
  match outer with
  | none => 0
  | some n => if context ≠ .loose && !indenting then n else n + 2

open Writing

mutual

/-- Writes a document; `outer` is the indentation of what it belongs to. -/
def write (outer : Option Nat) (context : Context) : Sheet → Writing Unit
  | .text w => scalar ((outer.getD 0) + 2) (context = .key) w
  | .sequence t items => do
    writeTag t .seq
    if items.isEmpty then writeEmpty "[" "]"
    else writeItems (sequenceIndent outer context (← get).indenting) items
  | .mapping t entries => do
    writeTag t .map
    if entries.isEmpty then writeEmpty "\x7b" "\x7d" else writeEntries (deeper outer) entries

/-- Writes the items of a sequence. -/
def writeItems (n : Nat) : List Sheet → Writing Unit
  | [] => pure ()
  | item :: rest => do
    indent n
    sign "-" true false true
    write (some n) .loose item
    writeItems n rest

/-- Writes the entries of a mapping. -/
def writeEntries (n : Nat) : List (Sheet × Sheet) → Writing Unit
  | [] => pure ()
  | (k, v) :: rest => do
    indent n
    if k.fitsKey then
      write (some n) .key k
      sign ":" false false false
      write (some n) .entry v
    else
      sign "?" true false true
      write (some n) .entry k
      indent n
      sign ":" true false true
      write (some n) .entry v
    writeEntries n rest

end

end Sheet

/-- The text of a document. -/
def render (v : Value) : Except Fault String := do
  let sheet ← Sheet.ofValue v
  let (_, o) := (sheet.write none .loose *> Writing.indent 0).run {}
  return String.ofList o.done.reverse

end Vigil.Yaml
