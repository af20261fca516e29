import Vigil.Text.Blank
import Vigil.Text.Cell
import Vigil.Text.Split

/-!
# Breaking lines

Text is broken into lines of a number of cells between words. A word takes the white space after it
along; one that is wider than a line is folded or cut, as is asked for.
-/

namespace Vigil.Text

/-- What becomes of a text that is too wide. -/
inductive Overflow where
  /-- It goes on in the next line. -/
  | fold
  /-- It ends in an ellipsis. -/
  | ellipsis
  deriving DecidableEq, Repr

/-- Control characters that are left out of what is shown. -/
def isSilent (c : Char) : Bool := c.toNat = 7 || c.toNat = 8 || (11 ≤ c.toNat && c.toNat ≤ 13)

/-- A text without silent characters. -/
def audible (cs : List Char) : List Char := cs.filter fun c => !isSilent c

/-- A text whose tabs, from a column on, are blanks up to the next multiple of eight columns. -/
def expandTabs (column : Nat) : List Char → List Char
  | [] => []
  | c :: rest =>
    if c = '\t' then
      let next := (column / 8 + 1) * 8
      List.replicate (next - column) ' ' ++ expandTabs next rest
    else c :: expandTabs (column + cells c) rest

/-- Puts a character before runs, white space before another character beginning a run. -/
def consRun (c : Char) : List (List Char) → List (List Char)
  | (d :: run) :: more =>
    if isBlank c && !isBlank d then [c] :: (d :: run) :: more else (c :: d :: run) :: more
  | runs => [c] :: runs

/-- The words of a text, each with the white space after it, the first one also with that before
it. -/
def words (cs : List Char) : List (List Char) :=
  match cs.foldr consRun [] with
  | first :: more =>
    if first.all isBlank then
      match more with
      | second :: rest => (first ++ second) :: rest
      | [] => []
    else first :: more
  | [] => []

/-- A text without white space at its end. -/
def trimEnd (cs : List Char) : List Char := (cs.reverse.dropWhile isBlank).reverse

/-- Pieces of a text of at most so many cells, `used` of which the open piece takes. -/
def chopFrom (max used : Nat) (piece : List Char) : List Char → List (List Char)
  | [] => [piece.reverse]
  | c :: rest =>
    if max < used + cells c then piece.reverse :: chopFrom max (cells c) [c] rest
    else chopFrom max (used + cells c) (c :: piece) rest

/-- Pieces of a text of at most so many cells. -/
def chop (max : Nat) (cs : List Char) : List (List Char) := chopFrom max 0 [] cs

/-- Lines that are being filled. -/
structure Filling where
  /-- The finished lines, last one first. -/
  done : List (List Char) := []
  /-- The open line. -/
  line : List Char := []
  /-- The cells of the open line. -/
  used : Nat := 0

namespace Filling

/-- The finished lines when a word begins a line of its own. -/
def closed (f : Filling) : List (List Char) := if f.line.isEmpty then f.done else f.line :: f.done

/-- Begins a line with a text. -/
def begin (f : Filling) (cs : List Char) : Filling := ⟨f.closed, cs, width cs⟩

/-- Puts a word into lines of so many cells. -/
def add (overflow : Overflow) (max : Nat) (f : Filling) (word : List Char) : Filling :=
  if f.used + width (trimEnd word) ≤ max then
    { f with line := f.line ++ word, used := f.used + width word }
  else if max < width (trimEnd word) && overflow = .fold then
    match (chop max word).reverse with
    | last :: before => ⟨before ++ f.closed, last, width last⟩
    | [] => f
  else f.begin word

/-- All lines. -/
def lines (f : Filling) : List (List Char) := (f.line :: f.done).reverse

end Filling

/-- A line broken into lines of so many cells. -/
def broken (overflow : Overflow) (max : Nat) (cs : List Char) : List (List Char) :=
  match words cs with
  | [] => [cs]
  | ws => (ws.foldl (Filling.add overflow max) {}).lines

/-- A line without the white space at its end that is beyond so many characters. -/
def trimBeyond (max : Nat) (cs : List Char) : List Char :=
  let blanks := cs.length - (trimEnd cs).length
  cs.take (cs.length - min blanks (cs.length - max))

/-- The longest beginning of a text of at most so many cells. -/
def beginning (max : Nat) : List Char → List Char
  | [] => []
  | c :: rest => if cells c ≤ max then c :: beginning (max - cells c) rest else []

/-- A text of exactly so many cells: cut, or filled up with blanks. -/
def sized (count : Nat) (cs : List Char) : List Char :=
  let kept := beginning count cs
  kept ++ List.replicate (count - width kept) ' '

/-- A text cut to at most so many cells. -/
def cutTo (overflow : Overflow) (max : Nat) (cs : List Char) : List Char :=
  if width cs ≤ max then cs
  else
    match overflow with
    | .fold => sized max cs
    | .ellipsis => sized (max - 1) cs ++ ['…']

/-- The lines of a text, broken between words if asked for, without the white space that is too
much. -/
def wrapped (overflow : Overflow) (wraps : Bool) (max : Nat) (cs : List Char) : List (List Char) :=
  (fields '\n' cs).flatMap fun line =>
    let line := expandTabs 0 line
    let parts := if wraps then broken overflow max line else [line]
    parts.map (trimBeyond max)

/-- A character that ends a line of a text. -/
def endsLine (c : Char) : Bool :=
  let n := c.toNat
  (10 ≤ n && n ≤ 13) || (0x1C ≤ n && n ≤ 0x1E) || n = 0x85 || n = 0x2028 || n = 0x2029

/-- The cells of the widest line of a text, of which `used` belong to the open line. -/
def widestFrom (used : Nat) : List Char → Nat
  | [] => used
  | c :: rest =>
    if endsLine c then max used (widestFrom 0 rest) else widestFrom (used + cells c) rest

/-- The cells of the widest line of a text. -/
def widest (cs : List Char) : Nat := widestFrom 0 cs

end Vigil.Text
