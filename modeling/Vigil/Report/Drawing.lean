import Vigil.Number.Double
import Vigil.Report.Table
import Vigil.Text.Markup

/-!
# Drawing tables

A table is drawn with lines between its cells, the headers under a heavy line and the title centred
above. A column is as wide as its widest cell. Where the columns are too wide for a line, those
whose cells may be broken are made narrower, the widest first; a word that does not fit ends in an
ellipsis.
-/

namespace Vigil

-- Sums begin with the zero of the natural numbers themselves.
attribute [local instance (high)] Zero.ofOfNat0

namespace Justify

/-- A line in a column of so many cells. -/
def place (side : Justify) (count : Nat) (line : List Char) : List Char :=
  let blanks (n : Nat) : List Char := List.replicate n ' '
  match side with
  | .left =>
    let line := Text.cutTo .ellipsis count line
    line ++ blanks (count - Text.width line)
  | .center =>
    let line := Text.cutTo .ellipsis count (Text.trimEnd line)
    let before := (count - Text.width line) / 2
    blanks before ++ line ++ blanks (count - Text.width line - before)
  | .right =>
    let line := Text.cutTo .ellipsis count (Text.trimEnd line)
    blanks (count - Text.width line) ++ line

end Justify

/-- The text that a cell shows. -/
def Cell.shown : Cell → Except Fault (List Char)
  | .marked text => Text.Markup.plain text
  | .styled text _ => .ok (Text.audible text.toList)

namespace Table

/-! ## Widths of columns -/

/-- Takes cells off numbers, at most `limit` off each one that is chosen, as evenly as whole cells
allow; `left` are to be taken off, and `chosen` numbers are left to take them off. -/
def takeOff (limit : Nat) : Nat → Nat → List (Nat × Bool) → List Nat
  | _, _, [] => []
  | left, chosen, (w, isChosen) :: rest =>
    if isChosen && limit ≠ 0 then
      let share := min limit (roundDiv left chosen)
      (w - share) :: takeOff limit (left - share) (chosen - 1) rest
    else w :: takeOff limit left chosen rest

/-- Makes the widest columns that may wrap as narrow as the next widest one, until all fit or none
is left; `fuel` bounds the number of times. -/
def collapse : Nat → Nat → List (Nat × Bool) → List Nat
  | 0, _, columns => columns.map (·.1)
  | fuel + 1, available, columns =>
    let excess := (columns.map (·.1)).sum - available
    let flexible := (columns.filter (·.2)).map (·.1)
    let greatest := flexible.foldl max 0
    let second := (flexible.filter (· ≠ greatest)).foldl max 0
    if excess = 0 || greatest = second then columns.map (·.1)
    else
      let chosen := columns.map fun (w, wraps) => (w, wraps && w = greatest)
      let widths := takeOff (min excess (greatest - second)) excess (chosen.countP (·.2)) chosen
      collapse fuel available (widths.zip (columns.map (·.2)))

/-- Takes cells off all columns, off none more than it has. -/
def shrink : Nat → Nat → List Nat → List Nat
  | _, _, [] => []
  | left, count, w :: rest =>
    let share := if w = 0 then 0 else min w (roundDiv left count)
    (w - share) :: shrink (left - share) (if w = 0 then count else count - 1) rest

/-- The widths of columns in so many cells, given those that they would like to have. -/
def fitted (available : Nat) (columns : List (Nat × Bool)) : List Nat :=
  let wanted := columns.map (·.1)
  if wanted.sum ≤ available then wanted
  else
    let widths := if columns.any (·.2) then collapse wanted.sum available columns else wanted
    shrink (widths.sum - available) (widths.countP (· ≠ 0)) widths

/-- The width that a column would like to have: its widest line with a blank on either side. -/
def wantedWidth (available : Nat) (cells : List (List Char)) : Nat :=
  max 1 (min available ((cells.map Text.widest).foldl max 0 + 2))

/-! ## Drawing -/

/-- The characters of a line across a table. -/
structure Rule where
  /-- At the left edge. -/
  left : Char
  /-- Along a column. -/
  along : Char
  /-- Between columns. -/
  between : Char
  /-- At the right edge. -/
  right : Char

/-- The line above the headers. -/
def topRule : Rule := ⟨'┏', '━', '┳', '┓'⟩

/-- The line below the headers. -/
def headRule : Rule := ⟨'┡', '━', '╇', '┩'⟩

/-- The line below all rows. -/
def bottomRule : Rule := ⟨'└', '─', '┴', '┘'⟩

/-- What stands on both sides of a header. -/
def headBar : Char := '┃'

/-- What stands on both sides of a cell. -/
def rowBar : Char := '│'

/-- Draws a line across columns. -/
def Rule.draw (rule : Rule) (widths : List Nat) : List Char :=
  let runs := widths.map fun w => List.replicate w rule.along
  rule.left :: [rule.between].intercalate runs ++ [rule.right]

/-- The lines of a cell in a column of a width. -/
def cellLines (column : Column) (w : Nat) (cs : List Char) : List (List Char) :=
  if w < 3 then []
  else (Text.wrapped .ellipsis column.wraps (w - 2) cs).map fun line =>
    ' ' :: column.justify.place (w - 2) line ++ [' ']

/-- Draws the lines of a row between bars. -/
def rowLines (bar : Char) (columns : List (Column × Nat)) (row : List (List Char)) :
    List (List Char) :=
  let cells := (columns.zip row).map fun ((column, w), cs) => (w, cellLines column w cs)
  let height := (cells.map (·.2.length)).foldl max 1
  (List.range height).map fun i =>
    let parts := cells.map fun (w, lines) => lines.getD i (List.replicate w ' ')
    bar :: [bar].intercalate parts ++ [bar]

/-- The cells of a table as texts, row by row. -/
def shownRows (t : Table) : Except Fault (List (List (List Char))) :=
  t.rows.mapM fun row => row.mapM Cell.shown

/-- The cells of a column. -/
def columnCells (i : Nat) (rows : List (List (List Char))) : List (List Char) :=
  rows.map fun row => row.getD i []

/-- Draws a table in lines of so many cells. -/
def draw (t : Table) (available : Nat) : Except Fault String := do
  let rows ← t.shownRows
  let headers := t.columns.map fun c => c.header.toList
  let inner := available - (t.columns.length + 1)
  let wanted := t.columns.zipIdx.map fun (c, i) =>
    (wantedWidth inner (columnCells i (headers :: rows)), c.wraps)
  let widths := fitted inner wanted
  let columns := t.columns.zip widths
  let whole := widths.sum + t.columns.length + 1
  let title := (Text.wrapped .fold true whole (← Text.Markup.plain t.title)).map
    (Justify.center.place whole)
  let lines := title ++ [topRule.draw widths] ++ rowLines headBar columns headers ++
    [headRule.draw widths] ++ rows.flatMap (rowLines rowBar columns) ++ [bottomRule.draw widths]
  return String.ofList (lines.flatMap fun line => line ++ ['\n'])

end Table

end Vigil
