import Vigil.Report
import Vigil.Text.Split

/-!
# Tables of a report

The findings, the worst first, and the performance data as rows of cells under titled columns.
-/

namespace Vigil

/-- How the cells of a column stand in it. -/
inductive Justify where
  | left | center | right
  deriving DecidableEq, Repr

namespace Justify

/-- The word for a side. -/
def name : Justify → String
  | .left => "left"
  | .center => "center"
  | .right => "right"

end Justify

/-- A column of a table. -/
structure Column where
  /-- The text over the column. -/
  header : String
  /-- Where cells stand in the column. -/
  justify : Justify
  /-- Whether cells may be broken into several lines. -/
  wraps : Bool
  deriving DecidableEq, Repr

/-- What stands in one field of a table. -/
inductive Cell where
  /-- A text that may hold style marks between brackets. -/
  | marked (text : String)
  /-- A text in one style. -/
  | styled (text style : String)
  deriving DecidableEq, Repr

/-- Rows of cells under columns. -/
structure Table where
  /-- The text over the table. -/
  title : String
  /-- The columns from left to right. -/
  columns : List Column
  /-- The rows, a cell for each column. -/
  rows : List (List Cell)
  deriving DecidableEq, Repr

namespace Report

/-- A row of the table of findings. -/
def findingRow (severity : Status) (message : String) : List Cell :=
  [.styled severity.name severity.colour, .marked message]

/-- The findings as a table, the worst first. -/
def findingsTable (r : Report) : Table where
  title := r.check ++ " check"
  columns := [⟨"Status", .center, true⟩, ⟨"Finding", .left, true⟩]
  rows := [Status.critical, .warning, .ok].flatMap fun s => (r.findings s).map (findingRow s)

/-- A row of the table of performance data: what is before the first equals sign, and what is
after. -/
def perfRow (text : String) : List Cell :=
  let (label, value) := Text.cut '=' text.toList
  [.marked (String.ofList label), .marked (String.ofList (value.getD []))]

/-- The performance data as a table. -/
def perfTable (r : Report) : Except Fault Table := do
  let texts ← r.perfTexts
  return {
    title := "Performance data"
    columns := [⟨"Metric", .left, false⟩, ⟨"Value", .right, true⟩]
    rows := texts.map perfRow }

end Report

end Vigil
