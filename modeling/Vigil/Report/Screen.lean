import Vigil.Report.Drawing

/-!
# Screens

Tables and texts with style marks are printed on a screen. The library takes it from its caller.
`Screen.ofWidth` is a screen without colours, on which the names of emoji stay as they are and what
a mark does when it is clicked is not looked at.
-/

namespace Vigil

/-- What tables and texts are printed on. -/
structure Screen where
  /-- What is printed of a table. -/
  draw : Table → Except Fault String
  /-- What is printed of a text with style marks. -/
  say : String → Except Fault String

/-- The screen whose lines have so many cells. -/
def Screen.ofWidth (width : Nat) : Screen where
  draw t := t.draw width
  say s := do
    let lines := Text.wrapped .fold true width (← Text.Markup.plain s)
    return String.ofList (lines.flatMap fun line => Text.cutTo .fold width line ++ ['\n'])

end Vigil
