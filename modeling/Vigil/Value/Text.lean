import Vigil.Value.Number

/-!
# Values as text

How messages write values: texts as they are, everything else in the form that shows data, in which
texts stand between quotes. Collections are shown however deep they are nested: a limit on that is
no part of the library, while the limit on the digits of an integer is (`Literal.maxDigits`).
-/

namespace Vigil.Value

/-- Items with commas between them and brackets around. -/
def bracketed (opening closing : String) (items : List String) : String :=
  opening ++ ", ".intercalate items ++ closing

mutual

/-- The form that shows data. -/
def shown : Value → Except Fault String
  | .null => .ok "None"
  | .bool b => .ok (if b then "True" else "False")
  | .int n => intText n
  | .float x => .ok x.shortest
  | .str s => .ok (Text.quoted s)
  | .bytes content => .ok (Text.quotedBytes content)
  | .duration d => .ok d.shown
  | .timestamp t => .ok t.shown
  | .date d => .ok d.shown
  | .list items => return bracketed "[" "]" (← shownItems items)
  | .tuple items =>
    match items with
    | [item] => return "(" ++ (← shown item) ++ ",)"
    | items => return bracketed "(" ")" (← shownItems items)
  | .map entries => return bracketed "\x7b" "\x7d" (← shownEntries entries)
  | .set items =>
    if items.isEmpty then .ok "set()" else return bracketed "\x7b" "\x7d" (← shownItems items)

/-- The forms of items. -/
def shownItems : List Value → Except Fault (List String)
  | [] => .ok []
  | v :: rest => return (← shown v) :: (← shownItems rest)

/-- The forms of entries, each a key and a value. -/
def shownEntries : List (Value × Value) → Except Fault (List String)
  | [] => .ok []
  | (k, v) :: rest => return ((← shown k) ++ ": " ++ (← shown v)) :: (← shownEntries rest)

end

/-- A value as messages write it. -/
def text : Value → Except Fault String
  | .str s => .ok s
  | .duration d => .ok d.clock
  | .timestamp t => .ok (t.isoText ' ')
  | .date d => .ok d.text
  | v => shown v

end Vigil.Value
