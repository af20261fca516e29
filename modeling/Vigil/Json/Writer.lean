import Vigil.Json.Basic
import Vigil.Text.Quoted

/-!
# Writing JSON

Documents are written in ASCII, in one line or with one item a line, indented by two blanks a level.
-/

namespace Vigil.Json

/-- A unit of two bytes as it is written in a text. -/
def unitText (n : Nat) : List Char := '\\' :: 'u' :: Text.hex 4 n

/-- A character as it is written in a text. -/
def charText (c : Char) : List Char :=
  match c with
  | '"' => ['\\', '"']
  | '\\' => ['\\', '\\']
  | '\n' => ['\\', 'n']
  | '\r' => ['\\', 'r']
  | '\t' => ['\\', 't']
  | '\x08' => ['\\', 'b']
  | '\x0c' => ['\\', 'f']
  | c =>
    if 32 ≤ c.toNat && c.toNat < 127 then [c]
    else if c.toNat < 0x10000 then unitText c.toNat
    else
      let code := c.toNat - 0x10000
      unitText (0xD800 + code / 1024) ++ unitText (0xDC00 + code % 1024)

/-- A text between quotes. -/
def textText (s : String) : List Char := '"' :: s.toList.flatMap charText ++ ['"']

/-- A number that is not an integer. -/
def floatText : Double → String
  | .nan => "NaN"
  | .infinite negative => if negative then "-Infinity" else "Infinity"
  | x => x.shortest

/-- How items are set apart. -/
structure Layout where
  /-- What stands before an item or a closing bracket of a depth. -/
  lineBreak : Nat → List Char
  /-- What stands after a comma that ends no line. -/
  afterComma : List Char

/-- Everything in one line. -/
def inline : Layout := ⟨fun _ => [], [' ']⟩

/-- One item a line. -/
def indented : Layout := ⟨fun depth => '\n' :: List.replicate (2 * depth) ' ', []⟩

mutual

/-- A document at a depth. -/
def textAt (layout : Layout) (depth : Nat) : Json → List Char
  | .null => ['n', 'u', 'l', 'l']
  | .bool true => ['t', 'r', 'u', 'e']
  | .bool false => ['f', 'a', 'l', 's', 'e']
  | .int n => (Decimal.ofInt n).toList
  | .float x => (floatText x).toList
  | .str s => textText s
  | .list [] => ['[', ']']
  | .list (j :: rest) =>
    '[' :: layout.lineBreak (depth + 1) ++ textAt layout (depth + 1) j ++
      itemsText layout (depth + 1) rest ++ layout.lineBreak depth ++ [']']
  | .object [] => ['\x7b', '\x7d']
  | .object ((name, j) :: rest) =>
    '\x7b' :: layout.lineBreak (depth + 1) ++ textText name ++ [':', ' '] ++
      textAt layout (depth + 1) j ++ membersText layout (depth + 1) rest ++
      layout.lineBreak depth ++ ['\x7d']

/-- The items of a list after the first one. -/
def itemsText (layout : Layout) (depth : Nat) : List Json → List Char
  | [] => []
  | j :: rest =>
    ',' :: layout.afterComma ++ layout.lineBreak depth ++ textAt layout depth j ++
      itemsText layout depth rest

/-- The members of an object after the first one. -/
def membersText (layout : Layout) (depth : Nat) : List (String × Json) → List Char
  | [] => []
  | (name, j) :: rest =>
    ',' :: layout.afterComma ++ layout.lineBreak depth ++ textText name ++ [':', ' '] ++
      textAt layout depth j ++ membersText layout depth rest

end

/-- A document in one line. -/
def compact (j : Json) : String := String.ofList (textAt inline 0 j)

/-- A document with one item a line. -/
def pretty (j : Json) : String := String.ofList (textAt indented 0 j)

end Vigil.Json
