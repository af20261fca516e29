import Vigil.Fault
import Vigil.Text.Blank
import Vigil.Text.Split
import Vigil.Text.Wrap

/-!
# Text with style marks

A mark in brackets opens a style, and one that begins with a slash closes it; an empty one closes
the style that was opened last. A backslash before a bracket keeps it. Only the text remains when
marks are read, but a mark that closes a style which is not open is a fault.
-/

namespace Vigil.Text.Markup

/-- A part of a text with marks. -/
inductive Piece where
  /-- Text. -/
  | text (cs : List Char)
  /-- A mark, with the number of characters before it. -/
  | mark (content : List Char) (position : Nat)
  deriving DecidableEq, Repr

/-- A character that a mark can begin with. -/
def beginsMark (c : Char) : Bool := ('a' ≤ c && c ≤ 'z') || c = '#' || c = '/' || c = '@'

/-- The mark that a text begins with after its bracket, and the rest. -/
def mark? (cs : List Char) : Option (List Char × List Char) :=
  let content := cs.takeWhile fun c => !(c = ']' || c = '[')
  match content, cs.drop content.length with
  | c :: _, ']' :: rest => if beginsMark c then some (content, rest) else none
  | _, _ => none

/-- The pieces of a text from a position on; at most `fuel` characters and marks are read. `run` is
the number of backslashes right before. -/
def piecesFrom : Nat → Nat → Nat → List Char → List Piece
  | 0, _, _, _ => []
  | _, _, run, [] => [.text (List.replicate run '\\')]
  | fuel + 1, position, run, c :: rest =>
    if c = '\\' then piecesFrom fuel (position + 1) (run + 1) rest
    else
      match (if c = '[' then mark? rest else none) with
      | none => .text (List.replicate run '\\' ++ [c]) :: piecesFrom fuel (position + 1) 0 rest
      | some (content, after) =>
        let next := position + content.length + 2
        let kept := Piece.text (List.replicate (run / 2) '\\')
        if run % 2 = 1 then
          kept :: .text ('[' :: content ++ [']']) :: piecesFrom fuel next 0 after
        else kept :: .mark content position :: piecesFrom fuel next 0 after

/-- A text in which a backslash before a bracket is left out. -/
def unescaped : List Char → List Char
  | '\\' :: '[' :: rest => '[' :: unescaped rest
  | c :: rest => c :: unescaped rest
  | [] => []

/-! ## Styles -/

/-- The names of attributes in the order in which they are written. -/
def attributes : List String :=
  ["bold", "dim", "italic", "underline", "blink", "blink2", "reverse", "conceal", "strike",
    "underline2", "frame", "encircle", "overline"]

/-- The short names of attributes. -/
def shortNames : List (String × String) :=
  [("b", "bold"), ("d", "dim"), ("i", "italic"), ("u", "underline"), ("r", "reverse"),
    ("c", "conceal"), ("s", "strike"), ("uu", "underline2"), ("o", "overline")]

/-- The attribute of a word. -/
def attribute? (word : String) : Option String :=
  if attributes.contains word then some word else (shortNames.find? (·.1 = word)).map (·.2)

/-- The names of the colours that every terminal has. -/
def colours : List String :=
  ["black", "red", "green", "yellow", "blue", "magenta", "cyan", "white"]

/-- Whether a word is a colour. -/
def isColour (word : String) : Bool :=
  word = "default" || colours.any fun c => word = c || word = "bright_" ++ c

/-- A style in its parts. -/
structure Style where
  /-- Attributes that are set, and whether they are on. -/
  attributes : List (String × Bool) := []
  /-- The colour of the text. -/
  colour : Option String := none
  /-- The colour behind the text. -/
  behind : Option String := none
  /-- The address that the text leads to. -/
  link : Option String := none

/-- Reads a style from its words, if they are one. -/
def Style.ofWords? (style : Style) : List String → Option Style
  | [] => some style
  | "on" :: colour :: rest =>
    if isColour colour.toLower then
      ({ style with behind := some colour.toLower }).ofWords? rest
    else none
  | "not" :: word :: rest =>
    (attribute? word).bind fun name =>
      ({ style with attributes := (name, false) :: style.attributes }).ofWords? rest
  | "link" :: address :: rest => ({ style with link := some address }).ofWords? rest
  | word :: rest =>
    match attribute? word.toLower with
    | some name => ({ style with attributes := (name, true) :: style.attributes }).ofWords? rest
    | none =>
      if isColour word.toLower then ({ style with colour := some word.toLower }).ofWords? rest
      else none

/-- The words of a style in their usual order. -/
def Style.words (style : Style) : List String :=
  (Markup.attributes.flatMap fun name =>
    match style.attributes.find? (·.1 = name) with
    | some (_, true) => [name]
    | some (_, false) => ["not", name]
    | none => []) ++
  style.colour.toList ++ (style.behind.map fun c => ["on", c]).getD [] ++
  (style.link.map fun a => ["link", a]).getD []

/-- The name by which a style is opened and closed. -/
def styleName (cs : List Char) : String :=
  let words := (Text.words cs).map fun w => String.ofList (trim w)
  match Style.ofWords? {} words with
  | some style => " ".intercalate (if style.words.isEmpty then ["none"] else style.words)
  | none => (String.ofList (trim cs)).toLower

/-! ## Reading -/

/-- Text read so far, last piece first, and the styles that are open, the last one first. -/
structure Reading where
  /-- The text. -/
  done : List (List Char) := []
  /-- The open styles. -/
  opened : List String := []

/-- Reads a mark. -/
def Reading.mark (r : Reading) (content : List Char) (position : Nat) : Except Fault Reading :=
  let (name, _) := cut '=' content
  match name with
  | '/' :: closing =>
    if (trim closing).isEmpty then
      match r.opened with
      | _ :: rest => .ok { r with opened := rest }
      | [] => .error (.markup s!"closing tag '[/]' at position {position} has nothing to close")
    else
      let style := styleName (trim closing)
      if r.opened.contains style then .ok { r with opened := r.opened.erase style }
      else
        .error (.markup (s!"closing tag '[{String.ofList content}]' at position {position} " ++
          "doesn't match any open tag"))
  | _ => .ok { r with opened := styleName name :: r.opened }

/-- Reads a piece. -/
def Reading.add (r : Reading) : Piece → Except Fault Reading
  | .text cs => .ok { r with done := unescaped cs :: r.done }
  | .mark content position => r.mark content position

/-- The text without its marks, silent characters left out. -/
def plain (s : String) : Except Fault (List Char) := do
  let cs := s.toList
  if !cs.contains '[' then return audible cs
  else
    let r ← (piecesFrom (cs.length + 1) 0 0 cs).foldlM Reading.add {}
    return audible r.done.reverse.flatten

end Vigil.Text.Markup
