/-!
# Splitting text

A text is split at every occurrence of a character, or cut at the first one.
-/

namespace Vigil.Text

/-- The parts of a text between the occurrences of a character: one part more than there are of
them. -/
def fields (mark : Char) (cs : List Char) : List (List Char) :=
  cs.foldr (fun c parts =>
    if c = mark then [] :: parts
    else match parts with
      | part :: more => (c :: part) :: more
      | [] => [[c]]) [[]]

/-- A text up to the first occurrence of a character, and the text after it if it occurs. -/
def cut (mark : Char) (cs : List Char) : List Char × Option (List Char) :=
  match cs.dropWhile (· ≠ mark) with
  | [] => (cs, none)
  | _ :: rest => (cs.takeWhile (· ≠ mark), some rest)

end Vigil.Text
