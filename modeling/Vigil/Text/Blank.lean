/-!
# Blank characters

The characters that count as white space in text of any script, and the six that do in ASCII text,
with trimming by either class.
-/

namespace Vigil.Text

/-- White space of any script, the four ASCII separators and the three line ends beyond ASCII
included. -/
def isBlank (c : Char) : Bool :=
  let n := c.toNat
  (9 ≤ n && n ≤ 13) || (0x1C ≤ n && n ≤ 0x20) || n = 0x85 || n = 0xA0 || n = 0x1680 ||
    (0x2000 ≤ n && n ≤ 0x200A) || n = 0x2028 || n = 0x2029 || n = 0x202F || n = 0x205F || n = 0x3000

/-- White space of ASCII text: the space, tabs and line ends. -/
def isAsciiBlank (c : Char) : Bool := c = ' ' || (9 ≤ c.toNat && c.toNat ≤ 13)

/-- Text without the characters of a class at its two ends. -/
def trimBy (drop : Char → Bool) (cs : List Char) : List Char :=
  ((cs.dropWhile drop).reverse.dropWhile drop).reverse

/-- Text without white space at its two ends. -/
def trim (cs : List Char) : List Char := trimBy isBlank cs

/-- A string without white space at its two ends. -/
def trimmed (s : String) : String := String.ofList (trim s.toList)

/-- ASCII white space is white space. -/
theorem isBlank_of_isAsciiBlank {c : Char} (h : isAsciiBlank c) : isBlank c := by
  simp only [isAsciiBlank, Bool.or_eq_true, decide_eq_true_eq, Bool.and_eq_true] at h
  rcases h with rfl | h
  · decide
  · simp [isBlank, h]

end Vigil.Text
