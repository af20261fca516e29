import Vigil.Proofs.Number.Numeral

/-!
# Digits of all scripts

The reader of numbers replaces the digits of every script by those of ASCII
(`Literal.toAscii_append`), which stand for the same numbers (`Decimal.value_map_asciiOf`). A digit
of any script is no white space, so trimming ends at it.
-/

namespace Vigil

namespace Text

/-- A decimal digit is one of a run of ten. -/
theorem isDecimalDigit_iff {c : Char} :
    isDecimalDigit c ↔ ∃ start ∈ zeroCodePoints, start ≤ c.toNat ∧ c.toNat < start + 10 := by
  rw [isDecimalDigit, decimalDigit?, Option.isSome_map, List.find?_isSome]
  simp only [Bool.and_eq_true, decide_eq_true_eq]

/-- What a digit stands for is less than ten. -/
theorem lt_ten_of_decimalDigit? {c : Char} {d : ℕ} (h : decimalDigit? c = some d) : d < 10 := by
  obtain ⟨start, hfind, rfl⟩ := Option.map_eq_some_iff.mp h
  have hrun := List.find?_some hfind
  simp only [Bool.and_eq_true, decide_eq_true_eq] at hrun
  omega

/-- The runs of digits lie between the white space characters. -/
theorem zeroCodePoints_apart : ∀ start ∈ zeroCodePoints,
    start = 0x30 ∨ 0xA1 ≤ start ∧ start ≤ 0x1676 ∨ 0x1681 ≤ start ∧ start ≤ 0x1FF6 ∨
      0x3001 ≤ start := by
  decide

/-- A decimal digit of any script is no white space. -/
theorem isBlank_of_isDecimalDigit {c : Char} (h : isDecimalDigit c) : isBlank c = false := by
  obtain ⟨start, hmem, hlow, hhigh⟩ := isDecimalDigit_iff.mp h
  have hapart := zeroCodePoints_apart start hmem
  simp only [isBlank, Bool.or_eq_false_iff, Bool.and_eq_false_iff, decide_eq_false_iff_not]
  omega

/-- A digit beyond the first run is beyond ASCII. -/
theorem isDigit_or_le_of_isDecimalDigit {c : Char} (h : isDecimalDigit c) :
    Literal.isDigit c ∨ 127 ≤ c.toNat := by
  obtain ⟨start, hmem, hlow, hhigh⟩ := isDecimalDigit_iff.mp h
  have hapart := zeroCodePoints_apart start hmem
  rw [Literal.isDigit_iff]
  omega

/-- The digits of ASCII are the first run. -/
theorem decimalDigit?_of_isDigit {c : Char} (h : Literal.isDigit c) :
    decimalDigit? c = some (c.toNat - 48) := by
  obtain ⟨hlow, hhigh⟩ := Literal.isDigit_iff.mp h
  have hfirst : (decide (0x30 ≤ c.toNat) && decide (c.toNat < 0x30 + 10)) = true := by
    simp only [Bool.and_eq_true, decide_eq_true_eq]
    omega
  rw [decimalDigit?, zeroCodePoints, List.find?_cons, hfirst]
  rfl

/-- A digit of ASCII is a decimal digit. -/
theorem isDecimalDigit_of_isDigit {c : Char} (h : Literal.isDigit c) : isDecimalDigit c := by
  rw [isDecimalDigit, decimalDigit?_of_isDigit h]
  rfl

/-- The number that a digit of any script stands for. -/
def digitValue (c : Char) : ℕ := (decimalDigit? c).getD 0

/-- The ASCII digit for a digit of any script. -/
def asciiOf (c : Char) : Char := asciiDigit (digitValue c)

/-- The digits of ASCII have consecutive code points. -/
theorem toNat_asciiDigit {d : ℕ} (h : d < 10) : (asciiDigit d).toNat = 48 + d := by
  have hvalid : (48 + d).isValidChar := .inl (by omega)
  rw [asciiDigit, Char.ofNat, dif_pos hvalid]
  rfl

/-- A decimal digit is below ten. -/
theorem digitValue_lt (c : Char) : digitValue c < 10 := by
  unfold digitValue
  cases h : decimalDigit? c with
  | none => decide
  | some d => exact lt_ten_of_decimalDigit? h

/-- A decimal digit folds to a digit of ASCII. -/
theorem isDigit_asciiOf (c : Char) : Literal.isDigit (asciiOf c) := by
  have hlt := digitValue_lt c
  rw [Literal.isDigit_iff, asciiOf, toNat_asciiDigit hlt]
  omega

/-- A digit of ASCII is its own. -/
theorem asciiOf_of_isDigit {c : Char} (h : Literal.isDigit c) : asciiOf c = c := by
  obtain ⟨hlow, hhigh⟩ := Literal.isDigit_iff.mp h
  rw [asciiOf, digitValue, decimalDigit?_of_isDigit h, Option.getD_some, asciiDigit,
    Nat.add_sub_cancel' hlow, Char.ofNat_toNat]

end Text

namespace Literal

open Text (isDecimalDigit asciiOf)

/-- Digits of all scripts become those of ASCII. -/
theorem toAscii_append {ds : List Char} (h : ∀ c ∈ ds, isDecimalDigit c) (rest : List Char) :
    toAscii (ds ++ rest) = ds.map asciiOf ++ toAscii rest := by
  induction ds with
  | nil => rfl
  | cons c ds ih =>
    have hc := h c List.mem_cons_self
    rw [List.cons_append, toAscii, ih fun d hd => h d (List.mem_cons_of_mem c hd)]
    rcases Text.isDigit_or_le_of_isDecimalDigit hc with hdigit | hlarge
    · -- A digit of ASCII stays.
      rw [if_pos (isPlain_of_isDigit hdigit).2.1, List.map_cons, Text.asciiOf_of_isDigit hdigit]
      rfl
    · obtain ⟨d, hd⟩ := Option.isSome_iff_exists.mp hc
      rw [if_neg (not_lt.mpr hlarge), if_neg (by simp [Text.isBlank_of_isDecimalDigit hc]), hd]
      simp [asciiOf, Text.digitValue, hd]

/-- Visible ASCII characters stay. -/
theorem PlainText.toAscii_append {cs : List Char} (h : PlainText cs) (rest : List Char) :
    Literal.toAscii (cs ++ rest) = cs ++ Literal.toAscii rest := by
  induction cs with
  | nil => rfl
  | cons c cs ih =>
    rw [List.cons_append, Literal.toAscii, if_pos (h c List.mem_cons_self).2.1,
      ih fun d hd => h d (List.mem_cons_of_mem c hd), List.cons_append]

end Literal

namespace Decimal

/-- The number that digits of any script stand for. -/
def valueOf (ds : List Char) : ℕ := ds.foldl (fun n c => n * 10 + Text.digitValue c) 0

/-- The ASCII digits for digits of any script stand for the same number. -/
theorem value_map_asciiOf (ds : List Char) : value (ds.map Text.asciiOf) = valueOf ds := by
  have hdigit (c : Char) : (Text.asciiOf c).toNat - 48 = Text.digitValue c := by
    rw [Text.asciiOf, Text.toNat_asciiDigit (Text.digitValue_lt c), Nat.add_sub_cancel_left]
  rw [value, valueOf, List.foldl_map]
  simp only [hdigit]

/-- Digits of ASCII stand for the number that they are in every script. -/
theorem valueOf_eq_value {ds : List Char} (h : ∀ c ∈ ds, Literal.isDigit c) :
    valueOf ds = value ds := by
  rw [← value_map_asciiOf, List.map_congr_left fun c hc => Text.asciiOf_of_isDigit (h c hc),
    List.map_id']

end Decimal

end Vigil
