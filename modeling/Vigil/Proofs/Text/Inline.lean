import Vigil.Proofs.Faults
import Vigil.Proofs.Number.Digits
import Vigil.Value.Text

/-!
# Characters within a line

Which characters end a line (`Text.isBreak`), and texts that hold none of them. Solid texts
(`Text.Solid`) hold visible characters of ASCII other than the bar, and inline texts
(`Text.Inline`) also spaces. Everything that is written of numbers, durations and instants is one
or the other.
-/

namespace Vigil

namespace Text

/-- Whether a character ends a line: the line ends, tabs and separators of ASCII that do, and the
three line ends beyond ASCII. -/
def isBreak (c : Char) : Bool :=
  let n := c.toNat
  (10 ≤ n && n ≤ 13) || (0x1C ≤ n && n ≤ 0x1E) || n = 0x85 || n = 0x2028 || n = 0x2029

/-- Whether a character ends a line or separates its parts. -/
def isMark (c : Char) : Bool := isBreak c || c = '|'

/-- Whether a character is a visible one of ASCII, and no bar. -/
def isSolid (c : Char) : Bool := '!' ≤ c && c ≤ '~' && c ≠ '|'

/-- Text of solid characters. -/
def Solid (cs : List Char) : Prop := ∀ c ∈ cs, isSolid c

/-- Text of solid characters and spaces. -/
def Inline (cs : List Char) : Prop := ∀ c ∈ cs, isSolid c ∨ c = ' '

instance (cs : List Char) : Decidable (Solid cs) := List.decidableBAll _ cs

instance (cs : List Char) : Decidable (Inline cs) := List.decidableBAll _ cs

/-- What ends a line is white space. -/
theorem isBlank_of_isBreak {c : Char} (h : isBreak c) : isBlank c := by
  simp only [isBreak, Bool.or_eq_true, Bool.and_eq_true, decide_eq_true_eq] at h
  simp only [isBlank, Bool.or_eq_true, Bool.and_eq_true, decide_eq_true_eq]
  omega

/-- A solid character is no white space. -/
theorem not_isBlank_of_isSolid {c : Char} (h : isSolid c) : isBlank c = false := by
  have hrange : 33 ≤ c.toNat ∧ c.toNat ≤ 126 := by
    simp only [isSolid, Bool.and_eq_true, decide_eq_true_eq, Char.le_def] at h
    exact h.1
  simp only [isBlank, Bool.or_eq_false_iff, Bool.and_eq_false_iff, decide_eq_false_iff_not]
  omega

/-- A solid character is no mark. -/
theorem not_isMark_of_isSolid {c : Char} (h : isSolid c) : isMark c = false := by
  have hbreak := mt (@isBlank_of_isBreak c) (by simp [not_isBlank_of_isSolid h])
  simp only [isSolid, Bool.and_eq_true, decide_eq_true_eq] at h
  simp [isMark, hbreak, h.2]

/-- Digits are solid. -/
theorem isSolid_of_isDigit {c : Char} (h : Literal.isDigit c) : isSolid c := by
  simp only [Literal.isDigit, Bool.and_eq_true, decide_eq_true_eq, Char.le_def] at h
  simp only [isSolid, Bool.and_eq_true, decide_eq_true_eq, Char.le_def, ne_eq]
  refine ⟨⟨?_, ?_⟩, ?_⟩
  · exact UInt32.le_trans (by decide) h.1
  · exact UInt32.le_trans h.2 (by decide)
  · rintro rfl
    exact absurd h.2 (by decide)

/-! ## Texts made of others -/

section Made

variable {c : Char} {cs ds : List Char}

/-- An empty text is solid. -/
@[simp]
theorem solid_nil : Solid [] := by simp [Solid]

/-- A text is solid if its first character and the rest are. -/
@[simp]
theorem solid_cons : Solid (c :: cs) ↔ isSolid c ∧ Solid cs := List.forall_mem_cons

/-- Two texts together are solid if both are. -/
@[simp]
theorem solid_append : Solid (cs ++ ds) ↔ Solid cs ∧ Solid ds := List.forall_mem_append

/-- An empty text stands in one line. -/
@[simp]
theorem inline_nil : Inline [] := by simp [Inline]

/-- A text stands in one line if its first character is solid or a space, and the rest does. -/
@[simp]
theorem inline_cons : Inline (c :: cs) ↔ (isSolid c ∨ c = ' ') ∧ Inline cs := List.forall_mem_cons

/-- Two texts together stand in one line if both do. -/
@[simp]
theorem inline_append : Inline (cs ++ ds) ↔ Inline cs ∧ Inline ds := List.forall_mem_append

/-- A text of characters of a solid one is solid. -/
theorem Solid.of_subset (h : Solid cs) (hsub : ds ⊆ cs) : Solid ds := fun c hc => h c (hsub hc)

/-- A solid character repeated is a solid text. -/
theorem Solid.replicate (h : isSolid c) (n : Nat) : Solid (List.replicate n c) := by
  intro d hd
  rw [List.eq_of_mem_replicate hd]
  exact h

/-- A solid text stands in one line. -/
theorem Solid.inline (h : Solid cs) : Inline cs := fun c hc => .inl (h c hc)

/-- Inline text holds no mark. -/
theorem Inline.not_mem (h : Inline cs) (hc : isMark c) : c ∉ cs := by
  intro hmem
  rcases h c hmem with hsolid | rfl
  · simp [not_isMark_of_isSolid hsolid] at hc
  · simp [isMark, isBreak] at hc

end Made

end Text

open Text

/-! ## Numbers -/

namespace Decimal

/-- The digits of a number are solid. -/
theorem solid_digits (n : Nat) : Solid (digits n) := fun _ hc =>
  isSolid_of_isDigit (isDigit_of_mem_digits hc)

/-- So are they with zeros in front. -/
theorem solid_padded (width n : Nat) : Solid (padded width n) := by
  unfold padded
  simp [solid_digits, Solid.replicate (show isSolid '0' by decide)]

/-- An integer is written in solid text. -/
theorem solid_ofInt (n : Int) : Solid (ofInt n).toList := by
  unfold ofInt
  split <;> simp [solid_digits, show isSolid '-' by decide]

/-- So is a natural number. -/
theorem solid_toString (n : Nat) : Solid (toString n).toList := by
  change Solid n.repr.toList
  rw [Nat.toList_repr]
  exact solid_digits n

/-- A solid text without its last zeros is solid. -/
theorem solid_dropTrailingZeros {cs : List Char} (h : Solid cs) :
    Solid (dropTrailingZeros cs) := by
  obtain ⟨n, hn⟩ := exists_eq_dropTrailingZeros_append cs
  refine h.of_subset fun c hc => ?_
  rw [hn]
  exact List.mem_append_left _ hc

/-- An exponent is written in solid text. -/
theorem solid_exponentText (e : Int) : Solid (exponentText e) := by
  unfold exponentText
  split <;> simp [solid_padded, isSolid]

/-- Digits that are placed around a point are solid on both sides. -/
theorem solid_positional {ds : List Char} (h : Solid ds) (e : Int) :
    Solid (positional ds e).1 ∧ Solid (positional ds e).2 := by
  have hzeros (n : Nat) : Solid (List.replicate n '0') := .replicate (by decide) n
  cases e with
  | ofNat e =>
    simp only [positional, solid_append]
    exact ⟨⟨h.of_subset (List.take_subset _ _), hzeros _⟩, h.of_subset (List.drop_subset _ _)⟩
  | negSucc e => simp [positional, h, hzeros, isSolid]

/-- Two solid texts with a point between them are solid. -/
theorem solid_withPoint {parts : List Char × List Char} (hwhole : Solid parts.1)
    (hrest : Solid parts.2) : Solid (withPoint parts) := by
  unfold withPoint
  split <;> simp [hwhole, hrest, isSolid]

end Decimal

namespace Double

open Decimal

/-- A number that is not finite has a solid text of its own, whatever the others have. -/
theorem solid_getD_unusualText (x : Double) {s : String} (h : Solid s.toList) :
    Solid (x.unusualText.getD s).toList := by
  rcases x with _ | (_ | _) | _
  · exact show Solid "nan".toList by decide
  · exact show Solid "inf".toList by decide
  · exact show Solid "-inf".toList by decide
  · exact h

/-- A solid text with the sign of a number is solid. -/
theorem solid_signed (x : Double) {cs : List Char} (h : Solid cs) : Solid (x.signed cs).toList := by
  unfold signed
  split <;> simp [h, isSolid]

/-- A number with so many places is written in solid text. -/
theorem solid_fixed (places : Nat) (x : Double) : Solid (x.fixed places).toList := by
  refine x.solid_getD_unusualText (x.solid_signed ?_)
  unfold fixedDigits
  dsimp only
  split <;> simp [solid_digits, solid_padded, isSolid]

/-- So is a number with at most six digits. -/
theorem solid_general (x : Double) : Solid x.general.toList := by
  refine x.solid_getD_unusualText (x.solid_signed ?_)
  split
  · decide
  · rcases significant 6 x.magnitude unitsPerOne with ⟨mantissa, exponent⟩
    have hdigits := solid_digits mantissa
    have hshort := solid_dropTrailingZeros hdigits
    -- The digits stand around the point, or before an exponent.
    dsimp only
    split
    · have hparts := solid_positional hdigits exponent
      exact solid_withPoint hparts.1 (solid_dropTrailingZeros hparts.2)
    · rw [solid_append]
      exact ⟨solid_withPoint (hshort.of_subset (List.take_subset _ _))
        (hshort.of_subset (List.drop_subset _ _)), solid_exponentText exponent⟩

/-- So is a number with as few digits as tell it from others. -/
theorem solid_shortest (x : Double) : Solid x.shortest.toList := by
  refine x.solid_getD_unusualText (x.solid_signed ?_)
  split
  · decide
  · have hdigits : Solid x.shortestDigits.1 := by
      unfold shortestDigits
      exact solid_dropTrailingZeros (solid_digits _)
    generalize x.shortestDigits = written at hdigits
    rcases written with ⟨ds, exponent⟩
    dsimp only
    -- Positional where the exponent is small, with an exponent otherwise.
    split
    · have hparts := solid_positional hdigits exponent
      rw [solid_append]
      refine ⟨hparts.1, ?_⟩
      split
      · decide
      · simp [hparts.2, isSolid]
    · rw [solid_append]
      exact ⟨solid_withPoint (hdigits.of_subset (List.take_subset _ _))
        (hdigits.of_subset (List.drop_subset _ _)), solid_exponentText exponent⟩

end Double

/-! ## Times -/

namespace Duration

/-- Fields with solid letters are written in solid text. -/
theorem solid_fieldText {fields : List (Nat × Char)} (h : ∀ field ∈ fields, isSolid field.2) :
    Solid (fieldText fields) := by
  intro c hc
  obtain ⟨⟨n, letter⟩, hfield, hmem⟩ := List.mem_flatMap.mp hc
  have hpart : Solid (Decimal.digits n ++ [letter]) := by
    simp [Decimal.solid_digits, h _ hfield]
  exact hpart c hmem

/-- The letters of the units of time are solid. -/
theorem isSolid_of_mem_humanFields (total : Nat) :
    ∀ field ∈ humanFields total, isSolid field.2 := by
  unfold humanFields
  dsimp only
  repeat' split
  all_goals simp [isSolid]

/-- A length of time without its sign is written for people in solid text. -/
theorem solid_humanMagnitude (total : Double) : Solid (humanMagnitude total).toList := by
  unfold humanMagnitude
  dsimp only
  split
  · simp [Double.solid_fixed, isSolid]
  · rw [String.toList_ofList]
    exact solid_fieldText (isSolid_of_mem_humanFields _)

/-- So is a duration. -/
theorem solid_humanize (d : Duration) : Solid d.humanize.toList := by
  unfold humanize
  split <;> simp [solid_humanMagnitude, isSolid]

/-- A duration is stored in solid text. -/
theorem solid_short (d : Duration) : Solid d.short.toList := by
  have hms : Solid "ms".toList := by decide
  have hus : Solid "us".toList := by decide
  have hs : Solid "s".toList := by decide
  have hm : Solid (toString "m").toList := by decide
  have hh : Solid (toString "h").toList := by decide
  unfold short
  dsimp only
  generalize d.toSeconds = total
  generalize (total.trunc?.getD 0).toNat = whole
  -- Numbers and their units stand one after the other.
  split
  · split <;> simp only [String.toList_append, solid_append, Double.solid_general, hms, hus,
      and_self]
  · split
    · simp only [String.toList_append, solid_append, Double.solid_general, hs, and_self]
    · split <;> simp only [String.toList_append, solid_append, Double.solid_general,
        Decimal.solid_toString, hs, hm, hh, and_self]

end Duration

/-- An instant is written in one line. -/
theorem Instant.inline_text (t : Instant) : Inline t.text.toList := by
  unfold Instant.text Timestamp.timeText
  dsimp only
  rw [String.toList_ofList]
  split <;> simp [Decimal.solid_digits, Decimal.solid_padded, Solid.inline, isSolid]

/-! ## Values -/

namespace Value

/-- The text of an integer, if there is one, is solid. -/
theorem solid_of_intText {n : Int} {s : String} (h : intText n = .ok s) : Solid s.toList := by
  unfold intText at h
  split at h
  · cases h
  · obtain rfl := Except.ok.inj h
    exact Decimal.solid_ofInt n

/-- A text with places is that of a double, or the pattern that dates and times take. -/
theorem fixed_eq_ok {places : Nat} {v : Value} {s : String} (h : v.fixed places = .ok s) :
    (∃ x : Double, s = x.fixed places) ∨ s = s!".{places}f" := by
  have hdouble {x : Except Fault Double} (h : (x >>= fun y => pure (y.fixed places)) = .ok s) :
      ∃ x : Double, s = x.fixed places := by
    obtain ⟨y, -, hy⟩ := bind_eq_ok_iff.mp h
    exact ⟨y, (Except.ok.inj hy).symm⟩
  cases v with
  | bool b => exact .inl (hdouble h)
  | int n => exact .inl (hdouble h)
  | float x => exact .inl ⟨x, (Except.ok.inj h).symm⟩
  | timestamp t => exact .inr (Except.ok.inj h).symm
  | date d => exact .inr (Except.ok.inj h).symm
  | _ => cases h

/-- So is that of a value with so many places. -/
theorem solid_of_fixed {places : Nat} {v : Value} {s : String} (h : v.fixed places = .ok s) :
    Solid s.toList := by
  obtain ⟨x, rfl⟩ | rfl := fixed_eq_ok h
  · exact x.solid_fixed places
  · simp only [String.toList_append, solid_append, Decimal.solid_toString]
    decide

end Value

end Vigil
