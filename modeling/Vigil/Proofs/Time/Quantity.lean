import Vigil.Proofs.Text.Scripts
import Vigil.Proofs.Time.Grammar

/-!
# Durations as quantities

A duration is written as numerals with units one after the other. These are parts of the grammar of
durations (`Duration.Quantity.isWritten_part`), so the reader finds exactly them, and it takes them
for nothing else (`Duration.parse_flatMap`).
-/

namespace Vigil.Duration

open Literal (Numeral PlainText IsPlain isDigit)

attribute [local irreducible] Double.unitsPerOne

/-- The text of a unit is plain. -/
theorem Unit.plainText (u : Unit) : PlainText u.text := by
  cases u
  all_goals decide

/-- A numeral with a unit. -/
structure Quantity where
  /-- How many of the unit. -/
  numeral : Numeral
  /-- The unit. -/
  unit : Unit

namespace Quantity

variable (q : Quantity)

/-- The quantity as it is written. -/
def text : List Char := q.numeral.text ++ q.unit.text

/-- The quantity as a part of a duration. -/
def part : Part where
  whole := q.numeral.whole
  places := if q.numeral.places.isEmpty then none else some q.numeral.places
  unit := q.unit

/-- A part without places has no point, and neither has its numeral. -/
theorem number_part : q.part.number = q.numeral.text := by
  unfold part Part.number Part.pointText Numeral.text Decimal.withPoint
  cases q.numeral.places with
  | nil => simp
  | cons d ds => simp

/-- A quantity is written as its part is. -/
theorem text_part : q.part.text = q.text := by
  rw [Part.text_eq, q.number_part]
  rfl

/-- The seconds of a quantity: what is read of its numeral, times its unit. -/
theorem seconds_part : q.part.seconds = q.numeral.read * q.unit.seconds := by
  rw [Part.seconds_eq, q.number_part, Literal.readDouble_text]
  rfl

/-- The text of a quantity is plain. -/
theorem plainText : PlainText q.text := by
  intro c hc
  rcases List.mem_append.mp hc with hnumeral | hunit
  · exact q.numeral.plainText c hnumeral
  · exact q.unit.plainText c hunit

/-- A quantity has the form of a part. -/
theorem isWritten_part : q.part.IsWritten where
  whole_ne_nil := q.numeral.whole_ne_nil
  isDecimalDigit_whole c hc := Text.isDecimalDigit_of_isDigit (q.numeral.isDigit_whole c hc)
  places_ne_nil := by
    unfold part
    cases hplaces : q.numeral.places with
    | nil => nofun
    | cons d ds =>
      rintro _ ⟨⟩
      exact List.cons_ne_nil d ds
  isDecimalDigit_places := by
    have hdigits := q.numeral.isDigit_places
    unfold part
    cases hplaces : q.numeral.places with
    | nil => nofun
    | cons d ds =>
      rintro _ ⟨⟩ c hc
      exact Text.isDecimalDigit_of_isDigit (hdigits c (hplaces ▸ hc))

end Quantity

/-! ## Reading quantities -/

/-- Quantities in a row are written as their parts. -/
theorem partsText_map_part (qs : List Quantity) :
    partsText (qs.map Quantity.part) = qs.flatMap Quantity.text := by
  rw [partsText, List.flatMap_map]
  exact congrArg (fun f => qs.flatMap f) (funext Quantity.text_part)

/-- Quantities in a row are written in plain text. -/
theorem plainText_flatMap (qs : List Quantity) : PlainText (qs.flatMap Quantity.text) := by
  intro c hc
  obtain ⟨q, -, hc⟩ := List.mem_flatMap.mp hc
  exact q.plainText c hc

/-- A text of quantities is not one number: the letter of the first unit stands behind the first
numeral. -/
theorem readDouble_flatMap {qs : List Quantity} (hne : qs ≠ []) :
    Literal.readDouble (qs.flatMap Quantity.text) = none := by
  obtain ⟨q, qs, rfl⟩ := List.exists_cons_of_ne_nil hne
  obtain ⟨c, after, hunit, -, hdigit, hpoint, hexponent⟩ := q.unit.exists_text_eq
  have htext : (q :: qs).flatMap Quantity.text =
      q.numeral.text ++ c :: (after ++ qs.flatMap Quantity.text) := by
    rw [List.flatMap_cons, Quantity.text, hunit, List.append_assoc, List.cons_append]
  have hall := plainText_flatMap (q :: qs)
  rw [htext] at hall ⊢
  exact Literal.readDouble_text_append q.numeral (fun d hd => hall d (List.mem_append_right _ hd))
    ⟨hdigit, hpoint⟩ hexponent

/-- A text of quantities is the duration that their seconds add up to. -/
theorem parse_flatMap {s : String} {qs : List Quantity} (hne : qs ≠ [])
    (hs : s.toList = qs.flatMap Quantity.text) :
    parse s = ofSeconds? (totalSeconds (qs.map Quantity.part)) := by
  have hparts : parts? (qs.flatMap Quantity.text) = some (qs.map Quantity.part) := by
    refine parts?_eq_some_iff.mpr ⟨by simpa using hne, fun p hp => ?_, (partsText_map_part qs).symm⟩
    obtain ⟨q, -, rfl⟩ := List.mem_map.mp hp
    exact q.isWritten_part
  unfold parse
  rw [hs, (plainText_flatMap qs).trim]
  dsimp only
  rw [readDouble_flatMap hne, hparts]

end Vigil.Duration
