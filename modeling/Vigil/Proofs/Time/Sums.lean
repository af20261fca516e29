import Mathlib.Algebra.BigOperators.Ring.Finset
import Mathlib.Data.Rat.Floor
import Vigil.Proofs.Text.Scripts
import Vigil.Proofs.Time.Short
import Vigil.Value.Number

/-!
# Sums of durations

What is read of a text that is made of parts. Such a text is never a number by itself
(`Duration.readDouble_partsText`), so a text that is neither is refused, and only such a one
(`Duration.parse_eq_invalid_iff`).

If all numbers are whole and no unit is shorter than a second, then every number, every product and
every sum on the way is an integer that a double holds, and the result is the exact sum
(`Duration.IsMadeOf.parse_eq_ok`). So the order of the parts makes no difference, and one text
behind another is the sum of both. The main statement is `Duration.parse_grammar`.
-/

namespace Vigil.Duration

open Literal (Numeral PlainText)
open Double (IsInteger)

attribute [local irreducible] Double.unitsPerOne

/-! ## Exact seconds -/

/-- The exact seconds of a unit. -/
def Unit.span : Unit → ℚ
  | .nano => 1 / 10 ^ 9
  | .micro => 1 / 10 ^ 6
  | .milli => 1 / 10 ^ 3
  | .second => 1
  | .minute => 60
  | .hour => 3600
  | .day => 86400
  | .week => 7 * 86400
  | .year => 365 * 86400

/-- A unit that is not shorter than a second is a whole number of them. -/
theorem Unit.exists_isInteger_seconds {u : Unit} (h : 1 ≤ u.span) :
    ∃ w : ℕ, u.span = w ∧ 0 < w ∧ IsInteger u.seconds w := by
  cases u with
  | nano => norm_num [span] at h
  | micro => norm_num [span] at h
  | milli => norm_num [span] at h
  | second => exact ⟨1, by norm_num [span], by decide, .ofInt (by decide)⟩
  | minute => exact ⟨60, by norm_num [span], by decide, .ofInt (by decide)⟩
  | hour => exact ⟨3600, by norm_num [span], by decide, .ofInt (by decide)⟩
  | day => exact ⟨86400, by norm_num [span], by decide, .ofInt (by decide)⟩
  | week => exact ⟨604800, by norm_num [span], by decide, .ofInt (by decide)⟩
  | year => exact ⟨31536000, by norm_num [span], by decide, .ofInt (by decide)⟩

namespace Part

/-- The number of a part. -/
def count (p : Part) : ℚ :=
  Decimal.valueOf (p.whole ++ p.places.getD []) / 10 ^ (p.places.getD []).length

/-- The exact seconds of a part. -/
def span (p : Part) : ℚ := p.count * p.unit.span

/-- The number is whole, and the unit is not shorter than a second. -/
structure IsWhole (p : Part) : Prop where
  /-- The number is whole. -/
  isNatural : ∃ k : ℕ, p.count = k
  /-- The unit is not shorter than a second. -/
  one_le_span : 1 ≤ p.unit.span

/-- A part in the digits of ASCII. -/
def IsWritten.quantity {p : Part} (h : p.IsWritten) : Quantity where
  numeral := {
    whole := p.whole.map Text.asciiOf
    places := (p.places.getD []).map Text.asciiOf
    whole_ne_nil := by simpa using h.whole_ne_nil
    isDigit_whole := List.forall_mem_map.mpr fun c _ => Text.isDigit_asciiOf c
    isDigit_places := List.forall_mem_map.mpr fun c _ => Text.isDigit_asciiOf c }
  unit := p.unit

namespace IsWritten

variable {p : Part} (h : p.IsWritten)

/-- The digits of ASCII are written as the part is. -/
theorem text_numeral_quantity :
    h.quantity.numeral.text =
      p.whole.map Text.asciiOf ++ pointText (p.places.map (·.map Text.asciiOf)) := by
  obtain ⟨whole, places, unit⟩ := p
  unfold quantity Numeral.text Decimal.withPoint
  cases places with
  | none => simp [pointText]
  | some ds => simp [pointText, h.places_ne_nil ds rfl]

/-- The reader of numbers sees a part in the digits of ASCII. -/
theorem toAscii_number_append (rest : List Char) :
    Literal.toAscii (p.number ++ rest) = h.quantity.numeral.text ++ Literal.toAscii rest := by
  have hpoint : PlainText ['.'] := by decide
  have hwhole := h.isDecimalDigit_whole
  rw [h.text_numeral_quantity]
  obtain ⟨whole, places, unit⟩ := p
  rw [number, List.append_assoc, Literal.toAscii_append hwhole, List.append_assoc]
  cases places with
  | none => rfl
  | some ds =>
    rw [pointText, List.cons_append, ← List.singleton_append, hpoint.toAscii_append,
      Literal.toAscii_append (h.isDecimalDigit_places ds rfl)]
    rfl

/-- A part in digits of any script folds to its quantity, and what follows folds on its own. -/
theorem toAscii_text_append (rest : List Char) :
    Literal.toAscii (p.text ++ rest) = h.quantity.text ++ Literal.toAscii rest := by
  rw [text_eq, List.append_assoc, h.toAscii_number_append, p.unit.plainText.toAscii_append,
    ← List.append_assoc]
  rfl

/-- A part has the seconds that it has in the digits of ASCII. -/
theorem seconds_quantity : p.seconds = h.quantity.part.seconds := by
  have hascii := h.toAscii_number_append []
  rw [List.append_nil, Literal.toAscii, List.append_nil] at hascii
  have hread : Literal.readDouble p.number = Literal.readDouble h.quantity.numeral.text := by
    unfold Literal.readDouble
    rw [hascii, h.quantity.numeral.plainText.toAscii]
  rw [seconds_eq, hread, seconds_eq, h.quantity.number_part]
  rfl

/-- A part has the number that it has in the digits of ASCII. -/
theorem value_quantity : h.quantity.numeral.value = p.count := by
  unfold Numeral.value Numeral.mantissa count quantity
  dsimp only
  rw [← List.map_append, Decimal.value_map_asciiOf, List.length_map]

end IsWritten

end Part

/-- The number of a quantity is that of its numeral. -/
theorem Quantity.count_part (q : Quantity) : q.part.count = q.numeral.value := by
  have hplaces : q.part.places.getD [] = q.numeral.places := by
    unfold part
    cases q.numeral.places <;> rfl
  have hdigits : ∀ c ∈ q.numeral.whole ++ q.numeral.places, Literal.isDigit c :=
    List.forall_mem_append.mpr ⟨q.numeral.isDigit_whole, q.numeral.isDigit_places⟩
  rw [Part.count, hplaces, Numeral.value, Numeral.mantissa, ← Decimal.valueOf_eq_value hdigits]
  rfl

/-- A part whose number and unit are whole has a whole number of seconds. -/
theorem Part.IsWhole.span_eq {p : Part} (h : p.IsWhole) : (⌊p.span⌋₊ : ℚ) = p.span := by
  obtain ⟨⟨k, hk⟩, hunit⟩ := h
  obtain ⟨w, hw, -⟩ := Unit.exists_isInteger_seconds hunit
  rw [span, hk, hw, ← Nat.cast_mul, Nat.floor_natCast]

/-- These seconds are computed without rounding. -/
theorem Part.IsWritten.isInteger_seconds {p : Part} (h : p.IsWritten) (hwhole : p.IsWhole)
    (hlt : ⌊p.span⌋₊ < 2 ^ 53) : IsInteger p.seconds ⌊p.span⌋₊ := by
  obtain ⟨⟨k, hk⟩, hunit⟩ := hwhole
  obtain ⟨w, hw, hpos, hseconds⟩ := Unit.exists_isInteger_seconds hunit
  have hspan : ⌊p.span⌋₊ = k * w := by
    rw [span, hk, hw, ← Nat.cast_mul, Nat.floor_natCast]
  rw [hspan] at hlt ⊢
  have hvalue : h.quantity.numeral.value = k := h.value_quantity.trans hk
  rw [h.seconds_quantity]
  exact Quantity.isInteger_seconds hvalue hseconds
    (lt_of_le_of_lt (Nat.le_mul_of_pos_right k hpos) hlt) hlt

/-! ## Texts of parts -/

/-- A text is made of these parts, apart from white space around it. -/
structure IsMadeOf (s : String) (ps : List Part) : Prop where
  /-- There is at least one part. -/
  ne_nil : ps ≠ []
  /-- Every part is a number with a unit. -/
  isWritten : ∀ p ∈ ps, p.IsWritten
  /-- There is nothing before, between or after the parts. -/
  text_eq : Text.trim s.toList = partsText ps

/-- A text is split into parts exactly if it is made of them. -/
theorem parts?_trim_eq_some_iff {s : String} {ps : List Part} :
    parts? (Text.trim s.toList) = some ps ↔ IsMadeOf s ps := by
  rw [parts?_eq_some_iff]
  exact ⟨fun ⟨hne, hwritten, htext⟩ => ⟨hne, hwritten, htext⟩,
    fun h => ⟨h.ne_nil, h.isWritten, h.text_eq⟩⟩

/-- A text of parts is no number: the letter of the first unit stands behind the first one. -/
theorem readDouble_partsText {ps : List Part} (hne : ps ≠ []) (h : ∀ p ∈ ps, p.IsWritten) :
    Literal.readDouble (partsText ps) = none := by
  -- The reader sees the digits of ASCII, and these are quantities.
  have hascii : ∃ qs : List Quantity, qs.length = ps.length ∧
      Literal.toAscii (partsText ps) = qs.flatMap Quantity.text := by
    clear hne
    induction ps with
    | nil => exact ⟨[], rfl, rfl⟩
    | cons p ps ih =>
      obtain ⟨hp, hps⟩ := List.forall_mem_cons.mp h
      obtain ⟨qs, hlength, htext⟩ := ih hps
      refine ⟨hp.quantity :: qs, congrArg (· + 1) hlength, ?_⟩
      rw [partsText] at htext ⊢
      rw [List.flatMap_cons, List.flatMap_cons, hp.toAscii_text_append, htext]
  obtain ⟨qs, hlength, htext⟩ := hascii
  have hqs : qs ≠ [] := by
    rintro rfl
    exact hne (List.eq_nil_of_length_eq_zero hlength.symm)
  have hnone := readDouble_flatMap hqs
  unfold Literal.readDouble at hnone ⊢
  rwa [htext, ← (plainText_flatMap qs).toAscii]

/-- Making a duration of a number of seconds does not fail as reading a text does. -/
theorem ofSeconds?_ne_invalid (x : Double) (shown : String) :
    ofSeconds? x ≠ .error (.value (.duration shown)) := by
  have hrange (n : ℤ) : liftRange (ofMicros? n) ≠ .error (.value (.duration shown)) := by
    cases ofMicros? n <;> nofun
  cases x with
  | nan => nofun
  | infinite negative => nofun
  | finite negative mantissa unit h => exact hrange _

/-- A text that is no number is refused exactly if it is not made of parts. -/
theorem parse_eq_invalid_iff {s : String} (h : Literal.readDouble (Text.trim s.toList) = none) :
    parse s = .error (.value (.duration (Text.quoted s))) ↔ ¬∃ ps, IsMadeOf s ps := by
  unfold parse
  dsimp only
  rw [h]
  simp only [← parts?_trim_eq_some_iff]
  cases hparts : parts? (Text.trim s.toList) with
  | none => simp
  | some ps => simp [ofSeconds?_ne_invalid]

namespace IsMadeOf

variable {s t u : String} {ps qs : List Part}

/-- A text of parts is the duration that their seconds add up to. -/
theorem parse_eq (h : IsMadeOf s ps) : parse s = ofSeconds? (totalSeconds ps) := by
  have hparts := parts?_trim_eq_some_iff.mpr h
  unfold parse
  dsimp only
  rw [hparts, h.text_eq, readDouble_partsText h.ne_nil h.isWritten]

/-- A text is made of parts in one way. -/
theorem unique (hs : IsMadeOf s ps) (ht : IsMadeOf s qs) : ps = qs := by
  rw [← parts?_trim_eq_some_iff] at hs ht
  exact Option.some.inj (hs.symm.trans ht)

/-- One text behind another has the parts of both. -/
theorem append (hs : IsMadeOf s ps) (ht : IsMadeOf t qs)
    (hu : Text.trim u.toList = Text.trim s.toList ++ Text.trim t.toList) :
    IsMadeOf u (ps ++ qs) where
  ne_nil := by simp [hs.ne_nil]
  isWritten p hp := (List.mem_append.mp hp).elim (hs.isWritten p) (ht.isWritten p)
  text_eq := by
    rw [hu, hs.text_eq, ht.text_eq, partsText, partsText, partsText, List.flatMap_append]

end IsMadeOf

/-! ## Exact sums -/

/-- The longest duration. -/
def longest : Duration := ⟨86399999999999999999, by decide⟩

/-- The longest duration ends 999999 days, less one microsecond. -/
theorem longest_micros : longest.micros = 86399999999999999999 := rfl

/-- The sum of the parts of a text, in seconds. -/
def spanSum (ps : List Part) : ℚ := (ps.map Part.span).sum

/-- A text of whole parts that are not too long together is exactly the duration of their sum. -/
theorem IsMadeOf.parse_eq_ok {s : String} {ps : List Part} (h : IsMadeOf s ps)
    (hwhole : ∀ p ∈ ps, p.IsWhole) (hmost : spanSum ps * 10 ^ 6 ≤ longest.micros) :
    ∃ d, parse s = .ok d ∧ (d.micros : ℚ) = spanSum ps * 10 ^ 6 := by
  -- The sum is a natural number that a double holds, and so is each of its terms.
  have hsum : spanSum ps = (ps.map fun p => ⌊p.span⌋₊).sum := by
    rw [spanSum, Nat.cast_list_sum, List.map_map]
    exact congrArg List.sum (List.map_congr_left fun p hp => (hwhole p hp).span_eq.symm)
  generalize hns : (ps.map fun p => ⌊p.span⌋₊) = ns at hsum
  -- The longest duration has far fewer seconds than a double can count.
  have hrange : ((ns.sum * 10 ^ 6 : ℕ) : ℤ) ≤ longest.micros := by
    rw [hsum] at hmost
    have hcast : ((ns.sum * 10 ^ 6 : ℕ) : ℚ) = (((ns.sum * 10 ^ 6 : ℕ) : ℤ) : ℚ) :=
      (Int.cast_natCast _).symm
    rw [← Int.cast_le (R := ℚ), ← hcast, Nat.cast_mul]
    exact_mod_cast hmost
  rw [longest_micros] at hrange
  have hlt : ns.sum < 2 ^ 53 := by omega
  have hterms : List.Forall₂ (fun p n => IsInteger p.seconds (n : ℕ)) ps ns := by
    rw [← hns, List.forall₂_map_right_iff, List.forall₂_same]
    intro p hp
    refine (h.isWritten p hp).isInteger_seconds (hwhole p hp) (lt_of_le_of_lt ?_ hlt)
    rw [← hns]
    exact List.single_le_sum (fun _ _ => Nat.zero_le _) _ (List.mem_map_of_mem hp)
  refine ⟨⟨ns.sum * microsPerSecond, by rw [microsPerSecond]; omega⟩, ?_, ?_⟩
  · rw [h.parse_eq]
    exact ofSeconds?_of_isInteger (isInteger_totalSeconds hterms hlt) rfl
  · rw [hsum, Int.cast_mul, Int.cast_natCast, Int.cast_natCast]
    norm_num [microsPerSecond]

/-- The order of whole parts makes no difference. -/
theorem IsMadeOf.parse_eq_of_perm {s t : String} {ps qs : List Part} (hs : IsMadeOf s ps)
    (ht : IsMadeOf t qs) (hperm : ps.Perm qs) (hwhole : ∀ p ∈ ps, p.IsWhole)
    (hmost : spanSum ps * 10 ^ 6 ≤ longest.micros) : parse s = parse t := by
  have hsum : spanSum ps = spanSum qs := (hperm.map Part.span).sum_eq
  obtain ⟨c, hc, hmicros⟩ := hs.parse_eq_ok hwhole hmost
  rw [hsum] at hmicros hmost
  obtain ⟨d, hd, hmicros'⟩ := ht.parse_eq_ok (fun p hp => hwhole p (hperm.mem_iff.mpr hp)) hmost
  have hcd : c.micros = d.micros := by exact_mod_cast hmicros.trans hmicros'.symm
  rw [hc, hd, eq_of_micros hcd]

/-- The sum of the parts of two texts. -/
theorem spanSum_append (ps qs : List Part) : spanSum (ps ++ qs) = spanSum ps + spanSum qs := by
  rw [spanSum, List.map_append, List.sum_append]
  rfl

/-- A whole part is no negative span. -/
theorem Part.IsWhole.span_nonneg {p : Part} (h : p.IsWhole) : 0 ≤ p.span := by
  rw [← h.span_eq]
  exact Nat.cast_nonneg _

/-- Whole parts add up to no negative span. -/
theorem spanSum_nonneg {ps : List Part} (h : ∀ p ∈ ps, p.IsWhole) : 0 ≤ spanSum ps :=
  List.sum_nonneg (List.forall_mem_map.mpr fun p hp => (h p hp).span_nonneg)

/-- One text of whole parts behind another is the sum of both durations. -/
theorem IsMadeOf.parse_append {s t u : String} {ps qs : List Part} (hs : IsMadeOf s ps)
    (ht : IsMadeOf t qs) (hu : Text.trim u.toList = Text.trim s.toList ++ Text.trim t.toList)
    (hwhole : ∀ p ∈ ps ++ qs, p.IsWhole)
    (hmost : (spanSum ps + spanSum qs) * 10 ^ 6 ≤ longest.micros) :
    ∃ c d e, parse s = .ok c ∧ parse t = .ok d ∧ parse u = .ok e ∧
      e.micros = c.micros + d.micros := by
  obtain ⟨hps, hqs⟩ := List.forall_mem_append.mp hwhole
  -- Neither sum is negative, so each of them is in range if both together are.
  have hpos := spanSum_nonneg hps
  have hpos' := spanSum_nonneg hqs
  obtain ⟨c, hc, hmicros⟩ := hs.parse_eq_ok hps (by linarith)
  obtain ⟨d, hd, hmicros'⟩ := ht.parse_eq_ok hqs (by linarith)
  rw [← spanSum_append] at hmost
  obtain ⟨e, he, hboth⟩ := (hs.append ht hu).parse_eq_ok hwhole hmost
  refine ⟨c, d, e, hc, hd, he, ?_⟩
  rw [spanSum_append, add_mul, ← hmicros, ← hmicros'] at hboth
  exact_mod_cast hboth

/-! ## Numbers of seconds -/

/-- A text of a whole number is the duration of so many seconds. -/
theorem parse_of_isInteger {s : String} {x : Double} {d : Duration} {n : ℤ}
    (hread : Literal.readDouble (Text.trim s.toList) = some x) (hx : IsInteger x n)
    (hd : d.micros = n * microsPerSecond) : parse s = .ok d := by
  unfold parse
  dsimp only
  rw [hread]
  cases x with
  | nan => nomatch hx
  | infinite negative => exact ofSeconds?_of_isInteger hx hd
  | finite negative mantissa unit h => exact ofSeconds?_of_isInteger hx hd

/-- A number of seconds is the same duration as a number, as its text and as its text with the unit.
-/
theorem toDuration_seconds {n : ℕ} (hmost : n * 10 ^ 6 ≤ longest.micros) :
    ∃ d : Duration, d.micros = n * 10 ^ 6 ∧ Value.toDuration (.int n) = .ok d ∧
      Value.toDuration (.str (Decimal.ofInt n)) = .ok d ∧
      Value.toDuration (.str (Decimal.ofInt n ++ "s")) = .ok d := by
  rw [longest_micros] at hmost
  have hlt : n < 2 ^ 53 := by omega
  obtain ⟨d, hd⟩ : ∃ d : Duration, d.micros = n * 1000000 := ⟨⟨n * 1000000, by omega⟩, rfl⟩
  have hdigits : (Decimal.ofInt n).toList = (Numeral.ofNat n).text := by
    rw [Decimal.ofInt, if_neg (by omega), String.toList_ofList, Int.natAbs_natCast]
    rfl
  refine ⟨d, hd, ?_, ?_, ?_⟩
  · rw [Value.toDuration, Value.secondsToDuration, ← hd, ofMicros?_micros]
    rfl
  · have hread := Literal.readDouble_text (Numeral.ofNat n)
    have hseconds := Numeral.isInteger_read hlt (Numeral.value_ofNat n)
    rw [← (Numeral.ofNat n).plainText.trim, ← hdigits] at hread
    rw [Value.toDuration]
    exact parse_of_isInteger hread hseconds hd
  · have htext : (Decimal.ofInt n ++ "s").toList =
        [Quantity.mk (.ofNat n) .second].flatMap Quantity.text := by
      rw [String.toList_append, hdigits, List.flatMap_singleton]
      rfl
    have hseconds := Quantity.isInteger_ofNat isInteger_second hlt (by omega)
    rw [Value.toDuration]
    refine parse_of_whole (by simp) htext (.cons hseconds .nil) ?_ ?_
    · rw [List.sum_singleton]
      omega
    · rw [List.sum_singleton, Nat.mul_one, hd]
      rfl

/-! ## The grammar and its sums -/

/-- A text that is no number is a duration exactly if it is made of parts, and this in one way,
which a search finds that skips nothing. Whole parts have their exact sum in whatever order they
stand, so one text behind another is the sum of both, and seconds may be written as a number, as its
text or with their unit. -/
theorem parse_grammar :
    (∀ s : String, Literal.readDouble (Text.trim s.toList) = none →
      (parse s = .error (.value (.duration (Text.quoted s))) ↔ ¬∃ ps, IsMadeOf s ps)) ∧
    (∀ s ps qs, IsMadeOf s ps → IsMadeOf s qs → ps = qs) ∧
    (∀ s ps, IsMadeOf s ps ↔
      findParts (Text.trim s.toList) = ps ∧ ps ≠ [] ∧ partsText ps = Text.trim s.toList) ∧
    (∀ s ps, IsMadeOf s ps → (∀ p ∈ ps, p.IsWhole) → spanSum ps * 10 ^ 6 ≤ longest.micros →
      ∃ d, parse s = .ok d ∧ (d.micros : ℚ) = spanSum ps * 10 ^ 6 ∧
        ∀ t qs, IsMadeOf t qs → ps.Perm qs → parse t = .ok d) ∧
    (∀ s t u ps qs, IsMadeOf s ps → IsMadeOf t qs →
      Text.trim u.toList = Text.trim s.toList ++ Text.trim t.toList →
      (∀ p ∈ ps ++ qs, p.IsWhole) → (spanSum ps + spanSum qs) * 10 ^ 6 ≤ longest.micros →
      ∃ c d e, parse s = .ok c ∧ parse t = .ok d ∧ parse u = .ok e ∧
        e.micros = c.micros + d.micros) ∧
    (∀ n : ℕ, n * 10 ^ 6 ≤ longest.micros →
      ∃ d : Duration, d.micros = n * 10 ^ 6 ∧ Value.toDuration (.int n) = .ok d ∧
        Value.toDuration (.str (Decimal.ofInt n)) = .ok d ∧
        Value.toDuration (.str (Decimal.ofInt n ++ "s")) = .ok d) := by
  refine ⟨fun s => parse_eq_invalid_iff, fun s ps qs => IsMadeOf.unique, fun s ps => ?_,
    fun s ps hs hwhole hmost => ?_, fun s t u ps qs => IsMadeOf.parse_append,
    fun n => toDuration_seconds⟩
  · rw [← parts?_trim_eq_some_iff, parts?_eq_some_iff_findParts]
  · obtain ⟨d, hd, hmicros⟩ := hs.parse_eq_ok hwhole hmost
    refine ⟨d, hd, hmicros, fun t qs ht hperm => ?_⟩
    rw [← hs.parse_eq_of_perm ht hperm hwhole hmost, hd]

/-- An hour and half an hour are made of two parts, and a blank between them is refused. -/
theorem parse_grammar_hour_and_half :
    (∃ d, parse "1h30m" = .ok d ∧ (d.micros : ℚ) = 5400 * 10 ^ 6) ∧
      parse "1h 30m" = .error (.value (.duration (Text.quoted "1h 30m"))) := by
  let hour : Part := ⟨['1'], none, .hour⟩
  let half : Part := ⟨['3', '0'], none, .minute⟩
  have hmade : IsMadeOf "1h30m" [hour, half] := parts?_trim_eq_some_iff.mp rfl
  have hone : hour.count = 1 := by
    rw [Part.count, show Decimal.valueOf _ = 1 by decide]
    norm_num [hour]
  have hthirty : half.count = 30 := by
    rw [Part.count, show Decimal.valueOf _ = 30 by decide]
    norm_num [half]
  have hwhole : ∀ p ∈ [hour, half], p.IsWhole := by
    refine List.forall_mem_cons.mpr ⟨⟨⟨1, by exact_mod_cast hone⟩, ?_⟩, ?_⟩
    · norm_num [hour, Unit.span]
    · refine List.forall_mem_singleton.mpr ⟨⟨30, by exact_mod_cast hthirty⟩, ?_⟩
      norm_num [half, Unit.span]
  have hsum : spanSum [hour, half] = 5400 := by
    rw [spanSum, List.map_cons, List.map_singleton, List.sum_cons, List.sum_singleton, Part.span,
      Part.span, hone, hthirty]
    norm_num [hour, half, Unit.span]
  have hblank : parts? (Text.trim "1h 30m".toList) = none := by decide
  have hnone : ¬∃ ps, IsMadeOf "1h 30m" ps := by
    rintro ⟨ps, h⟩
    rw [← parts?_trim_eq_some_iff, hblank] at h
    contradiction
  obtain ⟨hinvalid, -, -, hsums, -⟩ := parse_grammar
  refine ⟨?_, (hinvalid "1h 30m" (by decide)).mpr hnone⟩
  obtain ⟨d, hd, hmicros, -⟩ := hsums "1h30m" [hour, half] hmade hwhole (by
    rw [hsum, longest_micros]
    norm_num)
  exact ⟨d, hd, by rw [hmicros, hsum]⟩

end Vigil.Duration
