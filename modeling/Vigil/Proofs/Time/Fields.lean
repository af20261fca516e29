import Vigil.Proofs.Text.Scripts
import Vigil.Time.Iso

/-!
# Fields of times in ISO form

What the reader of times in ISO form finds at a position of a text, told by what stands from that
position on: one character (`Iso.charAt_of_drop`), a number of digits (`Iso.digitsAt_of_drop`), and
the next field of a clock with what follows it. Fractions of more than six digits are cut before
(`Iso.cutFractions_point`).
-/

namespace Vigil.Iso

open Literal (isDigit isDigit_iff)

variable {cs rest : List Char} {i : ℕ}

/-! ## Positions -/

/-- Behind digits or other characters at a position there is the rest. -/
theorem drop_add {front : List Char} (h : cs.drop i = front ++ rest) {n : ℕ}
    (hn : front.length = n) : cs.drop (i + n) = rest := by
  rw [← List.drop_drop, h, List.drop_left' hn]

/-- After one more position, the rest begins one character later. -/
theorem drop_succ {c : Char} (h : cs.drop i = c :: rest) : cs.drop (i + 1) = rest := by
  have hfront : cs.drop i = [c] ++ rest := h
  exact drop_add hfront rfl

/-- The character at a position is the first one from there on. -/
theorem charAt_eq (cs : List Char) (i : ℕ) : charAt cs i = (cs.drop i).headD '\x00' := by
  rw [charAt, List.getD_eq_getElem?_getD, List.headD_eq_head?_getD, List.head?_drop]

/-- The character at a position is the first one of what remains there. -/
theorem charAt_of_drop {c : Char} (h : cs.drop i = c :: rest) : charAt cs i = c := by
  rw [charAt_eq, h, List.headD_cons]

/-- Beyond the end there are null characters. -/
theorem charAt_of_drop_nil (h : cs.drop i = []) : charAt cs i = '\x00' := by
  rw [charAt_eq, h]
  rfl

/-- The digits at a position make a number. -/
theorem digitsAt_of_drop {ds : List Char} (h : cs.drop i = ds ++ rest) (hds : ∀ c ∈ ds, isDigit c)
    {count : ℕ} (hcount : ds.length = count) : digitsAt cs i count = some (Decimal.value ds) := by
  have hchars : (List.range count).map (fun k => charAt cs (i + k)) = ds := by
    subst hcount
    refine List.ext_getElem (by simp) fun k _ hk => ?_
    have hget : (cs.drop i)[k]? = some ds[k] := by
      rw [h, List.getElem?_append_left hk, List.getElem?_eq_getElem hk]
    rw [List.getElem?_drop] at hget
    rw [List.getElem_map, List.getElem_range, charAt, List.getD_eq_getElem?_getD, hget,
      Option.getD_some]
  unfold digitsAt
  dsimp only
  rw [hchars, if_pos (List.all_eq_true.mpr hds)]

/-- Where digits stand there is no other character. -/
theorem charAt_ne_of_drop {ds : List Char} (h : cs.drop i = ds ++ rest) (hne : ds ≠ [])
    (hds : ∀ c ∈ ds, isDigit c) {c : Char} (hc : isDigit c = false) : charAt cs i ≠ c := by
  obtain ⟨d, ds, rfl⟩ := List.exists_cons_of_ne_nil hne
  rw [charAt_of_drop h]
  rintro rfl
  rw [hds d List.mem_cons_self] at hc
  contradiction

/-- A number that was filled up to a width is read as it is. -/
theorem digitsAt_padded {width n : ℕ} (h : cs.drop i = Decimal.padded width n ++ rest)
    (hwidth : 0 < width) (hn : n < 10 ^ width) : digitsAt cs i width = some n := by
  rw [digitsAt_of_drop h (fun _ => Decimal.isDigit_of_mem_padded)
    (Decimal.length_padded hwidth hn), Decimal.value_padded]

/-! ## Fields of a clock -/

section

variable {stop n : ℕ} {field : Field} {fields : List Field} {colons : Option Bool} {t : TimeText}

/-- A colon leads to the next field. -/
theorem readFields_of_colon (hdigits : digitsAt cs i 2 = some n) (hcolon : charAt cs (i + 2) = ':')
    (hcolons : colons.getD true) (hstop : i + 3 < stop) :
    readFields cs stop (field :: fields) i colons t =
      readFields cs stop fields (i + 3) (some true) (t.set n field) := by
  -- The first character behind two digits tells whether colons divide all fields.
  have hdivided : colons.getD (decide (charAt cs (i + 2) = ':')) = true := by
    rw [hcolon]
    exact hcolons
  rw [readFields, hdigits, Option.bind_eq_bind, Option.bind_some]
  dsimp only
  rw [if_neg (by omega), hdivided, hcolon]
  rfl

/-- A point leads to the fraction. -/
theorem readFields_of_point (hdigits : digitsAt cs i 2 = some n) (hpoint : charAt cs (i + 2) = '.')
    (hstop : i + 3 < stop) :
    readFields cs stop (field :: fields) i colons t =
      readFraction cs (i + 3) stop (t.set n field) := by
  rw [readFields, hdigits, Option.bind_eq_bind, Option.bind_some]
  dsimp only
  rw [if_neg (by omega), hpoint]
  simp

/-- A field at the end is the last one. -/
theorem readFields_of_stop (hdigits : digitsAt cs i 2 = some n) (hstop : stop ≤ i + 3)
    (hascii : (charAt cs (i + 2)).toNat < 128) :
    readFields cs stop (field :: fields) i colons t =
      some { t.set n field with more := charAt cs (i + 2) ≠ '\x00' } := by
  rw [readFields, hdigits, Option.bind_eq_bind, Option.bind_some]
  dsimp only
  rw [if_pos hstop, if_pos hascii]
  rfl

end

/-! ## Fractions -/

/-- The microseconds of the digits after a point, the digits beyond the sixth being dropped. -/
def fractionMicros (ds : List Char) : ℕ := Decimal.value ds * 10 ^ 6 / 10 ^ ds.length

/-- Up to six digits are filled up with zeros. -/
theorem fractionMicros_of_length_le {ds : List Char} (h : ds.length ≤ 6) :
    fractionMicros ds = Decimal.value ds * 10 ^ (6 - ds.length) := by
  have hsplit : 10 ^ 6 = 10 ^ (6 - ds.length) * 10 ^ ds.length := by
    rw [← pow_add, Nat.sub_add_cancel h]
  rw [fractionMicros, hsplit, ← mul_assoc, Nat.mul_div_cancel _ (by positivity)]

/-- Only the first six digits count. -/
theorem fractionMicros_take {ds : List Char} (h : ∀ c ∈ ds, isDigit c) :
    fractionMicros (ds.take 6) = fractionMicros ds := by
  rcases Nat.lt_or_ge 6 ds.length with hlong | hshort
  -- The digits beyond the sixth make less than one of the sixth.
  · have hlt : Decimal.value (ds.drop 6) < 10 ^ (ds.length - 6) := by
      rw [← List.length_drop]
      exact Decimal.value_lt_pow fun c hc => h c (List.mem_of_mem_drop hc)
    have hvalue : Decimal.value ds = Decimal.value (ds.take 6) * 10 ^ (ds.length - 6) +
        Decimal.value (ds.drop 6) := by
      rw [← List.length_drop, ← Decimal.value_append, List.take_append_drop]
    have hpow : 10 ^ ds.length = 10 ^ (ds.length - 6) * 10 ^ 6 := by
      rw [← pow_add, Nat.sub_add_cancel hlong.le]
    rw [fractionMicros_of_length_le (by simp), List.length_take, Nat.min_eq_left hlong.le,
      fractionMicros, hpow, Nat.mul_div_mul_right _ _ (by positivity), hvalue, Nat.add_comm,
      Nat.add_mul_div_right _ _ (by positivity), Nat.div_eq_of_lt hlt, Nat.zero_add, Nat.sub_self,
      pow_zero, Nat.mul_one]
  · rw [List.take_of_length_le hshort]

/-- A fraction is less than a second. -/
theorem fractionMicros_lt {ds : List Char} (h : ∀ c ∈ ds, isDigit c) :
    fractionMicros ds < 10 ^ 6 := by
  rw [fractionMicros, Nat.div_lt_iff_lt_mul (by positivity), mul_comm]
  exact Nat.mul_lt_mul_of_pos_left (Decimal.value_lt_pow h) (by positivity)

/-- At most six digits up to the end of a clock are its fraction. -/
theorem readFraction_of_drop {ds : List Char} (h : cs.drop i = ds ++ rest)
    (hds : ∀ c ∈ ds, isDigit c) (hlength : ds.length ≤ 6)
    (hrest : ∀ c ∈ rest.head?, isDigit c = false) (t : TimeText) :
    readFraction cs i (i + ds.length) t =
      some { t with micros := fractionMicros ds, more := rest.headD '\x00' ≠ '\x00' } := by
  have hcount : min (i + ds.length - i) 6 = ds.length := by omega
  have hafter := drop_add h rfl
  have hnone : rest.takeWhile isDigit = [] := by
    cases rest with
    | nil => rfl
    | cons c rest => simp [hrest c rfl]
  rw [readFraction, hcount, digitsAt_of_drop h hds rfl, Option.bind_eq_bind, Option.bind_some,
    hafter, hnone]
  dsimp only
  rw [List.length_nil, Nat.add_zero, charAt_eq, hafter, fractionMicros_of_length_le hlength]
  rfl

/-! ## Cutting fractions -/

/-- Before the first point nothing is cut. -/
theorem cutFractions_none_append {front : List Char} (h : '.' ∉ front) (rest : List Char) :
    cutFractions none (front ++ rest) = front ++ cutFractions none rest := by
  induction front with
  | nil => rfl
  | cons c front ih =>
    obtain ⟨hc, hfront⟩ := List.ne_and_not_mem_of_not_mem_cons h
    rw [List.cons_append, cutFractions, if_neg (Ne.symm hc), ih hfront]
    split <;> rfl

/-- Without a point nothing is cut. -/
theorem cutFractions_none (h : '.' ∉ cs) : cutFractions none cs = cs := by
  have hall := cutFractions_none_append h []
  rw [List.append_nil] at hall
  rw [hall, cutFractions, List.append_nil]

/-- Behind the digits of a fraction nothing is cut any more. -/
theorem cutFractions_some (hrest : ∀ c ∈ rest.head?, Text.isDecimalDigit c = false) (run : ℕ) :
    cutFractions (some run) rest = cutFractions none rest := by
  cases rest with
  | nil => rfl
  | cons c rest => simp [cutFractions, hrest c rfl]

/-- Digits behind a point are kept up to the sixth. -/
theorem cutFractions_some_append {ds : List Char} (h : ∀ c ∈ ds, isDigit c) {run : ℕ}
    (hrun : run ≤ 6) (hrest : ∀ c ∈ rest.head?, Text.isDecimalDigit c = false) :
    cutFractions (some run) (ds ++ rest) = ds.take (6 - run) ++ cutFractions none rest := by
  -- One more digit is kept at each step, until there are six.
  induction ds generalizing run with
  | nil =>
    rw [List.take_nil]
    exact cutFractions_some hrest run
  | cons c ds ih =>
    obtain ⟨hc, hds⟩ := List.forall_mem_cons.mp h
    have hpoint : c ≠ '.' := by
      rintro rfl
      contradiction
    rw [List.cons_append, cutFractions, if_neg hpoint,
      if_pos (Text.isDecimalDigit_of_isDigit hc)]
    split
    · rename_i hless
      rw [ih hds hless, ← List.cons_append, ← List.take_succ_cons]
      congr 2
      omega
    · obtain rfl : run = 6 := by omega
      exact ih hds le_rfl

/-- The only fraction of a text is cut to six digits. -/
theorem cutFractions_point {front ds : List Char} (hfront : '.' ∉ front)
    (h : ∀ c ∈ ds, isDigit c) (hpoint : '.' ∉ rest)
    (hrest : ∀ c ∈ rest.head?, Text.isDecimalDigit c = false) :
    cutFractions none (front ++ '.' :: (ds ++ rest)) = front ++ '.' :: (ds.take 6 ++ rest) := by
  rw [cutFractions_none_append hfront, cutFractions, if_pos rfl,
    cutFractions_some_append h (Nat.zero_le 6) hrest, cutFractions_none hpoint]

end Vigil.Iso
