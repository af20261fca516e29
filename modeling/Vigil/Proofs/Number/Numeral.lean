import Vigil.Proofs.Number.Digits
import Vigil.Proofs.Number.Near
import Vigil.Proofs.Text.Trim

/-!
# Numerals

A numeral is a number as it is written without a sign or an exponent: digits, and perhaps a point
with more digits (`Literal.Numeral`). Reading a numeral gives the double nearest to its value
(`Literal.readDouble_text`), and with a letter behind it, it is no floating-point number any more
(`Literal.readDouble_text_append`). A number that is a few roundings away from one of six digits
is written with these digits (`Double.IsNear.exists_numeral_general`).
-/

namespace Vigil

namespace Literal

attribute [local irreducible] Double.unitsPerOne

/-! ## Plain text -/

/-- A visible ASCII character other than the underscore. -/
def IsPlain (c : Char) : Prop := 33 ≤ c.toNat ∧ c.toNat < 127 ∧ c ≠ '_'

/-- Whether a text consists of visible ASCII characters other than the underscore. -/
def PlainText (cs : List Char) : Prop := ∀ c ∈ cs, IsPlain c

instance (c : Char) : Decidable (IsPlain c) := inferInstanceAs (Decidable (_ ∧ _ ∧ _))

instance (cs : List Char) : Decidable (PlainText cs) :=
  -- Not by going through all characters there are.
  List.decidableBAll (fun c => IsPlain c) cs

/-- Digits are the characters with the code points 48 to 57. -/
theorem isDigit_iff {c : Char} : isDigit c ↔ 48 ≤ c.toNat ∧ c.toNat ≤ 57 := by
  simp only [isDigit, Char.le_def, Bool.and_eq_true, decide_eq_true_eq, UInt32.le_iff_toNat_le]
  rfl

/-- Digits are plain. -/
theorem isPlain_of_isDigit {c : Char} (h : isDigit c) : IsPlain c := by
  obtain ⟨hlow, hhigh⟩ := isDigit_iff.mp h
  refine ⟨by omega, by omega, ?_⟩
  -- The underscore stands above the digits.
  rintro rfl
  contradiction

/-- A plain character is no white space. -/
theorem IsPlain.not_isBlank {c : Char} (h : IsPlain c) : Text.isBlank c = false := by
  obtain ⟨hlow, hhigh, -⟩ := h
  simp [Text.isBlank]
  omega

variable {cs : List Char}

/-- Plain text has nothing to trim. -/
theorem PlainText.trim (h : PlainText cs) : Text.trim cs = cs :=
  Text.trimBy_eq_self_of_forall fun c hc => (h c hc).not_isBlank

/-- Plain text is its own body: there is neither white space nor a script to fold. -/
theorem PlainText.body (h : PlainText cs) : body cs = cs := by
  apply Text.trimBy_eq_self_of_forall
  intro c hc
  -- ASCII white space is white space.
  by_contra hblank
  rw [Bool.not_eq_false] at hblank
  have := Text.isBlank_of_isAsciiBlank hblank
  rw [(h c hc).not_isBlank] at this
  contradiction

/-- Plain text stays as it is when digits of other scripts are folded. -/
theorem PlainText.toAscii (h : PlainText cs) : toAscii cs = cs := by
  induction cs with
  | nil => rfl
  | cons c cs ih =>
    rw [Literal.toAscii, if_pos (h c (by simp)).2.1, ih fun d hd => h d (by simp [hd])]

/-- Plain text has no underscores to drop. -/
theorem PlainText.dropUnderscores (h : PlainText cs) (afterDigit : Bool) :
    dropUnderscores afterDigit cs = some cs := by
  induction cs generalizing afterDigit with
  | nil => rfl
  | cons c cs ih =>
    have hc : c ≠ '_' := (h c (by simp)).2.2
    rw [Literal.dropUnderscores]
    · rw [if_neg hc, ih fun d hd => h d (by simp [hd])]
      rfl
    · -- The other case of the reader is an underscore between two digits.
      intro d rest hunderscore
      contradiction

/-- Reading a plain text is reading it without preparations. -/
theorem PlainText.readDouble (h : PlainText cs) : readDouble cs = readPlainDouble cs := by
  rw [Literal.readDouble, readAsciiDouble, h.toAscii, h.body, h.dropUnderscores]
  rfl

/-! ## Numerals -/

/-- A number as it is written without a sign or an exponent. -/
structure Numeral where
  /-- The digits before the point. -/
  whole : List Char
  /-- The digits after the point; without any, there is no point. -/
  places : List Char
  /-- There are digits before the point. -/
  whole_ne_nil : whole ≠ []
  /-- What is before the point are digits. -/
  isDigit_whole : ∀ c ∈ whole, isDigit c
  /-- What is after the point are digits. -/
  isDigit_places : ∀ c ∈ places, isDigit c

namespace Numeral

/-- The numeral as it is written. -/
def text (n : Numeral) : List Char := Decimal.withPoint (n.whole, n.places)

/-- All digits as one number. -/
def mantissa (n : Numeral) : ℕ := Decimal.value (n.whole ++ n.places)

/-- Whether a numeral is far from being too long to be read. -/
def IsShort (n : Numeral) : Prop := n.mantissa < 10 ^ 15 ∧ n.places.length ≤ 9

/-- The number that is written. -/
def value (n : Numeral) : ℚ := n.mantissa / 10 ^ n.places.length

/-- The numeral of a natural number. -/
def ofNat (m : ℕ) : Numeral where
  whole := Decimal.digits m
  places := []
  whole_ne_nil := Decimal.digits_ne_nil m
  isDigit_whole _ := Decimal.isDigit_of_mem_digits
  isDigit_places := nofun

/-- The digits of the numeral of a natural number are that number. -/
theorem mantissa_ofNat (m : ℕ) : (ofNat m).mantissa = m := by
  rw [mantissa, ofNat, List.append_nil, Decimal.value_digits]

/-- The numeral of a natural number has it as its value. -/
theorem value_ofNat (m : ℕ) : (ofNat m).value = m := by
  rw [value, mantissa_ofNat]
  simp [ofNat]

/-- A numeral is plain text. -/
theorem plainText (n : Numeral) : PlainText n.text := by
  intro c hc
  unfold text Decimal.withPoint at hc
  split at hc
  · exact isPlain_of_isDigit (n.isDigit_whole c hc)
  · rcases List.mem_append.mp hc with hwhole | hplaces
    · exact isPlain_of_isDigit (n.isDigit_whole c hwhole)
    · rcases List.mem_cons.mp hplaces with rfl | hplaces
      · exact ⟨by decide, by decide, by decide⟩
      · exact isPlain_of_isDigit (n.isDigit_places c hplaces)

end Numeral

/-! ## Reading -/

section Span

variable {p : Char → Bool} {ds rest : List Char}

/-- The characters of a class at the beginning of a text end where one of another class stands. -/
theorem takeWhile_append_eq (hds : ∀ c ∈ ds, p c) (hrest : ∀ c ∈ rest.head?, p c = false) :
    (ds ++ rest).takeWhile p = ds := by
  rw [List.takeWhile_append_of_pos hds]
  cases rest with
  | nil => simp
  | cons c rest => simp [hrest c rfl]

/-- What is dropped from the front of a text is the longest run of a class of characters. -/
theorem dropWhile_append_eq (hds : ∀ c ∈ ds, p c) (hrest : ∀ c ∈ rest.head?, p c = false) :
    (ds ++ rest).dropWhile p = rest := by
  rw [List.dropWhile_append_of_pos hds]
  cases rest with
  | nil => rfl
  | cons c rest => simp [hrest c rfl]

end Span

/-- What stands behind a number: nothing, or a character that is neither a digit nor a point. -/
def EndsNumber : List Char → Prop
  | [] => True
  | c :: _ => isDigit c = false ∧ c ≠ '.'

/-- Digits have no lower case. -/
theorem toLower_of_isDigit {c : Char} (h : isDigit c) : c.toLower = c := by
  obtain ⟨hlow, hhigh⟩ := isDigit_iff.mp h
  unfold Char.toLower
  rw [dif_neg]
  rintro ⟨hupper, -⟩
  -- Capital letters stand above the digits.
  have hupper : 65 ≤ c.toNat := UInt32.le_iff_toNat_le.mp hupper
  omega

/-- A text that begins with a digit is none of some words that begin with letters. -/
theorem isWord_eq_false {c : Char} {rest : List Char} (hc : isDigit c) {words : List String}
    (hwords : words.all fun word => word.toList.head?.all fun d => !isDigit d) :
    isWord words (c :: rest) = false := by
  rw [isWord, List.any_eq_false]
  intro word hword heq
  rw [decide_eq_true_eq] at heq
  have hhead : c ∈ word.toList.head? := by
    rw [heq, List.map_cons, toLower_of_isDigit hc]
    rfl
  have hletter := List.all_eq_true.mp hwords word hword
  rw [Option.mem_def.mp hhead, Option.all_some, hc] at hletter
  contradiction

/-- A digit is no sign. -/
theorem splitSign_of_isDigit {c : Char} (hc : isDigit c) (rest : List Char) :
    splitSign (c :: rest) = (false, c :: rest) := by
  unfold splitSign
  split
  · rename_i heq
    obtain ⟨rfl, -⟩ := List.cons.inj heq
    contradiction
  · rename_i heq
    obtain ⟨rfl, -⟩ := List.cons.inj heq
    contradiction
  · rfl

/-- The digits after a point that a text may begin with, and the rest. -/
def afterPoint : List Char → List Char × List Char
  | '.' :: after => (after.takeWhile isDigit, after.dropWhile isDigit)
  | rest => ([], rest)

/-- No digits after a point stand where a number has ended. -/
theorem afterPoint_eq {tail : List Char} (h : EndsNumber tail) : afterPoint tail = ([], tail) := by
  unfold afterPoint
  split
  · exact absurd rfl h.2
  · rfl

/-- The preparations for reading leave a text alone that begins with digits. -/
theorem readPlainDouble_digits {whole rest : List Char} (hne : whole ≠ [])
    (hwhole : ∀ c ∈ whole, isDigit c) (hrest : ∀ c ∈ rest.head?, isDigit c = false) :
    readPlainDouble (whole ++ rest) =
      (readExponent (afterPoint rest).2).map fun e =>
        Decimal.toDouble false (Decimal.value (whole ++ (afterPoint rest).1))
          (e - (afterPoint rest).1.length) := by
  have htake := takeWhile_append_eq hwhole hrest
  have hdrop := dropWhile_append_eq hwhole hrest
  have hempty : whole.isEmpty = false := by simpa using hne
  obtain ⟨c, ds, rfl⟩ := List.exists_cons_of_ne_nil hne
  have hc : isDigit c := hwhole c (by simp)
  -- A digit is no sign, and no letter of the words for infinity and for what is no number.
  have hsign : splitSign (c :: ds ++ rest) = (false, c :: ds ++ rest) :=
    splitSign_of_isDigit hc (ds ++ rest)
  have hinf : isWord ["inf", "infinity"] (c :: ds ++ rest) = false :=
    isWord_eq_false hc rfl
  have hnan : isWord ["nan"] (c :: ds ++ rest) = false := isWord_eq_false hc rfl
  unfold readPlainDouble afterPoint
  simp only [hsign, hinf, hnan, htake, hdrop, hempty]
  cases rest with
  | nil => rfl
  | cons d rest =>
    by_cases hpoint : d = '.'
    · rw [hpoint]
      rfl
    · simp [hpoint]

/-- The digits at the beginning of a text are read up to what ends the number. -/
theorem readPlainDouble_text_append (n : Numeral) {tail : List Char} (htail : EndsNumber tail) :
    readPlainDouble (n.text ++ tail) =
      (readExponent tail).map fun e =>
        Decimal.toDouble false n.mantissa (e - n.places.length) := by
  have hend : ∀ c ∈ tail.head?, isDigit c = false := by
    cases tail with
    | nil => nofun
    | cons c rest =>
      rintro _ ⟨⟩
      exact htail.1
  unfold Numeral.text Decimal.withPoint Numeral.mantissa
  -- Without places there is no point in front of what follows.
  cases hplaces : n.places with
  | nil =>
    rw [List.isEmpty_nil, if_pos rfl, readPlainDouble_digits n.whole_ne_nil n.isDigit_whole hend,
      afterPoint_eq htail]
  | cons d ds =>
    have hdigits : ∀ c ∈ d :: ds, isDigit c := hplaces ▸ n.isDigit_places
    rw [List.isEmpty_cons, if_neg (by simp), List.append_assoc,
      readPlainDouble_digits n.whole_ne_nil n.isDigit_whole (by rintro _ ⟨⟩; rfl), List.cons_append,
      afterPoint, takeWhile_append_eq hdigits hend, dropWhile_append_eq hdigits hend]

/-- Reading a numeral gives the double nearest to its value. -/
theorem readDouble_text (n : Numeral) :
    readDouble n.text = some (Decimal.toDouble false n.mantissa (-n.places.length)) := by
  rw [n.plainText.readDouble]
  have hread := readPlainDouble_text_append n (show EndsNumber [] from trivial)
  rw [List.append_nil, readExponent] at hread
  rw [hread, Option.map_some, zero_sub]

/-- A numeral with something else behind it that does not begin as an exponent is no number. -/
theorem readDouble_text_append (n : Numeral) {c : Char} {rest : List Char}
    (hplain : PlainText (c :: rest)) (hend : EndsNumber (c :: rest))
    (hexponent : c ≠ 'e' ∧ c ≠ 'E') :
    readDouble (n.text ++ c :: rest) = none := by
  have hall : PlainText (n.text ++ c :: rest) := by
    intro d hd
    rcases List.mem_append.mp hd with htext | htail
    · exact n.plainText d htext
    · exact hplain d htail
  have hnone : readExponent (c :: rest) = none := by
    simp [readExponent, hexponent]
  rw [hall.readDouble, readPlainDouble_text_append n hend, hnone]
  rfl

/-! ## Integers -/

/-- Digits are a run by themselves. -/
theorem digitRun_eq {ds : List Char} (h : ∀ c ∈ ds, isDigit c) : digitRun ds = some (ds, []) := by
  induction ds with
  | nil => rfl
  | cons c ds ih =>
    have hc := h c List.mem_cons_self
    rw [digitRun, if_pos hc, ih fun d hd => h d (List.mem_cons_of_mem c hd)]
    · rfl
    · -- The other case of the reader is an underscore in front of a digit.
      rintro d rest rfl
      contradiction

/-- The digits of a number are read as the number, unless they are too many. -/
theorem readAsciiInt_of_body {cs : List Char} {negative : Bool} {n : ℕ}
    (hbody : splitSign (body cs) = (negative, Decimal.digits n))
    (hlength : Decimal.length n ≤ maxDigits) :
    readAsciiInt cs = .ok (if negative then -(n : ℤ) else n) := by
  have hdigits : ∀ c ∈ Decimal.digits n, isDigit c := fun _ => Decimal.isDigit_of_mem_digits
  have hne : (Decimal.digits n).isEmpty = false := by simpa using Decimal.digits_ne_nil n
  have hhead : (Decimal.digits n).head? ≠ some '_' := fun h =>
    (isPlain_of_isDigit (hdigits '_' (List.mem_of_mem_head? h))).2.2 rfl
  have hfew : ¬maxDigits < (Decimal.digits n).length := not_lt.mpr hlength
  simp only [readAsciiInt, hbody, if_neg hhead, digitRun_eq hdigits, if_neg hfew, hne,
    Decimal.value_digits]
  rfl

/-- The decimal form of an integer consists of digits and perhaps a sign. -/
theorem plainText_ofInt (n : ℤ) : PlainText (Decimal.ofInt n).toList := by
  have hdigits : PlainText (Decimal.digits n.natAbs) := fun _ hc =>
    isPlain_of_isDigit (Decimal.isDigit_of_mem_digits hc)
  rw [Decimal.ofInt, String.toList_ofList]
  split
  · exact List.forall_mem_cons.mpr ⟨by decide, hdigits⟩
  · exact hdigits

/-- An integer is read from its decimal form, unless it has too many digits. -/
theorem readInt_ofInt {n : ℤ} (h : Decimal.length n.natAbs ≤ maxDigits) :
    readInt (Decimal.ofInt n).toList = .ok n := by
  have hsign : splitSign (Decimal.ofInt n).toList = (decide (n < 0), Decimal.digits n.natAbs) := by
    rw [Decimal.ofInt, String.toList_ofList]
    split
    · rename_i hneg
      rw [decide_eq_true hneg]
      rfl
    -- Without a sign in front, the first character is a digit.
    · rename_i hnonneg
      obtain ⟨c, ds, hcons⟩ := List.exists_cons_of_ne_nil (Decimal.digits_ne_nil n.natAbs)
      have hc : isDigit c := Decimal.isDigit_of_mem_digits (hcons ▸ List.mem_cons_self)
      rw [decide_eq_false hnonneg, hcons, splitSign_of_isDigit hc]
  have hplain := plainText_ofInt n
  rw [readInt, hplain.toAscii, readAsciiInt_of_body (by rw [hplain.body, hsign]) h]
  by_cases hneg : n < 0
  · rw [decide_eq_true hneg, if_pos rfl, Int.natCast_natAbs, abs_of_neg hneg, neg_neg]
  · rw [decide_eq_false hneg, if_neg Bool.false_ne_true, Int.natCast_natAbs,
      abs_of_nonneg (not_lt.mp hneg)]

end Literal

/-- The double nearest to a natural number over a power of ten, if the number before the point does
not have hundreds of digits and neither have the zeros behind it. -/
theorem Decimal.toDouble_eq_ofRatio {m places : ℕ} (hm : 0 < m) (hlarge : length m ≤ 400 + places)
    (hsmall : places ≤ 400 + length m) :
    toDouble false m (-places) = .ofRatio false m (10 ^ places) := by
  unfold toDouble
  rw [if_neg hm.ne']
  dsimp only
  rw [if_neg (by omega), if_neg (by omega)]
  cases places with
  | zero => simp
  | succ p =>
    rw [show (-((p + 1 : ℕ) : ℤ)) = .negSucc p from rfl]

namespace Literal.Numeral

attribute [local irreducible] Double.unitsPerOne

/-- The double that is read of a numeral. -/
def read (n : Numeral) : Double := Decimal.toDouble false n.mantissa (-n.places.length)

variable {n : Numeral}

/-- A short numeral other than zero is read as the double nearest to its value. -/
theorem read_eq_ofRatio (hshort : n.IsShort) (hpos : 0 < n.mantissa) :
    n.read = .ofRatio false n.mantissa (10 ^ n.places.length) := by
  have hlength : Decimal.length n.mantissa ≤ 15 :=
    (Nat.length_toDigits_le_iff (by decide) (by decide)).mpr hshort.1
  have hplaces := hshort.2
  exact Decimal.toDouble_eq_ofRatio hpos (by omega) (by omega)

/-- Nothing is not scaled when it is read. -/
theorem read_of_mantissa_eq_zero (hzero : n.mantissa = 0) : n.read = .zero false := by
  rw [read, hzero]
  rfl

/-- What is read of a numeral is one rounding away from its value. -/
theorem isNear_read (hshort : n.IsShort) : Double.IsNear n.read n.value 1 := by
  rcases Nat.eq_zero_or_pos n.mantissa with hzero | hmantissa
  · have hvalue : n.value = (0 : ℕ) := by rw [value, hzero, Nat.cast_zero, zero_div]
    rw [read_of_mantissa_eq_zero hzero, hvalue]
    exact Double.IsNatural.zero.isNear.mono (Nat.cast_nonneg 0) (Nat.zero_le 1)
  rw [read_eq_ofRatio hshort hmantissa]
  obtain ⟨hsmall, hplaces⟩ := hshort
  have hone : (1 : ℚ) ≤ n.mantissa := by exact_mod_cast hmantissa
  have hlarge : (n.mantissa : ℚ) ≤ 10 ^ 15 := by exact_mod_cast hsmall.le
  have hpow : (10 : ℚ) ^ n.places.length ≤ 10 ^ 9 := pow_le_pow_right₀ (by norm_num) hplaces
  have hpow' : (1 : ℚ) ≤ 10 ^ n.places.length := one_le_pow₀ (by norm_num)
  refine Double.IsNear.ofRatio (Nat.pow_pos (by decide)) (by rw [value]; push_cast; rfl) ?_ ?_
  · calc (1 / 2 ^ 100 : ℚ) ≤ 1 / 10 ^ 9 := by norm_num
      _ ≤ n.mantissa / 10 ^ n.places.length := by gcongr
  · calc (n.mantissa / 10 ^ n.places.length : ℚ) ≤ 10 ^ 15 / 1 := by gcongr
      _ ≤ 2 ^ 100 := by norm_num

/-- What is read of a numeral depends on its value only, so zeros behind it make no difference. -/
theorem read_eq_toDouble {mantissa : ℕ} {e : ℤ} (hshort : n.IsShort) (hlow : 10 ^ 5 ≤ mantissa)
    (hhigh : mantissa < 10 ^ 6) (hleast : -4 ≤ e) (he : e ≤ 5)
    (hn : n.value = mantissa * 10 ^ (e - 5)) :
    n.read = Decimal.toDouble false mantissa (e - 5) := by
  obtain ⟨places, hplaces⟩ := Int.eq_ofNat_of_zero_le (show 0 ≤ 5 - e by omega)
  have hexp : e - 5 = -(places : ℤ) := by omega
  have hpos : 0 < mantissa := by omega
  have hlength : Decimal.length mantissa ≤ 6 :=
    (Nat.length_toDigits_le_iff (by decide) (by decide)).mpr hhigh
  -- Numeral and digits name the same rational number, and not zero; nothing else is read.
  rw [hexp, zpow_neg, zpow_natCast, ← div_eq_mul_inv] at hn
  have hmantissa : 0 < n.mantissa := by
    by_contra hzero
    have hvalue : (0 : ℚ) < mantissa / 10 ^ places :=
      div_pos (by exact_mod_cast hpos) (by positivity)
    rw [← hn, value, Nat.eq_zero_of_not_pos hzero, Nat.cast_zero, zero_div] at hvalue
    exact lt_irrefl 0 hvalue
  rw [hexp, read_eq_ofRatio hshort hmantissa,
    Decimal.toDouble_eq_ofRatio hpos (by omega) (by omega)]
  apply Double.ofRatio_congr false (Nat.pow_pos (by decide)) (Nat.pow_pos (by decide))
  rw [value] at hn
  exact_mod_cast hn

/-- A numeral of a natural number is read as that, with zeros in front or behind or without. -/
theorem isInteger_read {m : ℕ} (hm : m < 2 ^ 53) (hvalue : n.value = m) :
    Double.IsInteger n.read m := by
  have hmantissa : n.mantissa = m * 10 ^ n.places.length := by
    rw [value, div_eq_iff (by positivity)] at hvalue
    exact_mod_cast hvalue
  have hpow : 0 < 10 ^ n.places.length := Nat.pow_pos (by decide)
  rcases Nat.eq_zero_or_pos m with rfl | hpos
  · rw [read_of_mantissa_eq_zero (hmantissa.trans (Nat.zero_mul _))]
    exact Double.IsNatural.zero.isInteger
  · -- The digits before the point are those of the number.
    have hlarge : Decimal.length n.mantissa ≤ 16 + n.places.length := by
      refine (Nat.length_toDigits_le_iff (by decide) (by omega)).mpr ?_
      rw [hmantissa, Nat.pow_add]
      exact Nat.mul_lt_mul_of_pos_right (by omega) hpow
    have hsmall : n.places.length < Decimal.length n.mantissa := by
      refine (Nat.pow_lt_pow_iff_right (by decide)).mp (lt_of_le_of_lt ?_ (Decimal.lt_pow_length _))
      rw [hmantissa]
      exact Nat.le_mul_of_pos_left _ hpos
    have hmantissaPos : 0 < n.mantissa := by
      rw [hmantissa]
      exact Nat.mul_pos hpos hpow
    rw [read, Decimal.toDouble_eq_ofRatio hmantissaPos (by omega) (by omega), hmantissa]
    exact (Double.IsNatural.ofRatio hpow hm).isInteger

end Literal.Numeral

namespace Double

open Literal

attribute [local irreducible] unitsPerOne

/-! ## Writing -/

/-- Digits in front of a point and behind it make a numeral, without the zeros at the end. -/
theorem exists_numeral_withPoint {whole places : List Char} (hne : whole ≠ [])
    (hwhole : ∀ c ∈ whole, isDigit c) (hplaces : ∀ c ∈ places, isDigit c) :
    ∃ n : Numeral, n.text = Decimal.withPoint (whole, Decimal.dropTrailingZeros places) ∧
      n.value = Decimal.value (whole ++ places) / 10 ^ places.length ∧
      n.mantissa ≤ Decimal.value (whole ++ places) ∧ n.places.length ≤ places.length := by
  obtain ⟨zeros, hcount, hkept⟩ := Decimal.exists_value_eq_dropTrailingZeros whole places
  have hdrop : ∀ c ∈ Decimal.dropTrailingZeros places, c ∈ places := by
    intro c hc
    obtain ⟨n, hn⟩ := Decimal.exists_eq_dropTrailingZeros_append places
    rw [hn]
    exact List.mem_append_left _ hc
  generalize Decimal.dropTrailingZeros places = kept at hcount hkept hdrop ⊢
  refine ⟨⟨whole, kept, hne, hwhole, fun c hc => hplaces c (hdrop c hc)⟩, rfl, ?_, ?_, ?_⟩
  · -- The zeros that are left out are powers of ten above and below the line.
    change (Decimal.value (whole ++ kept) : ℚ) / 10 ^ kept.length = _
    rw [hkept, hcount, pow_add]
    push_cast
    field_simp
  · rw [hkept]
    exact Nat.le_mul_of_pos_right _ (Nat.pow_pos (by decide))
  · rw [hcount]
    exact Nat.le_add_right _ _

/-- A number in this range has exactly six digits. -/
theorem length_digits_eq_six {mantissa : ℕ} (hlow : 10 ^ 5 ≤ mantissa)
    (hhigh : mantissa < 10 ^ 6) : (Decimal.digits mantissa).length = 6 := by
  have hle : Decimal.length mantissa ≤ 6 :=
    (Nat.length_toDigits_le_iff (by decide) (by decide)).mpr hhigh
  have hge : ¬Decimal.length mantissa ≤ 5 := fun h =>
    not_lt.mpr hlow ((Nat.length_toDigits_le_iff (by decide) (by decide)).mp h)
  rw [Decimal.length] at hle hge
  omega

/-- The digits of a number of six digits, split at the point, make a numeral of the number. The
point may also stand up to four places in front of them. -/
theorem exists_numeral_positional {mantissa : ℕ} {e : ℤ} (hlow : 10 ^ 5 ≤ mantissa)
    (hhigh : mantissa < 10 ^ 6) (hleast : -4 ≤ e) (he : e ≤ 5) :
    ∃ n : Numeral, n.value = mantissa * 10 ^ (e - 5) ∧ n.IsShort ∧
      n.text = Decimal.withPoint ((Decimal.positional (Decimal.digits mantissa) e).1,
        Decimal.dropTrailingZeros (Decimal.positional (Decimal.digits mantissa) e).2) := by
  have hlength := length_digits_eq_six hlow hhigh
  have hvalue : Decimal.value (Decimal.digits mantissa) = mantissa := Decimal.value_digits mantissa
  have hdigit : ∀ c ∈ Decimal.digits mantissa, isDigit c := fun _ => Decimal.isDigit_of_mem_digits
  generalize Decimal.digits mantissa = ds at hlength hvalue hdigit ⊢
  -- The point has some digits behind it, and all of them stand for the number.
  have hparts : ∃ whole places, Decimal.positional ds e = (whole, places) ∧ whole ≠ [] ∧
      (∀ c ∈ whole, isDigit c) ∧ (∀ c ∈ places, isDigit c) ∧
      Decimal.value (whole ++ places) = mantissa ∧ (places.length : ℤ) = 5 - e := by
    cases e with
    | ofNat e =>
      have he' : e ≤ 5 := Int.ofNat_le.mp he
      refine ⟨_, _, rfl, ?_, ?_, fun c hc => hdigit c (List.mem_of_mem_drop hc), ?_, ?_⟩
      · intro hnil
        have hcount := congrArg List.length hnil
        rw [List.length_append, List.length_take, hlength, List.length_nil] at hcount
        omega
      · intro c hc
        rw [Nat.sub_eq_zero_of_le (by omega), List.replicate_zero, List.append_nil] at hc
        exact hdigit c (List.mem_of_mem_take hc)
      · rw [Nat.sub_eq_zero_of_le (by omega), List.replicate_zero, List.append_nil,
          List.take_append_drop, hvalue]
      · rw [List.length_drop, hlength, Int.ofNat_eq_natCast]
        omega
    | negSucc e =>
      refine ⟨_, _, rfl, List.cons_ne_nil _ _, ?_, ?_, ?_, ?_⟩
      · exact List.forall_mem_singleton.mpr rfl
      · refine List.forall_mem_append.mpr ⟨fun c hc => ?_, hdigit⟩
        rw [List.eq_of_mem_replicate hc]
        rfl
      · rw [← hvalue]
        exact Decimal.value_zeros_append (e + 1) ds
      · rw [List.length_append, List.length_replicate, hlength, Int.negSucc_eq]
        omega
  obtain ⟨whole, places, hsplit, hne, hwhole, hplaces, hmantissa, hcount⟩ := hparts
  obtain ⟨n, htext, hn, hle, hless⟩ := exists_numeral_withPoint hne hwhole hplaces
  rw [hmantissa] at hn hle
  refine ⟨n, ?_, ⟨by omega, by omega⟩, by rw [hsplit, htext]⟩
  rw [hn, show e - 5 = -(places.length : ℤ) by omega, zpow_neg, zpow_natCast, div_eq_mul_inv]

/-- A number of at most six digits in units of its last significant one. -/
theorem exists_six_digits {m places : ℕ} (hlow : 10 ^ places ≤ m) (hhigh : m < 10 ^ 6) :
    ∃ mantissa e : ℕ, 10 ^ 5 ≤ mantissa ∧ mantissa < 10 ^ 6 ∧ e ≤ 5 ∧
      (m / 10 ^ places : ℚ) = mantissa / 10 ^ (5 - e) := by
  have hm : 0 < m := (Nat.pow_pos (by decide)).trans_le hlow
  have hlt := Decimal.lt_pow_length m
  have hge := Decimal.pow_length_le hm
  have hpos := Decimal.length_pos m
  have hlength : Decimal.length m ≤ 6 :=
    (Nat.length_toDigits_le_iff (by decide) (by decide)).mpr hhigh
  have hplaces : places < Decimal.length m :=
    (Nat.pow_lt_pow_iff_right (by decide)).mp (hlow.trans_lt hlt)
  generalize Decimal.length m = size at hlt hge hpos hlength hplaces
  -- The number is filled up with zeros to six digits.
  refine ⟨m * 10 ^ (6 - size), size - 1 - places, ?_, ?_, by omega, ?_⟩
  · calc 10 ^ 5 = 10 ^ (size - 1) * 10 ^ (6 - size) := by
          rw [← Nat.pow_add]
          congr 1
          omega
      _ ≤ m * 10 ^ (6 - size) := Nat.mul_le_mul_right _ hge
  · calc m * 10 ^ (6 - size) < 10 ^ size * 10 ^ (6 - size) :=
          Nat.mul_lt_mul_of_pos_right hlt (Nat.pow_pos (by decide))
      _ = 10 ^ 6 := by
          rw [← Nat.pow_add]
          congr 1
          omega
  · rw [show 5 - (size - 1 - places) = places + (6 - size) by omega, pow_add]
    push_cast
    field_simp

/-- A finite number is written with digits. -/
theorem unusualText_of_isFinite {x : Double} (h : x.isFinite) : x.unusualText = none := by
  cases x with
  | finite => rfl
  | _ => contradiction

/-- Nothing is written as one digit. -/
theorem IsNear.general_eq_zero {x : Double} {q : ℚ} {k : ℕ} (hx : IsNear x q k)
    (hzero : x.magnitude = 0) : x.general.toList = ['0'] := by
  rw [general, unusualText_of_isFinite hx.isFinite, Option.getD_none, signed, hx.isNegative,
    if_neg (by simp), String.toList_ofList, if_pos hzero]

/-- Any other number is written by its significant digits, with an exponent if the first of them
stands too far from the point. -/
theorem IsNear.general_eq {x : Double} {q : ℚ} {k mantissa : ℕ} {e : ℤ} (hx : IsNear x q k)
    (hpos : 0 < x.magnitude)
    (hdigits : Decimal.significant 6 x.magnitude unitsPerOne = ⟨mantissa, e⟩) :
    x.general.toList =
      if -4 ≤ e ∧ e < 6 then
        Decimal.withPoint ((Decimal.positional (Decimal.digits mantissa) e).1,
          Decimal.dropTrailingZeros (Decimal.positional (Decimal.digits mantissa) e).2)
      else
        Decimal.withPoint ((Decimal.dropTrailingZeros (Decimal.digits mantissa)).take 1,
          (Decimal.dropTrailingZeros (Decimal.digits mantissa)).drop 1) ++
          Decimal.exponentText e := by
  rw [general, unusualText_of_isFinite hx.isFinite, Option.getD_none, signed, hx.isNegative,
    if_neg (by simp), String.toList_ofList, if_neg hpos.ne', hdigits]

/-- A number that is a few roundings away from a decimal of at most six digits is closer to it
than a twentieth of its last digit. -/
theorem IsNear.significant_eq {x : Double} {mantissa e k : ℕ} (hlow : 10 ^ 5 ≤ mantissa)
    (hhigh : mantissa < 10 ^ 6) (he : e ≤ 5) (hx : IsNear x (mantissa / 10 ^ (5 - e)) k)
    (hk : k ≤ 10) (hmagnitude : 0 < x.magnitude) :
    Decimal.significant 6 x.magnitude unitsPerOne = ⟨mantissa, e⟩ := by
  have hupper : (mantissa : ℚ) < 10 ^ 6 := by exact_mod_cast hhigh
  have hscale : (0 : ℚ) < 10 ^ (5 - e) := by positivity
  apply Decimal.significant_of_near hmagnitude unitsPerOne_pos (by decide) hlow hhigh
  have hexp : (10 : ℚ) ^ ((e : ℤ) - (6 : ℕ) + 1) = (10 ^ (5 - e))⁻¹ := by
    rw [show (e : ℤ) - (6 : ℕ) + 1 = -((5 - e : ℕ) : ℤ) by omega, zpow_neg, zpow_natCast]
  have hnear : |(x.magnitude / unitsPerOne : ℚ) - mantissa / 10 ^ (5 - e)| ≤
      mantissa / 10 ^ (5 - e) * (1 / 10 ^ 9) :=
    hx.near.trans (mul_le_mul_of_nonneg_left (drift_le hk) (by positivity))
  rw [hexp, div_inv_eq_mul]
  -- The distance in units of the last digit is less than a hundredth.
  calc |(x.magnitude / unitsPerOne : ℚ) * 10 ^ (5 - e) - mantissa|
      = |(x.magnitude / unitsPerOne : ℚ) - mantissa / 10 ^ (5 - e)| * 10 ^ (5 - e) := by
        rw [← abs_of_pos hscale, ← abs_mul, abs_of_pos hscale, sub_mul,
          div_mul_cancel₀ _ hscale.ne']
    _ ≤ mantissa / 10 ^ (5 - e) * (1 / 10 ^ 9) * 10 ^ (5 - e) :=
        mul_le_mul_of_nonneg_right hnear hscale.le
    _ = mantissa / 10 ^ 9 := by field_simp
    _ < 1 / 20 := by
        rw [div_lt_div_iff₀ (by norm_num) (by norm_num)]
        linarith

/-- A number that is a few roundings away from a decimal of at most six digits, from one up to a
million, is written as a numeral of that decimal. -/
theorem IsNear.exists_numeral_general {x : Double} {m places k : ℕ}
    (hx : IsNear x (m / 10 ^ places) k) (hk : k ≤ 10) (hlow : 10 ^ places ≤ m)
    (hhigh : m < 10 ^ 6) :
    ∃ n : Numeral, x.general.toList = n.text ∧ n.value = m / 10 ^ places ∧ n.IsShort := by
  obtain ⟨mantissa, e, hlow', hhigh', he, hvalue⟩ := exists_six_digits hlow hhigh
  rw [hvalue] at hx ⊢
  have hmagnitude : 0 < x.magnitude := by
    by_contra hzero
    have hpos : (0 : ℚ) < mantissa := by exact_mod_cast (show 0 < mantissa by omega)
    have hdecimal : (0 : ℚ) < mantissa / 10 ^ (5 - e) := by positivity
    have hnear : |x.size - mantissa / 10 ^ (5 - e)| ≤ mantissa / 10 ^ (5 - e) * (1 / 10 ^ 9) :=
      hx.near.trans (mul_le_mul_of_nonneg_left (drift_le hk) hdecimal.le)
    -- Nothing is as far away from the decimal as the decimal is large.
    rw [size, Nat.eq_zero_of_not_pos hzero, Nat.cast_zero, zero_div, zero_sub, abs_neg,
      abs_of_pos hdecimal] at hnear
    linarith
  have hdigits := hx.significant_eq hlow' hhigh' he hk hmagnitude
  obtain ⟨n, hn, hshort, htext⟩ :=
    exists_numeral_positional (e := e) hlow' hhigh' (by omega) (by omega)
  have hexp : (10 : ℚ) ^ ((e : ℤ) - 5) = (10 ^ (5 - e))⁻¹ := by
    rw [show (e : ℤ) - 5 = -((5 - e : ℕ) : ℤ) by omega, zpow_neg, zpow_natCast]
  refine ⟨n, ?_, by rw [hn, hexp, div_eq_mul_inv], hshort⟩
  rw [hx.general_eq hmagnitude hdigits, if_pos ⟨by omega, by omega⟩, htext]

/-- A natural number below a million is written as a numeral. -/
theorem IsNatural.exists_numeral_general {x : Double} {n : ℕ} (hx : IsNatural x n)
    (hn : n < 10 ^ 6) :
    ∃ numeral : Numeral, x.general.toList = numeral.text ∧ numeral.value = n := by
  -- Nothing has no first digit, and is written apart.
  rcases Nat.eq_zero_or_pos n with rfl | hpos
  · have hzero : x.magnitude = 0 := by rw [hx.magnitude, Nat.zero_mul]
    exact ⟨.ofNat 0, hx.isNear.general_eq_zero hzero, Numeral.value_ofNat 0⟩
  · have hnear : IsNear x (n / 10 ^ 0) 0 := by
      rw [pow_zero, div_one]
      exact hx.isNear
    have hlow : 10 ^ 0 ≤ n := hpos
    obtain ⟨numeral, htext, hvalue, -⟩ := hnear.exists_numeral_general (Nat.zero_le 10) hlow hn
    exact ⟨numeral, htext, by rw [hvalue, pow_zero, div_one]⟩

end Double

end Vigil
