import Vigil.Proofs.Time.Calendar
import Vigil.Proofs.Time.Fields
import Vigil.Proofs.Value.Converting

/-!
# Times in ISO form

A stamp (`Iso.Stamp`) is a date and a time of day with a fraction of any length and a zone, as they
are written in the form `2024-06-01T12:00:00.25+02:00`. Read as an instant, it is the local time
without the offset, the fraction cut to microseconds (`Iso.Stamp.readInstant_text`).

The reader writes the stamp anew twice before it reads its fields: `Z` becomes an offset of zero
(`Iso.Stamp.spelled`), and the fraction loses all but six digits (`Iso.Stamp.cut`). Both leave the
instant as it is, so the fields are only read of stamps that need neither.

A timestamp is written as a stamp (`Iso.Stamp.ofTimestamp`), so its text is the same instant as the
timestamp. The main statement is `Value.toInstant_denotes`.
-/

namespace Vigil

/-- An instant is the one of its microseconds. -/
theorem Instant.ofMicros?_eq_some_iff {micros : ℤ} {t : Instant} :
    ofMicros? micros = some t ↔ (t.micros : ℤ) = micros := by
  unfold ofMicros?
  split
  · rename_i hrange
    obtain ⟨m, rfl⟩ := Int.eq_ofNat_of_zero_le hrange.1
    rw [Option.some.injEq, Nat.cast_inj]
    exact ⟨fun h => h ▸ rfl, fun h => by cases t; cases h; rfl⟩
  · have hrange := t.inRange
    simp only [reduceCtorEq, false_iff]
    omega

/-- A timestamp is the instant of its local time without the offset. -/
theorem Timestamp.toInstant?_eq_ok_iff {t : Timestamp} {i : Instant} :
    t.toInstant? = .ok i ↔ (i.micros : ℤ) = t.micros - t.offset.getD 0 := by
  rw [← Instant.ofMicros?_eq_some_iff, toInstant?]
  cases Instant.ofMicros? (t.micros - t.offset.getD 0) <;> simp

namespace Iso

open Calendar Decimal
open Literal (isDigit PlainText)

/-! ## Texts of digits -/

/-- A text has digits and these other characters. -/
def DigitsAnd (marks cs : List Char) : Prop := ∀ c ∈ cs, isDigit c ∨ c ∈ marks

namespace DigitsAnd

variable {marks cs ds : List Char} {c : Char}

/-- An empty text has digits and other characters, whichever they are. -/
@[simp]
theorem nil : DigitsAnd marks [] := List.forall_mem_nil _

/-- A text has digits and these characters if its first character is one and the rest has them. -/
@[simp]
theorem cons_iff : DigitsAnd marks (c :: cs) ↔ (isDigit c ∨ c ∈ marks) ∧ DigitsAnd marks cs :=
  List.forall_mem_cons

/-- A text in two parts has digits and these characters if both parts have them. -/
@[simp]
theorem append_iff : DigitsAnd marks (cs ++ ds) ↔ DigitsAnd marks cs ∧ DigitsAnd marks ds :=
  List.forall_mem_append

/-- A padded number has digits only. -/
@[simp]
theorem padded (width n : ℕ) : DigitsAnd marks (padded width n) := fun _ hc =>
  .inl (isDigit_of_mem_padded hc)

/-- A text with digits and these characters is one with digits and more characters. -/
theorem mono {more : List Char} (h : DigitsAnd marks cs) (hmarks : marks ⊆ more) :
    DigitsAnd more cs := fun c hc => (h c hc).imp_right fun hmark => hmarks hmark

/-- A character that is neither a digit nor one of the others is not in the text. -/
theorem not_mem (h : DigitsAnd marks cs) (hdigit : isDigit c = false) (hc : c ∉ marks) :
    c ∉ cs := by
  intro hmem
  rcases h c hmem with hdigit' | hmark
  · rw [hdigit] at hdigit'
    contradiction
  · exact hc hmark

end DigitsAnd

/-! ## Stamps -/

/-- What a time ends with. -/
inductive Zone where
  /-- Nothing. -/
  | missing
  /-- The letter `Z`. -/
  | utc
  /-- Hours and minutes with a sign. -/
  | offset (negative : Bool) (hours minutes : ℕ) (bounds : hours < 24 ∧ minutes < 60)

namespace Zone

/-- A zone as it is written. -/
def text : Zone → List Char
  | .missing => []
  | .utc => ['Z']
  | .offset negative hours minutes _ =>
    (if negative then '-' else '+') :: padded 2 hours ++ ':' :: padded 2 minutes

/-- The microseconds that a clock in this zone is ahead of UTC. -/
def micros : Zone → ℤ
  | .missing => 0
  | .utc => 0
  | .offset negative hours minutes _ =>
    let size : ℕ := (hours * 60 + minutes) * 60000000
    if negative then -size else size

/-- The offset of a time with this zone, if it has one. -/
def offset? : Zone → Option ℤ
  | .missing => none
  | z => some z.micros

/-- A zone that is missing counts as an offset of zero. -/
theorem getD_offset? (z : Zone) : z.offset?.getD 0 = z.micros := by
  cases z <;> rfl

/-- An offset is less than a day. -/
theorem natAbs_micros_lt (z : Zone) : z.micros.natAbs < 86400000000 := by
  cases z with
  | missing => decide
  | utc => decide
  | offset negative hours minutes bounds =>
    unfold micros
    dsimp only
    split <;> omega

/-- The zone with an offset of zero in place of the letter. -/
def spelled : Zone → Zone
  | .utc => .offset false 0 0 (by decide)
  | z => z

/-- A zone begins with a sign or with the letter. -/
theorem head?_text (z : Zone) : ∀ c ∈ z.text.head?, c = '+' ∨ c = '-' ∨ c = 'Z' := by
  cases z with
  | missing => simp [text]
  | utc => simp [text]
  | offset negative => cases negative <;> simp [text]

/-- The text of a zone starts with no decimal digit of any script. -/
theorem not_isDecimalDigit_head? (z : Zone) :
    ∀ c ∈ z.text.head?, Text.isDecimalDigit c = false := by
  intro c hc
  rcases z.head?_text c hc with rfl | rfl | rfl
  all_goals decide

/-- The text of a zone starts with no digit. -/
theorem not_isDigit_head? (z : Zone) : ∀ c ∈ z.text.head?, isDigit c = false := by
  intro c hc
  rcases z.head?_text c hc with rfl | rfl | rfl
  all_goals decide

/-- The text of a zone starts within ASCII, also if it is empty. -/
theorem headD_text_lt (z : Zone) : (z.text.headD '\x00').toNat < 128 := by
  cases z with
  | missing => decide
  | utc => decide
  | offset negative =>
    cases negative
    · exact (by decide : '+'.toNat < 128)
    · exact (by decide : '-'.toNat < 128)

/-- Only the letter `Z` is spelled as an offset. -/
theorem spelled_of_ne {z : Zone} (h : z ≠ .utc) : z.spelled = z := by
  cases z with
  | utc => contradiction
  | _ => rfl

/-- A zone that is spelled out is not the letter `Z`. -/
theorem spelled_ne (z : Zone) : z.spelled ≠ .utc := by
  cases z <;> nofun

/-- Spelling out a zone keeps its offset. -/
theorem micros_spelled (z : Zone) : z.spelled.micros = z.micros := by
  cases z <;> rfl

/-- The text of a zone has digits, signs, colons and the letter `Z`. -/
theorem digitsAnd (z : Zone) : DigitsAnd ['+', '-', ':', 'Z'] z.text := by
  cases z with
  | missing => exact .nil
  | utc => simp [text]
  | offset negative => cases negative <;> simp [text]

/-- Only the letter is neither a digit nor a sign. -/
theorem digitsAnd_of_ne {z : Zone} (h : z ≠ .utc) : DigitsAnd ['+', '-', ':'] z.text := by
  cases z with
  | missing => exact .nil
  | utc => contradiction
  | offset negative => cases negative <;> simp [text]

end Zone

/-- A date, a time of day and a zone in ISO form. -/
structure Stamp where
  /-- The date. -/
  civil : Civil
  /-- Year, month and day make a date. -/
  isDate : civil.IsDate
  /-- The hour. -/
  hour : ℕ
  /-- The minute. -/
  minute : ℕ
  /-- The second. -/
  second : ℕ
  /-- Hour, minute and second make a time of day. -/
  isTime : hour < 24 ∧ minute < 60 ∧ second < 60
  /-- The digits after the point; without any, there is no point. -/
  fraction : List Char
  /-- What is after the point are digits. -/
  isDigit_fraction : ∀ c ∈ fraction, isDigit c
  /-- The zone. -/
  zone : Zone

namespace Stamp

variable (s : Stamp)

/-- Hours, minutes and seconds as they are written. -/
def clockText : List Char :=
  padded 2 s.hour ++ ':' :: (padded 2 s.minute ++ ':' :: padded 2 s.second)

/-- The fraction as it is written. -/
def fractionText : List Char := if s.fraction = [] then [] else '.' :: s.fraction

/-- A stamp without fraction and zone. -/
def front : List Char := Timestamp.dateText s.civil ++ 'T' :: s.clockText

/-- A stamp as it is written. -/
def text : List Char := s.front ++ (s.fractionText ++ s.zone.text)

/-- The microseconds since the beginning of year 1 on the local clock, the fraction being cut. -/
def micros : ℕ :=
  s.civil.toDays * 86400000000 + (s.hour * 3600 + s.minute * 60 + s.second) * 1000000 +
    fractionMicros s.fraction

/-- The stamp with an offset of zero in place of the letter. -/
def spelled : Stamp := { s with zone := s.zone.spelled }

/-- The stamp with at most six digits of its fraction. -/
def cut : Stamp :=
  { s with
    fraction := s.fraction.take 6
    isDigit_fraction := fun c hc => s.isDigit_fraction c (List.mem_of_mem_take hc) }

/-- The local time of a stamp is before the end of the calendar. -/
theorem micros_lt : s.micros < 315537897600000000 := by
  have hdays := s.isDate.toDays_lt
  have htime := s.isTime
  have hfraction := fractionMicros_lt s.isDigit_fraction
  unfold micros
  unfold dayCount at hdays
  omega

/-- The time of day that is written, and whether a zone follows. -/
def time : TimeText :=
  ⟨s.hour, s.minute, s.second, fractionMicros s.fraction, s.zone.text.headD '\x00' ≠ '\x00'⟩

/-- The timestamp that is written. -/
def timestamp : Timestamp := ⟨s.micros, s.micros_lt, s.zone.offset?⟩

variable {s}

/-- A date is written with digits and hyphens. -/
theorem digitsAnd_dateText (d : Civil) : DigitsAnd ['-'] (Timestamp.dateText d) := by
  simp [Timestamp.dateText]

/-- The time of day is written with digits and colons. -/
theorem digitsAnd_clockText : DigitsAnd [':'] s.clockText := by
  simp [clockText]

/-- The fraction is written with digits and a point. -/
theorem digitsAnd_fractionText : DigitsAnd ['.'] s.fractionText := by
  have hfraction : DigitsAnd ['.'] s.fraction := fun c hc => .inl (s.isDigit_fraction c hc)
  unfold fractionText
  split <;> simp [hfraction]

/-- What stands before the fraction has digits, hyphens, colons and the letter `T`. -/
theorem digitsAnd_front : DigitsAnd ['-', ':', 'T'] s.front := by
  simp only [front, DigitsAnd.append_iff, DigitsAnd.cons_iff]
  exact ⟨(digitsAnd_dateText s.civil).mono (by simp), .inr (by simp),
    digitsAnd_clockText.mono (by simp)⟩

/-- The characters of a stamp are those of its zone and a few more. -/
theorem digitsAnd_text {marks : List Char} (hzone : DigitsAnd marks s.zone.text) :
    DigitsAnd (['-', ':', 'T', '.'] ++ marks) s.text := by
  simp only [text, DigitsAnd.append_iff]
  exact ⟨digitsAnd_front.mono (by simp), digitsAnd_fractionText.mono (by simp),
    hzone.mono (List.subset_append_right _ _)⟩

/-- A stamp is written in plain characters. -/
theorem plainText_text : PlainText s.text := by
  have hmarks : PlainText (['-', ':', 'T', '.'] ++ ['+', '-', ':', 'Z']) := by decide
  intro c hc
  rcases digitsAnd_text s.zone.digitsAnd c hc with hdigit | hmark
  · exact Literal.isPlain_of_isDigit hdigit
  · exact hmarks c hmark

/-- White space around a stamp is trimmed. -/
theorem trim_text {before after : List Char} (hbefore : ∀ c ∈ before, Text.isBlank c)
    (hafter : ∀ c ∈ after, Text.isBlank c) : Text.trim (before ++ (s.text ++ after)) = s.text :=
  Text.trimBy_append hbefore hafter
    (fun c hc => (plainText_text c (List.mem_of_mem_head? hc)).not_isBlank)
    fun c hc => (plainText_text c (List.mem_of_mem_getLast? hc)).not_isBlank

/-! ## The text written anew -/

/-- The letter becomes an offset of zero. -/
theorem spellUtc_text : spellUtc s.text = s.spelled.text := by
  by_cases hutc : s.zone = .utc
  · have htext : s.text = s.front ++ s.fractionText ++ ['Z'] := by
      rw [text, hutc, ← List.append_assoc]
      rfl
    have hspelled : s.spelled.text =
        s.front ++ s.fractionText ++ ['+', '0', '0', ':', '0', '0'] := by
      rw [text, spelled, hutc, ← List.append_assoc]
      rfl
    rw [htext, spellUtc, List.getLast?_concat, if_pos rfl, List.dropLast_concat, hspelled]
  · have hlast : s.text.getLast? ≠ some 'Z' := by
      intro hlast
      exact (digitsAnd_text (Zone.digitsAnd_of_ne hutc)).not_mem (by decide) (by decide)
        (List.mem_of_getLast? hlast)
    rw [spellUtc, if_neg hlast, spelled, Zone.spelled_of_ne hutc]

/-- Cutting the fraction to six digits keeps the microseconds of a stamp. -/
theorem micros_cut : s.cut.micros = s.micros := by
  rw [micros, micros, cut, fractionMicros_take s.isDigit_fraction]

/-- The fraction is cut to six digits. -/
theorem cutFractions_text : cutFractions none s.text = s.cut.text := by
  have hfront : '.' ∉ s.front := digitsAnd_front.not_mem (by decide) (by decide)
  have hzone : '.' ∉ s.zone.text := s.zone.digitsAnd.not_mem (by decide) (by decide)
  have hcut : s.cut.text =
      s.front ++ ((if s.fraction.take 6 = [] then [] else '.' :: s.fraction.take 6) ++
        s.zone.text) := rfl
  rw [hcut, text, fractionText]
  by_cases hfraction : s.fraction = []
  · rw [hfraction, if_pos rfl, List.take_nil, if_pos rfl, cutFractions_none]
    simp [hfront, hzone]
  · rw [if_neg hfraction, if_neg (by simpa using hfraction), List.cons_append, List.cons_append,
      cutFractions_point hfront s.isDigit_fraction hzone s.zone.not_isDecimalDigit_head?]

end Stamp

/-! ## Reading the fields -/

/-- A number below 100 is padded to two digits. -/
theorem length_padded_two {n : ℕ} (h : n < 100) : (padded 2 n).length = 2 :=
  length_padded (by decide) h

section

variable {cs rest : List Char}

/-- The date at the beginning of a text is read, and what stands behind it. -/
theorem readDate_eq {d : Civil} (hd : d.IsDate) (h : cs = Timestamp.dateText d ++ rest) :
    10 ≤ cs.length ∧ separatorAt cs = some 10 ∧ readDate cs 10 = some (.civil d) ∧
      cs.drop 10 = rest := by
  obtain ⟨hyear, hyear', hmonth, hmonth', hday, hday'⟩ := hd
  have hmost := daysInMonth_le d.year d.month
  have hmonthLength := length_padded_two (show d.month < 100 by omega)
  have hdayLength := length_padded_two (show d.day < 100 by omega)
  -- What stands at each position.
  have hat : cs.drop 0 = padded 4 d.year ++ '-' :: (padded 2 d.month ++ '-' ::
      (padded 2 d.day ++ rest)) := by
    rw [h, Timestamp.dateText]
    simp
  have hat4 : cs.drop 4 = _ := drop_add hat (length_padded (by decide) (by omega))
  have hat5 : cs.drop 5 = _ := drop_succ hat4
  have hat7 : cs.drop 7 = _ := drop_add hat5 hmonthLength
  have hat8 : cs.drop 8 = _ := drop_succ hat7
  have hat10 : cs.drop 10 = rest := drop_add hat8 hdayLength
  have hlength : 10 ≤ cs.length := by
    have hsize := congrArg List.length hat8
    rw [List.length_drop, List.length_append, hdayLength] at hsize
    omega
  have hweek : charAt cs 5 ≠ 'W' := charAt_ne_of_drop hat5
    (List.ne_nil_of_length_eq_add_one hmonthLength) (fun _ => isDigit_of_mem_padded) (by decide)
  refine ⟨hlength, ?_, ?_, hat10⟩
  · unfold separatorAt
    dsimp only
    rw [if_neg (by omega), charAt_of_drop hat4, if_pos rfl, if_neg hweek]
  · unfold readDate
    rw [digitsAt_padded hat (by decide) (by omega)]
    simp [charAt_of_drop hat4, hweek, charAt_of_drop hat7,
      digitsAt_padded hat5 (by decide) (show d.month < 10 ^ 2 by omega),
      digitsAt_padded hat8 (by decide) (show d.day < 10 ^ 2 by omega)]

/-- Hours and minutes are read up to the end. -/
theorem readClock_zone {hours minutes : ℕ} (hhours : hours < 24) (hminutes : minutes < 60) :
    readClock (padded 2 hours ++ ':' :: padded 2 minutes)
      (padded 2 hours ++ ':' :: padded 2 minutes).length =
        some { hour := hours, minute := minutes } := by
  generalize htext : padded 2 hours ++ ':' :: padded 2 minutes = zone
  have hat : zone.drop 0 = padded 2 hours ++ ':' :: (padded 2 minutes ++ []) := by
    rw [← htext, List.append_nil, List.drop_zero]
  have hat2 : zone.drop 2 = _ := drop_add hat (length_padded_two (by omega))
  have hat3 : zone.drop 3 = _ := drop_succ hat2
  have hat5 : zone.drop 5 = [] := drop_add hat3 (length_padded_two (by omega))
  have hend := charAt_of_drop_nil hat5
  have hsize : zone.length = 5 := by
    rw [← htext, List.length_append, List.length_cons, length_padded_two (by omega),
      length_padded_two (by omega)]
  rw [hsize, readClock, readFields_of_colon (digitsAt_padded hat (by decide) (by omega))
    (charAt_of_drop hat2) rfl (by decide), readFields_of_stop
    (digitsAt_padded hat3 (by decide) (by omega)) (by decide) (by rw [hend]; decide), hend]
  rfl

/-- Behind a clock its zone is read. -/
theorem readTime_of_clock {stop : ℕ} {t : TimeText} {z : Zone} (hz : z ≠ .utc)
    (hstop : (cs.takeWhile fun c => c ≠ '+' && c ≠ '-' && c ≠ 'Z').length = stop)
    (hclock : readClock cs stop = some t) (hzone : cs.drop stop = z.text)
    (hmore : z = .missing → t.more = false) : readTime cs = some (t, z.offset?) := by
  rw [readTime, hstop, hclock, hzone, Option.bind_eq_bind, Option.bind_some]
  cases z with
  | missing =>
    simp only [Zone.text, hmore rfl]
    rfl
  | utc => contradiction
  | offset negative hours minutes bounds =>
    -- The hours and minutes of a zone are read like those of a clock.
    have hread := readClock_zone bounds.1 bounds.2
    have hletter : (if negative then '-' else '+') ≠ 'Z' := by
      split <;> decide
    have hsign : (if negative then '-' else '+') = '-' ↔ negative := by
      cases negative <;> decide
    have hsize : (⟨hours, minutes, 0, 0, false⟩ : TimeText).seconds * 1000000 =
        (hours * 60 + minutes) * 60000000 := by
      change (hours * 3600 + minutes * 60 + 0) * 1000000 = _
      omega
    simp only [Zone.text, List.cons_append, hletter, hread, hsign, Zone.offset?, Zone.micros,
      if_false, Option.bind_some, Bool.false_eq_true, Nat.add_zero, hsize]
    split
    · -- Nothing is an offset of zero with either sign.
      rename_i hzero
      rw [← hsize, hzero]
      simp
    · rfl

end

namespace Stamp

variable {s : Stamp}

/-- The time of day is written in eight characters. -/
theorem length_clockText : s.clockText.length = 8 := by
  obtain ⟨hhour, hminute, hsecond⟩ := s.isTime
  rw [clockText, List.length_append, List.length_cons, List.length_append, List.length_cons,
    length_padded_two (by omega), length_padded_two (by omega), length_padded_two (by omega)]

/-- Hours, minutes and seconds are read, with at most six digits of a fraction. -/
theorem readClock_eq (hfraction : s.fraction.length ≤ 6) :
    readClock (s.clockText ++ (s.fractionText ++ s.zone.text)) (8 + s.fractionText.length) =
      some s.time := by
  obtain ⟨hhour, hminute, hsecond⟩ := s.isTime
  generalize htext : s.clockText ++ (s.fractionText ++ s.zone.text) = cs
  have hat : cs.drop 0 = padded 2 s.hour ++ ':' :: (padded 2 s.minute ++ ':' ::
      (padded 2 s.second ++ (s.fractionText ++ s.zone.text))) := by
    rw [← htext, clockText]
    simp
  have hat2 : cs.drop 2 = _ := drop_add hat (length_padded_two (by omega))
  have hat3 : cs.drop 3 = _ := drop_succ hat2
  have hat5 : cs.drop 5 = _ := drop_add hat3 (length_padded_two (by omega))
  have hat6 : cs.drop 6 = _ := drop_succ hat5
  have hat8 : cs.drop 8 = _ := drop_add hat6 (length_padded_two (by omega))
  rw [readClock, readFields_of_colon (digitsAt_padded hat (by decide) (by omega))
    (charAt_of_drop hat2) rfl (by omega), readFields_of_colon
    (digitsAt_padded hat3 (by decide) (by omega)) (charAt_of_drop hat5) rfl (by omega)]
  have hdigits := digitsAt_padded hat6 (by decide) (show s.second < 10 ^ 2 by omega)
  rcases eq_or_ne s.fraction [] with hnone | hsome
  · -- Without a fraction the seconds are the last field.
    have hnothing : s.fractionText = [] := if_pos hnone
    rw [hnothing, List.nil_append] at hat8
    have hnext : charAt cs 8 = s.zone.text.headD '\x00' := by rw [charAt_eq, hat8]
    have hascii : (charAt cs 8).toNat < 128 := by
      rw [hnext]
      exact s.zone.headD_text_lt
    rw [readFields_of_stop hdigits (by simp [hnothing]) hascii, hnext, time, hnone]
    rfl
  · have hpoint : s.fractionText = '.' :: s.fraction := if_neg hsome
    rw [hpoint, List.cons_append] at hat8
    have hat9 : cs.drop 9 = _ := drop_succ hat8
    have hpos := List.length_pos_iff.mpr hsome
    have hstop : 8 + s.fractionText.length = 9 + s.fraction.length := by
      rw [hpoint, List.length_cons]
      omega
    rw [hstop, readFields_of_point hdigits (charAt_of_drop hat8) (by omega),
      readFraction_of_drop hat9 s.isDigit_fraction hfraction s.zone.not_isDigit_head?]
    rfl

/-- The zone stands where the first sign or the letter does. -/
theorem takeWhile_clock :
    (s.clockText ++ (s.fractionText ++ s.zone.text)).takeWhile
      (fun c => c ≠ '+' && c ≠ '-' && c ≠ 'Z') = s.clockText ++ s.fractionText := by
  have hmarks : DigitsAnd [':', '.'] (s.clockText ++ s.fractionText) :=
    DigitsAnd.append_iff.mpr ⟨digitsAnd_clockText.mono (by simp),
      digitsAnd_fractionText.mono (by simp)⟩
  rw [← List.append_assoc]
  refine Literal.takeWhile_append_eq (fun c hc => ?_) fun c hc => ?_
  · have hnot {d : Char} (hdigit : isDigit d = false) (hd : d ∉ [':', '.']) : c ≠ d := by
      rintro rfl
      exact hmarks.not_mem hdigit hd hc
    have hplus : c ≠ '+' := hnot (by decide) (by decide)
    have hminus : c ≠ '-' := hnot (by decide) (by decide)
    have hletter : c ≠ 'Z' := hnot (by decide) (by decide)
    simp [hplus, hminus, hletter]
  · rcases s.zone.head?_text c hc with rfl | rfl | rfl
    all_goals decide

/-- The time of a stamp is read with its zone. -/
theorem readTime_eq (hfraction : s.fraction.length ≤ 6) (hzone : s.zone ≠ .utc) :
    readTime (s.clockText ++ (s.fractionText ++ s.zone.text)) = some (s.time, s.zone.offset?) := by
  have hsize : (s.clockText ++ s.fractionText).length = 8 + s.fractionText.length := by
    rw [List.length_append, length_clockText]
  refine readTime_of_clock hzone (by rw [takeWhile_clock, hsize]) (readClock_eq hfraction) ?_
    fun hmissing => ?_
  · rw [← List.append_assoc]
    exact List.drop_left' hsize
  · rw [time, hmissing]
    rfl

/-- The time of a stamp is a time of day. -/
theorem toMicros_time : s.time.toMicros =
    .ok ((s.hour * 3600 + s.minute * 60 + s.second) * 1000000 + fractionMicros s.fraction) := by
  obtain ⟨hhour, hminute, hsecond⟩ := s.isTime
  unfold TimeText.toMicros time
  dsimp only
  rw [if_neg (by omega), if_neg (by omega), if_neg (by omega)]
  rfl

/-- A stamp with at most six digits of its fraction and without the letter is read. -/
theorem read_text (hfraction : s.fraction.length ≤ 6) (hzone : s.zone ≠ .utc) :
    read (String.ofList s.text) = .ok s.timestamp := by
  have htime := readTime_eq hfraction hzone
  have htext : s.text = Timestamp.dateText s.civil ++
      'T' :: (s.clockText ++ (s.fractionText ++ s.zone.text)) := by
    simp [text, front]
  -- The date is read off the first ten characters, the separator off the eleventh.
  obtain ⟨hlength, hseparator, hdate, hrest⟩ := readDate_eq s.isDate htext
  have hmore : 10 < s.text.length := by
    have hsize := congrArg List.length hrest
    rw [List.length_drop, List.length_cons] at hsize
    omega
  have hread : readText s.text = some (.civil s.civil, s.time, s.zone.offset?) := by
    have hdrop : s.text.drop 11 = _ := drop_succ hrest
    simp [readText, hseparator, hdate, DateText.isWellFormed, hdrop, htime]
    omega
  -- The date is one of the calendar, so none of the three refusals applies.
  have hdays : DateText.toDays (.civil s.civil) = .ok s.civil.toDays := by
    obtain ⟨hyear, hyear', hmonth, hmonth', hday, hday'⟩ := s.isDate
    unfold DateText.toDays
    dsimp only
    rw [if_neg (by omega), if_neg (by omega), if_neg (by omega)]
  have hoffset : ¬(s.zone.offset?.getD 0).natAbs ≥ 86400000000 := by
    rw [Zone.getD_offset?]
    exact not_le.mpr s.zone.natAbs_micros_lt
  have hlt := s.micros_lt
  rw [micros, Nat.add_assoc] at hlt
  unfold read
  rw [String.toList_ofList, hread]
  dsimp only
  rw [if_neg hoffset, hdays, toMicros_time]
  dsimp only
  rw [Timestamp.ofParts, dif_pos hlt]
  simp only [timestamp, micros, Nat.add_assoc]
  rfl

/-! ## The instant of a stamp -/

/-- A stamp with white space around it is read as the local time without the offset. -/
theorem readInstant_text (s : Stamp) {before after : List Char}
    (hbefore : ∀ c ∈ before, Text.isBlank c) (hafter : ∀ c ∈ after, Text.isBlank c) {t : Instant}
    (ht : (t.micros : ℤ) = s.micros - s.zone.micros) :
    readInstant (String.ofList (before ++ (s.text ++ after))) = .ok t := by
  -- Both rewritings leave the instant as it is, and then the fields can be read.
  have hlength : s.spelled.cut.fraction.length ≤ 6 := by simp [cut]
  have hzone : s.spelled.cut.zone ≠ .utc := s.zone.spelled_ne
  have hmicros : s.spelled.cut.micros = s.micros := micros_cut
  have hoffset : s.spelled.cut.zone.micros = s.zone.micros := s.zone.micros_spelled
  rw [readInstant, String.toList_ofList, trim_text hbefore hafter, spellUtc_text,
    cutFractions_text, read_text hlength hzone]
  change s.spelled.cut.timestamp.toInstant? = _
  rw [Timestamp.toInstant?_eq_ok_iff, timestamp]
  dsimp only
  rw [Zone.getD_offset?, hmicros, hoffset, ht]

end Stamp

/-! ## Timestamps -/

/-- The zone of an offset of whole minutes. -/
def Zone.ofOffset (offset : ℤ) (h : offset.natAbs < 86400000000) : Zone :=
  .offset (offset < 0) (offset.natAbs / 1000000 / 3600) (offset.natAbs / 1000000 / 60 % 60)
    (by omega)

section

variable {offset : ℤ} (h : offset.natAbs < 86400000000) (hminutes : (60000000 : ℤ) ∣ offset)

include hminutes

/-- The zone of an offset is written as the offset. -/
theorem Zone.text_ofOffset : (Zone.ofOffset offset h).text = Timestamp.offsetText offset := by
  have hmicros : ¬offset.natAbs % 1000000 ≠ 0 := by omega
  have hseconds : ¬offset.natAbs / 1000000 % 60 ≠ 0 := by omega
  unfold Timestamp.offsetText
  dsimp only
  rw [if_neg hmicros, if_neg hseconds]
  simp [Zone.ofOffset, Zone.text]

/-- The zone of an offset has that offset, if it is whole minutes. -/
theorem Zone.micros_ofOffset : (Zone.ofOffset offset h).micros = offset := by
  unfold Zone.ofOffset Zone.micros
  simp only [decide_eq_true_eq]
  split <;> omega

end

/-- The day of a timestamp is in the calendar. -/
theorem day_lt (t : Timestamp) : t.micros / 86400000000 < dayCount := by
  have hrange := t.inRange
  unfold dayCount
  omega

/-- A timestamp as a stamp. -/
def Stamp.ofTimestamp (t : Timestamp) (zone : Zone) : Stamp where
  civil := Calendar.civil (t.micros / 86400000000)
  isDate := (isDate_civil (day_lt t)).1
  hour := t.micros % 86400000000 / 1000000 / 3600
  minute := t.micros % 86400000000 / 1000000 / 60 % 60
  second := t.micros % 86400000000 / 1000000 % 60
  isTime := by omega
  fraction :=
    if t.micros % 86400000000 % 1000000 = 0 then []
    else padded 6 (t.micros % 86400000000 % 1000000)
  isDigit_fraction c hc := by
    split at hc
    · contradiction
    · exact isDigit_of_mem_padded hc
  zone := zone

/-- The stamp of a timestamp has its local time. -/
theorem Stamp.micros_ofTimestamp (t : Timestamp) (zone : Zone) :
    (ofTimestamp t zone).micros = t.micros := by
  -- The day and the time of day are put together again; the fraction is written with six digits or
  -- not at all.
  have hdays := (isDate_civil (day_lt t)).2
  have hfraction : fractionMicros (ofTimestamp t zone).fraction =
      t.micros % 86400000000 % 1000000 := by
    have hlt : t.micros % 86400000000 % 1000000 < 10 ^ 6 := Nat.mod_lt _ (by decide)
    unfold ofTimestamp
    dsimp only
    split
    · rename_i hzero
      rw [hzero]
      rfl
    · have hlength := length_padded (show 0 < 6 by decide) hlt
      rw [fractionMicros_of_length_le hlength.le, hlength, value_padded]
      exact Nat.mul_one _
  rw [Stamp.micros, hfraction]
  unfold ofTimestamp
  dsimp only
  rw [hdays]
  omega

/-- The stamp of a timestamp is written with six digits of a second, or with none if there is no
fraction. -/
theorem Stamp.fractionText_ofTimestamp (t : Timestamp) (zone : Zone) :
    (ofTimestamp t zone).fractionText =
      if t.micros % 86400000000 % 1000000 = 0 then []
      else '.' :: padded 6 (t.micros % 86400000000 % 1000000) := by
  have hfraction : (ofTimestamp t zone).fraction =
      if t.micros % 86400000000 % 1000000 = 0 then []
      else padded 6 (t.micros % 86400000000 % 1000000) := rfl
  rw [fractionText, hfraction]
  split <;> simp [padded_ne_nil]

/-- A timestamp with an offset of whole minutes is written as a stamp. -/
theorem Stamp.text_ofTimestamp {t : Timestamp} {offset : ℤ} (ht : t.offset = some offset)
    (h : offset.natAbs < 86400000000) (hminutes : (60000000 : ℤ) ∣ offset) :
    String.ofList (ofTimestamp t (.ofOffset offset h)).text = t.isoText 'T' := by
  have hzone : (ofTimestamp t (.ofOffset offset h)).zone.text = Timestamp.offsetText offset :=
    Zone.text_ofOffset h hminutes
  have hfront : (ofTimestamp t (.ofOffset offset h)).front =
      Timestamp.dateText (Calendar.civil (t.micros / 86400000000)) ++
        'T' :: (padded 2 (t.micros % 86400000000 / 1000000 / 3600) ++
          ':' :: (padded 2 (t.micros % 86400000000 / 1000000 / 60 % 60) ++
            ':' :: padded 2 (t.micros % 86400000000 / 1000000 % 60))) := rfl
  unfold Timestamp.isoText Timestamp.timeText
  rw [ht, text, hzone, hfront, fractionText_ofTimestamp]
  dsimp only
  refine congrArg String.ofList ?_
  generalize t.micros % 86400000000 % 1000000 = micros
  split <;> simp

end Iso

namespace Value

open Iso

/-- A text in ISO form is the instant of its local time without the offset, the fraction being cut
to microseconds and a missing offset being that of UTC. So a timestamp with an offset of whole
minutes is the same instant as its text. An instant is the one of its own timestamp, and an integer
is the instant of so many seconds since 1970. -/
theorem toInstant_denotes :
    (∀ (s : Stamp) (before after : List Char) (t : Instant), (∀ c ∈ before, Text.isBlank c) →
      (∀ c ∈ after, Text.isBlank c) → (t.micros : ℤ) = s.micros - s.zone.micros →
      (Value.str (String.ofList (before ++ (s.text ++ after)))).toInstant = .ok t) ∧
    (∀ (t : Timestamp) (offset : ℤ) (i : Instant), t.offset = some offset →
      offset.natAbs < 86400000000 → (60000000 : ℤ) ∣ offset →
      (Value.timestamp t).toInstant = .ok i → (Value.str (t.isoText 'T')).toInstant = .ok i) ∧
    (∀ (v : Value) (t : Instant), v.toInstant = .ok t →
      (Value.timestamp (.ofInstant t)).toInstant = .ok t) ∧
    (∀ n : ℤ, Instant.InCalendar (n * 1000000) → ∃ t : Instant, (Value.int n).toInstant = .ok t ∧
      (t.micros : ℤ) = Instant.epoch + n * 1000000) := by
  refine ⟨fun s before after t hbefore hafter ht => s.readInstant_text hbefore hafter ht,
    fun t offset i hoffset hlt hminutes hi => ?_, fun v t _ => ?_,
    fun n hn => Instant.exists_ofUnix hn⟩
  · rw [toInstant, Timestamp.toInstant?_eq_ok_iff, hoffset, Option.getD_some] at hi
    rw [← Stamp.text_ofTimestamp hoffset hlt hminutes]
    have hread := (Stamp.ofTimestamp t (.ofOffset offset hlt)).readInstant_text
      (List.forall_mem_nil _) (List.forall_mem_nil _) (t := i) (by
        rw [Stamp.micros_ofTimestamp, hi]
        exact congrArg _ (Zone.micros_ofOffset hlt hminutes).symm)
    rwa [List.nil_append, List.append_nil] at hread
  · rw [toInstant, Timestamp.toInstant?_eq_ok_iff]
    exact (sub_zero _).symm

/-- Half an hour before the end of a leap day, in a zone behind UTC, it is March in UTC. The seventh
digit of the fraction is dropped. -/
theorem toInstant_denotes_leap_day :
    let t : Instant := ⟨Calendar.dayNumber 2024 3 1 * 86400000000 + 3600123456, by decide⟩
    (Value.str " 2024-02-29T23:30:00.1234569-01:30\n").toInstant = .ok t ∧
      (Value.timestamp (.ofInstant t)).toInstant = .ok t ∧
      (Value.str ((Timestamp.ofInstant t).isoText 'T')).toInstant = .ok t ∧
      ∃ i : Instant, (Value.int 1709254800).toInstant = .ok i ∧ i.micros + 123456 = t.micros := by
  intro t
  let s : Stamp :=
    { civil := ⟨2024, 2, 29⟩
      isDate := by decide
      hour := 23
      minute := 30
      second := 0
      isTime := by decide
      fraction := "1234569".toList
      isDigit_fraction := by simp [Literal.isDigit]
      zone := .offset true 1 30 (by decide) }
  obtain ⟨htexts, htimestamps, hagain, hseconds⟩ := toInstant_denotes
  have hread := htexts s [' '] ['\n'] t (by simp [Text.isBlank]) (by simp [Text.isBlank])
    (by decide)
  have htext : String.ofList ([' '] ++ (s.text ++ ['\n'])) =
      " 2024-02-29T23:30:00.1234569-01:30\n" := by decide +kernel
  rw [htext] at hread
  have hself := hagain _ t hread
  obtain ⟨i, hi, hmicros⟩ := hseconds 1709254800 (by decide)
  refine ⟨hread, hself, htimestamps (.ofInstant t) 0 t rfl (by decide) (by decide) hself, i, hi, ?_⟩
  have hmicros' : (t.micros : ℤ) = 63844851600123456 := by decide
  rw [Instant.epoch] at hmicros
  omega

end Value

end Vigil
