import Vigil.Proofs.Number.Numeral
import Vigil.Proofs.Report.Line
import Vigil.Proofs.Text.Split
import Vigil.Proofs.Time.Loss
import Vigil.Proofs.Value.Converting
import Vigil.Value.Order

/-!
# Positions of performance data

A quantity is written with its thresholds and bounds by position, and those that are not set are
left out at the end only. So the text is read back by splitting it and filling the parts up with
empty ones (`Perf.Datum.positions_of_text`): a part is empty exactly if its bound is not set
(`Perf.Shows`).

Integers pass through a double on their way, which decides about the point and nothing else: they
are written with all of their digits, however large (`Perf.boundText_int`), up to those that no
double is near to, which are refused (`Perf.Datum.text_eq_error`).

The main statement is `Perf.Datum.text_positions`.
-/

namespace Vigil.Perf

open Value (FitsDouble)

attribute [local irreducible] Double.unitsPerOne

/-! ## Fields -/

/-- The text can stand between two marks: there is something of it, and no mark in it. -/
def IsField (cs : List Char) : Prop := cs ≠ [] ∧ ';' ∉ cs

/-- The digits of a number are a field. -/
theorem isField_digits (n : ℕ) : IsField (Decimal.digits n) :=
  ⟨Decimal.digits_ne_nil n, fun h => absurd (Decimal.isDigit_of_mem_digits h) (by decide)⟩

/-- An integer is written as a field. -/
theorem isField_ofInt (n : ℤ) : IsField (Decimal.ofInt n).toList := by
  obtain ⟨hne, hmark⟩ := isField_digits n.natAbs
  unfold Decimal.ofInt
  split <;> simp [IsField, hne, hmark]

/-- The digits of a number with a fixed number of places are a field. -/
theorem isField_fixedDigits (places magnitude : ℕ) :
    IsField (Double.fixedDigits places magnitude) := by
  unfold Double.fixedDigits Decimal.padded
  dsimp only
  generalize roundDiv _ _ = n
  obtain ⟨hne, hmark⟩ := isField_digits (n / 10 ^ places)
  have hrest := (isField_digits (n % 10 ^ places)).2
  split <;> simp [IsField, hne, hmark, hrest]

/-- A double is written as a field, also if it is no number. -/
theorem isField_fixed (places : ℕ) (x : Double) : IsField (x.fixed places).toList := by
  obtain ⟨hne, hmark⟩ := isField_fixedDigits places x.magnitude
  cases x with
  | nan => simp [Double.fixed, Double.unusualText, IsField]
  | infinite negative => cases negative <;> simp [Double.fixed, Double.unusualText, IsField]
  | finite negative mantissa unit canonical =>
    rw [Double.fixed, Double.unusualText, Option.getD_none, Double.signed, String.toList_ofList]
    split
    · simp [IsField, hmark]
    · exact ⟨hne, hmark⟩

/-- The text of an integer that is short enough is a field. -/
theorem isField_of_intText {n : ℤ} {s : String} (h : Value.intText n = .ok s) :
    IsField s.toList := by
  unfold Value.intText at h
  split at h
  · contradiction
  · obtain rfl := Except.ok.inj h
    exact isField_ofInt n

/-- A value with a fixed number of places is written as a field. -/
theorem isField_of_fixed {places : ℕ} {v : Value} {s : String} (h : v.fixed places = .ok s) :
    IsField s.toList := by
  obtain ⟨x, rfl⟩ | rfl := Value.fixed_eq_ok h
  · exact isField_fixed places x
  · simpa [IsField] using ⟨by decide, (isField_digits places).2, by decide⟩

section

variable {v : Value} {u : Unit} {s : String}

/-- A bound is written as a field. -/
theorem isField_boundText (h : boundText v u = .ok s) : IsField s.toList := by
  obtain ⟨n, hn⟩ | ⟨places, hplaces⟩ := boundText_eq_ok h
  · exact isField_of_intText hn
  · exact isField_of_fixed hplaces

/-- A measured value is written as a field. -/
theorem isField_measureText (h : measureText v u = .ok s) : IsField s.toList := by
  obtain ⟨n, hn⟩ | ⟨places, hplaces⟩ := measureText_eq_ok h
  · exact isField_of_intText hn
  · exact isField_of_fixed hplaces

end

/-! ## Integers -/

section

variable {v : Value} {u : Unit} {n : ℤ} {s : String}

/-- Truth values are written as the integers that they are. -/
theorem boundText_of_numeric (h : v.numeric? = some (.int n)) (u : Unit) :
    boundText v u = boundText (.int n) u := by
  cases v <;> cases h <;> rfl

/-- A measured value is written as the integer that it stands for. -/
theorem measureText_of_numeric (h : v.numeric? = some (.int n)) (u : Unit) :
    measureText v u = measureText (.int n) u := by
  cases v <;> cases h <;> rfl

/-- Whether there is a point is asked of the double nearest to the integer, but what is written is
the integer itself. -/
theorem boundText_int (h : FitsDouble n) (hu : u ≠ .seconds) :
    boundText (.int n) u = Value.intText n := by
  have hfinite : (Double.ofInt n).isFinite := (Value.isFinite_ofInt_iff n).mpr h
  obtain ⟨x, hdouble, hwhole⟩ : ∃ x, (Value.int n).toDouble = .ok x ∧ x.isInteger := by
    refine ⟨.ofInt n, ?_, Double.isInteger_ofInt hfinite⟩
    rw [Value.toDouble, Value.intToDouble, if_pos hfinite]
  unfold boundText
  dsimp only [quantity]
  rw [if_neg hu, hdouble]
  exact if_pos hwhole

/-- An integer that a double is near to is written with all of its digits, unless it is in
seconds. -/
theorem measureText_int (h : FitsDouble n) (hu : u ≠ .seconds) :
    measureText (.int n) u = Value.intText n := by
  unfold measureText
  split
  · rfl
  · exact boundText_int h hu

/-- An integer that no double is near to is refused in every unit. -/
theorem boundText_eq_error (h : ¬FitsDouble n) (u : Unit) :
    boundText (.int n) u = .error (.range .intToDouble) := by
  have hdouble : Value.intToDouble n = .error (.range .intToDouble) :=
    if_neg (mt (Value.isFinite_ofInt_iff n).mp h)
  unfold boundText
  dsimp only [quantity]
  split
  · exact bind_eq_error_iff.mpr (.inl hdouble)
  · exact bind_eq_error_iff.mpr (.inl hdouble)

/-- If the value is an integer, then the text has all of its digits, so that it can be read back;
numbers of seconds have places instead. -/
def IsExact (u : Unit) (v : Value) (s : String) : Prop :=
  u ≠ .seconds → ∀ n, v.numeric? = some (.int n) →
    s = Decimal.ofInt n ∧ Literal.readInt s.toList = .ok n

/-- The text of an integer is its digits, and is read back as the integer. -/
theorem readInt_of_intText (h : Value.intText n = .ok s) :
    s = Decimal.ofInt n ∧ Literal.readInt s.toList = .ok n := by
  unfold Value.intText at h
  split at h
  · contradiction
  · rename_i hlength
    obtain rfl := Except.ok.inj h
    exact ⟨rfl, Literal.readInt_ofInt (not_lt.mp hlength)⟩

/-- A bound is written without loss where its unit is exact. -/
theorem isExact_boundText (h : boundText v u = .ok s) : IsExact u v s := by
  intro hu n hn
  rw [boundText_of_numeric hn] at h
  by_cases hfits : FitsDouble n
  · rw [boundText_int hfits hu] at h
    exact readInt_of_intText h
  · rw [boundText_eq_error hfits] at h
    contradiction

/-- A measured value is written without loss where its unit is exact. -/
theorem isExact_measureText (h : measureText v u = .ok s) : IsExact u v s := by
  by_cases hpercent : u = .percent
  · intro hu n hn
    rw [measureText_of_numeric hn, measureText, if_pos hpercent] at h
    exact readInt_of_intText h
  · rw [measureText, if_neg hpercent] at h
    exact isExact_boundText h

end

/-! ## Values that can be written -/

/-- The value is an integer or a duration. -/
inductive IsQuantity : Value → Prop
  | integer {v : Value} {n : ℤ} (h : v.numeric? = some (.int n)) : IsQuantity v
  | duration (t : Duration) : IsQuantity (.duration t)

/-- If the value is an integer, then it is not too large for a double. -/
def Fits (v : Value) : Prop := ∀ n, v.numeric? = some (.int n) → FitsDouble n

section

variable {v : Value} {u : Unit}

/-- A finite number has an integer part, and that is not too long to be written. -/
theorem exists_toInt_eq {x : Double} (h : x.isFinite) :
    ∃ n, (Value.float x).toInt = .ok n ∧ (Value.int n).writable := by
  refine ⟨x.trunc?.getD 0, ?_, Value.writable_trunc x⟩
  cases x with
  | finite negative mantissa unit canonical => rw [Value.toInt, Duration.integerPart]
  | _ => contradiction

/-- A finite double can be written as a bound in every unit. -/
theorem exists_boundText_float {x : Double} (h : x.isFinite) (u : Unit) :
    ∃ s, boundText (.float x) u = .ok s := by
  obtain ⟨n, hpart, hwritable⟩ := exists_toInt_eq h
  unfold boundText
  dsimp only [quantity]
  split
  · exact ⟨x.fixed 4, rfl⟩
  · rw [hpart]
    by_cases hwhole : x.isInteger
    · refine ⟨Decimal.ofInt n, bind_eq_ok_iff.mpr ⟨x, rfl, ?_⟩⟩
      rw [if_pos hwhole]
      exact Value.intText_of_writable hwritable
    · exact ⟨x.fixed 2, if_neg hwhole⟩

/-- A quantity that fits can be written as a bound in every unit. -/
theorem exists_boundText (hv : IsQuantity v) (hfits : Fits v) (u : Unit) :
    ∃ s, boundText v u = .ok s := by
  cases hv with
  | duration t =>
    have hseconds : boundText (.duration t) u = boundText (.float t.toSeconds) u := rfl
    rw [hseconds]
    exact exists_boundText_float t.isFinite_toSeconds.1 u
  | @integer _ n hn =>
    rw [boundText_of_numeric hn]
    by_cases hu : u = .seconds
    · -- Numbers of seconds have places in any case, so they are written from the double.
      subst hu
      exact not_stops_iff.mp (mt (Value.stops_fixed_int 4 n).mp (not_not.mpr (hfits n hn)))
    · rw [boundText_int (hfits n hn) hu]
      exact ⟨_, Value.intText_of_writable (Value.writable_of_fitsDouble (hfits n hn))⟩

/-- A percentage is written without its places, which durations do not know. -/
theorem exists_measureText (hv : IsQuantity v) (hfits : Fits v)
    (hpercent : u = .percent → ∀ t, v ≠ .duration t) : ∃ s, measureText v u = .ok s := by
  by_cases hu : u = .percent
  · cases hv with
    | duration t => exact absurd rfl (hpercent hu t)
    | @integer _ n hn =>
      rw [measureText_of_numeric hn, measureText_int (hfits n hn) (by simp [hu])]
      exact ⟨_, Value.intText_of_writable (Value.writable_of_fitsDouble (hfits n hn))⟩
  · rw [measureText, if_neg hu]
    exact exists_boundText hv hfits u

/-- A bound that is not set or a quantity that fits can be written. -/
theorem exists_optionalText (hv : v = .null ∨ IsQuantity v) (hfits : Fits v) (u : Unit) :
    ∃ s, optionalText u v = .ok s := by
  unfold optionalText
  split
  · exact ⟨"", rfl⟩
  · rcases hv with rfl | hv
    · contradiction
    · exact exists_boundText hv hfits u

/-- A bound that cannot be written is an integer that no double is near to. -/
theorem optionalText_failsWith (hv : v = .null ∨ IsQuantity v) (u : Unit) :
    FailsWith (· = .range .intToDouble) (optionalText u v) := by
  by_cases hfits : Fits v
  · obtain ⟨s, hs⟩ := exists_optionalText hv hfits u
    rw [hs]
    exact .ok s
  · obtain ⟨n, hn, hlarge⟩ : ∃ n, v.numeric? = some (.int n) ∧ ¬FitsDouble n := by
      simpa [Fits] using hfits
    refine .ite (fun _ => .ok "") fun _ => ?_
    rw [boundText_of_numeric hn, boundText_eq_error hlarge, FailsWith.error_iff]

end

/-! ## Reading the positions -/

/-- The parts of a text between the marks in it. -/
def parts (s : String) : List String := (Text.fields ';' s.toList).map String.ofList

/-- The parts of a text, filled up with empty ones to the value and its four bounds. -/
def positions (s : String) : List String := parts s ++ List.replicate (5 - (parts s).length) ""

/-- What is left without the empty fields at the end does not end in an empty field. -/
theorem getLast?_dropEmptyEnd (fields : List String) :
    (dropEmptyEnd fields).getLast? ≠ some "" := by
  change (fields.rdropWhile (· = "")).getLast? ≠ some ""
  by_cases hne : fields.rdropWhile (· = "") = []
  · simp [hne]
  · rw [List.getLast?_eq_some_getLast hne]
    simpa using List.rdropWhile_last_not _ _ hne

section

variable {first : String} {fields : List String} (h : ∀ part ∈ first :: fields, ';' ∉ part.toList)
include h

/-- Fields in a row are split into the same fields, apart from the empty ones at the end. -/
theorem parts_intercalate :
    parts (";".intercalate (first :: dropEmptyEnd fields)) = first :: dropEmptyEnd fields := by
  have hkept : ∀ part ∈ first :: dropEmptyEnd fields, ';' ∉ part.toList := fun part hpart =>
    h part (List.cons_subset_cons first (dropEmptyEnd_subset fields) hpart)
  rw [parts, Text.fields_intercalate rfl first (dropEmptyEnd fields) hkept, List.map_map]
  exact List.map_id'' (fun _ => String.ofList_toList) _

/-- The empty fields that were left out at the end are filled up again. -/
theorem positions_intercalate (hcount : fields.length = 4) :
    positions (";".intercalate (first :: dropEmptyEnd fields)) = first :: fields := by
  obtain ⟨n, hn⟩ : ∃ n, fields = dropEmptyEnd fields ++ List.replicate n "" :=
    Text.exists_eq_rdropWhile_append "" fields
  have hlength := congrArg List.length hn
  rw [List.length_append, List.length_replicate, hcount] at hlength
  -- What is missing to five parts is what was left out at the end.
  have hmissing : 5 - (first :: dropEmptyEnd fields).length = n := by
    rw [List.length_cons]
    omega
  rw [positions, parts_intercalate h, hmissing, List.cons_append, ← hn]

/-- No empty field stands at the end of a row. -/
theorem getLast?_parts_intercalate (hfirst : first ≠ "") :
    (parts (";".intercalate (first :: dropEmptyEnd fields))).getLast? ≠ some "" := by
  have hlast := getLast?_dropEmptyEnd fields
  -- If no bound is left, then the first part is also the last one.
  rw [parts_intercalate h, List.getLast?_cons]
  cases hkept : (dropEmptyEnd fields).getLast? with
  | none => simpa using hfirst
  | some last => simpa [hkept] using hlast

end

/-- What the text in the position of a bound tells of it. -/
structure Shows (u : Unit) (v : Value) (field : String) : Prop where
  /-- The text is empty exactly if the bound is not set. -/
  eq_empty_iff : field = "" ↔ v = .null
  /-- Otherwise it is the text of the bound. -/
  text : v ≠ .null → boundText v u = .ok field
  /-- Integers have all of their digits. -/
  isExact : IsExact u v field

/-- Only null counts as not set. -/
theorem isNull_iff {v : Value} : v.isNull ↔ v = .null := by
  cases v <;> simp [Value.isNull]

/-- The field of a bound shows whether it is set and what it is. -/
theorem shows_of_optionalText {u : Unit} {v : Value} {field : String}
    (h : optionalText u v = .ok field) : Shows u v field := by
  unfold optionalText at h
  split at h
  · rename_i hnull
    obtain rfl := isNull_iff.mp hnull
    obtain rfl := Except.ok.inj h
    exact ⟨by simp, fun hset => absurd rfl hset, nofun⟩
  · rename_i hset
    have hne : field ≠ "" := by
      rintro rfl
      exact (isField_boundText h).1 rfl
    exact ⟨iff_of_false hne (mt isNull_iff.mpr hset), fun _ => h, isExact_boundText h⟩

/-- A field that shows a bound has no mark in it. -/
theorem Shows.not_mem {u : Unit} {v : Value} {field : String} (h : Shows u v field) :
    ';' ∉ field.toList := by
  by_cases hv : v = .null
  · rw [h.eq_empty_iff.mpr hv]
    exact List.not_mem_nil
  · exact (isField_boundText (h.text hv)).2

/-- The texts of bounds tell which of them are set. -/
theorem map_isNull_of_shows {u : Unit} {bounds : List Value} {shown : List String}
    (h : List.Forall₂ (Shows u) bounds shown) :
    bounds.map Value.isNull = shown.map fun field => decide (field = "") := by
  induction h with
  | nil => rfl
  | @cons v field bounds shown hshows _ ih =>
    have hempty : v.isNull = decide (field = "") := by
      rw [Bool.eq_iff_iff, isNull_iff, decide_eq_true_iff, hshows.eq_empty_iff]
    rw [List.map_cons, List.map_cons, hempty, ih]

namespace Datum

variable {d e : Datum} {text : String}

/-- The quantity is an integer or a duration, and so are its bounds as far as they are set; its name
has no marks in it, and percentages are no durations. -/
structure IsPlain (d : Datum) : Prop where
  /-- There is no mark in the name. -/
  not_mem_label : ';' ∉ d.label.toList ∧ '=' ∉ d.label.toList
  /-- The value is an integer or a duration. -/
  value : IsQuantity d.value
  /-- So is every bound that is set. -/
  bounds : ∀ v ∈ d.bounds, v = .null ∨ IsQuantity v
  /-- The integer part of a duration is not known. -/
  percent : d.unit = .percent → ∀ t, d.value ≠ .duration t

/-- A text that is written holds the value and the four bounds at their positions, and does not end
in an empty part. -/
theorem positions_of_text (hlabel : ';' ∉ d.label.toList) (h : d.text = .ok text) :
    ∃ measured shown, measureText d.value d.unit = .ok measured ∧
      positions text = (d.label ++ "=" ++ measured ++ d.unit.text) :: shown ∧
      List.Forall₂ (Shows d.unit) d.bounds shown ∧ (parts text).getLast? ≠ some "" := by
  obtain ⟨shown, hshown, h⟩ := bind_eq_ok_iff.mp h
  obtain ⟨measured, hmeasured, h⟩ := bind_eq_ok_iff.mp h
  obtain rfl := Except.ok.inj h
  have hshows : List.Forall₂ (Shows d.unit) d.bounds shown :=
    (mapM_eq_ok_iff.mp hshown).imp fun _ _ => shows_of_optionalText
  have hunit : ';' ∉ d.unit.text.toList := by cases d.unit <;> decide
  have hfirst : ';' ∉ (d.label ++ "=" ++ measured ++ d.unit.text).toList := by
    simp [hlabel, (isField_measureText hmeasured).2, hunit]
  -- No position holds the mark between positions, so cutting at it gives the positions back.
  have hmarks : ∀ part ∈ (d.label ++ "=" ++ measured ++ d.unit.text) :: shown,
      ';' ∉ part.toList := by
    refine List.forall_mem_cons.mpr ⟨hfirst, fun field hfield => ?_⟩
    obtain ⟨v, -, hv⟩ := exists_of_mem_mapM hshown hfield
    exact (shows_of_optionalText hv).not_mem
  have hsign : d.label ++ "=" ++ measured ++ d.unit.text ≠ "" := by simp
  exact ⟨measured, shown, hmeasured, positions_intercalate hmarks hshows.length_eq.symm, hshows,
    getLast?_parts_intercalate hmarks hsign⟩

/-- The name stands before the sign of equality. -/
theorem cut_first (hlabel : '=' ∉ d.label.toList) (measured : String) :
    Text.cut '=' (d.label ++ "=" ++ measured ++ d.unit.text).toList =
      (d.label.toList, some (measured ++ d.unit.text).toList) := by
  have hsplit : (d.label ++ "=" ++ measured ++ d.unit.text).toList =
      d.label.toList ++ '=' :: (measured ++ d.unit.text).toList := by simp
  rw [hsplit, Text.cut_append hlabel]

/-- What has the same text has the same name, and the same bounds are set. -/
theorem eq_of_text_eq (hd : d.IsPlain) (he : e.IsPlain) (h : d.text = .ok text)
    (h' : e.text = .ok text) :
    d.label = e.label ∧ d.bounds.map Value.isNull = e.bounds.map Value.isNull := by
  obtain ⟨measured, shown, -, hpositions, hshows, -⟩ := positions_of_text hd.not_mem_label.1 h
  obtain ⟨measured', shown', -, hpositions', hshows', -⟩ := positions_of_text he.not_mem_label.1 h'
  rw [hpositions, List.cons.injEq] at hpositions'
  obtain ⟨hfirst, rfl⟩ := hpositions'
  have hcut := cut_first hd.not_mem_label.2 measured
  rw [hfirst, cut_first he.not_mem_label.2] at hcut
  have hlabel : e.label = d.label := String.toList_inj.mp (congrArg Prod.fst hcut)
  exact ⟨hlabel.symm, by rw [map_isNull_of_shows hshows, map_isNull_of_shows hshows']⟩

/-- A quantity is written if its integers are not too large. -/
theorem exists_text (hd : d.IsPlain) (hfits : ∀ v ∈ d.value :: d.bounds, Fits v) :
    ∃ text, d.text = .ok text := by
  rw [List.forall_mem_cons] at hfits
  have hbounds : ¬Stops (d.bounds.mapM (optionalText d.unit)) := by
    rw [stops_mapM]
    rintro ⟨v, hv, hstops⟩
    exact not_stops_iff.mpr (exists_optionalText (hd.bounds v hv) (hfits.2 v hv) d.unit) hstops
  obtain ⟨shown, hshown⟩ := not_stops_iff.mp hbounds
  obtain ⟨measured, hmeasured⟩ := exists_measureText hd.value hfits.1 hd.percent
  exact ⟨_, bind_eq_ok_iff.mpr ⟨shown, hshown, bind_eq_ok_iff.mpr ⟨measured, hmeasured, rfl⟩⟩⟩

/-- A count that no double is near to is not written at all, whatever its bounds are. -/
theorem text_eq_error (hbounds : ∀ v ∈ d.bounds, v = .null ∨ IsQuantity v)
    (hunit : d.unit ≠ .percent) {n : ℤ} (hn : d.value.numeric? = some (.int n))
    (hlarge : ¬FitsDouble n) : d.text = .error (.range .intToDouble) := by
  have hvalue : measureText d.value d.unit = .error (.range .intToDouble) := by
    rw [measureText, if_neg hunit, boundText_of_numeric hn, boundText_eq_error hlarge]
  have hfails : FailsWith (· = .range .intToDouble) (d.bounds.mapM (optionalText d.unit)) :=
    .mapM_of_mem fun v hv => optionalText_failsWith (hbounds v hv) d.unit
  -- The bounds are written before the value, but they stop with the same fault, if they do.
  refine bind_eq_error_iff.mpr ?_
  cases hshown : d.bounds.mapM (optionalText d.unit) with
  | error fault => exact .inl (by rw [hfails fault hshown])
  | ok shown => exact .inr ⟨shown, rfl, bind_eq_error_iff.mpr (.inl hvalue)⟩

/-- A quantity whose integers are not too large is written. Splitting its text at the marks and
filling the parts up with empty ones gives the name with the value and the unit, and then the four
bounds in their order, each empty exactly if the bound is not set, so that quantities with the same
text have the same name and the same bounds set. The last part is not empty. Integers have all of
their digits, in every unit but seconds. A count or a number of bytes that no double is near to is
refused. -/
theorem text_positions (hd : d.IsPlain) :
    ((∀ v ∈ d.value :: d.bounds, Fits v) → ∃ text measured shown, d.text = .ok text ∧
      measureText d.value d.unit = .ok measured ∧ IsExact d.unit d.value measured ∧
      positions text = (d.label ++ "=" ++ measured ++ d.unit.text) :: shown ∧
      List.Forall₂ (Shows d.unit) d.bounds shown ∧ (parts text).getLast? ≠ some "") ∧
    (∀ (e : Datum) (text : String), e.IsPlain → d.text = .ok text → e.text = .ok text →
      d.label = e.label ∧ d.bounds.map Value.isNull = e.bounds.map Value.isNull) ∧
    (d.unit = .bytes ∨ d.unit = .count → ∀ n, d.value.numeric? = some (.int n) →
      ¬FitsDouble n → d.text = .error (.range .intToDouble)) := by
  refine ⟨fun hfits => ?_, fun e text he h h' => eq_of_text_eq hd he h h',
    fun hunit n hn hlarge => text_eq_error hd.bounds ?_ hn hlarge⟩
  · obtain ⟨text, htext⟩ := exists_text hd hfits
    obtain ⟨measured, shown, hmeasured, hpositions, hshows, hlast⟩ :=
      positions_of_text hd.not_mem_label.1 htext
    exact ⟨text, measured, shown, htext, hmeasured, isExact_measureText hmeasured, hpositions,
      hshows, hlast⟩
  · rcases hunit with hunit | hunit <;> simp [hunit]

/-- A number of bytes that no double is equal to keeps its last digit, and a critical threshold
stays in its place behind a warning threshold that is not set; a number that is too large for a
double is refused. -/
theorem text_positions_bytes :
    (∃ text, Datum.text ⟨"memory", .int 9007199254740993, .bytes, .null, .int 5, .null, .null⟩ =
        .ok text ∧
      positions text = ["memory=9007199254740993B", "", "5", "", ""]) ∧
    Datum.text ⟨"memory", .int (2 ^ 54 * 2 ^ 970), .bytes, .null, .int 5, .null, .null⟩ =
      .error (.range .intToDouble) := by
  have hfive : IsQuantity (.int 5) := .integer rfl
  have hplain (n : ℤ) : IsPlain ⟨"memory", .int n, .bytes, .null, .int 5, .null, .null⟩ :=
    { not_mem_label := (by decide : ';' ∉ "memory".toList ∧ '=' ∉ "memory".toList)
      value := .integer rfl
      bounds := by simp [Datum.bounds, hfive]
      percent := nofun }
  constructor
  · have hfits : ∀ v ∈ [.int 9007199254740993, .null, .int 5, .null, .null], Fits v := by
      have hnull : Fits .null := nofun
      have hint {m : ℤ} (h : m.natAbs < 2 ^ 54 - 1) : Fits (.int m) := by
        rintro n ⟨⟩
        exact Value.fitsDouble_of_lt h
      simp only [List.forall_mem_cons]
      exact ⟨hint (by decide), hnull, hint (by decide), hnull, hnull, nofun⟩
    obtain ⟨text, measured, shown, htext, -, hexact, hpositions, hshows, -⟩ :=
      (text_positions (hplain 9007199254740993)).1 hfits
    refine ⟨text, htext, ?_⟩
    obtain ⟨rfl, -⟩ := hexact (by decide) 9007199254740993 rfl
    rcases hshows with _ | ⟨hwarn, _ | ⟨hcrit, _ | ⟨hleast, _ | ⟨hmost, _ | _⟩⟩⟩⟩
    rw [hpositions, hwarn.eq_empty_iff.mpr rfl, (hcrit.isExact (by decide) 5 rfl).1,
      hleast.eq_empty_iff.mpr rfl, hmost.eq_empty_iff.mpr rfl]
    decide
  · have hrefused (n : ℤ) (h : ¬FitsDouble n) := (text_positions (hplain n)).2.2 (.inl rfl) n rfl h
    have hlarge (k : ℕ) : (2 ^ 54 - 1) * 2 ^ k ≤ (2 ^ 54 * 2 ^ k : ℤ).natAbs := by
      rw [Int.natAbs_mul, Int.natAbs_pow, Int.natAbs_pow]
      exact Nat.mul_le_mul_right _ (by decide)
    exact hrefused _ (not_lt.mpr (hlarge 970))

end Datum

end Vigil.Perf
