import Vigil.Proofs.Number.Numeral
import Vigil.Time.Duration

/-!
# The grammar of durations

A duration is written as one or more parts with nothing between them, each a run of digits, perhaps
with a point and more digits, and a unit (`Duration.Part.IsWritten`). The digits may be those of any
script.

Reading the first part of a text is told exactly by `Part.read?_eq_some_iff`: there is only one way
to begin a text with a part, except that `m` may begin `ms`, and then the longer unit is read. So a
text is made of parts in one way at most, and they are found exactly if it is
(`parts?_eq_some_iff`). They are also what a search finds that takes the parts from left to right
and skips what is between them, provided that the parts without what was skipped are the whole text
(`parts?_eq_some_iff_findParts`).
-/

namespace Vigil.Duration

open Literal (isDigit takeWhile_append_eq dropWhile_append_eq)

/-! ## Units -/

/-- A unit begins neither as a number goes on nor as an exponent. -/
theorem Unit.exists_text_eq (u : Unit) :
    ∃ c rest, u.text = c :: rest ∧ Text.isDecimalDigit c = false ∧ isDigit c = false ∧ c ≠ '.' ∧
      c ≠ 'e' ∧ c ≠ 'E' := by
  cases u
  all_goals exact ⟨_, _, rfl, by decide, by decide, by decide, by decide, by decide⟩

/-- A unit stands at the beginning of a text and is read from it, unless it is the `m` of `ms`. -/
theorem Unit.read?_eq_some_iff {u : Unit} {cs rest : List Char} :
    Unit.read? cs = some (u, rest) ↔
      cs = u.text ++ rest ∧ (u = .minute → rest.head? ≠ some 's') := by
  constructor
  · intro h
    -- Each case of the reader is one unit; that of the minute comes after that of milliseconds.
    unfold read? at h
    split at h
    case h_5 rest' hmilli =>
      cases h
      refine ⟨rfl, fun _ hhead => ?_⟩
      obtain ⟨rest', rfl⟩ := List.head?_eq_some_iff.mp hhead
      exact hmilli rest' rfl
    all_goals
      cases h
      try exact ⟨rfl, nofun⟩
  · rintro ⟨rfl, hminute⟩
    cases u with
    | minute =>
      cases rest with
      | nil => rfl
      | cons c rest =>
        have hc : c ≠ 's' := fun hs => hminute rfl (congrArg some hs)
        simp [text, read?, hc]
    | _ => rfl

/-! ## The first part -/

namespace Part

/-- A part has the form of a number: digits, and perhaps a point with more digits. -/
structure IsWritten (p : Part) : Prop where
  /-- There are digits before the point. -/
  whole_ne_nil : p.whole ≠ []
  /-- What is before the point are digits. -/
  isDecimalDigit_whole : ∀ c ∈ p.whole, Text.isDecimalDigit c
  /-- If there is a point, there are digits after it. -/
  places_ne_nil : ∀ ds ∈ p.places, ds ≠ []
  /-- What is after the point are digits. -/
  isDecimalDigit_places : ∀ ds ∈ p.places, ∀ c ∈ ds, Text.isDecimalDigit c

/-- The point and the digits after it. -/
def pointText : Option (List Char) → List Char
  | none => []
  | some ds => '.' :: ds

/-- The number of a part as it is written. -/
def number (p : Part) : List Char := p.whole ++ pointText p.places

/-- A part is written as its number and its unit. -/
theorem text_eq (p : Part) : p.text = p.number ++ p.unit.text := by
  unfold text number pointText
  cases p.places <;> rfl

/-- A part counts as its number times the seconds of its unit. -/
theorem seconds_eq (p : Part) :
    p.seconds = ((Literal.readDouble p.number).getD .nan) * p.unit.seconds := by
  unfold seconds number pointText
  cases p.places <;> rfl

/-- A part is never empty. -/
theorem text_ne_nil (p : Part) : p.text ≠ [] := by
  obtain ⟨c, rest, hunit, -⟩ := p.unit.exists_text_eq
  simp [text_eq, hunit]

/-- A part begins with a digit. -/
theorem IsWritten.exists_text_eq {p : Part} (h : p.IsWritten) :
    ∃ c rest, p.text = c :: rest ∧ Text.isDecimalDigit c := by
  obtain ⟨c, ds, hwhole⟩ := List.exists_cons_of_ne_nil h.whole_ne_nil
  refine ⟨c, ds ++ pointText p.places ++ p.unit.text, ?_, ?_⟩
  · rw [text_eq, number, hwhole, List.cons_append, List.cons_append]
  · exact h.isDecimalDigit_whole c (by simp [hwhole])

/-- The digits after a point that a text may begin with, if there are any, and the rest. -/
def placesOf : List Char → Option (List Char) × List Char
  | '.' :: after =>
    if (after.takeWhile Text.isDecimalDigit).isEmpty then (none, '.' :: after)
    else (some (after.takeWhile Text.isDecimalDigit), after.dropWhile Text.isDecimalDigit)
  | rest => (none, rest)

/-- A part is read as a run of digits, places that there may be, and a unit. -/
theorem read?_eq (cs : List Char) :
    read? cs =
      if (cs.takeWhile Text.isDecimalDigit).isEmpty then none
      else
        (Unit.read? (placesOf (cs.dropWhile Text.isDecimalDigit)).2).map fun (unit, rest) =>
          (⟨cs.takeWhile Text.isDecimalDigit,
            (placesOf (cs.dropWhile Text.isDecimalDigit)).1, unit⟩, rest) := by
  unfold read? placesOf
  dsimp only
  -- A point counts only with digits behind it.
  cases cs.dropWhile Text.isDecimalDigit with
  | nil => rfl
  | cons c rest =>
    by_cases hpoint : c = '.'
    · rw [hpoint]
      rfl
    · simp [hpoint]

/-- What is taken off are places, and nothing is lost. -/
theorem placesOf_eq {cs rest : List Char} {places : Option (List Char)}
    (h : placesOf cs = (places, rest)) :
    cs = pointText places ++ rest ∧
      ∀ ds ∈ places, ds ≠ [] ∧ ∀ c ∈ ds, Text.isDecimalDigit c := by
  unfold placesOf at h
  split at h
  · split at h
    · cases h
      exact ⟨rfl, nofun⟩
    · rename_i after hsome
      cases h
      refine ⟨?_, ?_⟩
      · rw [pointText, List.cons_append, List.takeWhile_append_dropWhile]
      · rintro _ ⟨⟩
        exact ⟨fun hnil => hsome (List.isEmpty_iff.mpr hnil), fun c => List.mem_takeWhile_imp⟩
  · cases h
    exact ⟨rfl, nofun⟩

/-- Places are taken off up to where something else begins. -/
theorem placesOf_append {places : Option (List Char)}
    (hplaces : ∀ ds ∈ places, ds ≠ [] ∧ ∀ c ∈ ds, Text.isDecimalDigit c) {c : Char}
    {rest : List Char} (hdigit : Text.isDecimalDigit c = false) (hpoint : c ≠ '.') :
    placesOf (pointText places ++ c :: rest) = (places, c :: rest) := by
  cases places with
  | none => simp [pointText, placesOf, hpoint]
  | some ds =>
    obtain ⟨hne, hds⟩ := hplaces ds rfl
    have hend : ∀ d ∈ (c :: rest).head?, Text.isDecimalDigit d = false := by
      rintro _ ⟨⟩
      exact hdigit
    rw [pointText, List.cons_append, placesOf, takeWhile_append_eq hds hend,
      dropWhile_append_eq hds hend, if_neg (by simpa using hne)]

/-- A part stands at the beginning of a text and is read from it, unless its unit is the `m` of
`ms`. -/
theorem read?_eq_some_iff {p : Part} {cs rest : List Char} :
    read? cs = some (p, rest) ↔
      p.IsWritten ∧ cs = p.text ++ rest ∧ (p.unit = .minute → rest.head? ≠ some 's') := by
  rw [read?_eq]
  constructor
  · intro h
    split at h
    · contradiction
    · rename_i hwhole
      obtain ⟨⟨u, after⟩, hunit, hp⟩ := Option.map_eq_some_iff.mp h
      obtain ⟨rfl, rfl⟩ := Prod.mk.inj hp
      obtain ⟨hafter, hminute⟩ := Unit.read?_eq_some_iff.mp hunit
      obtain ⟨htail, hplaces⟩ := placesOf_eq (Prod.mk.eta.symm :
        placesOf (cs.dropWhile Text.isDecimalDigit) = _)
      refine ⟨⟨?_, fun c => List.mem_takeWhile_imp, fun ds hds => (hplaces ds hds).1,
        fun ds hds => (hplaces ds hds).2⟩, ?_, hminute⟩
      · exact fun hnil => hwhole (List.isEmpty_iff.mpr hnil)
      · rw [text_eq, number, List.append_assoc, List.append_assoc, ← hafter, ← htail,
          List.takeWhile_append_dropWhile]
  · rintro ⟨hp, rfl, hminute⟩
    have hunit := Unit.read?_eq_some_iff.mpr ⟨rfl, hminute⟩
    have hplaces : ∀ ds ∈ p.places, ds ≠ [] ∧ ∀ c ∈ ds, Text.isDecimalDigit c := fun ds hds =>
      ⟨hp.places_ne_nil ds hds, hp.isDecimalDigit_places ds hds⟩
    -- The digits end at the point or at the letter of the unit.
    obtain ⟨c, letters, hletters, hdigit, -, hpoint, -⟩ := p.unit.exists_text_eq
    have hend : ∀ d ∈ (pointText p.places ++ (p.unit.text ++ rest)).head?,
        Text.isDecimalDigit d = false := by
      rw [hletters]
      cases p.places with
      | none =>
        rintro _ ⟨⟩
        exact hdigit
      | some ds =>
        rintro _ ⟨⟩
        decide
    have hempty : ¬p.whole.isEmpty := by simpa using hp.whole_ne_nil
    rw [text_eq, number, List.append_assoc, List.append_assoc,
      takeWhile_append_eq hp.isDecimalDigit_whole hend,
      dropWhile_append_eq hp.isDecimalDigit_whole hend, if_neg hempty]
    rw [hletters, List.cons_append] at hunit ⊢
    rw [placesOf_append hplaces hdigit hpoint, hunit]
    rfl

/-- The rest behind the first part is shorter. -/
theorem length_lt_of_read? {p : Part} {cs rest : List Char} (h : read? cs = some (p, rest)) :
    rest.length < cs.length := by
  obtain ⟨-, rfl, -⟩ := read?_eq_some_iff.mp h
  have hpos := List.length_pos_iff.mpr p.text_ne_nil
  rw [List.length_append]
  omega

end Part

/-! ## All parts -/

/-- What parts with nothing between them are written as. -/
def partsText (ps : List Part) : List Char := ps.flatMap Part.text

/-- Behind a part there is nothing or a digit, so its unit does not go on. -/
theorem head?_partsText_ne {ps : List Part} (h : ∀ p ∈ ps, p.IsWritten) :
    (partsText ps).head? ≠ some 's' := by
  cases ps with
  | nil => nofun
  | cons p ps =>
    obtain ⟨c, rest, htext, hc⟩ := (h p List.mem_cons_self).exists_text_eq
    rw [partsText, List.flatMap_cons, htext]
    rintro ⟨⟩
    exact absurd hc (by decide)

/-- The first of some parts is read from their text. -/
theorem read?_partsText_cons {p : Part} {ps : List Part} (h : ∀ q ∈ p :: ps, q.IsWritten) :
    Part.read? (partsText (p :: ps)) = some (p, partsText ps) := by
  refine Part.read?_eq_some_iff.mpr ⟨h p List.mem_cons_self, List.flatMap_cons, fun _ => ?_⟩
  exact head?_partsText_ne fun q hq => h q (List.mem_cons_of_mem p hq)

/-- Parts are at least as long as there are many. -/
theorem length_le_length_partsText (ps : List Part) : ps.length ≤ (partsText ps).length := by
  induction ps with
  | nil => exact Nat.zero_le _
  | cons p ps ih =>
    have hpos := List.length_pos_iff.mpr p.text_ne_nil
    rw [partsText] at ih ⊢
    rw [List.flatMap_cons, List.length_append, List.length_cons]
    omega

/-- The parts that are read from a text are what it is made of; each takes one unit of fuel. -/
theorem partsFrom_eq_some_iff {fuel : ℕ} {cs : List Char} {ps : List Part} :
    partsFrom fuel cs = some ps ↔
      (∀ p ∈ ps, p.IsWritten) ∧ cs = partsText ps ∧ ps.length ≤ fuel := by
  constructor
  · intro h
    -- The induction is on the fuel, for every text: what is left behind a part is another one.
    induction fuel generalizing cs ps with
    | zero =>
      cases cs with
      | nil =>
        cases h
        exact ⟨nofun, rfl, Nat.le_refl 0⟩
      | cons => cases h
    | succ fuel ih =>
      cases cs with
      | nil =>
        cases h
        exact ⟨nofun, rfl, Nat.zero_le _⟩
      | cons c cs =>
        unfold partsFrom at h
        cases hread : Part.read? (c :: cs) with
        | none => simp [hread] at h
        | some first =>
          obtain ⟨p, rest⟩ := first
          rw [hread] at h
          obtain ⟨qs, hrest, rfl⟩ := Option.map_eq_some_iff.mp h
          obtain ⟨hwritten, rfl, hlength⟩ := ih hrest
          obtain ⟨hp, htext, -⟩ := Part.read?_eq_some_iff.mp hread
          refine ⟨List.forall_mem_cons.mpr ⟨hp, hwritten⟩, htext, ?_⟩
          rw [List.length_cons]
          omega
  · rintro ⟨hwritten, rfl, hlength⟩
    -- Here it is on the parts, and the fuel is what is left of it.
    induction ps generalizing fuel with
    | nil => cases fuel <;> rfl
    | cons p ps ih =>
      obtain ⟨fuel, rfl⟩ : ∃ n, fuel = n + 1 :=
        Nat.exists_eq_add_one.mpr (Nat.lt_of_lt_of_le (Nat.succ_pos _) hlength)
      have hread := read?_partsText_cons hwritten
      have hrest := ih (fun q hq => hwritten q (List.mem_cons_of_mem p hq))
        (Nat.le_of_succ_le_succ hlength)
      rw [partsFrom, hread]
      · dsimp only
        rw [hrest]
        rfl
      · intro hnil
        rw [hnil] at hread
        contradiction

/-- The parts of a text are what it is made of, if it is made of parts at all. -/
theorem parts?_eq_some_iff {cs : List Char} {ps : List Part} :
    parts? cs = some ps ↔ ps ≠ [] ∧ (∀ p ∈ ps, p.IsWritten) ∧ cs = partsText ps := by
  unfold parts?
  constructor
  · intro h
    split at h
    · contradiction
    · rename_i hempty
      -- What is read is written, and the fuel suffices since no part is empty.
      obtain ⟨hwritten, rfl, -⟩ := partsFrom_eq_some_iff.mp h
      refine ⟨?_, hwritten, rfl⟩
      rintro rfl
      exact hempty rfl
  · rintro ⟨hne, hwritten, rfl⟩
    have hempty : ¬(partsText ps).isEmpty := by
      obtain ⟨p, ps, rfl⟩ := List.exists_cons_of_ne_nil hne
      simp [partsText, p.text_ne_nil]
    rw [if_neg hempty, partsFrom_eq_some_iff]
    exact ⟨hwritten, rfl, length_le_length_partsText ps⟩

/-! ## Searching for parts -/

/-- The parts that a search finds from left to right, each where the one before ends or later; what
is between them is skipped. -/
def findParts (cs : List Char) : List Part :=
  match h : Part.read? cs with
  | some (p, rest) =>
    have := Part.length_lt_of_read? h
    p :: findParts rest
  | none =>
    match cs with
    | [] => []
    | _ :: rest => findParts rest
termination_by cs.length

/-- A part that stands at the beginning is found first. -/
theorem findParts_of_read? {cs rest : List Char} {p : Part} (h : Part.read? cs = some (p, rest)) :
    findParts cs = p :: findParts rest := by
  rw [findParts]
  split
  · rename_i q after hread
    obtain ⟨rfl, rfl⟩ := Prod.mk.inj (Option.some.inj (hread.symm.trans h))
    rfl
  · rename_i hnone
    rw [h] at hnone
    contradiction

/-- Where no part stands, one character is skipped. -/
theorem findParts_cons_of_read? {c : Char} {cs : List Char} (h : Part.read? (c :: cs) = none) :
    findParts (c :: cs) = findParts cs := by
  rw [findParts]
  split
  · rename_i hread
    rw [h] at hread
    contradiction
  · rfl

/-- No parts are found in an empty text. -/
theorem findParts_nil : findParts [] = [] := by
  rw [findParts]
  rfl

/-- Everything that is found is a part. -/
theorem isWritten_of_mem_findParts {cs : List Char} {p : Part} (h : p ∈ findParts cs) :
    p.IsWritten := by
  induction cs using findParts.induct with
  | case1 cs q rest hread _ ih =>
    rw [findParts_of_read? hread] at h
    rcases List.mem_cons.mp h with rfl | hrest
    · exact (Part.read?_eq_some_iff.mp hread).1
    · exact ih hrest
  | case2 =>
    rw [findParts_nil] at h
    contradiction
  | case3 c cs hnone ih =>
    rw [findParts_cons_of_read? hnone] at h
    exact ih h

/-- A search in a text of parts finds these parts. -/
theorem findParts_partsText {ps : List Part} (h : ∀ p ∈ ps, p.IsWritten) :
    findParts (partsText ps) = ps := by
  induction ps with
  | nil => exact findParts_nil
  | cons p ps ih =>
    rw [findParts_of_read? (read?_partsText_cons h), ih fun q hq => h q (List.mem_cons_of_mem p hq)]

/-- A text is made of parts exactly if a search finds some and nothing is skipped. -/
theorem parts?_eq_some_iff_findParts {cs : List Char} {ps : List Part} :
    parts? cs = some ps ↔ findParts cs = ps ∧ ps ≠ [] ∧ partsText ps = cs := by
  rw [parts?_eq_some_iff]
  constructor
  · rintro ⟨hne, hwritten, rfl⟩
    exact ⟨findParts_partsText hwritten, hne, rfl⟩
  · rintro ⟨rfl, hne, htext⟩
    exact ⟨hne, fun p => isWritten_of_mem_findParts, htext.symm⟩

end Vigil.Duration
