import Mathlib.Data.List.Infix
import Vigil.Proofs.Credential.Token

/-!
# Tokens in frames

A credential file holds a token between two lines of dashes (`Credential.Frame`). Whatever stands
before and after the frame, and also if dashes stand at the ends of the token or within, the token
is found (`Credential.framed?_text`).

The first line is the first one in the file: its words hold no dashes, so they stand neither in the
dashes of the line nor across their beginning (`Credential.opening_not_at_front`). White space ends
the dashes in front of the token and the token itself, so neither takes anything from the other.

The main statement is `Credential.tokenOf_frame`.
-/

namespace Vigil.Credential

open Text

/-! ## Frames -/

/-- What stands around a token in a credential file. -/
structure Frame where
  /-- The text before the frame. -/
  before : String
  /-- The text after the frame. -/
  after : String
  /-- The dashes before and after the words of the first line. -/
  firstLine : ℕ × ℕ
  /-- The dashes before and after the words of the last line. -/
  lastLine : ℕ × ℕ
  /-- The white space before the token. -/
  front : String
  /-- The white space after the token. -/
  back : String
  /-- The words of the first line are not in the text before it. -/
  not_infix_before : ¬openingWords <:+: before.toList
  /-- There are enough dashes in the first line. -/
  le_firstLine : leastDashes ≤ firstLine.1 ∧ leastDashes ≤ firstLine.2
  /-- There are enough dashes in the last line. -/
  le_lastLine : leastDashes ≤ lastLine.1 ∧ leastDashes ≤ lastLine.2
  /-- The token is on lines of its own, or at least apart. -/
  blank_ne_nil : front.toList ≠ [] ∧ back.toList ≠ []
  /-- There is nothing but white space between the token and the lines. -/
  isBlank_around : ∀ c ∈ front.toList ++ back.toList, isBlank c

/-- Words between dashes. -/
def line (words : List Char) (count : ℕ × ℕ) : List Char :=
  List.replicate count.1 '-' ++ (words ++ List.replicate count.2 '-')

namespace Frame

/-- The frame with a token in it. -/
def text (f : Frame) (token : String) : String :=
  f.before ++ String.ofList (line openingWords f.firstLine) ++ f.front ++ token ++ f.back ++
    String.ofList (line closingWords f.lastLine) ++ f.after

end Frame

/-! ## The last line -/

/-- Dropping white space stops at the first other character. -/
theorem dropWhile_blank_append {cs : List Char} (h : ∀ c ∈ cs, isBlank c) {c : Char}
    (hc : isBlank c = false) (rest : List Char) :
    (cs ++ c :: rest).dropWhile isBlank = c :: rest := by
  rw [List.dropWhile_append_of_pos h, List.dropWhile_cons_of_neg (by simp [hc])]

/-- The dashes of a line are counted up to where something else begins. -/
theorem dashes_replicate_append (n : ℕ) {c : Char} (hc : c ≠ '-') (rest : List Char) :
    dashes (List.replicate n '-' ++ c :: rest) = n := by
  rw [dashes, List.takeWhile_append_of_pos (by simp),
    List.takeWhile_cons_of_neg (by simpa using hc)]
  simp

/-- Dropping dashes stops at the first other character. -/
theorem dropDashes_replicate_append (n : ℕ) {c : Char} (hc : c ≠ '-') (rest : List Char) :
    dropDashes (List.replicate n '-' ++ c :: rest) = c :: rest := by
  rw [dropDashes, List.dropWhile_append_of_pos (by simp),
    List.dropWhile_cons_of_neg (by simpa using hc)]

/-- There are at least so many dashes at the beginning. -/
theorem le_dashes_replicate_append (n : ℕ) (rest : List Char) :
    n ≤ dashes (List.replicate n '-' ++ rest) := by
  rw [dashes, List.takeWhile_append_of_pos (by simp), List.length_append, List.length_replicate]
  exact Nat.le_add_right ..

/-- What follows a beginning is the rest. -/
theorem after?_append (beginning rest : List Char) :
    after? beginning (beginning ++ rest) = some rest := by
  rw [after?, if_pos (List.isPrefixOf_iff_prefix.mpr (List.prefix_append ..)), List.drop_left]

/-- The last line closes a frame, with white space before it and anything after it. -/
theorem closes_append {back : List Char} (hback : ∀ c ∈ back, isBlank c) {count : ℕ × ℕ}
    (hcount : leastDashes ≤ count.1 ∧ leastDashes ≤ count.2) (after : List Char) :
    closes (back ++ (line closingWords count ++ after)) := by
  obtain ⟨m, hm⟩ := Nat.exists_eq_add_one.mpr (Nat.lt_of_lt_of_le (by decide) hcount.1)
  obtain ⟨c, words, hwords, hc⟩ : ∃ c words, closingWords = c :: words ∧ c ≠ '-' :=
    ⟨_, _, rfl, by decide⟩
  -- There is a dash, so the white space ends with the line.
  have hline : (back ++ (line closingWords count ++ after)).dropWhile isBlank =
      line closingWords count ++ after := by
    rw [line, hm, List.replicate_succ]
    exact dropWhile_blank_append hback (by decide) _
  have hsplit : line closingWords count ++ after =
      List.replicate count.1 '-' ++ c :: (words ++ (List.replicate count.2 '-' ++ after)) := by
    rw [line, hwords]
    simp
  have hafter : after? closingWords (c :: (words ++ (List.replicate count.2 '-' ++ after))) =
      some (List.replicate count.2 '-' ++ after) := by
    rw [hwords, ← List.cons_append]
    exact after?_append (c :: words) _
  unfold closes
  dsimp only
  rw [hline, hsplit, dashes_replicate_append _ hc, dropDashes_replicate_append _ hc, hafter]
  have hright := hcount.2.trans (le_dashes_replicate_append count.2 after)
  simpa using ⟨hcount.1, hright⟩

/-! ## The token -/

/-- A token up to the white space before the last line is taken as a whole. -/
theorem token?_append {token rest : List Char} (hne : token ≠ [])
    (htoken : ∀ c ∈ token, isBlank c = false) (hrest : ∀ c ∈ rest.head?, isBlank c)
    (hcloses : closes rest) : token? (token ++ rest) = some token := by
  -- No token begins with white space, so the recursion finds none behind the last character.
  have hnone : token? rest = none := by
    cases rest with
    | nil => rfl
    | cons c rest => rw [token?, if_pos (hrest c rfl)]
  induction token with
  | nil => contradiction
  | cons c token ih =>
    rw [List.forall_mem_cons] at htoken
    rw [List.cons_append, token?, if_neg (by simp [htoken.1])]
    cases token with
    | nil => simp [hnone, hcloses]
    | cons d token => rw [ih (List.cons_ne_nil d token) htoken.2]

/-- The dashes of the first line are all taken off before the token. -/
theorem tokenAfterWords?_append {taken n : ℕ} (hn : leastDashes ≤ taken + n)
    {front rest token : List Char} (hne : front ≠ []) (hfront : ∀ c ∈ front, isBlank c)
    (hhead : ∀ c ∈ rest.head?, isBlank c = false) (htoken : token? rest = some token) :
    tokenAfterWords? taken (List.replicate n '-' ++ (front ++ rest)) = some token := by
  -- Dashes are taken as long as there are any; after the last of them, the blanks are dropped.
  induction n generalizing taken with
  | zero =>
    obtain ⟨c, cs, rfl⟩ := List.exists_cons_of_ne_nil hne
    have hdash : c ≠ '-' := by
      rintro rfl
      exact absurd (hfront '-' List.mem_cons_self) (by decide)
    have hdrop : (c :: cs ++ rest).dropWhile isBlank = rest := by
      rw [List.dropWhile_append_of_pos hfront]
      cases rest with
      | nil => rfl
      | cons d rest => simp [hhead d rfl]
    rw [List.replicate_zero, List.nil_append, List.cons_append, tokenAfterWords?,
      if_pos (by simpa using hn), ← List.cons_append, hdrop, htoken]
    rintro rest' ⟨⟩
    exact hdash rfl
  | succ n ih =>
    rw [List.replicate_succ, List.cons_append, tokenAfterWords?,
      ih (by omega : leastDashes ≤ taken + 1 + n)]
    rfl

/-! ## The first line -/

/-- Dashes at the end of a text are not part of the words. -/
theorem not_infix_append_replicate {before : List Char} (h : ¬openingWords <:+: before) (n : ℕ) :
    ¬openingWords <:+: before ++ List.replicate n '-' := by
  rintro ⟨s, t, hst⟩
  rw [List.append_eq_append_iff] at hst
  rcases hst with ⟨rest, hbefore, -⟩ | ⟨rest, hwords, hdashes⟩
  · exact h ⟨s, rest, hbefore.symm⟩
  · -- What the words have beyond the text would be dashes, and their last character is none.
    rcases rest.eq_nil_or_concat' with rfl | ⟨rest, c, rfl⟩
    · rw [List.append_nil] at hwords
      exact h ⟨s, [], by rw [List.append_nil, hwords]⟩
    · have hc : c = '-' := List.eq_of_mem_replicate (n := n) (by simp [hdashes])
      have hlast := congrArg List.getLast? hwords
      rw [hc, ← List.append_assoc, List.getLast?_concat,
        List.getLast?_append_of_ne_nil s (by decide)] at hlast
      exact absurd hlast (by decide)

/-- If the words are not in a text, then the first line does not begin within it: the dashes and
the words would have to stand in one place. -/
theorem opening_not_at_front {front : List Char} (hne : front ≠ []) (h : ¬openingWords <:+: front)
    (rest : List Char) : ¬opening <+: front ++ (opening ++ rest) := by
  rintro ⟨more, hbegins⟩
  have hlength : opening.length = 22 := by decide
  have hpos : 0 < front.length := List.length_pos_iff.mpr hne
  -- Behind its dashes the line has words, which hold no more of them.
  have hwords : ∀ i < 22, leastDashes ≤ i → opening[i]? ≠ some '-' := by decide
  have hdashes : ∀ i < leastDashes, opening[i]? = some '-' := by decide
  have hsame (i : ℕ) (hi : i < 22) : opening[i]? = (front ++ (opening ++ rest))[i]? := by
    rw [← hbegins, List.getElem?_append_left (by omega)]
  rcases Nat.lt_or_ge front.length 22 with hshort | hlong
  · -- The dashes of the line behind the text stand where the words would be.
    obtain ⟨i, hi, hle, hword⟩ : ∃ i < leastDashes, leastDashes ≤ front.length + i ∧
        front.length + i < 22 := by
      rcases Nat.lt_or_ge front.length leastDashes with hfew | hmany
      · refine ⟨2, by decide, ?_, ?_⟩
        all_goals
          unfold leastDashes at *
          omega
      · exact ⟨0, by decide, hmany, hshort⟩
    apply hwords _ hword hle
    rw [hsame _ hword, List.getElem?_append_right (Nat.le_add_right ..), Nat.add_sub_cancel_left,
      List.getElem?_append_left (by unfold leastDashes at hi; omega), hdashes i hi]
  · have hfront : opening <+: front :=
      List.prefix_of_prefix_length_le ⟨more, hbegins⟩ (List.prefix_append ..) (by omega)
    exact h ((List.suffix_append ..).isInfix.trans hfront.isInfix)

/-- The first line of a frame is found behind a text without its words. -/
theorem framed?_append {front : List Char} (h : ¬openingWords <:+: front) {rest token : List Char}
    (htoken : tokenAfterWords? 0 rest = some token) :
    framed? (front ++ (opening ++ rest)) = some token := by
  induction front with
  | nil =>
    obtain ⟨c, cs, hopening⟩ : ∃ c cs, opening = c :: cs := ⟨_, _, rfl⟩
    have hafter := after?_append opening rest
    rw [List.nil_append]
    rw [hopening, List.cons_append] at hafter ⊢
    rw [framed?, hopening, hafter]
    simp [htoken]
  | cons c front ih =>
    have hnone : after? opening (c :: (front ++ (opening ++ rest))) = none :=
      after?_eq_none (opening_not_at_front (List.cons_ne_nil c front) h rest)
    rw [List.cons_append, framed?, hnone]
    exact ih fun hwithin => h (hwithin.trans (List.suffix_cons c front).isInfix)

/-- The token of a frame is found. -/
theorem framed?_text (f : Frame) {token : String} (hne : token.toList ≠ [])
    (htoken : ∀ c ∈ token.toList, isBlank c = false) :
    framed? (f.text token).toList = some token.toList := by
  obtain ⟨hfront, hback⟩ := List.forall_mem_append.mp f.isBlank_around
  obtain ⟨c, cs, hcs⟩ := List.exists_cons_of_ne_nil hne
  obtain ⟨d, ds, hds⟩ := List.exists_cons_of_ne_nil f.blank_ne_nil.2
  -- The dashes before the words that are more than enough count to the text before.
  obtain ⟨more, hmore⟩ := Nat.exists_eq_add_of_le f.le_firstLine.1
  have htext : (f.text token).toList = (f.before.toList ++ List.replicate more '-') ++
      (opening ++ (List.replicate f.firstLine.2 '-' ++ (f.front.toList ++ (token.toList ++
        (f.back.toList ++ (line closingWords f.lastLine ++ f.after.toList)))))) := by
    unfold Frame.text line opening
    rw [hmore, Nat.add_comm, ← List.replicate_append_replicate]
    simp only [String.toList_append, String.toList_ofList, List.append_assoc]
  rw [htext]
  apply framed?_append (not_infix_append_replicate f.not_infix_before more)
  refine tokenAfterWords?_append (by simpa using f.le_firstLine.2) f.blank_ne_nil.1 hfront ?_
    (token?_append hne htoken ?_ (closes_append hback f.le_lastLine f.after.toList))
  · rw [hcs]
    rintro _ ⟨⟩
    exact htoken c (by simp [hcs])
  · rw [hds]
    rintro _ ⟨⟩
    exact hback d (by simp [hds])

/-- A token is found in every frame as it was written, also if it begins or ends with dashes or
holds some, and whatever is before and after the frame. If it has three parts, then it is also found
by itself with any white space around it, so what is told of the credential is the same both
times, whatever nesting is read. -/
theorem tokenOf_frame (f : Frame) (depth : Nat) {token : String} (hne : token ≠ "")
    (htoken : ∀ c ∈ token.toList, isBlank c = false) :
    tokenOf (f.text token) = .ok token ∧
      (token.toList.count '.' = 2 → ∀ front back : String,
        (∀ c ∈ front.toList ++ back.toList, isBlank c) →
          tokenOf (front ++ token ++ back) = .ok token ∧
          parse depth (f.text token) = parse depth (front ++ token ++ back)) := by
  have hframe : tokenOf (f.text token) = .ok token := by
    rw [tokenOf, framed?_text f (by simpa using hne) htoken]
    exact congrArg Except.ok String.ofList_toList
  refine ⟨hframe, fun hparts front back hblank => ?_⟩
  obtain ⟨hfront, hback⟩ := List.forall_mem_append.mp hblank
  have hbare : tokenOf (front ++ token ++ back) = .ok token := by
    refine tokenOf_bare ?_ (by simp) hfront hback
    simpa [isToken, hparts] using htoken
  refine ⟨hbare, ?_⟩
  rw [parse, parse, hframe, hbare]

/-- A frame without line ends, with a dash before it and after it, around a token with dashes at its
ends and within. -/
theorem tokenOf_frame_dashes :
    let token := "--e30.eyJleHAiOjF9-.--"
    let frame : Frame := {
      before := "-- BEGIN NATS USER JW\n-", after := "-\n", firstLine := (3, 5), lastLine := (4, 3),
      front := " ", back := " ", not_infix_before := by decide, le_firstLine := by decide,
      le_lastLine := by decide, blank_ne_nil := by decide, isBlank_around := by simp [isBlank] }
    tokenOf (frame.text token) = .ok token ∧ tokenOf ("\n" ++ token ++ "\n") = .ok token ∧
      parse 1000 (frame.text token) = parse 1000 ("\n" ++ token ++ "\n") := by
  intro token frame
  have hne : token ≠ "" := by decide
  obtain ⟨hframe, hbare⟩ := tokenOf_frame frame 1000 hne (by simp [token, isBlank])
  exact ⟨hframe, hbare (by decide) "\n" "\n" (by simp [isBlank])⟩

end Vigil.Credential
