import Vigil.Json.Reader

/-!
# What readers leave

A reader of a part of a document leaves the end of its text (`Json.Leaves`), from the digits of a
number up to values (`Json.readValue_leaves`). So the lists and objects that begin in a text are
never fewer than those that begin in what remains of it, and a text in which no more of them begin
than may be nested is not refused for its nesting.
-/

namespace Vigil.Json

/-- Whether a fault is that of lists and objects that are nested too deep. -/
def ReadFault.isDeep : ReadFault → Bool
  | .deepList => true
  | .deepObject => true
  | .misread _ _ => false
  | .tooManyDigits _ => false

variable {α β : Type} {cs ds : List Char} {p : Prop}

/-- What is read is followed by an end of the text, and what is refused is refused for its nesting
only under a condition. -/
structure Leaves (p : Prop) (cs : List Char) (x : Except ReadFault (Reading α)) : Prop where
  suffix : ∀ a rest, x = .ok (a, rest) → rest <:+ cs
  nested : ∀ fault, x = .error fault → fault.isDeep → p

namespace Leaves

/-- An end of the text is left. -/
theorem ok {a : α} (h : ds <:+ cs) : Leaves p cs (.ok (a, ds)) where
  suffix := by
    rintro a rest ⟨⟩
    exact h
  nested := by rintro fault ⟨⟩

/-- Nothing is left where nothing is read. -/
theorem error {fault : ReadFault} (h : fault.isDeep → p) :
    Leaves p cs (.error fault : Except ReadFault (Reading α)) where
  suffix := by rintro a rest ⟨⟩
  nested := by
    rintro fault ⟨⟩
    exact h

/-- A text that is not well-formed is not refused for its nesting. -/
theorem misread (what : Misreading) (left : Nat) :
    Leaves p cs (.error (.misread what left) : Except ReadFault (Reading α)) := error nofun

/-- The end of an end is an end. -/
theorem mono {x : Except ReadFault (Reading α)} (h : Leaves p ds x) (hds : ds <:+ cs) :
    Leaves p cs x := ⟨fun a rest hx => (h.suffix a rest hx).trans hds, h.nested⟩

/-- The condition may be weaker. -/
theorem weaken {q : Prop} {x : Except ReadFault (Reading α)} (h : Leaves q cs x) (hqp : q → p) :
    Leaves p cs x := ⟨h.suffix, fun fault hx hdeep => hqp (h.nested fault hx hdeep)⟩

/-- A sequence of readers leaves an end of the text if each of them does. -/
theorem bind {x : Except ReadFault (Reading α)} {f : Reading α → Except ReadFault (Reading β)}
    (h : Leaves p cs x) (hf : ∀ a rest, rest <:+ cs → Leaves p cs (f (a, rest))) :
    Leaves p cs (x >>= f) := by
  cases x with
  | error fault => exact error (h.nested fault rfl)
  | ok reading => exact hf _ _ (h.suffix _ _ rfl)

/-- What is read may be put in another form. -/
theorem map {x : Except ReadFault (Reading α)} {f : α → β} (h : Leaves p cs x) :
    Leaves p cs (x.map fun (a, rest) => (f a, rest)) := by
  cases x with
  | error fault => exact error (h.nested fault rfl)
  | ok reading => exact ok (h.suffix _ _ rfl)

end Leaves

/-- White space is skipped from the front. -/
theorem skip_suffix (cs : List Char) : skip cs <:+ cs := List.dropWhile_suffix _

/-! ## Texts -/

/-- A number of four digits leaves what follows them. -/
theorem hexNumber?_suffix {n : Nat} {rest : List Char} (h : hexNumber? cs = some (n, rest)) :
    rest <:+ cs := by
  unfold hexNumber? at h
  split at h
  · split at h
    · cases h
    · split at h
      · cases h
        exact ⟨[_, _, _, _], rfl⟩
      · cases h
  · cases h

/-- The second half of a character leaves the text behind it, or all of the text. -/
theorem secondHalf_leaves (high : Nat) (cs : List Char) : Leaves p cs (secondHalf high cs) := by
  unfold secondHalf
  split
  · split
    · exact .ok List.suffix_rfl
    · split
      · exact .misread _ _
      · rename_i hnumber
        split
        · exact .ok ((hexNumber?_suffix hnumber).trans ⟨['\\', 'u'], rfl⟩)
        · exact .ok List.suffix_rfl
  · exact .ok List.suffix_rfl

/-- A character that is written by a number leaves the text behind its digits. -/
theorem readNumbered_leaves (cs : List Char) : Leaves p cs (readNumbered cs) := by
  unfold readNumbered
  split
  · exact .misread _ _
  · rename_i hnumber
    have hrest := (hexNumber?_suffix hnumber).trans (List.drop_suffix 1 cs)
    split
    · exact (secondHalf_leaves _ _).mono hrest
    · exact .ok hrest

/-- The characters of a text leave what stands behind its closing quote. -/
theorem readChars_leaves (start fuel : Nat) (done cs : List Char) :
    Leaves p cs (readChars start fuel done cs) := by
  -- Every step consumes a character at least, so what is left behind the next one is left behind
  -- this one.
  induction fuel generalizing done cs with
  | zero => exact .misread _ _
  | succ fuel ih =>
    cases cs with
    | nil => exact .misread _ _
    | cons c rest =>
      have hrest : rest <:+ c :: rest := List.suffix_cons c rest
      unfold readChars
      split
      · exact .ok hrest
      split
      · split
        · exact .misread _ _
        · split
          · refine ((readNumbered_leaves _).mono hrest).bind fun d after hafter => ?_
            exact (ih _ _).mono hafter
          · split
            · exact (ih _ _).mono ((List.suffix_cons _ _).trans hrest)
            · exact .misread _ _
      split
      · exact .misread _ _
      · exact (ih _ _).mono hrest

/-- A text leaves what stands behind it. -/
theorem readText_leaves (cs : List Char) : Leaves p cs (readText cs) := readChars_leaves _ _ _ _

/-! ## Numbers -/

/-- A run of digits leaves what follows it. -/
theorem spanDigits_suffix (cs : List Char) : (spanDigits cs).2 <:+ cs := List.dropWhile_suffix _

/-- The digits before the point leave what follows them. -/
theorem spanWhole_suffix (cs : List Char) : (spanWhole cs).2 <:+ cs := by
  unfold spanWhole
  split
  · exact List.suffix_cons _ _
  · exact spanDigits_suffix _

/-- The digits after the point leave what follows them. -/
theorem spanPlaces_suffix (cs : List Char) : (spanPlaces cs).2 <:+ cs := by
  unfold spanPlaces
  split
  · dsimp only
    split
    · exact List.suffix_rfl
    · exact (spanDigits_suffix _).trans (List.suffix_cons _ _)
  · exact List.suffix_rfl

/-- A sign leaves what follows it. -/
theorem splitSign_suffix (cs : List Char) : (Literal.splitSign cs).2 <:+ cs := by
  unfold Literal.splitSign
  split
  · exact List.suffix_cons _ _
  · exact List.suffix_cons _ _
  · exact List.suffix_rfl

/-- An exponent leaves what follows it. -/
theorem spanExponent_suffix (cs : List Char) : (spanExponent cs).2 <:+ cs := by
  unfold spanExponent
  split
  · split
    · dsimp only
      split
      · exact List.suffix_rfl
      · exact ((spanDigits_suffix _).trans (splitSign_suffix _)).trans (List.suffix_cons _ _)
    · exact List.suffix_rfl
  · exact List.suffix_rfl

/-- A number is refused for its digits only. -/
theorem numberOf_not_isDeep {negative : Bool} {whole : List Char} {places : Option (List Char)}
    {exponent : Option Int} {fault : ReadFault}
    (h : numberOf negative whole places exponent = .error fault) : ¬fault.isDeep := by
  unfold numberOf at h
  split at h
  · split at h
    · cases h
      exact Bool.false_ne_true
    · cases h
  · cases h

/-- A number leaves what follows it. -/
theorem readNumber_leaves (start : List Char) (negative : Bool) (cs : List Char) :
    Leaves p cs (readNumber start negative cs) := by
  unfold readNumber
  dsimp only
  split
  · exact .misread _ _
  · cases hnumber : numberOf negative _ _ _ with
    | error fault => exact .error fun hdeep => absurd hdeep (numberOf_not_isDeep hnumber)
    | ok j =>
      exact .ok (((spanExponent_suffix _).trans (spanPlaces_suffix _)).trans (spanWhole_suffix _))

/-! ## Values -/

/-- A word leaves what follows it. -/
theorem word?_suffix {j : Json} {rest : List Char} (h : word? cs = some (j, rest)) :
    rest <:+ cs := by
  unfold word? at h
  obtain ⟨⟨w, value⟩, -, hfound⟩ := List.exists_of_findSome?_eq_some h
  dsimp only at hfound
  split at hfound
  · cases hfound
    exact List.drop_suffix _ _
  · cases hfound

/-- A value that is no collection leaves what follows it. -/
theorem readScalar_leaves (cs : List Char) : Leaves p cs (readScalar cs) := by
  unfold readScalar
  split
  · rename_i hword
    exact .ok (word?_suffix hword)
  · split
    · exact (Leaves.map (readText_leaves _)).mono (List.suffix_cons _ _)
    · exact (readNumber_leaves _ _ _).mono (List.suffix_cons _ _)
    · exact readNumber_leaves _ _ _

/-- How many lists and objects begin in a text at most. -/
def openings (cs : List Char) : Nat := cs.countP fun c => c = '[' || c = '\x7b'

/-- No more lists and objects begin in the end of a text than in all of it. -/
theorem openings_le (h : ds <:+ cs) : openings ds ≤ openings cs := h.sublist.countP_le

/-- A list begins with a bracket. -/
theorem openings_list (cs : List Char) : openings ('[' :: cs) = openings cs + 1 := by
  simp [openings]

/-- An object begins with a brace. -/
theorem openings_object (cs : List Char) : openings ('\x7b' :: cs) = openings cs + 1 := by
  simp [openings]

/-- Values, items and members leave what follows them, and are refused for their nesting only if
more lists and objects begin in the text than may be nested. -/
theorem readValue_leaves (fuel : Nat) :
    (∀ depth cs, Leaves (depth < openings cs) cs (readValue depth fuel cs)) ∧
    (∀ depth cs, Leaves (depth < openings cs) cs (readItems depth fuel cs)) ∧
    (∀ depth cs, Leaves (depth < openings cs) cs (readMembers depth fuel cs)) := by
  induction fuel with
  | zero => exact ⟨fun _ _ => .misread _ _, fun _ _ => .misread _ _, fun _ _ => .misread _ _⟩
  | succ fuel ih =>
    obtain ⟨hvalue, hitems, hmembers⟩ := ih
    -- A reader of an end of the text is refused no more often than one of all of it.
    have hpart {γ : Type} {depth : Nat} {cs ds : List Char} {x : Except ReadFault (Reading γ)}
        (h : Leaves (depth < openings ds) ds x) (hds : ds <:+ cs) :
        Leaves (depth < openings cs) cs x :=
      (h.mono hds).weaken fun hlt => Nat.lt_of_lt_of_le hlt (openings_le hds)
    -- What stands behind the first character without white space is an end of the text.
    have hnext {cs rest : List Char} (h : rest <:+ cs) {c : Char} {ds : List Char}
        (hds : skip rest = c :: ds) : ds <:+ cs :=
      (List.suffix_cons c ds).trans (hds ▸ (skip_suffix rest).trans h)
    refine ⟨fun depth cs => ?_, fun depth cs => ?_, fun depth cs => ?_⟩
    · unfold readValue
      split
      · exact .error fun _ => by simp [openings_list]
      · rename_i rest depth
        have hrest := List.suffix_cons '[' rest
        split
        · rename_i hclosed
          exact .ok (hnext hrest hclosed)
        · refine Leaves.bind ?_ fun items after hafter => .ok hafter
          refine ((hpart (hitems depth _) (skip_suffix rest)).mono hrest).weaken fun hlt => ?_
          rw [openings_list]
          exact Nat.succ_lt_succ hlt
      · exact .error fun _ => by simp [openings_object]
      · rename_i rest depth
        have hrest := List.suffix_cons '\x7b' rest
        split
        · rename_i hclosed
          exact .ok (hnext hrest hclosed)
        · refine Leaves.bind ?_ fun members after hafter => .ok hafter
          refine ((hpart (hmembers depth _) (skip_suffix rest)).mono hrest).weaken fun hlt => ?_
          rw [openings_object]
          exact Nat.succ_lt_succ hlt
      · exact readScalar_leaves _
    · unfold readItems
      refine (hvalue depth cs).bind fun item rest hrest => ?_
      dsimp only
      split
      · rename_i hclosed
        exact .ok (hnext hrest hclosed)
      · rename_i after hcomma
        have hafter := (skip_suffix after).trans (hnext hrest hcomma)
        exact (hpart (hitems depth _) hafter).bind fun items _ hend => .ok hend
      · exact .misread _ _
    · unfold readMembers
      split
      · rename_i text
        refine ((readText_leaves text).mono (List.suffix_cons _ _)).bind fun name rest hrest => ?_
        dsimp only
        split
        · rename_i after hcolon
          have hafter := (skip_suffix after).trans (hnext hrest hcolon)
          refine (hpart (hvalue depth _) hafter).bind fun v rest hrest => ?_
          dsimp only
          split
          · rename_i hclosed
            exact .ok (hnext hrest hclosed)
          · rename_i after hcomma
            have hafter := (skip_suffix after).trans (hnext hrest hcomma)
            exact (hpart (hmembers depth _) hafter).bind fun members _ hend => .ok hend
          · exact .misread _ _
        · exact .misread _ _
      · exact .misread _ _

end Vigil.Json
