import Vigil.Proofs.Text.Trim
import Vigil.Text.Split

/-!
# Splitting what was joined

Texts without the mark that are joined with it are the parts of the joined text
(`Text.fields_intercalate`). A text is cut at its first mark (`Text.cut_append`).
-/

namespace Vigil.Text

variable {mark : Char} {cs : List Char}

/-- A character other than the mark belongs to the first part. -/
theorem fields_cons {c : Char} {part : List Char} {more : List (List Char)} (hc : c ≠ mark)
    (hcs : fields mark cs = part :: more) : fields mark (c :: cs) = (c :: part) :: more := by
  unfold fields at hcs ⊢
  rw [List.foldr_cons, hcs, if_neg hc]

/-- A text without the mark is its own only part. -/
theorem fields_of_not_mem (h : mark ∉ cs) : fields mark cs = [cs] := by
  induction cs with
  | nil => rfl
  | cons c cs ih =>
    rw [List.mem_cons, not_or] at h
    exact fields_cons (Ne.symm h.1) (ih h.2)

/-- The part before the first mark is followed by the parts behind it. -/
theorem fields_append_cons (h : mark ∉ cs) (rest : List Char) :
    fields mark (cs ++ mark :: rest) = cs :: fields mark rest := by
  induction cs with
  | nil => exact if_pos rfl
  | cons c cs ih =>
    rw [List.mem_cons, not_or] at h
    exact fields_cons (Ne.symm h.1) (ih h.2)

/-- Joined texts are split into these texts, if the mark is in none of them. -/
theorem fields_intercalate {sep : String} (hsep : sep.toList = [mark]) (first : String)
    (rest : List String) (h : ∀ part ∈ first :: rest, mark ∉ part.toList) :
    fields mark (sep.intercalate (first :: rest)).toList = (first :: rest).map String.toList := by
  induction rest generalizing first with
  | nil =>
    rw [String.intercalate_singleton]
    exact fields_of_not_mem (h first List.mem_cons_self)
  | cons second rest ih =>
    rw [String.intercalate_cons_cons, String.toList_append, String.toList_append, hsep,
      List.append_assoc, List.singleton_append,
      fields_append_cons (h first List.mem_cons_self),
      ih second fun part hpart => h part (List.mem_cons_of_mem first hpart)]
    rfl

/-- What stands before the first mark is cut off. -/
theorem cut_append (h : mark ∉ cs) (rest : List Char) :
    cut mark (cs ++ mark :: rest) = (cs, some rest) := by
  have hother : ∀ c ∈ cs, decide (c ≠ mark) = true := fun c hc =>
    decide_eq_true fun heq => h (heq ▸ hc)
  unfold cut
  rw [List.dropWhile_append_of_pos hother, List.takeWhile_append_of_pos hother]
  simp

end Vigil.Text
