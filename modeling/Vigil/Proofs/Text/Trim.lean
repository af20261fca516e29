import Mathlib.Data.List.DropRight
import Mathlib.Data.List.TakeWhile
import Vigil.Text.Blank

/-!
# Trimming

What trimming leaves alone, and which characters it keeps. A text whose first and last characters
are not of the class is left alone (`Text.trimBy_eq_self`), also between characters of the class
(`Text.trimBy_append`), and only characters of the class are taken off (`Text.mem_trim`). What is
left of a list without the blanks at its end can be filled up with them again
(`Text.exists_eq_rdropWhile_append`).
-/

namespace Vigil.Text

variable {drop : Char → Bool} {cs : List Char}

/-- Nothing is taken off a text whose two ends are not of the class. -/
theorem trimBy_eq_self (hhead : ∀ c ∈ cs.head?, drop c = false)
    (hlast : ∀ c ∈ cs.getLast?, drop c = false) : trimBy drop cs = cs := by
  have hdrop {ds : List Char} (h : ∀ c ∈ ds.head?, drop c = false) : ds.dropWhile drop = ds := by
    cases ds with
    | nil => rfl
    | cons d ds => simp [h d rfl]
  rw [trimBy, hdrop hhead, hdrop (by simpa using hlast), List.reverse_reverse]

/-- Nothing is taken off a text without characters of the class. -/
theorem trimBy_eq_self_of_forall (h : ∀ c ∈ cs, drop c = false) : trimBy drop cs = cs :=
  trimBy_eq_self (fun c hc => h c (List.mem_of_mem_head? hc))
    fun c hc => h c (List.mem_of_mem_getLast? hc)

/-- What is between characters of the class is left, if its two ends are not of the class. -/
theorem trimBy_append {front back : List Char} (hfront : ∀ c ∈ front, drop c)
    (hback : ∀ c ∈ back, drop c) (hhead : ∀ c ∈ cs.head?, drop c = false)
    (hlast : ∀ c ∈ cs.getLast?, drop c = false) : trimBy drop (front ++ (cs ++ back)) = cs := by
  cases cs with
  | nil =>
    have hall : ∀ c ∈ front ++ back, drop c := List.forall_mem_append.mpr ⟨hfront, hback⟩
    rw [List.nil_append, trimBy, List.dropWhile_eq_nil_iff.mpr hall]
    rfl
  | cons c cs =>
    have hdrop : (front ++ (c :: cs ++ back)).dropWhile drop = c :: cs ++ back := by
      rw [List.dropWhile_append_of_pos hfront, List.cons_append,
        List.dropWhile_cons_of_neg (by simp [hhead c rfl])]
    -- The end is the beginning of the reversed text.
    rw [trimBy, hdrop, List.reverse_append, List.dropWhile_append_of_pos (by simpa using hback)]
    rw [List.getLast?_eq_head?_reverse] at hlast
    cases hreverse : (c :: cs).reverse with
    | nil => simp at hreverse
    | cons d ds =>
      rw [hreverse] at hlast
      rw [List.dropWhile_cons_of_neg (by simp [hlast d rfl]), ← hreverse, List.reverse_reverse]

/-- In front of a text whose two ends are not of the class only the front is trimmed. -/
theorem trimBy_append_right {front : List Char} (hne : cs ≠ [])
    (hhead : ∀ c ∈ cs.head?, drop c = false) (hlast : ∀ c ∈ cs.getLast?, drop c = false) :
    trimBy drop (front ++ cs) = front.dropWhile drop ++ cs := by
  have hdrop : cs.dropWhile drop = cs := by
    cases cs with
    | nil => rfl
    | cons c cs => simp [hhead c rfl]
  have hfront : (front ++ cs).dropWhile drop = front.dropWhile drop ++ cs := by
    rw [List.dropWhile_append, hdrop]
    split
    · rename_i hempty
      rw [List.isEmpty_iff.mp hempty, List.nil_append]
    · rfl
  obtain ⟨init, last, rfl⟩ := cs.eq_nil_or_concat'.resolve_left hne
  rw [trimBy, hfront, ← List.append_assoc, List.reverse_concat,
    List.dropWhile_cons_of_neg (by simp [hlast last (by simp)]), ← List.reverse_concat,
    List.reverse_reverse]

/-- White space at the front is trimmed. -/
theorem trim_cons {c : Char} (h : isBlank c) (cs : List Char) : trim (c :: cs) = trim cs := by
  simp [trim, trimBy, h]

/-- What is not dropped stays in the text. -/
theorem mem_dropWhile {c : Char} (h : c ∈ cs) (hc : drop c = false) : c ∈ cs.dropWhile drop := by
  rw [← List.takeWhile_append_dropWhile (p := drop) (l := cs), List.mem_append] at h
  refine h.resolve_left fun htaken => ?_
  simp [List.mem_takeWhile_imp htaken] at hc

/-- Trimming keeps every character that is no white space. -/
theorem mem_trim {c : Char} (h : c ∈ cs) (hc : isBlank c = false) : c ∈ trim cs := by
  rw [trim, trimBy, List.mem_reverse]
  refine mem_dropWhile ?_ hc
  rw [List.mem_reverse]
  exact mem_dropWhile h hc

/-- Trimming brings in no characters. -/
theorem trim_subset (cs : List Char) : trim cs ⊆ cs := by
  intro c hc
  rw [trim, trimBy, List.mem_reverse] at hc
  have hdropped := List.dropWhile_subset _ hc
  rw [List.mem_reverse] at hdropped
  exact List.dropWhile_subset _ hdropped

/-- A list is what is left of it without the blanks at its end, and so many blanks. -/
theorem exists_eq_rdropWhile_append {α : Type} [DecidableEq α] (blank : α) (xs : List α) :
    ∃ n, xs = xs.rdropWhile (· = blank) ++ List.replicate n blank := by
  have hblanks : ∀ x ∈ xs.rtakeWhile (· = blank), x = blank := by
    intro x hx
    simpa using List.mem_rtakeWhile_imp hx
  refine ⟨(xs.rtakeWhile (· = blank)).length, ?_⟩
  rw [← List.eq_replicate_of_mem hblanks, List.rdropWhile_append_rtakeWhile]

end Vigil.Text
