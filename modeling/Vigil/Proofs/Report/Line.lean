import Vigil.Proofs.Text.Inline
import Vigil.Proofs.Text.Trim
import Vigil.Report

/-!
# The line of a report

A monitoring system reads one line and takes what follows the first bar for performance data. What
is written of performance data is solid (`Perf.Datum.solid_text`), so it is for the findings alone
to keep the line in order: the line is broken exactly if one of them is (`Report.mem_line_iff`), and
the performance data is found exactly if none of them holds a bar (`Report.perfPart?_line_iff`).
-/

namespace Vigil

namespace Text

/-! ## Joining -/

/-- A character that is not in the separator stands in a row of parts exactly if it stands in one of
them. -/
theorem mem_intercalate {c : Char} {sep : String} (hsep : c ∉ sep.toList) (parts : List String) :
    c ∈ (sep.intercalate parts).toList ↔ ∃ part ∈ parts, c ∈ part.toList := by
  induction parts with
  | nil => simp
  | cons part parts ih =>
    cases parts with
    | nil => simp
    | cons other parts =>
      rw [String.intercalate_cons_cons]
      simp only [String.toList_append, List.mem_append, ih, hsep, or_false,
        List.exists_mem_cons_iff]

/-- Solid texts with spaces between them have no white space at their ends. -/
theorem trim_intercalate {texts : List String} (h : ∀ s ∈ texts, Solid s.toList ∧ s.toList ≠ []) :
    trim (" ".intercalate texts).toList = (" ".intercalate texts).toList := by
  have hvisible {s : String} (hs : s ∈ texts) {c : Char} (hc : c ∈ s.toList) : isBlank c = false :=
    not_isBlank_of_isSolid ((h s hs).1 c hc)
  rcases texts.eq_nil_or_concat' with rfl | ⟨init, last, rfl⟩
  · rfl
  have hlast : last ∈ init ++ [last] := by simp
  refine trimBy_eq_self ?_ ?_
  · -- The first text is not empty, so its first character comes first.
    obtain ⟨first, rest, hfirst⟩ := List.exists_cons_of_ne_nil (List.ne_nil_of_mem hlast)
    have hmem : first ∈ init ++ [last] := by simp [hfirst]
    obtain ⟨d, ds, hds⟩ := List.exists_cons_of_ne_nil (h first hmem).2
    have hhead : ((" ".intercalate (init ++ [last])).toList.head?) = some d := by
      rw [hfirst]
      cases rest <;> simp [hds, -String.toList_intercalate]
    rw [hhead]
    rintro c ⟨⟩
    exact hvisible hmem (by simp [hds])
  · -- So is the last one, whose last character comes last.
    have hend : (" ".intercalate (init ++ [last])).toList.getLast? = last.toList.getLast? := by
      have hne := (h last hlast).2
      by_cases hinit : init = []
      · simp [hinit]
      · rw [String.intercalate_append_of_ne_nil hinit (by simp), String.toList_append,
          String.intercalate_singleton, List.getLast?_append_of_ne_nil _ hne]
    rw [hend]
    intro c hc
    exact hvisible hlast (List.mem_of_getLast? hc)

end Text

open Text

/-! ## Performance data -/

namespace Perf

/-- A threshold or a bound is written as an integer or with places. -/
theorem boundText_eq_ok {v : Value} {u : Unit} {s : String} (h : boundText v u = .ok s) :
    (∃ n, Value.intText n = .ok s) ∨ ∃ places, (quantity v).fixed places = .ok s := by
  unfold boundText at h
  dsimp only at h
  split at h
  · exact .inr ⟨4, h⟩
  · obtain ⟨x, -, h⟩ := bind_eq_ok_iff.mp h
    split at h
    · obtain ⟨n, -, h⟩ := bind_eq_ok_iff.mp h
      exact .inl ⟨n, h⟩
    · exact .inr ⟨2, h⟩

/-- So is a measured value. -/
theorem measureText_eq_ok {v : Value} {u : Unit} {s : String} (h : measureText v u = .ok s) :
    (∃ n, Value.intText n = .ok s) ∨ ∃ places, (quantity v).fixed places = .ok s := by
  unfold measureText at h
  split at h
  · obtain ⟨n, -, h⟩ := bind_eq_ok_iff.mp h
    exact .inl ⟨n, h⟩
  · exact boundText_eq_ok h

/-- A bound is written in solid text. -/
theorem solid_boundText {v : Value} {u : Unit} {s : String} (h : boundText v u = .ok s) :
    Solid s.toList := by
  obtain ⟨n, hn⟩ | ⟨places, hplaces⟩ := boundText_eq_ok h
  · exact Value.solid_of_intText hn
  · exact Value.solid_of_fixed hplaces

/-- A measured value is written in solid text. -/
theorem solid_measureText {v : Value} {u : Unit} {s : String} (h : measureText v u = .ok s) :
    Solid s.toList := by
  obtain ⟨n, hn⟩ | ⟨places, hplaces⟩ := measureText_eq_ok h
  · exact Value.solid_of_intText hn
  · exact Value.solid_of_fixed hplaces

/-- A bound that may be missing is written in solid text. -/
theorem solid_optionalText {v : Value} {u : Unit} {s : String} (h : optionalText u v = .ok s) :
    Solid s.toList := by
  unfold optionalText at h
  split at h
  · obtain rfl := Except.ok.inj h
    exact solid_nil
  · exact solid_boundText h

/-- Leaving out the empty fields at the end brings in no others. -/
theorem dropEmptyEnd_subset (fields : List String) : dropEmptyEnd fields ⊆ fields := by
  intro s hs
  have hdropped := List.dropWhile_subset _ (List.mem_reverse.mp hs)
  exact List.mem_reverse.mp hdropped

/-- A perf datum with a solid label is written in solid text, which is not empty. -/
theorem Datum.solid_text {d : Datum} {s : String} (hlabel : Solid d.label.toList)
    (h : d.text = .ok s) : Solid s.toList ∧ s.toList ≠ [] := by
  unfold text at h
  obtain ⟨fields, hfields, h⟩ := bind_eq_ok_iff.mp h
  obtain ⟨measured, hmeasured, h⟩ := bind_eq_ok_iff.mp h
  obtain rfl := Except.ok.inj h
  have hunit : Solid d.unit.text.toList := by cases d.unit <;> decide
  have hfield {field : String} (hmem : field ∈ dropEmptyEnd fields) : Solid field.toList := by
    obtain ⟨v, -, hv⟩ := exists_of_mem_mapM hfields (dropEmptyEnd_subset fields hmem)
    exact solid_optionalText hv
  have hparts {part : String}
      (hmem : part ∈ (d.label ++ "=" ++ measured ++ d.unit.text) :: dropEmptyEnd fields) :
      Solid part.toList := by
    rcases List.mem_cons.mp hmem with rfl | hmem
    · simp [hlabel, solid_measureText hmeasured, hunit, isSolid]
    · exact hfield hmem
  refine ⟨?_, ?_⟩
  · intro c hc
    by_cases hsep : c = ';'
    · rw [hsep]
      decide
    · rw [mem_intercalate (by simpa using hsep)] at hc
      obtain ⟨part, hmem, hc⟩ := hc
      exact hparts hmem c hc
  · -- The name is followed by a sign of equality in any case.
    apply List.ne_nil_of_mem (a := '=')
    rw [mem_intercalate (by decide)]
    exact ⟨_, List.mem_cons_self, by simp⟩

end Perf

namespace Report

/-- All findings, the worst first. -/
def messages (r : Report) : List String := r.criticals ++ r.warnings ++ r.oks

/-- What follows the first bar of a line, without white space around it. -/
def perfPart? (line : String) : Option String :=
  match line.toList.dropWhile (· ≠ '|') with
  | [] => none
  | _ :: rest => some (String.ofList (trim rest))

variable {r : Report} {c : Char}

/-- The line of a report is its headline, and the perf data behind a bar if there are any. -/
theorem line_ok_iff {line : String} :
    r.line = .ok line ↔ ∃ perf, r.perfLine = .ok perf ∧
      line = if perf = "" then r.headline else r.headline ++ " | " ++ perf := by
  unfold Report.line
  rw [bind_eq_ok_iff]
  refine exists_congr fun perf => and_congr_right fun _ => ?_
  constructor
  · intro h
    exact (Except.ok.inj h).symm
  · rintro rfl
    rfl

/-- The characters of a section are those of its messages, apart from its heading and its commas. -/
theorem mem_section? {heading : String} (hheading : c ∉ heading.toList)
    (hcomma : c ∉ ", ".toList) (messages : List String) :
    (∃ part ∈ section? heading messages, c ∈ part.toList) ↔ ∃ m ∈ messages, c ∈ m.toList := by
  unfold section?
  split
  · simp_all
  · simp only [List.mem_singleton, exists_eq_left, String.toList_append, List.mem_append, hheading,
      false_or]
    exact mem_intercalate hcomma messages

/-- Marks in the headline come from findings. -/
theorem mem_headline_iff (hcheck : Inline r.check.toList) (hc : isMark c) :
    c ∈ r.headline.toList ↔ ∃ m ∈ r.messages, c ∈ m.toList := by
  have hout {cs : List Char} (h : Inline cs) : c ∉ cs := h.not_mem hc
  have hstatus : c ∉ (trimmed (r.check ++ " " ++ r.status.name)).toList := by
    intro hmem
    rw [trimmed, String.toList_ofList] at hmem
    have hname : Inline r.status.name.toList := by cases r.status <;> decide
    refine hout ?_ (trim_subset _ hmem)
    simp [hcheck, hname]
  have hcomma : c ∉ ", ".toList := hout (by decide)
  have hcritical : c ∉ "Crit:".toList := hout (by decide)
  have hwarning : c ∉ "Warn:".toList := hout (by decide)
  have hok : c ∉ "OK:".toList := hout (by decide)
  rw [headline, mem_intercalate (hout (by decide))]
  simp only [List.exists_mem_cons_iff, hstatus, false_or, List.mem_append, or_and_right, exists_or,
    mem_section? hcritical hcomma, mem_section? hwarning hcomma, mem_section? hok hcomma, messages]

/-- The perf data of a report with solid labels are written in solid text. -/
theorem solid_perfTexts (hlabels : ∀ d ∈ r.perf, Solid d.label.toList) {texts : List String}
    (h : r.perfTexts = .ok texts) : ∀ s ∈ texts, Solid s.toList ∧ s.toList ≠ [] := by
  intro s hs
  obtain ⟨d, hd, htext⟩ := exists_of_mem_mapM h hs
  exact Perf.Datum.solid_text (hlabels d hd) htext

/-- Performance data holds no mark, and no white space at its ends. -/
theorem inline_perfLine (hlabels : ∀ d ∈ r.perf, Solid d.label.toList) {perf : String}
    (h : r.perfLine = .ok perf) : Inline perf.toList ∧ trim perf.toList = perf.toList := by
  obtain ⟨texts, htexts, h⟩ := bind_eq_ok_iff.mp h
  obtain rfl := Except.ok.inj h
  have hsolid := solid_perfTexts hlabels htexts
  refine ⟨fun c hc => ?_, trim_intercalate hsolid⟩
  -- A character of the line is one of a text, or the space between two of them.
  by_cases hspace : c = ' '
  · exact .inr hspace
  · rw [mem_intercalate (by simpa using hspace)] at hc
    obtain ⟨s, hs, hc⟩ := hc
    exact .inl ((hsolid s hs).1 c hc)

/-- The line is there if all that was measured can be written. -/
theorem exists_line_iff : (∃ line, r.line = .ok line) ↔ ∀ d ∈ r.perf, ¬Stops d.text := by
  have hperf : Stops r.perfLine ↔ ∃ d ∈ r.perf, Stops d.text := by
    rw [perfLine, stops_bind_pure, perfTexts, stops_mapM]
  have hline : (∃ line, r.line = .ok line) ↔ ¬Stops r.perfLine := by
    rw [not_stops_iff]
    simp only [line_ok_iff]
    rw [exists_comm]
    simp only [exists_and_left, exists_eq, and_true]
  rw [hline, hperf]
  push Not
  rfl

/-- A line is broken where one of the findings is. -/
theorem mem_line_iff (hcheck : Inline r.check.toList)
    (hlabels : ∀ d ∈ r.perf, Solid d.label.toList) {line : String} (hline : r.line = .ok line)
    (hc : isBreak c) : c ∈ line.toList ↔ ∃ m ∈ r.messages, c ∈ m.toList := by
  have hmark : isMark c := by simp [isMark, hc]
  obtain ⟨perf, hperf, rfl⟩ := line_ok_iff.mp hline
  rw [← mem_headline_iff hcheck hmark]
  split
  · rfl
  · have hdata : c ∉ perf.toList := (inline_perfLine hlabels hperf).1.not_mem hmark
    have hbar : c ∉ " | ".toList := by
      intro hmem
      have hsep : c = ' ' ∨ c = '|' := by simpa [or_comm, or_left_comm] using hmem
      rcases hsep with rfl | rfl <;> simp [isBreak] at hc
    simp only [String.toList_append, List.mem_append, hdata, hbar, or_false]

/-- Nothing is left of a text without a bar when it is dropped up to the bar. -/
theorem dropWhile_bar_of_not_mem {cs : List Char} (h : '|' ∉ cs) : cs.dropWhile (· ≠ '|') = [] := by
  rw [List.dropWhile_eq_nil_iff]
  intro c hc
  simpa using ne_of_mem_of_not_mem hc h

/-- The rest from the first bar on. -/
theorem exists_dropWhile_bar {cs : List Char} (h : '|' ∈ cs) (ds : List Char) :
    ∃ rest, (cs ++ ds).dropWhile (· ≠ '|') = '|' :: (rest ++ ds) := by
  induction cs with
  | nil => cases h
  | cons c cs ih =>
    by_cases hbar : c = '|'
    · exact ⟨cs, by simp [hbar]⟩
    · obtain ⟨rest, hrest⟩ := ih (List.mem_of_ne_of_mem (Ne.symm hbar) h)
      exact ⟨rest, by simpa [hbar] using hrest⟩

/-- A line has no perf data exactly if it has no bar. -/
theorem perfPart?_eq_none_iff {line : String} : perfPart? line = none ↔ '|' ∉ line.toList := by
  unfold perfPart?
  by_cases h : '|' ∈ line.toList
  · obtain ⟨rest, hrest⟩ := exists_dropWhile_bar h []
    rw [List.append_nil] at hrest
    rw [hrest]
    simpa using h
  · rw [dropWhile_bar_of_not_mem h]
    simpa using h

/-- What follows the first bar of two texts with a bar between them. -/
theorem perfPart?_append_of_not_mem {front : String} (h : '|' ∉ front.toList) (back : String) :
    perfPart? (front ++ " | " ++ back) = some (String.ofList (trim back.toList)) := by
  have hfront : ∀ c ∈ front.toList ++ [' '], c ≠ '|' := by
    rintro c hc rfl
    simp [h] at hc
  have hsplit : (front ++ " | " ++ back).toList =
      front.toList ++ [' '] ++ '|' :: ' ' :: back.toList := by simp
  unfold perfPart?
  rw [hsplit, List.dropWhile_append_of_pos (by simpa using hfront)]
  simp [trim_cons (show isBlank ' ' by decide)]

/-- A bar in front of the one between two texts comes first, so the latter is left in the rest. -/
theorem perfPart?_append_of_mem {front : String} (h : '|' ∈ front.toList) (back : String) :
    ∃ part, perfPart? (front ++ " | " ++ back) = some part ∧ '|' ∈ part.toList := by
  obtain ⟨rest, hrest⟩ := exists_dropWhile_bar h (" | ".toList ++ back.toList)
  refine ⟨String.ofList (trim (rest ++ (" | ".toList ++ back.toList))), ?_, ?_⟩
  · rw [perfPart?, String.toList_append, String.toList_append, List.append_assoc, hrest]
  · rw [String.toList_ofList]
    exact mem_trim (by simp) (by decide)

/-- Performance data is what follows the first bar, unless a finding holds one. -/
theorem perfPart?_line_iff (hcheck : Inline r.check.toList)
    (hlabels : ∀ d ∈ r.perf, Solid d.label.toList) {line perf : String}
    (hline : r.line = .ok line) (hperf : r.perfLine = .ok perf) :
    perfPart? line = (if perf = "" then none else some perf) ↔
      ∀ m ∈ r.messages, '|' ∉ m.toList := by
  have hfindings : '|' ∉ r.headline.toList ↔ ∀ m ∈ r.messages, '|' ∉ m.toList := by
    rw [mem_headline_iff hcheck (by decide)]
    push Not
    rfl
  obtain ⟨hinline, htrim⟩ := inline_perfLine hlabels hperf
  obtain ⟨other, hother, rfl⟩ := line_ok_iff.mp hline
  obtain rfl : other = perf := Except.ok.inj (hother.symm.trans hperf)
  rw [← hfindings]
  split
  · exact perfPart?_eq_none_iff
  · constructor
    · -- What follows a bar of a finding still holds the one before the data.
      intro hpart hbar
      obtain ⟨part, hsome, hmem⟩ := perfPart?_append_of_mem hbar other
      obtain rfl : part = other := Option.some.inj (hsome.symm.trans hpart)
      exact hinline.not_mem (by decide) hmem
    · intro hbar
      rw [perfPart?_append_of_not_mem hbar, htrim, String.ofList_toList]

end Report

end Vigil
