import Vigil.Proofs.Report.Line
import Vigil.Proofs.Text.Split
import Vigil.Report.Table

/-!
# The forms of a report

A report is written as a line, as a document and as tables, and all of them have the same content
(`Report.SameContent`). Either all of them can be written or none: each of them writes all of the
performance data and stops at the first quantity that cannot be written.

What is written of a quantity is its name, a sign of equality and solid text
(`Perf.Datum.exists_text_eq`). So spaces divide the line of performance data into the quantities,
and the first sign of equality divides a quantity into its name and its value, as soon as the names
themselves hold neither.

The main statement is `Report.sameContent`. It holds of every report, in whatever order its findings
and quantities were added.
-/

namespace Vigil

open Text

/-! ## Quantities -/

namespace Perf.Datum

/-- A quantity is written as its name, a sign of equality and solid text. -/
theorem exists_text_eq {d : Datum} {text : String} (h : d.text = .ok text) :
    ∃ value : String, Solid value.toList ∧ text = d.label ++ "=" ++ value := by
  -- What stands behind the name does not depend on it, so it is the text of a quantity without one.
  have hsplit (label : String) : ({ d with label := label } : Datum).text =
      (fun value => label ++ "=" ++ value) <$> (do
        let fields ← d.bounds.mapM (optionalText d.unit)
        let measured ← measureText d.value d.unit
        return ";".intercalate ((measured ++ d.unit.text) :: dropEmptyEnd fields)) := by
    simp only [Datum.text, map_bind, map_pure, String.append_assoc,
      String.intercalate_cons_append]
    rfl
  obtain ⟨value, hvalue, rfl⟩ := map_eq_ok_iff.mp ((hsplit d.label).symm.trans h)
  have hnameless : ({ d with label := "" } : Datum).text = .ok ("" ++ "=" ++ value) := by
    rw [hsplit, hvalue]
    rfl
  have hsolid := (solid_text (show Solid "".toList from solid_nil) hnameless).1
  refine ⟨value, hsolid.of_subset ?_, rfl⟩
  simp

end Perf.Datum

/-- The status words in the rows of a table of findings. -/
def Table.statusWords (t : Table) : List String :=
  t.rows.filterMap fun
    | .styled word _ :: _ => some word
    | _ => none

namespace Report

/-- The items of a line of performance data: what stands between single spaces. -/
def items (perf : String) : List String :=
  if perf = "" then [] else (fields ' ' perf.toList).map String.ofList

/-- The status word of a line: what stands behind the name of the check up to the next space. -/
def statusWord? (check line : String) : Option String :=
  let front := (check ++ " ").toList.dropWhile isBlank
  if front.isPrefixOf line.toList then
    some (String.ofList ((line.toList.drop front.length).takeWhile (· ≠ ' ')))
  else none

/-- What a line, its performance data, a document and a table of performance data have in common, if
they are those of one report. -/
structure SameContent (r : Report) (line perf : String) (document : Json) (table : Table) :
    Prop where
  /-- Line, document and table have the same quantities, each with its name and its value. -/
  quantities : ∃ values : List String, values.length = r.perf.length ∧
    items perf = List.zipWith (fun d value => d.label ++ "=" ++ value) r.perf values ∧
    document.member? "perf_data" = some (.texts (items perf)) ∧
    table.rows = List.zipWith (fun d value => [.marked d.label, .marked value]) r.perf values
  /-- The document and the table of findings have the same findings, the worst first. -/
  findings : ∃ criticals warnings oks : List String,
    document.member? "criticals" = some (.texts criticals) ∧
    document.member? "warnings" = some (.texts warnings) ∧
    document.member? "oks" = some (.texts oks) ∧
    r.findingsTable.rows = criticals.map (findingRow .critical) ++
      warnings.map (findingRow .warning) ++ oks.map (findingRow .ok)
  /-- Line and document have the status word of the first row of that table, or that of a report in
  order if there are no rows. -/
  status : ∃ word, r.findingsTable.statusWords.head?.getD Status.ok.name = word ∧
    statusWord? r.check line = some word ∧ document.member? "status" = some (.str word)

variable {r : Report}

/-! ## Performance data -/

/-- The names divide neither the line into items nor an item at its first sign of equality. -/
def HasPlainNames (r : Report) : Prop := ∀ d ∈ r.perf, ' ' ∉ d.label.toList ∧ '=' ∉ d.label.toList

/-- Every quantity is written as its name and its value. -/
theorem exists_values {texts : List String} (h : r.perfTexts = .ok texts) :
    ∃ values : List String, values.length = r.perf.length ∧
      texts = List.zipWith (fun d value => d.label ++ "=" ++ value) r.perf values := by
  rw [perfTexts, mapM_eq_ok_iff] at h
  generalize r.perf = perf at h ⊢
  induction h with
  | nil => exact ⟨[], rfl, rfl⟩
  | cons htext _ ih =>
    obtain ⟨value, -, rfl⟩ := Perf.Datum.exists_text_eq htext
    obtain ⟨values, hlength, rfl⟩ := ih
    exact ⟨value :: values, by simp [hlength], rfl⟩

/-- The items of a line of texts without spaces are these texts. -/
theorem items_intercalate {texts : List String} (h : ∀ s ∈ texts, s ≠ "" ∧ ' ' ∉ s.toList) :
    items (" ".intercalate texts) = texts := by
  unfold items
  cases texts with
  | nil => rfl
  | cons first rest =>
    -- Only a line without texts is empty, because none of them is.
    have hne : " ".intercalate (first :: rest) ≠ "" := by
      have hfirst := (h first List.mem_cons_self).1
      cases rest with
      | nil => simpa using hfirst
      | cons => simp [String.intercalate_cons_cons, String.append_eq_empty_iff, hfirst]
    rw [if_neg hne, fields_intercalate rfl first rest fun s hs => (h s hs).2, List.map_map]
    exact List.map_id'' (fun _ => String.ofList_toList) _

/-- A row has the name and the value of its quantity. -/
theorem perfRow_append {label : String} (h : '=' ∉ label.toList) (value : String) :
    perfRow (label ++ "=" ++ value) = [.marked label, .marked value] := by
  have hsplit : (label ++ "=" ++ value).toList = label.toList ++ '=' :: value.toList := by simp
  unfold perfRow
  rw [hsplit, cut_append h]
  simp

/-- Rows of names and values, one for each item. -/
theorem map_perfRow (hnames : r.HasPlainNames) (values : List String) :
    (List.zipWith (fun d value => d.label ++ "=" ++ value) r.perf values).map perfRow =
      List.zipWith (fun d value => [.marked d.label, .marked value]) r.perf values := by
  unfold HasPlainNames at hnames
  generalize r.perf = perf at hnames
  induction perf generalizing values with
  | nil => rfl
  | cons d perf ih =>
    obtain ⟨hd, hperf⟩ := List.forall_mem_cons.mp hnames
    cases values with
    | nil => rfl
    | cons value values =>
      rw [List.zipWith_cons_cons, List.zipWith_cons_cons, List.map_cons, perfRow_append hd.2,
        ih values hperf]

/-- The texts of quantities are not empty, and hold no spaces if their names do not. -/
theorem not_mem_perfTexts (hnames : r.HasPlainNames) {texts : List String}
    (h : r.perfTexts = .ok texts) : ∀ s ∈ texts, s ≠ "" ∧ ' ' ∉ s.toList := by
  intro s hs
  obtain ⟨d, hd, htext⟩ := exists_of_mem_mapM h hs
  obtain ⟨value, hsolid, rfl⟩ := Perf.Datum.exists_text_eq htext
  have hvalue : ' ' ∉ value.toList := fun hmem => absurd (hsolid ' ' hmem) (by decide)
  simp [(hnames d hd).1, hvalue]

/-! ## The status word -/

/-- The word of a status is solid. -/
theorem solid_statusName (status : Status) : Solid status.name.toList := by
  cases status
  all_goals decide

/-- Joined with spaces, nothing or a space follows the first text. -/
theorem exists_intercalate_eq (first : String) (rest : List String) :
    ∃ tail, (" ".intercalate (first :: rest)).toList = first.toList ++ tail ∧
      ∀ c ∈ tail.head?, c = ' ' := by
  cases rest with
  | nil => exact ⟨[], by simp, by simp⟩
  | cons second rest =>
    exact ⟨' ' :: (" ".intercalate (second :: rest)).toList,
      by simp [String.intercalate_cons_cons, -String.toList_intercalate], by simp⟩

/-- The line begins with the name of the check and the status word. -/
theorem exists_line_eq {line : String} (h : r.line = .ok line) :
    ∃ rest, line.toList = (r.check ++ " ").toList.dropWhile isBlank ++
      (r.status.name.toList ++ rest) ∧ ∀ c ∈ rest.head?, c = ' ' := by
  have htrim : (trimmed (r.check ++ " " ++ r.status.name)).toList =
      (r.check ++ " ").toList.dropWhile isBlank ++ r.status.name.toList := by
    have hends : ∀ c ∈ r.status.name.toList, isBlank c = false := fun c hc =>
      not_isBlank_of_isSolid (solid_statusName r.status c hc)
    rw [trimmed, String.toList_ofList, String.toList_append]
    refine trimBy_append_right ?_ (fun c hc => hends c (List.mem_of_mem_head? hc))
      fun c hc => hends c (List.mem_of_mem_getLast? hc)
    cases r.status
    all_goals decide
  obtain ⟨tail, htail, hhead⟩ := exists_intercalate_eq (trimmed (r.check ++ " " ++ r.status.name))
    (section? "Crit:" r.criticals ++ section? "Warn:" r.warnings ++ section? "OK:" r.oks)
  have hheadline : r.headline.toList =
      (r.check ++ " ").toList.dropWhile isBlank ++ (r.status.name.toList ++ tail) := by
    rw [headline, htail, htrim, List.append_assoc]
  obtain ⟨perf, -, rfl⟩ := line_ok_iff.mp h
  split
  · exact ⟨tail, hheadline, hhead⟩
  · refine ⟨tail ++ (" | " ++ perf).toList, ?_, ?_⟩
    · rw [String.append_assoc, String.toList_append, hheadline]
      simp only [List.append_assoc]
    · -- The bar is set off by a space as well.
      cases tail with
      | nil => simp
      | cons c tail => simpa using hhead

/-- The line has the word of the status. -/
theorem statusWord?_line {line : String} (h : r.line = .ok line) :
    statusWord? r.check line = some r.status.name := by
  obtain ⟨rest, hline, hrest⟩ := exists_line_eq h
  have hname : ∀ c ∈ r.status.name.toList, decide (c ≠ ' ') := by
    intro c hc
    refine decide_eq_true ?_
    rintro rfl
    exact absurd (solid_statusName r.status ' ' hc) (by decide)
  unfold statusWord?
  dsimp only
  rw [hline, if_pos (List.isPrefixOf_iff_prefix.mpr (List.prefix_append ..)), List.drop_left,
    List.takeWhile_append_of_pos hname]
  cases rest with
  | nil => simp
  | cons c rest => simp [hrest c rfl]

/-- The document has the word of the status. -/
theorem member?_status {document : Json} (h : r.toJson = .ok document) :
    document.member? "status" = some (.str r.status.name) := by
  obtain ⟨texts, -, hdocument⟩ := bind_eq_ok_iff.mp h
  obtain rfl := Except.ok.inj hdocument
  rfl

/-- The first row of the table of findings has the status of the report. -/
theorem head?_statusWords (r : Report) :
    r.findingsTable.statusWords.head?.getD Status.ok.name = r.status.name := by
  obtain ⟨check, oks, warnings, criticals, perf⟩ := r
  cases criticals with
  | cons => rfl
  | nil =>
    cases warnings with
    | cons => rfl
    | nil => cases oks <;> rfl

/-! ## All forms -/

/-- A form can be written exactly if all quantities can. -/
theorem forms_error_iff (r : Report) (fault : Fault) :
    (r.perfLine = .error fault ↔ r.perfTexts = .error fault) ∧
    (r.line = .error fault ↔ r.perfTexts = .error fault) ∧
    (r.toJson = .error fault ↔ r.perfTexts = .error fault) ∧
    (r.perfTable = .error fault ↔ r.perfTexts = .error fault) := by
  unfold line perfLine toJson perfTable
  cases r.perfTexts <;> simp [bind, Except.bind, pure, Except.pure]

/-- Line, document and tables of a report have the same content: the quantities with their names and
values, the findings by severity, and the status word. Either all of them can be written or they
stop with the same fault. -/
theorem sameContent {r : Report} (hnames : r.HasPlainNames) :
    (∃ line perf document table, r.line = .ok line ∧ r.perfLine = .ok perf ∧
      r.toJson = .ok document ∧ r.perfTable = .ok table ∧
      r.SameContent line perf document table) ∨
    ∃ fault, r.line = .error fault ∧ r.perfLine = .error fault ∧ r.toJson = .error fault ∧
      r.perfTable = .error fault := by
  -- All the forms write the performance data first, and nothing else in them can fail.
  cases htexts : r.perfTexts with
  | error fault =>
    obtain ⟨hperf, hline, hdocument, htable⟩ := r.forms_error_iff fault
    exact .inr ⟨fault, hline.mpr htexts, hperf.mpr htexts, hdocument.mpr htexts, htable.mpr htexts⟩
  | ok texts =>
    have hperf : r.perfLine = .ok (" ".intercalate texts) := by
      rw [perfLine, htexts]
      rfl
    have hline := line_ok_iff.mpr ⟨_, hperf, rfl⟩
    obtain ⟨values, hlength, hvalues⟩ := exists_values htexts
    have hitems := items_intercalate (not_mem_perfTexts hnames htexts)
    refine .inl ⟨_, _, _, _, hline, hperf, by rw [toJson, htexts]; rfl,
      by rw [perfTable, htexts]; rfl, ⟨values, hlength, ?_, ?_, ?_⟩, ?_, ?_⟩
    · rw [hitems, hvalues]
    · rw [hitems]
      rfl
    · rw [hvalues]
      exact map_perfRow hnames values
    · refine ⟨r.criticals, r.warnings, r.oks, rfl, rfl, rfl, ?_⟩
      simp [findingsTable, findings]
    · exact ⟨r.status.name, r.head?_statusWords, statusWord?_line hline, rfl⟩

/-- A report of two findings and two quantities, one with a threshold. -/
theorem sameContent_streams :
    let r : Report :=
      { check := "streams", oks := ["orders"], criticals := ["events, no leader"],
        perf := [{ label := "memory", value := .int 5, unit := .bytes, crit := .int 9 },
          { label := "streams", value := .int 2 }] }
    r.HasPlainNames ∧ ∃ line perf document table, r.line = .ok line ∧ r.perfLine = .ok perf ∧
      r.toJson = .ok document ∧ r.perfTable = .ok table ∧
      r.SameContent line perf document table := by
  intro r
  have hnames : r.HasPlainNames := by simp [HasPlainNames, r]
  refine ⟨hnames, ?_⟩
  obtain hok | ⟨fault, -, hperf, -⟩ := sameContent hnames
  · exact hok
  · have htexts : r.perfLine = .ok "memory=5B;;9 streams=2" := by decide +kernel
    rw [htexts] at hperf
    cases hperf

end Report

end Vigil
