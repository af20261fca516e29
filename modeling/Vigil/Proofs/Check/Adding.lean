import Vigil.Proofs.Check.Stopping

/-!
# What checks add

Work that comes to its end appends the same findings and the same data to every report. `Adds work
s` says that the work comes to its end and that `s` is what it appends. What a sequence, a branch, a
loop or a verdict appends is made of what its parts append (`Adds.seq`, `Adds.criticalIf`,
`Adds.forM`, `Adds.unlessCritical`), so the report of a run can be written down part by part.
-/

namespace Vigil

namespace Report

variable {α : Type} (own : α → Report)

/-- Reports appended one after the other to a report are appended to it as a whole. -/
theorem foldl_append_eq (xs : List α) (r : Report) :
    xs.foldl (fun report x => report ++ own x) r =
      r ++ xs.foldl (fun report x => report ++ own x) {} := by
  -- Each of them is appended to a longer report, so the report is any for the induction.
  induction xs generalizing r with
  | nil => exact (append_empty r "").symm
  | cons x xs ih =>
    rw [List.foldl_cons, List.foldl_cons, ih (r ++ own x), ih ({} ++ own x), append_assoc,
      append_assoc]
    exact eq_of_fields rfl rfl rfl rfl rfl

/-- One of the reports that are appended stands between those before it and those behind it. -/
theorem foldl_append_middle (before : List α) (x : α) (behind : List α) (r : Report) :
    (before ++ x :: behind).foldl (fun report y => report ++ own y) r =
      r ++ before.foldl (fun report y => report ++ own y) {} ++ own x ++
        behind.foldl (fun report y => report ++ own y) {} := by
  rw [List.foldl_append, List.foldl_cons, foldl_append_eq own behind, foldl_append_eq own before]

/-- Reports that are the same are appended alike. -/
theorem foldl_append_congr {own own' : α → Report} {xs : List α} (h : ∀ x ∈ xs, own x = own' x)
    (r : Report) :
    xs.foldl (fun report x => report ++ own x) r =
      xs.foldl (fun report x => report ++ own' x) r := by
  induction xs generalizing r with
  | nil => rfl
  | cons x xs ih =>
    rw [List.foldl_cons, List.foldl_cons, h x List.mem_cons_self]
    exact ih (fun y hy => h y (List.mem_cons_of_mem x hy)) _

end Report

namespace Checking

variable {α : Type} {work next : Checking Unit} {s t : Report}

/-- The work comes to its end on every report, and `s` is what it appends. -/
structure Adds (work : Checking Unit) (s : Report) : Prop where
  /-- The work does nothing but append. -/
  additive : Additive work
  /-- The work comes to its end. -/
  outcome_eq : work.outcome = .ok ()
  /-- What the work appends. -/
  added_eq : work.added = s

namespace Adds

/-- Returning a value adds nothing. -/
protected theorem pure : Adds (Pure.pure ()) {} := ⟨.pure (), rfl, rfl⟩

/-- Filing an OK finding adds it. -/
theorem ok (message : String) : Adds (Checking.ok message) { oks := [message] } :=
  ⟨.ok message, rfl, rfl⟩

/-- Filing a critical finding adds it. -/
theorem critical (message : String) : Adds (Checking.critical message) { criticals := [message] } :=
  ⟨.critical message, rfl, rfl⟩

/-- Filing a finding of a given severity adds it. -/
theorem file (severity : Status) (message : String) :
    Adds (Checking.file severity message) (({} : Report).add severity message) :=
  ⟨.file severity message, rfl, rfl⟩

/-- Adding a perf datum adds it. -/
theorem measure (datum : Perf.Datum) : Adds (Checking.measure datum) { perf := [datum] } :=
  ⟨.measure datum, rfl, rfl⟩

/-- A sequence appends what its parts append, in their order. -/
theorem seq (h : Adds work s) (hnext : Adds next t) : Adds (work >>= fun _ => next) (s ++ t) where
  additive := h.additive.bind fun _ => hnext.additive
  outcome_eq := by
    rw [h.additive.outcome_bind fun _ => hnext.additive, h.outcome_eq]
    exact hnext.outcome_eq
  added_eq := by
    rw [h.additive.added_bind_ok (fun _ => hnext.additive) h.outcome_eq, h.added_eq,
      hnext.added_eq]

/-- Work with the result of a calculation. -/
theorem obtain_bind {x : Except Fault α} {a : α} (hx : x = .ok a) {rest : α → Checking Unit}
    (h : Adds (rest a) s) : Adds (obtain x >>= rest) s := by
  subst hx
  exact h

/-- Work that is done only under a condition appends nothing without it. -/
theorem onlyIf {c : Prop} [Decidable c] (h : c → Adds work s) :
    Adds (onlyIf c work) (if c then s else {}) := by
  unfold Checking.onlyIf
  split
  · exact h ‹_›
  · exact .pure

/-- A finding under a condition needs a text only if the condition holds. -/
theorem criticalIf {c : Prop} [Decidable c] {text : Except Fault String} {message : String}
    (h : c → text = .ok message) :
    Adds (criticalIf c text) { criticals := if c then [message] else [] } := by
  have hfile := onlyIf fun hc => obtain_bind (h hc) (critical message)
  by_cases hc : c
  · rw [if_pos hc] at hfile ⊢
    exact hfile
  · rw [if_neg hc] at hfile ⊢
    exact hfile

/-- A finding whose condition does not hold is not filed. -/
theorem criticalIf_of_not {c : Prop} [Decidable c] {text : Except Fault String} (h : ¬c) :
    Adds (Checking.criticalIf c text) {} := by
  unfold Checking.criticalIf Checking.onlyIf
  rw [if_neg h]
  exact .pure

/-- A loop appends what its steps append, one after the other. -/
theorem forM {body : α → Checking PUnit} {own : α → Report} {xs : List α}
    (h : ∀ x ∈ xs, Adds (body x) (own x)) :
    Adds (xs.forM body) (xs.foldl (fun report x => report ++ own x) {}) := by
  induction xs with
  | nil => exact .pure
  | cons x xs ih =>
    have hfirst := h x List.mem_cons_self
    have hrest := ih fun y hy => h y (List.mem_cons_of_mem x hy)
    -- Nothing has been appended before the first step.
    have hempty : ({} : Report) ++ own x = own x := by
      rw [← hfirst.added_eq]
      exact hfirst.additive.empty_append_added
    rw [List.foldl_cons, Report.foldl_append_eq, hempty]
    exact hfirst.seq hrest

/-- A verdict appends its finish only to work that has added nothing critical. -/
theorem unlessCritical {finish : Checking Unit} (h : Adds work s) (hfinish : Adds finish t) :
    Adds (unlessCritical work finish) (s ++ if s.criticals = [] then t else {}) := by
  have hrest : Adds (Checking.onlyIf (work.added.criticals = []) finish)
      (if s.criticals = [] then t else {}) := by
    rw [h.added_eq]
    exact onlyIf fun _ => hfinish
  have hseq := h.seq hrest
  have hrun := runOn_unlessCritical h.additive finish
  refine ⟨h.additive.unlessCritical hfinish.additive, ?_, ?_⟩
  · rw [outcome, hrun]
    exact hseq.outcome_eq
  · rw [added, hrun]
    exact hseq.added_eq

end Adds

end Checking

end Vigil
