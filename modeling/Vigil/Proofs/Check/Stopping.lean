import Vigil.Proofs.Check.Additive

/-!
# Where checks stop

Additive work stops where one of its parts does, so whether it stops is a matter of its calculations
alone. `StopsWhen work p` says that the work is additive and stops exactly if `p` holds, and the
condition of a sequence, a branch or a loop is made of those of its parts (`StopsWhen.seq`,
`StopsWhen.criticalIf`, `StopsWhen.forM`).

A verdict over one's own additions depends on more: its finish is reached only after work that
comes to its end and files nothing critical (`StopsWhen.unlessCritical`).
-/

namespace Vigil.Checking

variable {α β : Type} {p q : Prop}

/-- The work does nothing but append, and stops exactly under a condition. -/
structure StopsWhen (work : Checking α) (p : Prop) : Prop where
  /-- The work does nothing but append. -/
  additive : Additive work
  /-- The work stops exactly if the condition holds. -/
  stops_iff : Stops work.outcome ↔ p

namespace StopsWhen

/-- A condition may be put in other words. -/
theorem congr {work : Checking α} (h : StopsWhen work p) (hpq : p ↔ q) : StopsWhen work q :=
  ⟨h.additive, h.stops_iff.trans hpq⟩

/-- Where work does not stop, it comes to its end. -/
theorem outcome_eq_ok {work : Checking Unit} (h : StopsWhen work p) (hp : ¬p) :
    work.outcome = .ok () := by
  obtain ⟨_, hout⟩ := not_stops_iff.mp (mt h.stops_iff.mp hp)
  exact hout

/-- Work comes to its end exactly where it does not stop. -/
theorem outcome_eq_ok_iff {work : Checking Unit} (h : StopsWhen work p) :
    work.outcome = .ok () ↔ ¬p := by
  refine ⟨fun hout => ?_, h.outcome_eq_ok⟩
  rw [← h.stops_iff, hout]
  exact not_stops_ok ()

/-- Adding a perf datum never stops. -/
theorem measure (datum : Perf.Datum) : StopsWhen (measure datum) False :=
  ⟨.measure datum, by simp [Checking.measure]⟩

/-- Filing an OK finding never stops. -/
theorem ok (message : String) : StopsWhen (ok message) False := ⟨.ok message, by simp [Checking.ok]⟩

/-- Filing a critical finding never stops. -/
theorem critical (message : String) : StopsWhen (critical message) False :=
  ⟨.critical message, by simp [Checking.critical]⟩

/-- Filing a warning never stops. -/
theorem warning (message : String) : StopsWhen (warning message) False :=
  ⟨.warning message, by simp [Checking.warning]⟩

/-- Filing a finding of a given severity never stops. -/
theorem file (severity : Status) (message : String) : StopsWhen (file severity message) False :=
  ⟨.file severity message, by simp [Checking.file]⟩

/-- Filing the finding of an evaluation never stops. -/
theorem record (e : Evaluation) : StopsWhen (change (.record e)) False := ⟨.record e, by simp⟩

/-- Steps stop where one of them stops. -/
theorem seq {work : Checking Unit} {next : Checking β} (h : StopsWhen work p)
    (hnext : StopsWhen next q) : StopsWhen (work >>= fun _ => next) (p ∨ q) where
  additive := h.additive.bind fun _ => hnext.additive
  stops_iff := by
    rw [h.additive.outcome_bind fun _ => hnext.additive, stops_bind_of_iff fun _ => hnext.stops_iff,
      h.stops_iff]

/-- Work with a calculation stops in the calculation, or after it on every result that it can
have. -/
theorem obtain_bind {x : Except Fault α} {next : α → Checking β} (hx : Stops x ↔ p)
    (hnext : ∀ a, x = .ok a → StopsWhen (next a) q) : StopsWhen (obtain x >>= next) (p ∨ q) := by
  cases x with
  | error fault =>
    rw [show obtain (.error fault) >>= next = stop fault from rfl]
    exact ⟨.stop fault, iff_of_true (stops_error fault) (.inl (hx.mp (stops_error fault)))⟩
  | ok a =>
    rw [show obtain (.ok a) >>= next = next a from rfl]
    have hp : ¬p := mt hx.mpr (not_stops_ok a)
    exact (hnext a rfl).congr (by simp [hp])

/-- A branch of which both parts stop under a condition stops under it. -/
theorem ite {c : Prop} [Decidable c] {yes no : Checking α} (hyes : c → StopsWhen yes p)
    (hno : ¬c → StopsWhen no p) : StopsWhen (if c then yes else no) p := by
  split
  · exact hyes ‹_›
  · exact hno ‹_›

/-- Work under a condition stops only if the condition holds. -/
theorem onlyIf {c : Prop} [Decidable c] {work : Checking Unit} (h : StopsWhen work p) :
    StopsWhen (onlyIf c work) (c ∧ p) where
  additive := h.additive.onlyIf
  stops_iff := by
    unfold Checking.onlyIf
    by_cases hc : c
    · simp [hc, h.stops_iff]
    · simp [hc]

/-- A finding under a condition stops if the condition holds and the finding has no text. -/
theorem criticalIf {c : Prop} [Decidable c] {text : Except Fault String} (htext : Stops text ↔ p) :
    StopsWhen (criticalIf c text) (c ∧ p) :=
  (onlyIf (obtain_bind htext fun message _ => critical message)).congr (by rw [or_false])

/-- A loop over work stops where one of its steps stops. -/
theorem forM {body : α → Checking PUnit} {condition : α → Prop}
    (h : ∀ a, StopsWhen (body a) (condition a)) (xs : List α) :
    StopsWhen (xs.forM body) (∃ a ∈ xs, condition a) := by
  induction xs with
  | nil => exact ⟨.pure _, by simp⟩
  | cons x xs ih => exact ((h x).seq ih).congr (by simp)

end StopsWhen

/-! ## Work that files nothing critical -/

/-- The work comes to its end and files nothing critical. -/
def Quiet (work : Checking Unit) : Prop := work.outcome = .ok () ∧ work.added.criticals = []

/-- A sequence is quiet exactly if both of its parts are. -/
theorem Additive.quiet_seq {work next : Checking Unit} (h : Additive work) (hnext : Additive next) :
    Quiet (work >>= fun _ => next) ↔ Quiet work ∧ Quiet next := by
  -- What a sequence files is what its parts file, if the first comes to its end.
  constructor
  · rintro ⟨hout, hadded⟩
    rw [h.outcome_bind fun _ => hnext, bind_eq_ok_iff] at hout
    obtain ⟨_, hwork, hout⟩ := hout
    rw [h.added_bind_ok (fun _ => hnext) hwork, Report.criticals_append,
      List.append_eq_nil_iff] at hadded
    exact ⟨⟨hwork, hadded.1⟩, hout, hadded.2⟩
  · rintro ⟨⟨hwork, hadded⟩, hout, hrest⟩
    refine ⟨?_, ?_⟩
    · rw [h.outcome_bind fun _ => hnext, hwork]
      exact hout
    · rw [h.added_bind_ok (fun _ => hnext) hwork, Report.criticals_append, hadded, hrest]
      rfl

/-- Work with a calculation is quiet exactly if there is a result and the work with it is quiet. -/
theorem quiet_obtain_bind {x : Except Fault α} {next : α → Checking Unit} :
    Quiet (obtain x >>= next) ↔ ∃ a, x = .ok a ∧ Quiet (next a) := by
  cases x with
  | error fault =>
    constructor
    · rintro ⟨⟨⟩, -⟩
    · rintro ⟨a, ⟨⟩, -⟩
  | ok a =>
    rw [show obtain (.ok a) >>= next = next a from rfl]
    simp

/-- A critical finding under a condition is additive. -/
theorem Additive.criticalIf {c : Prop} [Decidable c] {text : Except Fault String} :
    Additive (criticalIf c text) := .onlyIf ((Additive.obtain text).bind .critical)

/-- A critical finding under a condition is filed, or cannot be, exactly if the condition holds. -/
theorem quiet_criticalIf {c : Prop} [Decidable c] {text : Except Fault String} :
    Quiet (criticalIf c text) ↔ ¬c := by
  unfold criticalIf onlyIf
  -- Whether the finding is filed or has no text, the work is not quiet.
  by_cases h : c
  · rw [if_pos h, quiet_obtain_bind]
    simp [Quiet, critical, Report.addCritical, h]
  · rw [if_neg h]
    simp [Quiet, h]

/-- A verdict stops where the work stops, or where its finish does after work without criticals. -/
theorem StopsWhen.unlessCritical {work finish : Checking Unit} (h : StopsWhen work p)
    (hfinish : StopsWhen finish q) :
    StopsWhen (unlessCritical work finish) (p ∨ Quiet work ∧ q) where
  additive := h.additive.unlessCritical hfinish.additive
  stops_iff := by
    rw [outcome, runOn_unlessCritical h.additive]
    change Stops (work >>= fun _ => Checking.onlyIf _ finish).outcome ↔ _
    rw [h.additive.outcome_bind fun _ => .onlyIf hfinish.additive, stops_bind, h.stops_iff]
    -- The verdict looks at what the work has added, which does not depend on its outcome.
    simp only [hfinish.onlyIf.stops_iff, Quiet, and_assoc]
    refine or_congr_right ⟨?_, fun hquiet => ⟨(), hquiet⟩⟩
    rintro ⟨_, hquiet⟩
    exact hquiet

end Vigil.Checking
