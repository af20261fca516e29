import Vigil.Config
import Vigil.Proofs.Value.Writing

/-!
# Scales

Numbers stand in an order, and so do durations (`Scale`). A value that is judged against
thresholds on its own scale is judged without a fault, unless the judgement needs a text that the
value does not have (`Threshold.stops_evaluate`). A judgement that is worse than in order comes
from a threshold that is set (`Threshold.critical_ne_null`, `Threshold.warning_ne_null`).
-/

namespace Vigil

/-- What values are measured in. -/
inductive Scale where
  /-- Numbers of all kinds. -/
  | number
  /-- Spans of time. -/
  | span

namespace Scale

/-- Whether a value is on a scale. -/
def Measures : Scale → Value → Prop
  | .number, v => v.numeric?.isSome
  | .span, v => ∃ d, v = .duration d

variable {s : Scale} {a b : Value}

/-- Two values on one scale stand in an order. -/
theorem not_stops_order (operator : String) (ha : s.Measures a) (hb : s.Measures b) :
    ¬Stops (Value.order operator a b) := by
  cases s with
  | number =>
    cases a <;> cases b <;> simp_all [Measures, Value.numeric?, Value.order]
  | span =>
    obtain ⟨d, rfl⟩ := ha
    obtain ⟨e, rfl⟩ := hb
    simp [Value.order]

/-- Values on one scale can be compared by less. -/
theorem not_stops_lt (ha : s.Measures a) (hb : s.Measures b) : ¬Stops (a.lt b) := by
  rw [Value.lt, stops_bind_pure]
  exact not_stops_order "<" ha hb

/-- Values on one scale can be compared by at most. -/
theorem not_stops_le (ha : s.Measures a) (hb : s.Measures b) : ¬Stops (a.le b) := by
  rw [Value.le, stops_bind_pure]
  exact not_stops_order "<=" ha hb

/-- Values on one scale can be compared by at least. -/
theorem not_stops_ge (ha : s.Measures a) (hb : s.Measures b) : ¬Stops (a.ge b) := by
  rw [Value.ge, stops_bind_pure]
  exact not_stops_order ">=" ha hb

/-- Whether a threshold is on a scale, if it is set at all. -/
def Bounds (s : Scale) (v : Value) : Prop := v = .null ∨ s.Measures v

/-- Whether the thresholds of a metric are on a scale. -/
structure BoundsLimits (s : Scale) (l : Limits) : Prop where
  /-- The threshold of warnings is on the scale. -/
  warning : s.Bounds l.warning
  /-- The threshold of criticals is on the scale. -/
  critical : s.Bounds l.critical

/-- A threshold that is set is on the scale. -/
theorem Bounds.measures (h : s.Bounds a) (hnull : a.isNull = false) : s.Measures a := by
  rcases h with rfl | h
  · contradiction
  · exact h

end Scale

variable {s : Scale} {l : Limits} {value : Value}

/-! ## Judging on one scale -/

/-- Thresholds on one scale suit a policy or do not. -/
theorem Policy.not_stops_isValid (p : Policy) (hl : s.BoundsLimits l) :
    ¬Stops (p.isValid l.warning l.critical) := by
  unfold isValid
  rw [stops_ite]
  rintro (⟨-, h⟩ | ⟨hset, h⟩)
  · exact not_stops_ok _ h
  · rw [Bool.not_eq_true, Bool.or_eq_false_iff] at hset
    have hwarning := hl.warning.measures hset.1
    have hcritical := hl.critical.measures hset.2
    cases p with
    | ascending => exact Scale.not_stops_lt hwarning hcritical h
    | descending => exact Scale.not_stops_lt hcritical hwarning h
    | auto => exact not_stops_ok _ h

/-- Thresholds on one scale have a direction. -/
theorem Policy.not_stops_direction (p : Policy) (hl : s.BoundsLimits l) :
    ¬Stops (p.direction l.warning l.critical) := by
  cases p with
  | ascending => exact not_stops_ok _
  | descending => exact not_stops_ok _
  | auto =>
    unfold direction
    dsimp only
    rw [stops_ite]
    rintro (⟨-, h⟩ | ⟨hset, h⟩)
    · exact not_stops_ok _ h
    · rw [Bool.not_eq_true, Bool.or_eq_false_iff] at hset
      rw [stops_bind_pure] at h
      exact Scale.not_stops_ge (hl.critical.measures hset.2) (hl.warning.measures hset.1) h

namespace Threshold

/-- A value on the scale of a threshold can be compared with it. -/
theorem not_stops_breached (hvalue : s.Measures value) {threshold : Value}
    (hbound : s.Bounds threshold) (d : Direction) : ¬Stops (breached value threshold d) := by
  unfold breached
  rw [stops_ite]
  rintro (⟨-, h⟩ | ⟨hset, h⟩)
  · exact not_stops_ok _ h
  · rw [Bool.not_eq_true] at hset
    have hthreshold := hbound.measures hset
    cases d with
    | up => exact Scale.not_stops_ge hvalue hthreshold h
    | down => exact Scale.not_stops_le hvalue hthreshold h

/-- A value on the scale of its thresholds has a severity. -/
theorem not_stops_severity (hvalue : s.Measures value) (hl : s.BoundsLimits l) (d : Direction) :
    ¬Stops (severity value l.warning l.critical d) := by
  obtain ⟨critical, hcritical⟩ := not_stops_iff.mp (not_stops_breached hvalue hl.critical d)
  obtain ⟨warning, hwarning⟩ := not_stops_iff.mp (not_stops_breached hvalue hl.warning d)
  unfold severity
  rw [hcritical, hwarning]
  cases critical <;> cases warning <;> exact not_stops_ok _

/-- A value on the scale of its thresholds is judged, unless the thresholds suit their policy and
the value has no text. -/
theorem stops_evaluate (hvalue : s.Measures value) (hl : s.BoundsLimits l) (p : Policy)
    (label : String) (display : Option String) :
    Stops (evaluate value l.warning l.critical p label display) ↔
      p.isValid l.warning l.critical = .ok true ∧ Stops (displayText value display) := by
  -- On one scale everything can be compared, so these three have results.
  obtain ⟨valid, hvalid⟩ := not_stops_iff.mp (p.not_stops_isValid hl)
  obtain ⟨d, hd⟩ := not_stops_iff.mp (p.not_stops_direction hl)
  obtain ⟨status, hstatus⟩ := not_stops_iff.mp (not_stops_severity hvalue hl d)
  unfold evaluate
  rw [hvalid]
  cases valid with
  | false => simp [bind, Except.bind, pure, Except.pure]
  | true =>
    rw [hd]
    -- The severity is known by now, so only the text is left to fail.
    change Stops (displayText value display >>= fun shown =>
      severity value l.warning l.critical d >>= fun _ => pure _) ↔ _
    rw [hstatus]
    change Stops (displayText value display >>= fun shown =>
      pure (Evaluation.mk status (label ++ " " ++ shown) true)) ↔ _
    rw [stops_bind_pure]
    simp

/-- A judgement tells whether the thresholds suit their policy, and if they do, how severe the value
is in some direction. -/
theorem evaluate_ok {warn crit : Value} {p : Policy} {label : String} {display : Option String}
    {e : Evaluation} (h : evaluate value warn crit p label display = .ok e) :
    (p.isValid warn crit = .ok false ∧ e.valid = false) ∨
      (p.isValid warn crit = .ok true ∧ e.valid = true ∧
        ∃ d, severity value warn crit d = .ok e.status) := by
  unfold evaluate at h
  -- A judgement that is given has passed through all its steps.
  cases hvalid : p.isValid warn crit with
  | error fault => simp [hvalid, bind, Except.bind] at h
  | ok valid =>
    cases valid with
    | false =>
      rw [hvalid] at h
      cases h
      exact .inl ⟨rfl, rfl⟩
    | true =>
      refine .inr ⟨rfl, ?_⟩
      cases hd : p.direction warn crit with
      | error fault => simp [hvalid, hd, bind, Except.bind] at h
      | ok d =>
        cases hshown : displayText value display with
        | error fault => simp [hvalid, hd, hshown, bind, Except.bind] at h
        | ok shown =>
          cases hstatus : severity value warn crit d with
          | error fault => simp [hvalid, hd, hshown, hstatus, bind, Except.bind] at h
          | ok status =>
            simp only [hvalid, hd, hshown, hstatus, bind, Except.bind, pure, Except.pure, if_true,
              Except.ok.injEq] at h
            subst h
            exact ⟨rfl, d, hstatus⟩

/-- Thresholds that do not suit their policy make every value critical. -/
theorem evaluate_of_not_valid {warn crit : Value} {p : Policy} {label : String}
    {display : Option String} (h : p.isValid warn crit = .ok false) :
    evaluate value warn crit p label display =
      .ok ⟨.critical, label ++ " invalid thresholds", false⟩ := by
  unfold evaluate
  rw [h]
  rfl

/-- A threshold that is not set is never breached. -/
theorem breached_null {threshold : Value} (hnull : threshold.isNull) (d : Direction) :
    breached value threshold d = .ok false := by
  unfold breached
  rw [if_pos hnull]

/-- Without a threshold of criticals, nothing is critical. -/
theorem critical_ne_null {warn crit : Value} {d : Direction}
    (h : severity value warn crit d = .ok .critical) : crit.isNull = false := by
  by_contra hnull
  rw [Bool.not_eq_false] at hnull
  rw [severity, breached_null hnull] at h
  cases hwarn : breached value warn d with
  | error fault => simp [hwarn, bind, Except.bind] at h
  | ok holds => cases holds <;> simp [hwarn, bind, Except.bind, pure, Except.pure] at h

/-- Without a threshold of warnings, there are no warnings. -/
theorem warning_ne_null {warn crit : Value} {d : Direction}
    (h : severity value warn crit d = .ok .warning) : warn.isNull = false := by
  by_contra hnull
  rw [Bool.not_eq_false] at hnull
  rw [severity, breached_null hnull] at h
  cases hcrit : breached value crit d with
  | error fault => simp [hcrit, bind, Except.bind] at h
  | ok holds => cases holds <;> simp [hcrit, bind, Except.bind, pure, Except.pure] at h

end Threshold

end Vigil
