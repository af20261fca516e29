import Mathlib.Order.Compare
import Vigil.Proofs.Threshold.Scale

/-!
# Severity in an order

The judgement of a value whose thresholds come from the same linear order, as those of integers and
of durations do (`Gauge.int`, `Gauge.span`). It is computed here in the order itself: whether a pair
of thresholds suits a policy (`Policy.Suits`), in which direction values become worse
(`Policy.heading`) and how severe a value is (`Threshold.grade`). The judgement of values is the
same (`Threshold.evaluate_bound`).

The main statement is `Threshold.evaluate_severity`. A pair that does not suit its policy makes
every value critical. With any other pair, a worse value is never less severe, and the bands of the
severities include their thresholds. The only values that are not judged are integers of too many
digits that the message has to show itself.
-/

namespace Vigil

/-- A duration is told by its microseconds. -/
theorem Duration.micros_injective : Function.Injective Duration.micros := by
  rintro ⟨a, _⟩ ⟨b, _⟩ rfl
  rfl

instance : LinearOrder Duration := .lift' Duration.micros Duration.micros_injective

/-- A way to write the elements of a linear order as values, which are compared as the elements
are. -/
structure Gauge (α : Type) [LinearOrder α] where
  /-- The value of an element. -/
  value : α → Value
  /-- The value of an element is set. -/
  isNull_value : ∀ a, (value a).isNull = false
  /-- Values stand in the order of their elements. -/
  order_value : ∀ (operator : String) (a b : α),
    Value.order operator (value a) (value b) = .ok (some (cmp a b))

namespace Gauge

/-- Integers as values. -/
def int : Gauge Int where
  value := .int
  isNull_value _ := rfl
  order_value _ m n := by
    rw [cmp_eq_compare]
    simp [Value.order, Value.numeric?, Value.Numeric.compare?]

/-- Durations as values. -/
def span : Gauge Duration where
  value := .duration
  isNull_value _ := rfl
  order_value _ a b := by
    rw [Value.order]
    exact congrArg (Except.ok ∘ some) (cmp_eq_compare a.micros b.micros).symm

variable {α : Type} [LinearOrder α] (g : Gauge α)

/-- A threshold as a value, null if it is not set. -/
def bound (t : Option α) : Value := Value.ofOption g.value t

/-- A threshold is null exactly if it is not set. -/
@[simp]
theorem isNull_bound (t : Option α) : (g.bound t).isNull = t.isNone := by
  cases t with
  | none => rfl
  | some b => exact g.isNull_value b

/-- A threshold on the scale of spans is one of the order of durations. -/
theorem exists_bound_of_span {v : Value} (h : Scale.span.Bounds v) : ∃ t, v = span.bound t := by
  rcases h with rfl | ⟨d, rfl⟩
  · exact ⟨none, rfl⟩
  · exact ⟨some d, rfl⟩

/-- Integers that may be set are on the scale of numbers. -/
theorem bounds_int (t : Option Int) : Scale.number.Bounds (int.bound t) := by
  cases t with
  | none => exact .inl rfl
  | some n => exact .inr rfl

/-- Values are less than others as their elements are. -/
theorem lt_value (a b : α) : (g.value a).lt (g.value b) = .ok (decide (a < b)) := by
  have hlt : some (cmp a b) = some .lt ↔ a < b := by rw [Option.some_inj, cmp_eq_lt_iff]
  rw [Value.lt, g.order_value]
  exact congrArg Except.ok (decide_eq_decide.mpr hlt)

/-- Values are at most others as their elements are. -/
theorem le_value (a b : α) : (g.value a).le (g.value b) = .ok (decide (a ≤ b)) := by
  rw [Value.le, g.order_value]
  rcases lt_trichotomy a b with h | rfl | h
  · rw [(cmp_eq_lt_iff a b).mpr h, decide_eq_true h.le]
    rfl
  · rw [cmp_self_eq_eq, decide_eq_true le_rfl]
    rfl
  · rw [(cmp_eq_gt_iff a b).mpr h, decide_eq_false h.not_ge]
    rfl

/-- Values are at least others as their elements are. -/
theorem ge_value (a b : α) : (g.value a).ge (g.value b) = .ok (decide (b ≤ a)) := by
  rw [Value.ge, g.order_value]
  rcases lt_trichotomy a b with h | rfl | h
  · rw [(cmp_eq_lt_iff a b).mpr h, decide_eq_false h.not_ge]
    rfl
  · rw [cmp_self_eq_eq, decide_eq_true le_rfl]
    rfl
  · rw [(cmp_eq_gt_iff a b).mpr h, decide_eq_true h.le]
    rfl

end Gauge

/-! ## Directions and policies in an order -/

section Order

variable {α : Type} [LinearOrder α]

namespace Direction

/-- One element is as bad as another in a direction, or worse. -/
def AsBad (d : Direction) (a b : α) : Prop :=
  match d with
  | .up => b ≤ a
  | .down => a ≤ b

instance (d : Direction) (a b : α) : Decidable (d.AsBad a b) :=
  match d with
  | .up => inferInstanceAs (Decidable (b ≤ a))
  | .down => inferInstanceAs (Decidable (a ≤ b))

/-- Every value is as bad as itself. -/
theorem AsBad.refl (d : Direction) (a : α) : d.AsBad a a := by
  cases d <;> exact le_refl a

/-- Being as bad goes on from one value to the next. -/
theorem AsBad.trans {d : Direction} {a b c : α} (hab : d.AsBad a b) (hbc : d.AsBad b c) :
    d.AsBad a c := by
  cases d
  · exact le_trans hbc hab
  · exact le_trans hab hbc

/-- A threshold is set, and an element is as bad as it is. -/
def Reaches (d : Direction) (a : α) : Option α → Prop
  | none => False
  | some b => d.AsBad a b

instance (d : Direction) (a : α) (t : Option α) : Decidable (d.Reaches a t) :=
  match t with
  | none => inferInstanceAs (Decidable False)
  | some b => inferInstanceAs (Decidable (d.AsBad a b))

/-- A value reaches a threshold exactly if it is set and the value is as bad. -/
theorem reaches_iff {d : Direction} {a : α} {t : Option α} :
    d.Reaches a t ↔ ∃ b ∈ t, d.AsBad a b := by
  cases t <;> simp [Reaches]

/-- What a value reaches, a worse one reaches as well. -/
theorem Reaches.of_asBad {d : Direction} {a b : α} {t : Option α} (hab : d.AsBad a b)
    (h : d.Reaches b t) : d.Reaches a t := by
  cases t with
  | none => exact h
  | some c => exact hab.trans h

end Direction

namespace Policy

/-- Whether two thresholds are in the order that a policy demands; only a pair of which both are set
can be in another one. -/
def Suits : Policy → Option α → Option α → Prop
  | .ascending, some w, some c => w < c
  | .descending, some w, some c => c < w
  | _, _, _ => True

instance (p : Policy) (warn crit : Option α) : Decidable (p.Suits warn crit) :=
  match p, warn, crit with
  | .ascending, some w, some c => inferInstanceAs (Decidable (w < c))
  | .descending, some w, some c => inferInstanceAs (Decidable (c < w))
  | .auto, _, _ => .isTrue trivial
  | .ascending, none, _ | .descending, none, _ => .isTrue trivial
  | .ascending, some _, none | .descending, some _, none => .isTrue trivial

/-- The direction of a policy for a pair of thresholds. -/
def heading : Policy → Option α → Option α → Direction
  | .ascending, _, _ => .up
  | .descending, _, _ => .down
  | .auto, some w, some c => if c < w then .down else .up
  | .auto, _, _ => .up

end Policy

namespace Threshold

/-- The severity of an element in a direction. -/
def grade (d : Direction) (warn crit : Option α) (a : α) : Status :=
  if d.Reaches a crit then .critical else if d.Reaches a warn then .warning else .ok

variable {d : Direction} {warn crit : Option α} {a b : α}

/-- A value is critical exactly if it reaches the critical threshold. -/
theorem grade_eq_critical_iff : grade d warn crit a = .critical ↔ d.Reaches a crit := by
  unfold grade
  by_cases hcrit : d.Reaches a crit
  · simp [hcrit]
  · by_cases hwarn : d.Reaches a warn <;> simp [hcrit, hwarn]

/-- A value is a warning exactly if it reaches the warning threshold and not the critical one. -/
theorem grade_eq_warning_iff :
    grade d warn crit a = .warning ↔ ¬d.Reaches a crit ∧ d.Reaches a warn := by
  unfold grade
  by_cases hcrit : d.Reaches a crit
  · simp [hcrit]
  · by_cases hwarn : d.Reaches a warn <;> simp [hcrit, hwarn]

/-- A value is OK exactly if it reaches neither threshold. -/
theorem grade_eq_ok_iff :
    grade d warn crit a = .ok ↔ ¬d.Reaches a crit ∧ ¬d.Reaches a warn := by
  unfold grade
  by_cases hcrit : d.Reaches a crit
  · simp [hcrit]
  · by_cases hwarn : d.Reaches a warn <;> simp [hcrit, hwarn]

/-- Reaching the warning threshold is a warning at least. -/
theorem warning_le_grade (h : d.Reaches a warn) :
    Status.warning.exitCode ≤ (grade d warn crit a).exitCode := by
  unfold grade
  rw [if_pos h]
  split <;> decide

/-- A worse element is not less severe. -/
theorem grade_mono (hab : d.AsBad a b) :
    (grade d warn crit b).exitCode ≤ (grade d warn crit a).exitCode := by
  -- Whatever threshold decides about the milder element is reached by the worse one as well.
  by_cases hcrit : d.Reaches b crit
  · rw [grade_eq_critical_iff.mpr hcrit, grade_eq_critical_iff.mpr (hcrit.of_asBad hab)]
  · by_cases hwarn : d.Reaches b warn
    · rw [grade_eq_warning_iff.mpr ⟨hcrit, hwarn⟩]
      exact warning_le_grade (hwarn.of_asBad hab)
    · rw [grade_eq_ok_iff.mpr ⟨hcrit, hwarn⟩]
      exact Nat.zero_le _

/-- The severity of an element under a policy; every element is critical if the thresholds do not
suit it. -/
def verdict (p : Policy) (warn crit : Option α) (a : α) : Status :=
  if p.Suits warn crit then grade (p.heading warn crit) warn crit a else .critical

/-- Under a policy as well, a worse element is not less severe. -/
theorem verdict_mono {p : Policy} (hab : (p.heading warn crit).AsBad a b) :
    (verdict p warn crit b).exitCode ≤ (verdict p warn crit a).exitCode := by
  unfold verdict
  split
  · exact grade_mono hab
  · exact le_rfl

/-- Under an explicit policy that the thresholds suit, the warning threshold is better than the
critical one. -/
theorem grade_eq_warning_of_suits {p : Policy} (hp : p ≠ .auto) (h : p.Suits (some a) crit) :
    grade (p.heading (some a) crit) (some a) crit a = .warning := by
  refine grade_eq_warning_iff.mpr ⟨?_, .refl _ a⟩
  cases crit with
  | none => exact id
  | some c =>
    cases p with
    | ascending => exact not_le.mpr h
    | descending => exact not_le.mpr h
    | auto => contradiction

end Threshold

end Order

/-! ## Judging values of an order -/

section Judging

variable {α : Type} [LinearOrder α] (g : Gauge α)

/-- The check of a pair of thresholds is the one of the order. -/
theorem Policy.isValid_bound (p : Policy) (warn crit : Option α) :
    p.isValid (g.bound warn) (g.bound crit) = .ok (decide (p.Suits warn crit)) := by
  unfold isValid
  rw [g.isNull_bound, g.isNull_bound]
  -- A pair of which one is not set suits every policy; two that are set are compared.
  cases warn with
  | none => cases p <;> rfl
  | some w =>
    cases crit with
    | none => cases p <;> rfl
    | some c =>
      cases p with
      | ascending => exact g.lt_value w c
      | descending => exact g.lt_value c w
      | auto => rfl

/-- The direction of a pair of thresholds is the one of the order. -/
theorem Policy.direction_bound (p : Policy) (warn crit : Option α) :
    p.direction (g.bound warn) (g.bound crit) = .ok (p.heading warn crit) := by
  cases p with
  | ascending => rfl
  | descending => rfl
  | auto =>
    unfold direction
    dsimp only
    rw [g.isNull_bound, g.isNull_bound]
    cases warn with
    | none => rfl
    | some w =>
      cases crit with
      | none => rfl
      -- With both bounds given, the direction is that of the critical one as seen from the warning.
      | some c =>
        have hge : (g.bound (some c)).ge (g.bound (some w)) = .ok (decide (w ≤ c)) := g.ge_value c w
        rw [hge]
        by_cases h : c < w
        · simp [heading, h, bind, Except.bind, pure, Except.pure]
        · simp [heading, h, not_lt.mp h, bind, Except.bind, pure, Except.pure]

namespace Threshold

/-- A value breaches a threshold exactly if it reaches it in the order. -/
theorem breached_bound (a : α) (t : Option α) (d : Direction) :
    breached (g.value a) (g.bound t) d = .ok (decide (d.Reaches a t)) := by
  unfold breached
  rw [g.isNull_bound]
  cases t with
  | none => rfl
  | some b =>
    cases d with
    | up => exact g.ge_value a b
    | down => exact g.le_value a b

/-- The severity of a value is its grade in the order. -/
theorem severity_bound (a : α) (warn crit : Option α) (d : Direction) :
    severity (g.value a) (g.bound warn) (g.bound crit) d = .ok (grade d warn crit a) := by
  unfold severity grade
  rw [breached_bound, breached_bound]
  by_cases hcrit : d.Reaches a crit
  · simp [hcrit, bind, Except.bind, pure, Except.pure]
  · by_cases hwarn : d.Reaches a warn <;>
      simp [hcrit, hwarn, bind, Except.bind, pure, Except.pure]

/-- The judgement of a value, computed in the order. -/
theorem evaluate_bound (a : α) (warn crit : Option α) (p : Policy) (label : String)
    (display : Option String) :
    evaluate (g.value a) (g.bound warn) (g.bound crit) p label display =
      if p.Suits warn crit then
        (fun shown => ⟨grade (p.heading warn crit) warn crit a, label ++ " " ++ shown, true⟩) <$>
          displayText (g.value a) display
      else .ok ⟨.critical, label ++ " invalid thresholds", false⟩ := by
  unfold evaluate
  rw [p.isValid_bound, p.direction_bound]
  by_cases h : p.Suits warn crit
  · -- The text of the value is made before the value is compared, so it is the only obstacle.
    cases hshown : displayText (g.value a) display with
    | error fault => simp [h, bind, Except.bind]
    | ok shown => simp [h, severity_bound, bind, Except.bind, pure, Except.pure]
  · simp [h, bind, Except.bind, pure, Except.pure]

/-- The judgement of a value under limits that are thresholds of the order. -/
theorem evaluate_limits {limits : Limits} {warn crit : Option α}
    (h : limits = ⟨g.bound warn, g.bound crit⟩) (a : α) (p : Policy) (label : String)
    (display : Option String) :
    evaluate (g.value a) limits.warning limits.critical p label display =
      if p.Suits warn crit then
        (fun shown => ⟨grade (p.heading warn crit) warn crit a, label ++ " " ++ shown, true⟩) <$>
          displayText (g.value a) display
      else .ok ⟨.critical, label ++ " invalid thresholds", false⟩ := by
  rw [h]
  exact evaluate_bound g a warn crit p label display

/-- If the thresholds suit the policy, a judgement tells the severity in the order. -/
theorem status_of_evaluate {a : α} {warn crit : Option α} {p : Policy} {label : String}
    {display : Option String} {e : Evaluation} (h : p.Suits warn crit)
    (he : evaluate (g.value a) (g.bound warn) (g.bound crit) p label display = .ok e) :
    e.status = grade (p.heading warn crit) warn crit a ∧ e.valid = true := by
  rw [evaluate_bound, if_pos h, map_eq_ok_iff] at he
  obtain ⟨shown, -, rfl⟩ := he
  exact ⟨rfl, rfl⟩

/-- How values are judged whose thresholds, if they are set, are elements of the same linear order.

A pair that is not in the order that its policy demands makes every value critical. With any other
pair a value is judged, unless it is an integer of too many digits and the message has to show it.
The severities follow the direction of the policy: a value that is as bad as another one is as
severe, the critical threshold and all that is worse are critical, the warning threshold is a
warning or, under the automatic policy, at least that, and what is better than each threshold that
is set is in order. Nothing has the severity of a threshold that is not set. -/
theorem evaluate_severity (p : Policy) (warn crit : Option α) (label : String)
    (display : Option String) :
    let judge (a : α) := evaluate (g.value a) (g.bound warn) (g.bound crit) p label display
    (∀ a, Stops (judge a) ↔ p.Suits warn crit ∧ display = none ∧ ¬(g.value a).writable) ∧
    (¬p.Suits warn crit →
      ∀ a, judge a = .ok ⟨.critical, label ++ " invalid thresholds", false⟩) ∧
    (p.Suits warn crit → ∃ (d : Direction) (severity : α → Status),
      p.direction (g.bound warn) (g.bound crit) = .ok d ∧
      (∀ a e, judge a = .ok e → e.status = severity a ∧ e.valid = true) ∧
      (∀ a b, d.AsBad b a → (severity a).exitCode ≤ (severity b).exitCode) ∧
      (∀ c ∈ crit, ∀ a, d.AsBad a c → severity a = .critical) ∧
      (∀ w ∈ warn, p ≠ .auto → severity w = .warning) ∧
      (∀ w ∈ warn, Status.warning.exitCode ≤ (severity w).exitCode) ∧
      (∀ a, (∀ w ∈ warn, ¬d.AsBad a w) → (∀ c ∈ crit, ¬d.AsBad a c) → severity a = .ok) ∧
      (crit = none → ∀ a, severity a ≠ .critical) ∧
      (warn = none → ∀ a, severity a ≠ .warning) ∧
      (warn = none → crit = none → ∀ a, severity a = .ok)) := by
  intro judge
  -- Only writing the value can fail, and that only where no text to display is given.
  have htext (a : α) :
      Stops (displayText (g.value a) display) ↔ display = none ∧ ¬(g.value a).writable := by
    cases display with
    | none => simpa [displayText] using (g.value a).stops_text
    | some text => simp [displayText]
  have hjudge (a : α) : judge a = _ := evaluate_bound g a warn crit p label display
  refine ⟨fun a => ?_, fun h a => ?_, fun h => ?_⟩
  · rw [hjudge]
    by_cases h : p.Suits warn crit
    · simp [h, htext]
    · simp [h]
  · rw [hjudge, if_neg h]
  -- The severity is that of the grade, and each claim about it is one about the grade.
  · refine ⟨p.heading warn crit, grade (p.heading warn crit) warn crit, p.direction_bound g _ _,
      fun a e he => status_of_evaluate g h he, fun a b hab => grade_mono hab, ?_⟩
    refine ⟨?_, ?_, ?_, ?_, ?_, ?_, ?_⟩
    · rintro c rfl a hac
      exact grade_eq_critical_iff.mpr hac
    · rintro w rfl hp
      exact grade_eq_warning_of_suits hp h
    · rintro w rfl
      exact warning_le_grade (.refl _ w)
    · intro a hwarn hcrit
      rw [grade_eq_ok_iff, Direction.reaches_iff, Direction.reaches_iff]
      simp only [not_exists, not_and]
      exact ⟨hcrit, hwarn⟩
    · rintro rfl a ha
      exact grade_eq_critical_iff.mp ha
    · rintro rfl a ha
      exact (grade_eq_warning_iff.mp ha).2
    · rintro rfl rfl a
      exact grade_eq_ok_iff.mpr ⟨id, id⟩

/-- A percentage of `10 ^ 4301` under the usual thresholds for memory: the thresholds rise as they
have to, and yet the percentage is not judged, because it cannot be written. -/
theorem evaluate_severity_unwritable :
    Stops (evaluate (.int (10 ^ 4301)) (.int 75) (.int 90) .ascending "memory" none) := by
  have hsuits : Policy.ascending.Suits (some (75 : Int)) (some 90) := by
    change (75 : Int) < 90
    decide
  exact ((evaluate_severity Gauge.int .ascending (some 75) (some 90) "memory" none).1 _).mpr
    ⟨hsuits, rfl, Value.not_writable_pow (by decide)⟩

end Threshold

end Judging

end Vigil
