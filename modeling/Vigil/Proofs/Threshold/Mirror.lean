import Mathlib.Order.Monotone.Basic
import Vigil.Proofs.Threshold.Severity

/-!
# Mirrored thresholds

A function that reverses an order mirrors values and thresholds, and with them the directions: what
is as bad as a threshold upwards is as bad as the mirrored threshold downwards. So a value has the
severity of the mirrored one under the opposite policy (`Threshold.grade_opposite`). The automatic
policy is its own opposite, but only for two thresholds that differ: it takes equal ones, and one
alone, for ascending on both sides of the mirror (`Policy.heading_opposite`).

Negation mirrors the integers. The main statement is `Threshold.evaluate_mirrored`, which compares
the judgements of an integer under the three policies with each other and with those of the negated
integer. Their common form is the rating of a value, which is what a judgement comes to when its
message is left out.
-/

namespace Vigil

/-- The other direction. -/
def Direction.opposite : Direction → Direction
  | .up => .down
  | .down => .up

/-- The policy of the other direction. -/
def Policy.opposite : Policy → Policy
  | .ascending => .descending
  | .descending => .ascending
  | .auto => .auto

/-- The severity of a judged value, and whether the thresholds suited the policy. -/
def Evaluation.rating (e : Evaluation) : Status × Bool := (e.status, e.valid)

/-! ## Mirrored orders -/

section Mirror

variable {α β : Type} [LinearOrder α] [LinearOrder β] {f : α → β} {a b : α} {warn crit : Option α}

/-- What is as bad as something in a direction is as bad as it in the mirror, in the other
direction. -/
theorem Direction.asBad_opposite (hf : StrictAnti f) (d : Direction) :
    d.opposite.AsBad (f a) (f b) ↔ d.AsBad a b := by
  cases d with
  | up => exact hf.le_iff_ge
  | down => exact hf.le_iff_ge

/-- A mirrored value reaches a mirrored threshold in the opposite direction. -/
theorem Direction.reaches_opposite (hf : StrictAnti f) (d : Direction) {t : Option α} :
    d.opposite.Reaches (f a) (t.map f) ↔ d.Reaches a t := by
  cases t with
  | none => exact Iff.rfl
  | some b => exact d.asBad_opposite hf

namespace Policy

/-- Thresholds suit a policy if the mirrored ones suit the opposite one. -/
theorem suits_opposite (hf : StrictAnti f) (p : Policy) :
    p.opposite.Suits (warn.map f) (crit.map f) ↔ p.Suits warn crit := by
  -- Only two thresholds that are set can be in another order than the policy demands.
  rcases warn with _ | w
  · cases p <;> exact Iff.rfl
  · rcases crit with _ | c
    · cases p <;> exact Iff.rfl
    · cases p with
      | ascending => exact hf.lt_iff_gt
      | descending => exact hf.lt_iff_gt
      | auto => exact Iff.rfl

/-- The automatic policy takes a pair that rises, and one of which a threshold is not set, for
ascending. -/
theorem heading_auto_eq_up (h : warn = none ∨ crit = none ∨ ∃ w ∈ warn, ∃ c ∈ crit, w ≤ c) :
    auto.heading warn crit = .up := by
  rcases h with rfl | rfl | ⟨w, rfl, c, rfl, hle⟩
  · rfl
  · cases warn <;> rfl
  · exact if_neg hle.not_gt

/-- The automatic policy takes a pair that falls for descending. -/
theorem heading_auto_eq_down {w c : α} (h : c < w) : auto.heading (some w) (some c) = .down :=
  if_pos h

/-- Mirrored thresholds have the other direction, unless the policy has to find a direction for
thresholds that do not tell one. -/
theorem heading_opposite (hf : StrictAnti f) {p : Policy}
    (h : p = .auto → ∃ w ∈ warn, ∃ c ∈ crit, w ≠ c) :
    p.opposite.heading (warn.map f) (crit.map f) = (p.heading warn crit).opposite := by
  cases p with
  | ascending => rfl
  | descending => rfl
  | auto =>
    obtain ⟨w, rfl, c, rfl, hne⟩ := h rfl
    -- Two different thresholds rise on one side of the mirror and fall on the other.
    rcases lt_or_gt_of_ne hne with hlt | hgt
    · rw [heading_auto_eq_up (.inr (.inr ⟨w, rfl, c, rfl, hlt.le⟩))]
      exact heading_auto_eq_down (hf hlt)
    · rw [heading_auto_eq_down hgt]
      exact heading_auto_eq_up (.inr (.inr ⟨f w, rfl, f c, rfl, (hf hgt).le⟩))

end Policy

namespace Threshold

/-- An element is as severe as the mirrored one in the other direction. -/
theorem grade_opposite (hf : StrictAnti f) (d : Direction) :
    grade d.opposite (warn.map f) (crit.map f) (f a) = grade d warn crit a := by
  simp only [grade, d.reaches_opposite hf]

/-- Between equal thresholds there is no room for warnings. -/
theorem grade_same (d : Direction) (t : α) :
    grade d (some t) (some t) a = if d.AsBad a t then .critical else .ok := by
  unfold grade Direction.Reaches
  by_cases h : d.AsBad a t <;> simp [h]

end Threshold

end Mirror

/-! ## Ratings -/

namespace Threshold

section Rating

variable {α : Type} [LinearOrder α] (g : Gauge α)

/-- The rating of a value, computed in the order. The text of the value is needed for the message
only, but without it there is no rating. -/
theorem rating_bound (a : α) (warn crit : Option α) (p : Policy) (label : String)
    (display : Option String) :
    Evaluation.rating <$>
        evaluate (g.value a) (g.bound warn) (g.bound crit) p label display =
      if p.Suits warn crit then
        (fun _ => (grade (p.heading warn crit) warn crit a, true)) <$>
          displayText (g.value a) display
      else .ok (.critical, false) := by
  rw [evaluate_bound]
  split
  · cases displayText (g.value a) display <;> rfl
  · rfl

/-- The automatic policy gives the rating of a policy that the thresholds suit and that has the same
direction. -/
theorem rating_auto {p : Policy} {warn crit : Option α} (hsuits : p.Suits warn crit)
    (hheading : Policy.auto.heading warn crit = p.heading warn crit) (a : α) (label : String)
    (display : Option String) :
    Evaluation.rating <$>
        evaluate (g.value a) (g.bound warn) (g.bound crit) .auto label display =
      Evaluation.rating <$> evaluate (g.value a) (g.bound warn) (g.bound crit) p label display := by
  have hauto : Policy.auto.Suits warn crit := trivial
  rw [rating_bound, rating_bound, if_pos hauto, if_pos hsuits, hheading]

/-- The automatic policy takes equal thresholds for one threshold of criticals, ascending. -/
theorem rating_auto_same (a t : α) (label : String) (display : Option String) :
    Evaluation.rating <$>
        evaluate (g.value a) (g.bound (some t)) (g.bound (some t)) .auto label display =
      (fun _ => (if t ≤ a then .critical else .ok, true)) <$>
        displayText (g.value a) display := by
  have hauto : Policy.auto.Suits (some t) (some t) := trivial
  rw [rating_bound, if_pos hauto,
    Policy.heading_auto_eq_up (.inr (.inr ⟨t, rfl, t, rfl, le_rfl⟩)), grade_same]
  rfl

/-- Equal thresholds suit no explicit policy. -/
theorem rating_same (a t : α) {p : Policy} (hp : p ≠ .auto) (label : String)
    (display : Option String) :
    Evaluation.rating <$>
        evaluate (g.value a) (g.bound (some t)) (g.bound (some t)) p label display =
      .ok (.critical, false) := by
  rw [rating_bound]
  cases p with
  | ascending => exact if_neg (lt_irrefl t)
  | descending => exact if_neg (lt_irrefl t)
  | auto => contradiction

end Rating

variable {τ : Type} (x : τ)

/-- What leaves out the text of a value depends on nothing but whether the text is given. -/
theorem map_displayText_congr (value : Value) {display display' : Option String}
    (h : display.isSome = display'.isSome) :
    (fun _ => x) <$> displayText value display = (fun _ => x) <$> displayText value display' := by
  cases display with
  | none =>
    cases display' with
    | none => rfl
    | some _ => contradiction
  | some _ =>
    cases display' with
    | none => contradiction
    | some _ => rfl

/-- A negated integer has a text if the integer has one. -/
theorem map_displayText_neg (n : Int) (display : Option String) :
    (fun _ => x) <$> displayText (.int (-n)) display =
      (fun _ => x) <$> displayText (.int n) display := by
  cases display with
  | some text => rfl
  | none =>
    change (fun _ => x) <$> Value.intText (-n) = (fun _ => x) <$> Value.intText n
    unfold Value.intText
    rw [Int.natAbs_neg]
    split <;> rfl

/-- An integer has a text for a message unless none is given and it is too long. -/
theorem stops_displayText_int (n : Int) (display : Option String) :
    Stops (displayText (.int n) display) ↔ display = none ∧ ¬(Value.int n).writable := by
  cases display with
  | some text => simp [displayText]
  | none => simpa [displayText] using (Value.int n).stops_text

/-- An integer has the rating of the negated one under negated thresholds and the opposite policy,
unless the policy is the automatic one and the thresholds do not tell a direction. -/
theorem rating_opposite {p : Policy} {warn crit : Option Int}
    (h : p = .auto → ∃ w ∈ warn, ∃ c ∈ crit, w ≠ c) (v : Int) (label : String)
    (display : Option String) :
    Evaluation.rating <$> evaluate (Gauge.int.value (-v)) (Gauge.int.bound (warn.map (-·)))
        (Gauge.int.bound (crit.map (-·))) p.opposite label display =
      Evaluation.rating <$> evaluate (Gauge.int.value v) (Gauge.int.bound warn)
        (Gauge.int.bound crit) p label display := by
  have hneg : StrictAnti fun n : Int => -n := fun _ _ => Int.neg_lt_neg
  rw [rating_bound, rating_bound, if_congr (p.suits_opposite hneg) rfl rfl,
    Policy.heading_opposite hneg h, grade_opposite hneg]
  split
  · exact map_displayText_neg _ v display
  · rfl

/-- An integer is rated, unless the thresholds suit the policy and the integer is to be shown and
cannot be. -/
theorem stops_rating_int (v : Int) (warn crit : Option Int) (p : Policy) (label : String)
    (display : Option String) :
    Stops (Evaluation.rating <$> evaluate (Gauge.int.value v) (Gauge.int.bound warn)
        (Gauge.int.bound crit) p label display) ↔
      p.Suits warn crit ∧ display = none ∧ ¬(Value.int v).writable := by
  rw [rating_bound, stops_ite, stops_map, ← stops_displayText_int]
  simp only [not_stops_ok, and_false, or_false]
  rfl

/-- How the judgements of an integer under the three policies compare, with each other and with
those of the negated integer under negated thresholds.

An integer is rated, unless its thresholds suit the policy, no text is given for it and it has too
many digits to be shown. What a message says makes no other difference. Ascending thresholds rate an
integer as the negated ones rate the negated integer descending. The automatic policy rates as the
ascending one if the thresholds rise or one of them is not set, and as the descending one if they
fall; if they differ, it rates the negated integer alike under the negated thresholds. Equal
thresholds suit neither of the explicit policies, and the automatic one takes them for ascending: it
files no warnings, and as critical what is at least the threshold. -/
theorem evaluate_mirrored (v : Int) (warn crit : Option Int) (label : String)
    (display : Option String) :
    let rate (p : Policy) (v : Int) (warn crit : Option Int) :=
      Evaluation.rating <$>
        evaluate (.int v) (Gauge.int.bound warn) (Gauge.int.bound crit) p label display
    let negated (t : Option Int) := t.map fun n => -n
    (∀ p, Stops (rate p v warn crit) ↔
      p.Suits warn crit ∧ display = none ∧ ¬(Value.int v).writable) ∧
    (∀ p label' display', display.isSome = display'.isSome →
      Evaluation.rating <$>
          evaluate (.int v) (Gauge.int.bound warn) (Gauge.int.bound crit) p label' display' =
        rate p v warn crit) ∧
    rate .descending (-v) (negated warn) (negated crit) = rate .ascending v warn crit ∧
    ((warn = none ∨ crit = none ∨ ∃ w ∈ warn, ∃ c ∈ crit, w < c) →
      rate .auto v warn crit = rate .ascending v warn crit) ∧
    (∀ w ∈ warn, ∀ c ∈ crit,
      (c < w → rate .auto v warn crit = rate .descending v warn crit) ∧
      (w ≠ c → rate .auto (-v) (negated warn) (negated crit) = rate .auto v warn crit) ∧
      (w = c →
        rate .ascending v warn crit = .ok (.critical, false) ∧
        rate .descending v warn crit = .ok (.critical, false) ∧
        (display ≠ none ∨ (Value.int v).writable →
          rate .auto v warn crit = .ok (if c ≤ v then .critical else .ok, true)))) := by
  intro rate negated
  refine ⟨fun p => stops_rating_int v warn crit p label display, fun p label' display' hgiven => ?_,
    rating_opposite (p := .ascending) nofun v label display, fun hrise => ?_, ?_⟩
  · change _ <$> evaluate (Gauge.int.value v) _ _ _ _ _ =
      _ <$> evaluate (Gauge.int.value v) _ _ _ _ _
    rw [rating_bound, rating_bound, map_displayText_congr _ _ hgiven]
  · -- Thresholds that rise, or of which one is not set, suit the ascending policy as well.
    have hsuits : Policy.ascending.Suits warn crit := by
      rcases hrise with rfl | rfl | ⟨w, rfl, c, rfl, hlt⟩
      · trivial
      · cases warn <;> trivial
      · exact hlt
    have hup : Policy.auto.heading warn crit = .up := by
      refine Policy.heading_auto_eq_up (hrise.imp_right (Or.imp_right ?_))
      rintro ⟨w, hw, c, hc, hlt⟩
      exact ⟨w, hw, c, hc, hlt.le⟩
    exact rating_auto Gauge.int hsuits hup v label display
  · rintro w rfl c rfl
    refine ⟨fun hfall => ?_, fun hne => ?_, ?_⟩
    · have hsuits : Policy.descending.Suits (some w) (some c) := hfall
      exact rating_auto Gauge.int hsuits (Policy.heading_auto_eq_down hfall) v label display
    · exact rating_opposite (p := .auto) (fun _ => ⟨w, rfl, c, rfl, hne⟩) v label display
    · -- Equal thresholds are judged by the automatic policy only, which needs a text for that.
      rintro rfl
      have hsame {p : Policy} (hp : p ≠ .auto) :
          rate p v (some w) (some w) = .ok (.critical, false) :=
        rating_same Gauge.int v w hp label display
      refine ⟨hsame nofun, hsame nofun, fun htold => ?_⟩
      have hshown : ¬Stops (displayText (.int v) display) := by
        rw [stops_displayText_int]
        rintro ⟨hnone, hlong⟩
        exact htold.elim (· hnone) hlong
      obtain ⟨shown, hshown⟩ := not_stops_iff.mp hshown
      exact (rating_auto_same Gauge.int v w label display).trans (congrArg _ hshown)

/-- An integer between thresholds that rise, between the same ones when they fall, at equal ones,
and too far beyond those to be shown. -/
theorem evaluate_mirrored_fifteen :
    let rate (p : Policy) (v w c : Int) :=
      Evaluation.rating <$> evaluate (.int v) (.int w) (.int c) p "load" none
    rate .descending (-15) (-10) (-20) = rate .ascending 15 10 20 ∧
      rate .auto 15 10 20 = rate .ascending 15 10 20 ∧
      rate .auto 15 20 10 = rate .descending 15 20 10 ∧
      rate .auto (-15) (-20) (-10) = rate .auto 15 20 10 ∧
      rate .ascending 15 15 15 = .ok (.critical, false) ∧
      rate .auto 15 15 15 = .ok (.critical, true) ∧
      Stops (rate .auto (10 ^ 4300) 15 15) := by
  intro rate
  obtain ⟨-, -, hopposite, hrise, -⟩ := evaluate_mirrored 15 (some 10) (some 20) "load" none
  obtain ⟨-, -, -, -, hfall⟩ := evaluate_mirrored 15 (some 20) (some 10) "load" none
  obtain ⟨-, -, -, -, hsame⟩ := evaluate_mirrored 15 (some 15) (some 15) "load" none
  obtain ⟨hdown, hnegated, -⟩ := hfall 20 rfl 10 rfl
  obtain ⟨-, -, hequal⟩ := hsame 15 rfl 15 rfl
  obtain ⟨hinvalid, -, hauto⟩ := hequal rfl
  have hshort : (Value.int 15).writable := Value.writable_of_lt_pow (k := 2) (by decide) (by decide)
  refine ⟨hopposite, hrise (.inr (.inr ⟨10, rfl, 20, rfl, by decide⟩)), hdown (by decide),
    hnegated (by decide), hinvalid, hauto (.inr hshort), ?_⟩
  exact ((evaluate_mirrored (10 ^ 4300) (some 15) (some 15) "load" none).1 .auto).mpr
    ⟨trivial, rfl, Value.not_writable_pow le_rfl⟩

end Threshold

end Vigil
