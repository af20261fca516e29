import Vigil.Proofs.Check.Adding
import Vigil.Proofs.Check.Crashes
import Vigil.Proofs.Threshold.Severity

/-!
# Shares of an account

What the check of an account reports, when the thresholds of its resources are integers or not set.
The percentage of a limit in use is rounded down, yet the verdict is that of the exact ratio
(`Usage.percent_mul_le`, `Check.gradeOf_percent`): an integer is at most the ratio exactly if it is
at most the rounded percentage.

The main statement is `Monitor.run_account`. The run stops exactly if a percentage that it has to
show has too many digits. Every other run measures the four resources in order and files for each
of them that the limit is exceeded, and what the thresholds say of it (`Check.shareFinding`). Using
more never makes the outcome better, and a higher limit never makes it worse.
-/

namespace Vigil

/-! ## Percentages -/

namespace Usage

/-- Without a limit, nothing of it is in use. -/
theorem percent_of_unlimited {u : Usage} (h : u.limit ≤ 0) : u.percent = 0 := if_pos h

/-- A whole percentage is reached exactly if the exact ratio reaches it. -/
theorem le_percent_iff {u : Usage} (h : 0 < u.limit) (p : Int) :
    p ≤ u.percent ↔ p * u.limit ≤ 100 * u.used := by
  rw [percent, if_neg (not_le.mpr h), Int.fdiv_eq_ediv_of_nonneg _ h.le,
    Int.le_ediv_iff_mul_le h, Int.mul_comm u.used]

/-- The percentage is the exact ratio, rounded down. -/
theorem percent_mul_le {u : Usage} (h : 0 < u.limit) :
    u.percent * u.limit ≤ 100 * u.used ∧ 100 * u.used < (u.percent + 1) * u.limit := by
  refine ⟨(le_percent_iff h _).mp le_rfl, ?_⟩
  rw [← not_le, ← le_percent_iff h, not_le]
  exact Int.lt_add_one_iff.mpr le_rfl

end Usage

namespace Check

open Checking

/-! ## One resource -/

/-- A threshold is set, and the exact ratio of a usage reaches it. -/
def Reached (u : Usage) (bound : Option Int) : Prop := ∃ b ∈ bound, b * u.limit ≤ 100 * u.used

instance (u : Usage) (bound : Option Int) : Decidable (Reached u bound) :=
  inferInstanceAs (Decidable (∃ b ∈ bound, _))

/-- Both thresholds are set, and they do not rise. -/
def Falls (warn crit : Option Int) : Prop := ∃ w ∈ warn, ∃ c ∈ crit, c ≤ w

instance (warn crit : Option Int) : Decidable (Falls warn crit) :=
  inferInstanceAs (Decidable (∃ w ∈ warn, ∃ c ∈ crit, c ≤ w))

/-- How severe the exact ratio of a usage is. -/
def gradeOf (u : Usage) (warn crit : Option Int) : Status :=
  if Reached u crit then .critical else if Reached u warn then .warning else .ok

/-- Whether the ratio of a resource is judged: there is a limit, and a threshold is set. -/
def HasVerdict (u : Usage) (warn crit : Option Int) : Prop :=
  0 < u.limit ∧ ¬(warn = none ∧ crit = none)

instance (u : Usage) (warn crit : Option Int) : Decidable (HasVerdict u warn crit) :=
  inferInstanceAs (Decidable (_ ∧ _))

/-- The finding that the limit of a resource is exceeded. -/
def excess (u : Usage) (name : String) : List String :=
  if 0 < u.limit ∧ u.limit < u.used then [name ++ ": exceed server limits"] else []

/-- What the thresholds say of a resource. -/
def shareFinding (u : Usage) (warn crit : Option Int) (name : String) : Option (Status × String) :=
  if ¬HasVerdict u warn crit then none
  else if Falls warn crit then some (.critical, name ++ ": invalid thresholds")
  else some (gradeOf u warn crit, Decimal.ofInt u.percent ++ "% " ++ name)

/-- The findings of a severity among those that there may be. -/
def ofSeverity (s : Status) : Option (Status × String) → List String
  | none => []
  | some (severity, message) => if severity = s then [message] else []

/-- A report of one finding, if there is one. -/
def findingReport (finding : Option (Status × String)) : Report where
  criticals := ofSeverity .critical finding
  warnings := ofSeverity .warning finding
  oks := ofSeverity .ok finding

/-- What is measured of a resource. -/
def sharePerf (u : Usage) (warn crit : Option Int) (r : Snapshot.Resource) : List Perf.Datum :=
  [{ label := r.name, value := .int u.used, unit := resourceUnit r },
    { label := r.name ++ "_pct", value := .int u.percent, unit := .percent
      warn := Gauge.int.bound warn, crit := Gauge.int.bound crit }]

/-- What the check of a resource reports. -/
def shareReport (u : Usage) (warn crit : Option Int) (r : Snapshot.Resource) : Report where
  criticals := excess u r.name ++ ofSeverity .critical (shareFinding u warn crit r.name)
  warnings := ofSeverity .warning (shareFinding u warn crit r.name)
  oks := ofSeverity .ok (shareFinding u warn crit r.name)
  perf := sharePerf u warn crit r

/-- A percentage that is judged, and that the judgement cannot show. -/
def IsUntold (u : Usage) (warn crit : Option Int) : Prop :=
  HasVerdict u warn crit ∧ Policy.ascending.Suits warn crit ∧ ¬(Value.int u.percent).writable

variable {t : Config.Account} {a : Snapshot.Account} {r : Snapshot.Resource} {u v : Usage}
  {warn crit : Option Int}

/-- Thresholds of a resource suit exactly if they do not fall. -/
theorem suits_ascending_iff :
    Policy.ascending.Suits warn crit ↔ ¬Falls warn crit := by
  cases warn <;> cases crit <;> simp [Policy.Suits, Falls]

/-- Judging the rounded percentage is judging the exact ratio. -/
theorem gradeOf_percent (h : 0 < u.limit) :
    Threshold.grade .up warn crit u.percent = gradeOf u warn crit := by
  have hreaches (bound : Option Int) :
      Direction.up.Reaches u.percent bound ↔ Reached u bound := by
    rw [Direction.reaches_iff]
    exact exists_congr fun b => and_congr_right fun _ => Usage.le_percent_iff h b
  unfold Threshold.grade gradeOf
  simp only [hreaches]

/-- A resource is judged exactly if there is a limit and a threshold is set. -/
theorem isJudged_iff (hlimits : t.limits r = ⟨Gauge.int.bound warn, Gauge.int.bound crit⟩) :
    isJudged t a r ↔ HasVerdict (a.usage r) warn crit := by
  unfold isJudged HasVerdict
  rw [hlimits]
  simp only [Gauge.isNull_bound, Bool.and_eq_true, decide_eq_true_eq, Bool.not_eq_true',
    Option.isNone_iff_eq_none, ← Bool.not_eq_true]

/-- The finding for a judgement is filed after its severity. -/
theorem add_eq_findingReport {s : Status} (hs : s ≠ .unknown) (message : String) :
    ({} : Report).add s message = findingReport (some (s, message)) := by
  cases s
  · rfl
  · rfl
  · rfl
  · contradiction

/-- The severity of a ratio is never unknown. -/
theorem gradeOf_ne_unknown : gradeOf u warn crit ≠ .unknown := by
  unfold gradeOf
  split
  · decide
  · split <;> decide

/-- The ratio of a resource is filed as the thresholds say. -/
theorem judgeShare_adds (hlimits : t.limits r = ⟨Gauge.int.bound warn, Gauge.int.bound crit⟩)
    (hverdict : HasVerdict (a.usage r) warn crit) (htold : ¬IsUntold (a.usage r) warn crit) :
    Adds (obtain (evaluateShare t a r) >>= fileShare r.name (a.usage r).percent)
      (findingReport (shareFinding (a.usage r) warn crit r.name)) := by
  have hevaluate : evaluateShare t a r = _ :=
    Threshold.evaluate_limits Gauge.int hlimits (a.usage r).percent .ascending r.name none
  unfold shareFinding
  rw [if_neg (not_not.mpr hverdict)]
  by_cases hsuits : Policy.ascending.Suits warn crit
  · -- Thresholds that rise judge the percentage, which is shown for that and once more after it.
    have hwritable : (Value.int (a.usage r).percent).writable := by
      by_contra hlong
      exact htold ⟨hverdict, hsuits, hlong⟩
    have htext := Value.intText_of_writable hwritable
    have hshown : Threshold.displayText (.int (a.usage r).percent) none = .ok _ := htext
    rw [if_pos hsuits] at hevaluate
    rw [if_neg (suits_ascending_iff.mp hsuits), ← add_eq_findingReport gradeOf_ne_unknown,
      ← gradeOf_percent hverdict.1]
    refine .obtain_bind (hevaluate.trans (congrArg _ hshown)) ?_
    exact .obtain_bind htext (.file _ _)
  · rw [if_neg hsuits] at hevaluate
    rw [if_pos (not_not.mp (mt suits_ascending_iff.mpr hsuits))]
    exact .obtain_bind hevaluate (.critical _)

/-- An exceeded limit adds its own critical finding. -/
theorem excess_adds (u : Usage) (name : String) :
    Adds (criticalIf u.exceeded (.ok (name ++ ": exceed server limits")))
      { criticals := excess u name } := by
  have hexcess : excess u name = if u.exceeded then [name ++ ": exceed server limits"] else [] :=
    if_congr (by simp [Usage.exceeded]) rfl rfl
  rw [hexcess]
  exact Adds.criticalIf fun _ => rfl

/-- The check of a resource reports its measurements, that its limit is exceeded, and what the
thresholds say. -/
theorem resource_adds (hlimits : t.limits r = ⟨Gauge.int.bound warn, Gauge.int.bound crit⟩)
    (htold : ¬IsUntold (a.usage r) warn crit) :
    Adds (resource t a r) (shareReport (a.usage r) warn crit r) := by
  have hverdict : Adds (onlyIf (isJudged t a r)
      (obtain (evaluateShare t a r) >>= fileShare r.name (a.usage r).percent))
      (findingReport (shareFinding (a.usage r) warn crit r.name)) := by
    by_cases h : HasVerdict (a.usage r) warn crit
    · unfold onlyIf
      rw [if_pos ((isJudged_iff hlimits).mpr h)]
      exact judgeShare_adds hlimits h htold
    · unfold onlyIf shareFinding
      rw [if_neg (mt (isJudged_iff hlimits).mp h), if_pos h]
      exact .pure
  rw [resource_eq, hlimits]
  exact (Adds.measure _).seq <| (Adds.measure _).seq <| (excess_adds _ _).seq hverdict

/-- The judgement of a resource breaks exactly at a percentage that it cannot show. -/
theorem shareBreak_iff (hlimits : t.limits r = ⟨Gauge.int.bound warn, Gauge.int.bound crit⟩) :
    ShareBreak t a r ↔ IsUntold (a.usage r) warn crit := by
  unfold ShareBreak IsUntold
  rw [isJudged_iff hlimits, hlimits, Policy.isValid_bound]
  simp

/-! ## More in use, and higher limits -/

/-- A resource is critical by itself. -/
def IsCritical (u : Usage) (warn crit : Option Int) : Prop :=
  0 < u.limit ∧ u.limit < u.used ∨
    HasVerdict u warn crit ∧ (Falls warn crit ∨ Reached u crit)

/-- A resource that is not critical deserves a warning. -/
def IsWarned (u : Usage) (warn crit : Option Int) : Prop :=
  HasVerdict u warn crit ∧ Reached u warn

instance (u : Usage) (warn crit : Option Int) : Decidable (IsCritical u warn crit) :=
  inferInstanceAs (Decidable (_ ∨ _))

instance (u : Usage) (warn crit : Option Int) : Decidable (IsWarned u warn crit) :=
  inferInstanceAs (Decidable (_ ∧ _))

/-- The status of what is reported about a resource. -/
theorem status_shareReport :
    (shareReport u warn crit r).status =
      if IsCritical u warn crit then .critical
      else if IsWarned u warn crit then .warning else .ok := by
  unfold IsCritical IsWarned shareReport excess shareFinding gradeOf
  -- The conditions are split in the order in which they overrule each other.
  by_cases hexcess : 0 < u.limit ∧ u.limit < u.used
  · simp [hexcess, Report.status]
  · by_cases hverdict : HasVerdict u warn crit
    · by_cases hfalls : Falls warn crit
      · simp [hexcess, hverdict, hfalls, Report.status, ofSeverity]
      · by_cases hcrit : Reached u crit
        · simp [hexcess, hverdict, hfalls, hcrit, Report.status, ofSeverity]
        · by_cases hwarn : Reached u warn <;>
            simp [hexcess, hverdict, hfalls, hcrit, hwarn, Report.status, ofSeverity]
    · simp [hexcess, hverdict, Report.status, ofSeverity]

/-- A resource is at least as full as another: more is in use of the same limit, or as much of a
lower one. -/
def IsFuller (u v : Usage) : Prop :=
  u.limit = v.limit ∧ v.used ≤ u.used ∨
    u.used = v.used ∧ 0 ≤ u.used ∧ 0 < u.limit ∧ u.limit ≤ v.limit

namespace IsFuller

/-- Whether there is a limit is the same for both. -/
theorem limited_iff (h : IsFuller u v) : 0 < u.limit ↔ 0 < v.limit := by
  rcases h with ⟨hlimit, -⟩ | ⟨-, -, hpos, hle⟩
  · rw [hlimit]
  · exact iff_of_true hpos (hpos.trans_le hle)

/-- The ratio of the fuller one reaches what the other ratio reaches. -/
theorem reached {bound : Option Int} (h : IsFuller u v) (hv : Reached v bound) :
    Reached u bound := by
  obtain ⟨p, hmem, hp⟩ := hv
  refine ⟨p, hmem, ?_⟩
  rcases h with ⟨hlimit, hused⟩ | ⟨hused, hnonneg, hpos, hle⟩
  · rw [hlimit]
    omega
  · rw [hused] at hnonneg ⊢
    -- What is not positive is below every ratio of what is in use.
    rcases le_total p 0 with hneg | hge
    · exact (mul_nonpos_of_nonpos_of_nonneg hneg hpos.le).trans (by omega)
    · exact (mul_le_mul_of_nonneg_left hle hge).trans hp

/-- The fuller one is over its limit if the other one is. -/
theorem exceeds (h : IsFuller u v) (hv : 0 < v.limit ∧ v.limit < v.used) :
    0 < u.limit ∧ u.limit < u.used := by
  refine ⟨h.limited_iff.mpr hv.1, ?_⟩
  rcases h with ⟨hlimit, hused⟩ | ⟨hused, -, -, hle⟩ <;> omega

/-- Of two resources where one is as full as the other, both are judged or neither is. -/
theorem hasVerdict_iff (h : IsFuller u v) : HasVerdict u warn crit ↔ HasVerdict v warn crit :=
  and_congr_left fun _ => h.limited_iff

/-- What is critical stays critical when a resource is fuller. -/
theorem isCritical (h : IsFuller u v) (hv : IsCritical v warn crit) : IsCritical u warn crit := by
  rcases hv with hexcess | ⟨hverdict, hfalls | hreached⟩
  · exact .inl (h.exceeds hexcess)
  · exact .inr ⟨h.hasVerdict_iff.mpr hverdict, .inl hfalls⟩
  · exact .inr ⟨h.hasVerdict_iff.mpr hverdict, .inr (h.reached hreached)⟩

/-- What deserves a warning still does when a resource is fuller. -/
theorem isWarned (h : IsFuller u v) (hv : IsWarned v warn crit) : IsWarned u warn crit :=
  ⟨h.hasVerdict_iff.mpr hv.1, h.reached hv.2⟩

/-- What is reported about the fuller one is at least as severe. -/
theorem exitCode_le (h : IsFuller u v) :
    (shareReport v warn crit r).status.exitCode ≤ (shareReport u warn crit r).status.exitCode := by
  have hcritical : IsCritical v warn crit → IsCritical u warn crit := h.isCritical
  have hwarned : IsWarned v warn crit → IsWarned u warn crit := h.isWarned
  rw [status_shareReport, status_shareReport]
  split_ifs <;> first | decide | tauto

end IsFuller

end Check

namespace Monitor

open Check

section Account

variable {config : Config} {warn crit : Snapshot.Resource → Option Int}
  (hlimits : ∀ r, config.account.limits r = ⟨Gauge.int.bound (warn r), Gauge.int.bound (crit r)⟩)

/-- What the check of an account reports: its resources, one after the other. -/
def accountReport (warn crit : Snapshot.Resource → Option Int) (a : Snapshot.Account) : Report :=
  Snapshot.Resource.all.foldl
    (fun report r => report ++ shareReport (a.usage r) (warn r) (crit r) r) {}

/-- The list of resources has all of them. -/
theorem mem_all (r : Snapshot.Resource) : r ∈ Snapshot.Resource.all := by cases r <;> decide

include hlimits

/-- A run that shows all its percentages comes to its end and reports the resources. -/
theorem run_account_eq {a : Snapshot.Account}
    (htold : ∀ r, ¬IsUntold (a.usage r) (warn r) (crit r)) (clock : Instant) :
    run .account config clock (some a) =
      (.ok (), { accountReport warn crit a with check := Kind.account.name }) := by
  have hadds : Checking.Adds (Check.account config.account (some a)) (accountReport warn crit a) :=
    .forM fun r _ => resource_adds (hlimits r) (htold r)
  exact run_of_adds hadds

/-- A run stops exactly if there is a percentage that it cannot show. -/
theorem stops_run_account (a : Snapshot.Account) (clock : Instant) :
    Stops (run .account config clock (some a)).1 ↔
      ∃ r, IsUntold (a.usage r) (warn r) (crit r) := by
  have hbounds (r : Snapshot.Resource) : Scale.number.BoundsLimits (config.account.limits r) := by
    rw [hlimits r]
    exact ⟨Gauge.bounds_int (warn r), Gauge.bounds_int (crit r)⟩
  have hstops := Checking.StopsWhen.forM
    (fun r => resource_stopsWhen (hbounds r) a) Snapshot.Resource.all
  rw [run_eq]
  refine hstops.stops_iff.trans ?_
  simp only [mem_all, true_and, shareBreak_iff (hlimits _)]

/-- The outcome is at least as bad if every resource is at least as full. -/
theorem exitCode_le_of_isFuller {a b : Snapshot.Account} (clock : Instant)
    (ha : ¬Stops (run .account config clock (some a)).1)
    (hb : ¬Stops (run .account config clock (some b)).1)
    (hfuller : ∀ r, IsFuller (b.usage r) (a.usage r)) :
    (run .account config clock (some a)).2.status.exitCode ≤
      (run .account config clock (some b)).2.status.exitCode := by
  rw [stops_run_account hlimits, not_exists] at ha hb
  rw [run_account_eq hlimits ha, run_account_eq hlimits hb]
  exact Report.exitCode_foldl_append_le _ (fun r _ => (hfuller r).exitCode_le) le_rfl

end Account

/-- What is reported about an account whose thresholds are integers or not set.

The run stops exactly if there is a resource with thresholds that rise and a percentage of too many
digits. Every other run comes to its end. It adds two measurements for each of the four resources,
and of each resource with a limit that the limit is exceeded, if it is, and one more finding if a
threshold is set, which judges the exact ratio. The measured percentage is the ratio rounded down.
If more is in use, the outcome is at least as bad, and if the limits of what is in use are higher,
at least as good. -/
theorem run_account {config : Config} {warn crit : Snapshot.Resource → Option Int}
    (hlimits : ∀ r,
      config.account.limits r = ⟨Gauge.int.bound (warn r), Gauge.int.bound (crit r)⟩)
    (clock : Instant) :
    let after (a : Snapshot.Account) := run .account config clock (some a)
    let finding (a : Snapshot.Account) (r : Snapshot.Resource) :=
      shareFinding (a.usage r) (warn r) (crit r) r.name
    (∀ a, Stops (after a).1 ↔ ∃ r, IsUntold (a.usage r) (warn r) (crit r)) ∧
    (∀ a, ¬Stops (after a).1 →
      (after a).1 = .ok () ∧
      ((after a).2.criticals = Snapshot.Resource.all.flatMap fun r =>
        excess (a.usage r) r.name ++ ofSeverity .critical (finding a r)) ∧
      ((after a).2.warnings = Snapshot.Resource.all.flatMap fun r =>
        ofSeverity .warning (finding a r)) ∧
      ((after a).2.oks = Snapshot.Resource.all.flatMap fun r => ofSeverity .ok (finding a r)) ∧
      (after a).2.perf = Snapshot.Resource.all.flatMap fun r =>
        sharePerf (a.usage r) (warn r) (crit r) r) ∧
    (∀ u : Usage, (u.limit ≤ 0 → u.percent = 0) ∧
      (0 < u.limit →
        u.percent * u.limit ≤ 100 * u.used ∧ 100 * u.used < (u.percent + 1) * u.limit)) ∧
    (∀ a b, ¬Stops (after a).1 → ¬Stops (after b).1 →
      (∀ r, (b.usage r).limit = (a.usage r).limit ∧ (a.usage r).used ≤ (b.usage r).used) →
      (after a).2.status.exitCode ≤ (after b).2.status.exitCode) ∧
    (∀ a b, ¬Stops (after a).1 → ¬Stops (after b).1 →
      (∀ r, b.usage r = a.usage r ∨
        (b.usage r).used = (a.usage r).used ∧ 0 ≤ (a.usage r).used ∧ 0 < (a.usage r).limit ∧
          (a.usage r).limit ≤ (b.usage r).limit) →
      (after b).2.status.exitCode ≤ (after a).2.status.exitCode) := by
  intro after finding
  refine ⟨fun a => stops_run_account hlimits a clock, fun a htold => ?_, fun u => ?_,
    fun a b ha hb hmore => ?_, fun a b ha hb hhigher => ?_⟩
  · rw [stops_run_account hlimits, not_exists] at htold
    have hafter : after a = _ := run_account_eq hlimits htold clock
    -- Each list of the report consists of those of its resources.
    let own (r : Snapshot.Resource) := shareReport (a.usage r) (warn r) (crit r) r
    rw [hafter]
    refine ⟨rfl, ?_, ?_, ?_, ?_⟩
    · exact Report.list_foldl_append own Report.criticals_append Snapshot.Resource.all {}
    · exact Report.list_foldl_append own Report.warnings_append Snapshot.Resource.all {}
    · exact Report.list_foldl_append own Report.oks_append Snapshot.Resource.all {}
    · exact Report.list_foldl_append own Report.perf_append Snapshot.Resource.all {}
  · exact ⟨Usage.percent_of_unlimited, Usage.percent_mul_le⟩
  · exact exitCode_le_of_isFuller hlimits clock ha hb fun r => .inl (hmore r)
  · refine exitCode_le_of_isFuller hlimits clock hb ha fun r => ?_
    rcases hhigher r with hsame | ⟨hused, hnonneg, hpos, hle⟩
    · rw [hsame]
      exact .inl ⟨rfl, le_rfl⟩
    · exact .inr ⟨hused.symm, hnonneg, hpos, hle⟩

/-- The memory of an account under the usual thresholds: at four fifths of its limit, nearer to it,
at the same use of a higher limit, and with a percentage that is too large to be written. -/
theorem run_account_memory :
    let clock : Instant := ⟨Instant.epoch, by decide⟩
    let after (used limit : Int) :=
      run .account {} clock (some ⟨⟨used, limit⟩, {}, {}, {}⟩)
    (after 80 100).1 = .ok () ∧ (after 80 100).2.warnings = ["80% memory"] ∧
      (after 80 100).2.status.exitCode ≤ (after 95 100).2.status.exitCode ∧
      (after 80 200).2.status.exitCode ≤ (after 80 100).2.status.exitCode ∧
      Stops (after (10 ^ 4299) 1).1 := by
  intro clock after
  let usual (bound : Int) (r : Snapshot.Resource) : Option Int :=
    if r = .memory ∨ r = .storage then some bound else none
  have hlimits (r : Snapshot.Resource) : Config.Account.limits {} r =
      ⟨Gauge.int.bound (usual 75 r), Gauge.int.bound (usual 90 r)⟩ := by cases r <;> rfl
  obtain ⟨hstops, hreport, -, hmore, hhigher⟩ :=
    @run_account {} (usual 75) (usual 90) hlimits clock
  -- The other resources have no limit, so only the percentage of memory is judged.
  have htold {used limit : Int} (hsmall : (Usage.percent ⟨used, limit⟩).natAbs < 10 ^ 3) :
      ¬Stops (after used limit).1 := by
    rw [hstops]
    rintro ⟨r, ⟨hlimit, -⟩, -, hlong⟩
    cases r with
    | memory => exact hlong (Value.writable_of_lt_pow hsmall (by decide))
    | _ => exact absurd hlimit (lt_irrefl 0)
  have h100 : ¬Stops (after 80 100).1 := htold (by decide)
  obtain ⟨hout, -, hwarnings, -⟩ := hreport _ h100
  refine ⟨hout, hwarnings, hmore _ _ h100 (htold (by decide)) fun r => ?_,
    hhigher _ _ h100 (htold (by decide)) fun r => ?_, (hstops _).mpr ⟨.memory, ?_⟩⟩
  · cases r <;> decide
  · cases r
    · exact .inr (by decide)
    all_goals exact .inl rfl
  · have hpercent (k : Nat) : Usage.percent ⟨10 ^ k, 1⟩ = 10 ^ (k + 2) := by
      rw [Usage.percent, if_neg (not_le.mpr Int.one_pos), Int.fdiv_one, pow_add]
      rfl
    have hverdict : HasVerdict ⟨10 ^ 4299, 1⟩ (some 75) (some 90) := ⟨Int.one_pos, by simp⟩
    have hrise : Policy.ascending.Suits (some (75 : Int)) (some 90) := by
      change (75 : Int) < 90
      decide
    refine ⟨hverdict, hrise, ?_⟩
    change ¬(Value.int (Usage.percent ⟨10 ^ 4299, 1⟩)).writable
    rw [hpercent 4299]
    exact Value.not_writable_pow (by decide)

end Monitor

end Vigil
