import Vigil.Proofs.Check.Shared
import Vigil.Proofs.Report.Judged
import Vigil.Proofs.Threshold.Severity

/-!
# The expiry of a credential

The check of a credential reports one finding (`Check.credentialFinding`), and the time that is left
if the credential expires. The finding names the threshold that the time left does not exceed, the
critical one first, so it never has to show a threshold that is not set.

The main statement is `Monitor.run_credential`.
-/

namespace Vigil

namespace Text

/-- Texts differ if neither begins as the other one does. -/
theorem append_ne_append {a b : String} (h : ¬a.toList <+: b.toList ∧ ¬b.toList <+: a.toList)
    (x y : String) : a ++ x ≠ b ++ y := by
  intro heq
  have hlists := congrArg String.toList heq
  rw [String.toList_append, String.toList_append] at hlists
  have hb : b.toList <+: a.toList ++ x.toList := hlists ▸ List.prefix_append _ _
  rcases List.prefix_or_prefix_of_prefix (List.prefix_append _ _) hb with hab | hba
  · exact h.1 hab
  · exact h.2 hba

end Text

namespace Check

open Checking

variable {t : Config.Credential} {warn crit : Option Duration} {clock expiry : Instant}

/-! ## The finding -/

/-- What is measured of the time that is left. -/
def expiryDatum (t : Config.Credential) (left : Duration) : Perf.Datum where
  label := "expiry"
  value := .duration left
  unit := .seconds
  warn := t.validity.warning
  crit := t.validity.critical

/-- A threshold that the time left does not exceed. -/
def crossed (left : Duration) (limit : Option Duration) : Option Duration :=
  limit.filter (left ≤ ·)

/-- The finding about a credential that expires: the thresholds do not fall, or one of them is
crossed, or neither is. -/
def expiryFinding (warn crit : Option Duration) (left : Duration) (expiry : Instant) :
    Status × String :=
  if Policy.descending.Suits warn crit then
    match crossed left crit, crossed left warn with
    | some limit, _ => (.critical, "expires sooner than " ++ limit.humanize)
    | none, some limit => (.warning, "expires sooner than " ++ limit.humanize)
    | none, none => (.ok, "expires in " ++ expiry.text)
  else (.critical, "credential: invalid thresholds")

/-- The finding about a credential. -/
def credentialFinding (t : Config.Credential) (warn crit : Option Duration) (clock : Instant) :
    Option Instant → Status × String
  | none => (if t.requireExpiry.truthy then .critical else .ok, "never expires")
  | some expiry => expiryFinding warn crit (expiry - clock) expiry

/-- A limit is crossed exactly if it is set and no more than that is left. -/
theorem crossed_eq_some_iff {left b : Duration} {limit : Option Duration} :
    crossed left limit = some b ↔ limit = some b ∧ left ≤ b := by
  simp [crossed, Option.filter_eq_some_iff]

/-- No limit is crossed exactly if more is left than any that is set. -/
theorem crossed_eq_none_iff {left : Duration} {limit : Option Duration} :
    crossed left limit = none ↔ ∀ b, limit = some b → b < left := by
  simp [crossed, Option.filter_eq_none_iff]

/-- A threshold is reached if it is crossed. -/
theorem reaches_iff_crossed {left : Duration} {limit : Option Duration} :
    Direction.down.Reaches left limit ↔ (crossed left limit).isSome := by
  rw [Direction.reaches_iff, Option.isSome_iff_exists]
  exact exists_congr fun b => crossed_eq_some_iff.symm

/-- The severity of a time left tells which threshold is crossed. -/
theorem grade_eq_of_crossed (warn crit : Option Duration) (left : Duration) :
    Threshold.grade .down warn crit left =
      match crossed left crit, crossed left warn with
      | some _, _ => .critical
      | none, some _ => .warning
      | none, none => .ok := by
  unfold Threshold.grade
  simp only [reaches_iff_crossed]
  cases crossed left crit <;> cases crossed left warn <;> rfl

/-- The severity of the finding is that of the time left under the policy of falling thresholds. -/
theorem expiryFinding_fst (warn crit : Option Duration) (left : Duration) (expiry : Instant) :
    (expiryFinding warn crit left expiry).1 = Threshold.verdict .descending warn crit left := by
  unfold expiryFinding Threshold.verdict
  split
  · change _ = Threshold.grade .down warn crit left
    rw [grade_eq_of_crossed]
    cases crossed left crit <;> cases crossed left warn <;> rfl
  · rfl

/-- The finding on an expiry is never unknown. -/
theorem expiryFinding_ne_unknown (warn crit : Option Duration) (left : Duration)
    (expiry : Instant) : (expiryFinding warn crit left expiry).1 ≠ .unknown := by
  unfold expiryFinding
  split
  · split <;> nofun
  · nofun

/-- A threshold that is crossed is set, so it can be shown. -/
theorem humanizedSetting_of_crossed {left b : Duration} {limit : Option Duration}
    (h : crossed left limit = some b) :
    humanizedSetting (Gauge.span.bound limit) = .ok b.humanize := by
  rw [(crossed_eq_some_iff.mp h).1]
  rfl

/-! ## What the check adds -/

/-- A time left that is judged is filed with the threshold that is crossed. -/
theorem fileExpiry_adds (hvalidity : t.validity = ⟨Gauge.span.bound warn, Gauge.span.bound crit⟩)
    (hsuits : Policy.descending.Suits warn crit) (left : Duration) (message : String) :
    Adds (fileExpiry t expiry ⟨Threshold.grade .down warn crit left, message, true⟩)
      (.judged [] (expiryFinding warn crit left expiry)) := by
  unfold expiryFinding
  rw [if_pos hsuits, grade_eq_of_crossed]
  -- The critical threshold is looked at first, and the warning one only if it is not crossed.
  cases hcrit : crossed left crit with
  | some b =>
    have hshown : humanizedSetting t.validity.critical = .ok b.humanize := by
      rw [hvalidity]
      exact humanizedSetting_of_crossed hcrit
    exact .obtain_bind hshown (.critical _)
  | none =>
    cases hwarn : crossed left warn with
    | some b =>
      have hshown : humanizedSetting t.validity.warning = .ok b.humanize := by
        rw [hvalidity]
        exact humanizedSetting_of_crossed hwarn
      exact .obtain_bind hshown (.judged .warning _)
    | none => exact .ok _

/-- The check of a credential that expires measures the time left and files one finding. -/
theorem expiring_adds (hvalidity : t.validity = ⟨Gauge.span.bound warn, Gauge.span.bound crit⟩)
    (clock expiry : Instant) :
    Adds (expiring t clock expiry) (.judged [expiryDatum t (expiry - clock)]
      (expiryFinding warn crit (expiry - clock) expiry)) := by
  have hjudged :=
    Threshold.evaluate_limits Gauge.span hvalidity (expiry - clock) .descending "credential" none
  refine .measure_judged (expiryDatum t (expiry - clock)) ?_
  by_cases hsuits : Policy.descending.Suits warn crit
  · rw [if_pos hsuits] at hjudged
    exact .obtain_bind hjudged (fileExpiry_adds hvalidity hsuits _ _)
  · unfold expiryFinding
    rw [if_neg hsuits] at hjudged ⊢
    exact .obtain_bind hjudged (.critical _)

/-- The check of a credential adds one finding, and the datum of its expiry if it expires. -/
theorem credential_adds (hvalidity : t.validity = ⟨Gauge.span.bound warn, Gauge.span.bound crit⟩)
    (clock : Instant) (c : Snapshot.Credential) :
    Adds (credential t clock (some c)) (.judged
      (c.expiresAt.toList.map fun expiry => expiryDatum t (expiry - clock))
      (credentialFinding t warn crit clock c.expiresAt)) := by
  rcases c with ⟨_ | expiry⟩
  · change Adds (lasting t) (.judged [] (if t.requireExpiry.truthy then _ else _, _))
    unfold lasting
    split
    · exact .critical _
    · exact .ok _
  · exact expiring_adds hvalidity clock expiry

/-! ## What a finding says -/

section Finding

variable {left : Duration} {x : String}

/-- The words on invalid thresholds are not those on a crossed one. -/
theorem invalid_ne_sooner (x : String) :
    "credential: invalid thresholds" ≠ "expires sooner than " ++ x := by
  simpa using @Text.append_ne_append "credential: invalid thresholds" "expires sooner than "
    (by decide) "" x

/-- The words on invalid thresholds are not those on an expiry far off. -/
theorem invalid_ne_later (x : String) : "credential: invalid thresholds" ≠ "expires in " ++ x := by
  simpa using @Text.append_ne_append "credential: invalid thresholds" "expires in " (by decide) "" x

/-- The words on a credential that never expires are not those on a crossed threshold. -/
theorem never_ne_sooner (x : String) : "never expires" ≠ "expires sooner than " ++ x := by
  simpa using @Text.append_ne_append "never expires" "expires sooner than " (by decide) "" x

/-- The words on an expiry far off are not those on a crossed threshold. -/
theorem later_ne_sooner (x y : String) : "expires in " ++ x ≠ "expires sooner than " ++ y :=
  Text.append_ne_append (by decide) x y

/-- The finding is critical with the words on a crossed threshold exactly if the thresholds suit and
the critical one is crossed, and then it names that one. -/
theorem expiryFinding_eq_critical_iff :
    expiryFinding warn crit left expiry = (.critical, "expires sooner than " ++ x) ↔
      Policy.descending.Suits warn crit ∧ ∃ b, crossed left crit = some b ∧ b.humanize = x := by
  unfold expiryFinding
  by_cases hsuits : Policy.descending.Suits warn crit
  · cases crossed left crit with
    | some b => simp [hsuits]
    | none => cases crossed left warn <;> simp [hsuits]
  · simp [hsuits, invalid_ne_sooner]

/-- The finding is a warning with the words on a crossed threshold exactly if the thresholds suit
and only the warning one is crossed, and then it names that one. -/
theorem expiryFinding_eq_warning_iff :
    expiryFinding warn crit left expiry = (.warning, "expires sooner than " ++ x) ↔
      Policy.descending.Suits warn crit ∧ crossed left crit = none ∧
        ∃ b, crossed left warn = some b ∧ b.humanize = x := by
  unfold expiryFinding
  by_cases hsuits : Policy.descending.Suits warn crit
  · cases crossed left crit with
    | some b => simp [hsuits]
    | none => cases crossed left warn <;> simp [hsuits]
  · simp [hsuits]

/-- A crossed threshold is never OK. -/
theorem expiryFinding_ne_ok :
    expiryFinding warn crit left expiry ≠ (.ok, "expires sooner than " ++ x) := by
  unfold expiryFinding
  by_cases hsuits : Policy.descending.Suits warn crit
  · cases crossed left crit <;> cases crossed left warn <;> simp [hsuits, later_ne_sooner]
  · simp [hsuits]

/-- The thresholds are called invalid exactly if they do not suit. -/
theorem expiryFinding_eq_invalid_iff :
    (expiryFinding warn crit left expiry).2 = "credential: invalid thresholds" ↔
      ¬Policy.descending.Suits warn crit := by
  unfold expiryFinding
  by_cases hsuits : Policy.descending.Suits warn crit
  · cases crossed left crit <;> cases crossed left warn <;>
      simp [hsuits, (invalid_ne_sooner _).symm, (invalid_ne_later _).symm]
  · simp [hsuits]

/-- The finding is OK exactly if the thresholds suit and neither is crossed. -/
theorem expiryFinding_severity_eq_ok_iff :
    (expiryFinding warn crit left expiry).1 = .ok ↔
      Policy.descending.Suits warn crit ∧ crossed left crit = none ∧ crossed left warn = none := by
  unfold expiryFinding
  by_cases hsuits : Policy.descending.Suits warn crit
  · cases crossed left crit <;> cases crossed left warn <;> simp [hsuits]
  · simp [hsuits]

/-- Thresholds suit exactly if the critical one is below the warning one wherever both are set. -/
theorem suits_descending_iff :
    Policy.descending.Suits warn crit ↔ ∀ w b, warn = some w → crit = some b → b < w := by
  cases warn <;> cases crit <;> simp [Policy.Suits]

/-- After an expiry no time is left. -/
theorem left_le_zero (h : expiry ≤ clock) : expiry - clock ≤ Duration.zero := by
  have : expiry.micros ≤ clock.micros := h
  change (expiry.micros : ℤ) - clock.micros ≤ 0
  omega

variable {expiresAt : Option Instant}

/-- The finding on a credential is never unknown. -/
theorem credentialFinding_ne_unknown :
    (credentialFinding t warn crit clock expiresAt).1 ≠ .unknown := by
  cases expiresAt with
  | none =>
    dsimp only [credentialFinding]
    cases t.requireExpiry.truthy <;> decide
  | some expiry => exact expiryFinding_ne_unknown warn crit (expiry - clock) expiry

/-- A credential expires critically soon exactly if no more than the critical threshold is left, and
the warning one, if set, is above it. -/
theorem credentialFinding_eq_critical_iff :
    credentialFinding t warn crit clock expiresAt = (.critical, "expires sooner than " ++ x) ↔
      ∃ expiry b, expiresAt = some expiry ∧ crit = some b ∧ b.humanize = x ∧
        expiry - clock ≤ b ∧ ∀ w, warn = some w → b < w := by
  cases expiresAt with
  | none => simp [credentialFinding, never_ne_sooner]
  | some expiry =>
    rw [credentialFinding, expiryFinding_eq_critical_iff, suits_descending_iff]
    simp only [crossed_eq_some_iff, Option.some.injEq]
    constructor
    · rintro ⟨hsuits, b, ⟨hcrit, hle⟩, hx⟩
      exact ⟨expiry, b, rfl, hcrit, hx, hle, fun w hwarn => hsuits w b hwarn hcrit⟩
    · rintro ⟨_, b, rfl, hcrit, hx, hle, hsuits⟩
      refine ⟨fun w b' hwarn hcrit' => ?_, b, ⟨hcrit, hle⟩, hx⟩
      obtain rfl := Option.some.inj (hcrit.symm.trans hcrit')
      exact hsuits w hwarn

/-- A credential expires soon exactly if no more than the warning threshold is left, and more than
the critical one, if that is set. -/
theorem credentialFinding_eq_warning_iff :
    credentialFinding t warn crit clock expiresAt = (.warning, "expires sooner than " ++ x) ↔
      ∃ expiry w, expiresAt = some expiry ∧ warn = some w ∧ w.humanize = x ∧
        expiry - clock ≤ w ∧ ∀ b, crit = some b → b < expiry - clock := by
  cases expiresAt with
  | none =>
    unfold credentialFinding
    cases t.requireExpiry.truthy <;> simp
  | some expiry =>
    rw [credentialFinding, expiryFinding_eq_warning_iff, suits_descending_iff]
    simp only [crossed_eq_some_iff, crossed_eq_none_iff, Option.some.injEq]
    constructor
    · rintro ⟨-, hbetter, w, ⟨hwarn, hle⟩, hx⟩
      exact ⟨expiry, w, rfl, hwarn, hx, hle, hbetter⟩
    · rintro ⟨_, w, rfl, hwarn, hx, hle, hbetter⟩
      refine ⟨fun w' b hwarn' hcrit => ?_, hbetter, w, ⟨hwarn, hle⟩, hx⟩
      -- The time left lies between the thresholds, so they fall.
      obtain rfl := Option.some.inj (hwarn.symm.trans hwarn')
      exact (hbetter b hcrit).trans_le hle

/-- A credential that expires sooner than a threshold is never OK. -/
theorem credentialFinding_ne_ok :
    credentialFinding t warn crit clock expiresAt ≠ (.ok, "expires sooner than " ++ x) := by
  cases expiresAt with
  | none => simp [credentialFinding, never_ne_sooner]
  | some expiry => exact expiryFinding_ne_ok

/-- The thresholds of a credential that expires are called invalid exactly if the warning one is set
and at most the critical one. -/
theorem credentialFinding_eq_invalid_iff :
    (credentialFinding t warn crit clock expiresAt).2 = "credential: invalid thresholds" ↔
      expiresAt ≠ none ∧ ∃ w b, warn = some w ∧ crit = some b ∧ w ≤ b := by
  cases expiresAt with
  | none => simp [credentialFinding]
  | some expiry =>
    rw [credentialFinding, expiryFinding_eq_invalid_iff, suits_descending_iff]
    simp

/-- With a threshold that is set and not negative, what has expired is not in order. -/
theorem credentialFinding_severity_ne_ok {b : Duration} (h : expiry ≤ clock)
    (hset : warn = some b ∨ crit = some b) (hb : Duration.zero ≤ b) :
    (credentialFinding t warn crit clock (some expiry)).1 ≠ .ok := by
  have hle : expiry - clock ≤ b := (left_le_zero h).trans hb
  rw [credentialFinding, ne_eq, expiryFinding_severity_eq_ok_iff]
  rintro ⟨-, hcrit, hwarn⟩
  rcases hset with rfl | rfl
  · exact (crossed_eq_none_iff.mp hwarn b rfl).not_ge hle
  · exact (crossed_eq_none_iff.mp hcrit b rfl).not_ge hle

end Finding

end Check

namespace Monitor

open Check

/-- What is reported about a credential, if the thresholds of the time left are spans, set in
whatever order or not at all. The check comes to its end with one finding, and measures the time
left if the credential expires. That it expires sooner than some time names a threshold that is set
and that the time left does not exceed: the critical one in a critical finding, the one of warnings
in a warning if the time left exceeds the critical one or that is not set. The thresholds are
invalid exactly if both are set and do not fall. With a threshold that is set and not negative, a
credential that has expired is not in order. -/
theorem run_credential {config : Config} {warn crit : Option Duration}
    (hvalidity : config.credential.validity = ⟨Gauge.span.bound warn, Gauge.span.bound crit⟩)
    (clock : Instant) (c : Snapshot.Credential) :
    let after := run .credential config clock (some c)
    after.1 = .ok () ∧ (∃ message, after.2.messages = [message]) ∧
    after.2.perf = (c.expiresAt.toList.map fun expiry =>
      expiryDatum config.credential (expiry - clock)) ∧
    (∀ x, "expires sooner than " ++ x ∈ after.2.criticals ↔
      ∃ expiry b, c.expiresAt = some expiry ∧ crit = some b ∧ b.humanize = x ∧
        expiry - clock ≤ b ∧ ∀ w, warn = some w → b < w) ∧
    (∀ x, "expires sooner than " ++ x ∈ after.2.warnings ↔
      ∃ expiry w, c.expiresAt = some expiry ∧ warn = some w ∧ w.humanize = x ∧
        expiry - clock ≤ w ∧ ∀ b, crit = some b → b < expiry - clock) ∧
    (∀ x, "expires sooner than " ++ x ∉ after.2.oks) ∧
    ("credential: invalid thresholds" ∈ after.2.messages ↔
      c.expiresAt ≠ none ∧ ∃ w b, warn = some w ∧ crit = some b ∧ w ≤ b) ∧
    ∀ expiry b, c.expiresAt = some expiry → expiry ≤ clock → (warn = some b ∨ crit = some b) →
      Duration.zero ≤ b → after.2.status ≠ .ok := by
  intro after
  have hrun : after = _ := run_of_adds (credential_adds hvalidity clock c)
  have hknown : (credentialFinding config.credential warn crit clock c.expiresAt).1 ≠ .unknown :=
    credentialFinding_ne_unknown
  rw [hrun]
  refine ⟨rfl, ⟨_, Report.messages_judged _ _⟩, Report.perf_judged _ _, fun x => ?_, fun x => ?_,
    fun x => ?_, ?_, ?_⟩
  · exact Report.mem_criticals_judged.trans credentialFinding_eq_critical_iff
  · exact Report.mem_warnings_judged.trans credentialFinding_eq_warning_iff
  · exact mt (Report.mem_oks_judged hknown).mp credentialFinding_ne_ok
  · exact Report.mem_messages_judged.trans credentialFinding_eq_invalid_iff
  · intro expiry b hexpires hle hset hb
    refine ne_of_eq_of_ne (Report.status_judged hknown) ?_
    rw [hexpires]
    exact credentialFinding_severity_ne_ok hle hset hb

/-- A credential that has fifty seconds left, and one that has expired, under a threshold of a
minute for criticals and none for warnings. -/
theorem run_credential_fifty_seconds :
    let config : Config := { credential := { validity := ⟨.null, .duration (.seconds 60)⟩ } }
    let clock : Instant := ⟨Instant.epoch + 50000000, by decide⟩
    let soon : Snapshot.Credential := ⟨some ⟨Instant.epoch + 100000000, by decide⟩⟩
    let past : Snapshot.Credential := ⟨some ⟨Instant.epoch, by decide⟩⟩
    (run .credential config clock (some soon)).1 = .ok () ∧
      "expires sooner than " ++ (Duration.seconds 60).humanize ∈
        (run .credential config clock (some soon)).2.criticals ∧
      (run .credential config clock (some past)).2.status ≠ .ok := by
  intro config clock soon past
  have hvalidity : config.credential.validity =
      ⟨Gauge.span.bound none, Gauge.span.bound (some (.seconds 60))⟩ := rfl
  obtain ⟨hend, -, -, hcriticals, -⟩ := run_credential hvalidity clock soon
  obtain ⟨-, -, -, -, -, -, -, hexpired⟩ := run_credential hvalidity clock past
  refine ⟨hend, (hcriticals _).mpr ?_, hexpired _ (.seconds 60) rfl ?_ (.inr rfl) (by decide)⟩
  · exact ⟨_, .seconds 60, rfl, rfl, rfl, by decide, by simp⟩
  · change Instant.epoch ≤ Instant.epoch + 50000000
    decide

end Monitor

end Vigil
