import Vigil.Proofs.Check.Crashes
import Vigil.Proofs.Check.Expiry
import Vigil.Proofs.Check.Shared
import Vigil.Proofs.Threshold.Severity

/-!
# Waiting

The same snapshot is checked twice, at one time and at a later one. A credential has less time left
by then and a message is older, so the second report is not better than the first
(`Monitor.exitCode_le_of_wait`). Both checks file one finding, and its severity is that of the time
left or of the age (`Check.status_expiring`, `Check.status_aged`).
-/

namespace Vigil

open Threshold

/-! ## Time that passes -/

namespace Instant

variable {t earlier later : Instant}

/-- No more time is left at a later clock. -/
theorem sub_le_sub_left (h : earlier ≤ later) : t - later ≤ t - earlier := by
  have : earlier.micros ≤ later.micros := h
  change (t.micros : Int) - later.micros ≤ t.micros - earlier.micros
  omega

/-- No less time has passed at a later clock. -/
theorem sub_le_sub_right (h : earlier ≤ later) : earlier - t ≤ later - t := by
  have : earlier.micros ≤ later.micros := h
  change (earlier.micros : Int) - t.micros ≤ later.micros - t.micros
  omega

end Instant

namespace Checking

/-- A measurement leaves the status to what follows it. -/
theorem status_measure_bind (datum : Perf.Datum) {next : Checking Unit} (h : Additive next) :
    (measure datum >>= fun _ => next).added.status = next.added.status := by
  rw [(Additive.measure datum).added_bind_ok (fun _ => h) rfl, Report.status_append]
  cases next.added.status <;> rfl

end Checking

namespace Check

open Checking

variable {warn crit : Option Duration}

/-! ## The severity of the finding -/

/-- The check of a credential that expires has the severity of the time that is left. -/
theorem status_expiring {t : Config.Credential} (hwarn : t.validity.warning = Gauge.span.bound warn)
    (hcrit : t.validity.critical = Gauge.span.bound crit) (clock expiry : Instant) :
    (expiring t clock expiry).added.status = verdict .descending warn crit (expiry - clock) := by
  have hvalidity : t.validity = ⟨Gauge.span.bound warn, Gauge.span.bound crit⟩ := by
    rw [← hwarn, ← hcrit]
  rw [(expiring_adds hvalidity clock expiry).added_eq,
    Report.status_judged (expiryFinding_ne_unknown _ _ _ _), expiryFinding_fst]

/-- The finding about a judged age has the severity of the judgement. If the age is in order and the
stream or the subject cannot be told, nothing is filed. -/
theorem status_fileAge (t : Config.Message) (age : Duration) (message : String) :
    (fileAge t ⟨grade .up warn crit age, message, true⟩).added.status =
      grade .up warn crit age := by
  by_cases hbreached : Direction.up.Reaches age crit
  · rw [grade_eq_critical_iff.mpr hbreached]
    rfl
  · by_cases hreached : Direction.up.Reaches age warn
    · rw [grade_eq_warning_iff.mpr ⟨hbreached, hreached⟩]
      rfl
    · rw [grade_eq_ok_iff.mpr ⟨hbreached, hreached⟩]
      unfold fileAge
      cases t.stream.text <;> cases t.subject.text <;> rfl

/-- The check of an age has the severity of the age. -/
theorem status_aged {t : Config.Message} (hwarn : t.age.warning = Gauge.span.bound warn)
    (hcrit : t.age.critical = Gauge.span.bound crit) (age : Duration) :
    (aged t age).added.status = verdict .ascending warn crit age := by
  have hrest := (Plain.obtain (evaluateAge_failsWith t age)).bind (fileAge_plain t)
  unfold verdict
  rw [aged_eq, status_measure_bind _ hrest.additive, evaluateAge, hwarn, hcrit]
  change (obtain (evaluate (Gauge.span.value age) _ _ _ _ _) >>= _).added.status = _
  rw [evaluate_bound]
  by_cases hsuits : Policy.ascending.Suits warn crit
  · rw [if_pos hsuits, if_pos hsuits]
    exact status_fileAge t age _
  · rw [if_neg hsuits, if_neg hsuits]
    rfl

/-! ## The same snapshot later on -/

section Later

variable {earlier later : Instant} (hlater : earlier ≤ later)
include hlater

/-- A credential is not better at a later clock. -/
theorem credential_exitCode_le {t : Config.Credential}
    (hlimits : Scale.span.BoundsLimits t.validity) (s : Option Snapshot.Credential) :
    (credential t earlier s).added.status.exitCode ≤
      (credential t later s).added.status.exitCode := by
  obtain ⟨warn, hwarn⟩ := Gauge.exists_bound_of_span hlimits.warning
  obtain ⟨crit, hcrit⟩ := Gauge.exists_bound_of_span hlimits.critical
  rcases s with _ | ⟨_ | expiry⟩
  · exact le_rfl
  · exact le_rfl
  · change (expiring t earlier expiry).added.status.exitCode ≤
      (expiring t later expiry).added.status.exitCode
    rw [status_expiring hwarn hcrit, status_expiring hwarn hcrit]
    exact verdict_mono (Instant.sub_le_sub_left hlater)

/-- A message that was stored at some time is not better at a later clock. -/
theorem aged_exitCode_le {t : Config.Message} (hlimits : Scale.span.BoundsLimits t.age)
    (stored : Instant) :
    (aged t (earlier - stored)).added.status.exitCode ≤
      (aged t (later - stored)).added.status.exitCode := by
  obtain ⟨warn, hwarn⟩ := Gauge.exists_bound_of_span hlimits.warning
  obtain ⟨crit, hcrit⟩ := Gauge.exists_bound_of_span hlimits.critical
  rw [status_aged hwarn hcrit, status_aged hwarn hcrit]
  exact verdict_mono (Instant.sub_le_sub_right hlater)

/-- A message that tells its time is not better at a later clock. -/
theorem selfTimed_exitCode_le {t : Config.Message} (hlimits : Scale.span.BoundsLimits t.age)
    (m : Snapshot.Message) :
    (selfTimed t earlier m).added.status.exitCode ≤
      (selfTimed t later m).added.status.exitCode := by
  cases hbody : bodyText m.body with
  | error fault =>
    have hstop (clock : Instant) : selfTimed t clock m = stop fault := by
      rw [selfTimed, hbody]
      rfl
    rw [hstop, hstop]
  | ok body =>
    rw [selfTimed_of_body hbody, selfTimed_of_body hbody]
    cases instantOfBody? body with
    | none => exact le_rfl
    | some instant => exact aged_exitCode_le hlater hlimits instant

/-- A message is not better at a later clock. -/
theorem message_exitCode_le {t : Config.Message} (hlimits : Scale.span.BoundsLimits t.age)
    (s : Option Snapshot.Message) :
    (message t earlier s).added.status.exitCode ≤ (message t later s).added.status.exitCode := by
  cases s with
  | none => exact le_rfl
  | some m =>
    dsimp only [message]
    split
    · exact selfTimed_exitCode_le hlater hlimits m
    · exact aged_exitCode_le hlater hlimits m.published

end Later

end Check

namespace Monitor

open Check

/-- Alerts do not recover by waiting. If the thresholds of the time that a credential has left and
of the age of a message are spans, set in whatever order or not at all, then the report of a
snapshot at a later time is not better than the one of the same snapshot before: not that of a
credential, whether it expires or not, and not that of a message, whatever it tells about its time.
The other checks do not look at the time. The check of a credential always comes to its end, and so
does that of a message whose body is bytes, if the stream and the subject can be told. -/
theorem exitCode_le_of_wait {config : Config}
    (hvalidity : Scale.span.BoundsLimits config.credential.validity)
    (hage : Scale.span.BoundsLimits config.message.age) :
    (∀ (k : Kind) (s : Option k.Snapshot) (earlier later : Instant), earlier ≤ later →
      (run k config earlier s).2.status.exitCode ≤ (run k config later s).2.status.exitCode) ∧
    (∀ (clock : Instant) (c : Snapshot.Credential),
      (run .credential config clock (some c)).1 = .ok ()) ∧
    (config.message.stream.writable → config.message.subject.writable →
      ∀ (clock : Instant) (m : Snapshot.Message) (content : List UInt8), m.body = .bytes content →
        (run .message config clock (some m)).1 = .ok ()) := by
  refine ⟨?_, ?_, ?_⟩
  · intro k s earlier later hlater
    rw [run_eq, run_eq]
    -- Only these two checks look at the clock.
    cases k with
    | credential => exact credential_exitCode_le hlater hvalidity s
    | message => exact message_exitCode_le hlater hage s
    | _ => exact le_rfl
  · intro clock c
    rw [run_eq]
    rcases c with ⟨_ | expiry⟩
    · exact (lasting_stopsWhen config.credential).outcome_eq_ok not_false
    · exact (expiring_stopsWhen hvalidity clock expiry).outcome_eq_ok not_false
  · intro hstream hsubject clock m content hbody
    rw [run_eq]
    have hstream' : ¬Stops config.message.stream.text := by simpa [Value.stops_text] using hstream
    have hsubject' : ¬Stops config.message.subject.text := by
      simpa [Value.stops_text] using hsubject
    change (message config.message clock (some m)).outcome = .ok ()
    dsimp only [message]
    split
    · refine (selfTimed_stopsWhen hage hstream' hsubject' clock m).outcome_eq_ok fun hother => ?_
      exact hother content hbody
    · exact (aged_stopsWhen hage hstream' hsubject' _).outcome_eq_ok not_false

/-- A credential that has a hundred seconds left, and less than a minute when it is checked once
more; a message that tells its own time and of which only the criticals have a threshold. -/
theorem exitCode_le_of_wait_hundred_seconds :
    let config : Config := {
      credential := { validity := ⟨.duration (.seconds 120), .duration (.seconds 60)⟩ }
      message := { age := ⟨.null, .duration (.seconds 60)⟩, bodyAsTimestamp := .bool true } }
    let earlier : Instant := ⟨Instant.epoch, by decide⟩
    let later : Instant := ⟨Instant.epoch + 50000000, by decide⟩
    let c : Snapshot.Credential := ⟨some ⟨Instant.epoch + 100000000, by decide⟩⟩
    let m : Snapshot.Message := ⟨.str "status", .bytes [0x35], earlier⟩
    (run .credential config earlier (some c)).2.status = .warning ∧
    (run .credential config later (some c)).2.status = .critical ∧
    Scale.span.BoundsLimits config.credential.validity ∧
    Scale.span.BoundsLimits config.message.age ∧
    (run .credential config earlier (some c)).2.status.exitCode ≤
      (run .credential config later (some c)).2.status.exitCode ∧
    (run .message config earlier (some m)).2.status.exitCode ≤
      (run .message config later (some m)).2.status.exitCode ∧
    (run .credential config later (some c)).1 = .ok () ∧
    (run .message config later (some m)).1 = .ok () := by
  intro config earlier later c m
  have hwarning : config.credential.validity.warning = Gauge.span.bound (some (.seconds 120)) := rfl
  have hcritical : config.credential.validity.critical = Gauge.span.bound (some (.seconds 60)) :=
    rfl
  have hstatus (clock : Instant) : (run .credential config clock (some c)).2.status =
      verdict .descending (some (.seconds 120)) (some (.seconds 60))
        ((⟨Instant.epoch + 100000000, by decide⟩ : Instant) - clock) := by
    rw [run_eq]
    exact status_expiring hwarning hcritical clock _
  have hvalidity : Scale.span.BoundsLimits config.credential.validity :=
    ⟨.inr ⟨_, rfl⟩, .inr ⟨_, rfl⟩⟩
  have hage : Scale.span.BoundsLimits config.message.age := ⟨.inl rfl, .inr ⟨_, rfl⟩⟩
  obtain ⟨hwait, hcredential, hmessage⟩ := exitCode_le_of_wait hvalidity hage
  have hlater : earlier ≤ later := by decide
  refine ⟨?_, ?_, hvalidity, hage, hwait .credential _ _ _ hlater, hwait .message _ _ _ hlater,
    hcredential _ c, hmessage rfl rfl _ m [0x35] rfl⟩
  · rw [hstatus]
    decide
  · rw [hstatus]
    decide

end Monitor

end Vigil
