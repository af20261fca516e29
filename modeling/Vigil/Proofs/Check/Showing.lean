import Vigil.Proofs.Check.Parts
import Vigil.Proofs.Check.Stopping
import Vigil.Proofs.Report.Line

/-!
# What checks show

Which characters stand in the findings of additive work. `Shows c work p` says that the character
`c` stands in a finding of the work exactly if `p` holds, provided that the work comes to its end,
and the condition of a sequence or a branch is made of those of its parts (`Shows.seq`,
`Shows.obtain_bind`, `Shows.ite`). What is measured is named in solid text in any case.

A check of a server, of an account or of a credential shows nothing but words of its own, numbers
and times, and none of these holds a mark (`vitals_shows`, `account_shows`, `credential_shows`).
-/

namespace Vigil

open Text

/-- The messages of two reports in a row are the messages of both. -/
theorem Report.mem_messages_append {r s : Report} {m : String} :
    m ∈ (r ++ s).messages ↔ m ∈ r.messages ∨ m ∈ s.messages := by
  simp only [messages, criticals_append, warnings_append, oks_append, List.mem_append]
  tauto

/-- The only message of a report with one finding is the message of that finding. -/
theorem Report.messages_add (severity : Status) (message : String) :
    (({} : Report).add severity message).messages = [message] := by
  cases severity <;> rfl

namespace Checking

variable {α : Type} {c : Char} {p q : Prop}

/-- The work does nothing but append, and names what it measures in solid text. If it comes to its
end, the character stands in one of its findings exactly if the condition holds. -/
structure Shows (c : Char) (work : Checking Unit) (p : Prop) : Prop where
  additive : Additive work
  labels : ∀ d ∈ work.added.perf, Solid d.label.toList
  shows_iff : work.outcome = .ok () → ((∃ m ∈ work.added.messages, c ∈ m.toList) ↔ p)

namespace Shows

/-- Whether work shows a character may be said in other words. -/
theorem congr {work : Checking Unit} (h : Shows c work p) (hpq : p ↔ q) : Shows c work q :=
  ⟨h.additive, h.labels, fun hout => (h.shows_iff hout).trans hpq⟩

/-- Returning a value shows nothing. -/
theorem pure : Shows c (Pure.pure ()) False :=
  ⟨.pure (), by simp, fun _ => by simp [Report.messages]⟩

/-- Work that stops is under no condition. -/
theorem stop (fault : Fault) : Shows c (Checking.stop fault) p :=
  ⟨.stop fault, by simp, by rintro ⟨⟩⟩

/-- A perf datum with a solid label shows nothing in the messages. -/
theorem measure {datum : Perf.Datum} (h : Solid datum.label.toList) :
    Shows c (measure datum) False where
  additive := .measure datum
  labels := by simpa [Checking.measure, Report.addPerf] using h
  shows_iff _ := by simp [Checking.measure, Report.addPerf, Report.messages]

/-- A finding shows the characters of its message. -/
theorem file (severity : Status) (message : String) :
    Shows c (file severity message) (c ∈ message.toList) where
  additive := .file severity message
  labels := by cases severity <;> simp [Checking.file, Report.add, Report.addOk, Report.addWarning,
    Report.addCritical]
  shows_iff _ := by simp [Checking.file, Report.messages_add]

/-- An OK finding shows the characters of its message. -/
theorem ok (message : String) : Shows c (ok message) (c ∈ message.toList) := file .ok message

/-- A warning shows the characters of its message. -/
theorem warning (message : String) : Shows c (warning message) (c ∈ message.toList) :=
  file .warning message

/-- A critical finding shows the characters of its message. -/
theorem critical (message : String) : Shows c (critical message) (c ∈ message.toList) :=
  file .critical message

/-- An evaluation shows the characters of its message. -/
theorem record (e : Evaluation) : Shows c (change (.record e)) (c ∈ e.message.toList) :=
  file e.status e.message

/-- A sequence shows what its parts show. -/
theorem seq {work next : Checking Unit} (h : Shows c work p) (hnext : Shows c next q) :
    Shows c (work >>= fun _ => next) (p ∨ q) where
  additive := h.additive.bind fun _ => hnext.additive
  labels := by
    intro d hd
    cases hwork : work.outcome with
    -- If the first work fails, the next one is not reached and adds nothing.
    | error fault =>
      rw [h.additive.added_bind_error hwork] at hd
      exact h.labels d hd
    | ok _ =>
      rw [h.additive.added_bind_ok (fun _ => hnext.additive) hwork, Report.perf_append,
        List.mem_append] at hd
      exact hd.elim (h.labels d) (hnext.labels d)
  shows_iff := by
    intro hout
    rw [h.additive.outcome_bind fun _ => hnext.additive, bind_eq_ok_iff] at hout
    obtain ⟨_, hwork, hout⟩ := hout
    rw [h.additive.added_bind_ok (fun _ => hnext.additive) hwork]
    simp only [Report.mem_messages_append, or_and_right, exists_or, h.shows_iff hwork,
      hnext.shows_iff hout]

/-- Work with a calculation shows what it shows with the result. -/
theorem obtain_bind {x : Except Fault α} {next : α → Checking Unit} {p : α → Prop}
    (h : ∀ a, x = .ok a → Shows c (next a) (p a)) :
    Shows c (obtain x >>= next) (∃ a, x = .ok a ∧ p a) := by
  cases x with
  | error fault => exact stop fault
  | ok a => exact (h a rfl).congr (by simp)

/-- A branch shows what the side that is taken shows. -/
theorem ite {b : Prop} [Decidable b] {yes no : Checking Unit} (hyes : b → Shows c yes p)
    (hno : ¬b → Shows c no q) : Shows c (if b then yes else no) (b ∧ p ∨ ¬b ∧ q) := by
  by_cases hb : b
  · rw [if_pos hb]
    exact (hyes hb).congr (by simp [hb])
  · rw [if_neg hb]
    exact (hno hb).congr (by simp [hb])

/-- Work under a condition shows what it shows if the condition holds. -/
theorem onlyIf {b : Prop} [Decidable b] {work : Checking Unit} (h : Shows c work p) :
    Shows c (onlyIf b work) (b ∧ p) := (ite (fun _ => h) fun _ => pure).congr (by simp)

/-- A critical finding under a condition shows the characters of its text if the condition holds and
the text can be written. -/
theorem criticalIf {b : Prop} [Decidable b] (text : Except Fault String) :
    Shows c (criticalIf b text) (b ∧ ∃ message, text = .ok message ∧ c ∈ message.toList) :=
  onlyIf (obtain_bind fun message _ => critical message)

/-- A loop over work that shows nothing shows nothing. -/
theorem forM {body : α → Checking PUnit} (h : ∀ a, Shows c (body a) False) (xs : List α) :
    Shows c (xs.forM body) False := by
  induction xs with
  | nil => exact pure
  | cons x xs ih => exact ((h x).seq ih).congr (by simp)

/-- A verdict shows what the work shows, and if nothing critical is found, what its finish shows. -/
theorem unlessCritical {work finish : Checking Unit} (h : Shows c work p)
    (hfinish : Shows c finish q) : Shows c (unlessCritical work finish) (p ∨ Quiet work ∧ q) := by
  have hrest : Shows c (Checking.onlyIf (work.added.criticals = []) finish) _ := onlyIf hfinish
  have hverdict := h.seq hrest
  have hrun (r : Report) := runOn_unlessCritical h.additive finish r
  refine ⟨h.additive.unlessCritical hfinish.additive, ?_, ?_⟩
  · rw [added, hrun]
    exact hverdict.labels
  · rw [outcome, added, hrun]
    intro hout
    refine (hverdict.shows_iff hout).trans (or_congr_right (and_congr_left fun _ => ?_))
    -- The verdict is reached only if the work comes to its end.
    change (work >>= fun _ => Checking.onlyIf _ finish).outcome = _ at hout
    rw [h.additive.outcome_bind fun _ => hrest.additive, bind_eq_ok_iff] at hout
    obtain ⟨_, hwork, -⟩ := hout
    rw [Quiet, and_iff_right hwork]

end Shows

end Checking

namespace Check

open Checking

/-- The message of a judgement is made of the label and of what is shown for the value. -/
theorem inline_message {value warn crit : Value} {p : Policy} {label shown : String}
    {e : Evaluation} (hlabel : Inline label.toList) (hshown : Inline shown.toList)
    (h : Threshold.evaluate value warn crit p label (some shown) = .ok e) :
    Inline e.message.toList := by
  unfold Threshold.evaluate at h
  obtain ⟨valid, -, h⟩ := bind_eq_ok_iff.mp h
  split at h
  · obtain ⟨d, -, h⟩ := bind_eq_ok_iff.mp h
    obtain ⟨text, htext, h⟩ := bind_eq_ok_iff.mp h
    obtain ⟨status, -, h⟩ := bind_eq_ok_iff.mp h
    obtain rfl := Except.ok.inj h
    obtain rfl := Except.ok.inj htext
    simp [hlabel, hshown]
  · obtain rfl := Except.ok.inj h
    have hinvalid : Inline " invalid thresholds".toList := by decide
    simp only [String.toList_append, inline_append, hlabel, hinvalid, and_self]

/-- A span of the configuration in short form is solid. -/
theorem solid_shortSetting {v : Value} {text : String} (h : shortSetting v = .ok text) :
    Solid text.toList := by
  cases v with
  | duration d =>
    obtain rfl := Except.ok.inj h
    exact d.solid_short
  | _ => cases h

/-- A span of the configuration in fields of time is solid. -/
theorem solid_humanizedSetting {v : Value} {text : String} (h : humanizedSetting v = .ok text) :
    Solid text.toList := by
  cases v with
  | duration d =>
    obtain rfl := Except.ok.inj h
    exact d.solid_humanize
  | _ => cases h

variable {c : Char} (hc : isMark c)
include hc

/-- A finding with an inline message shows no mark. -/
theorem shows_silent {work : Checking Unit} {message : String}
    (h : Shows c work (c ∈ message.toList)) (hmessage : Inline message.toList) :
    Shows c work False := h.congr (iff_false_intro (hmessage.not_mem hc))

/-- A critical finding under a condition shows no mark if its text is inline. -/
theorem criticalIf_silent {b : Prop} [Decidable b] {text : Except Fault String}
    (htext : b → ∀ message, text = .ok message → Inline message.toList) :
    Shows c (criticalIf b text) False := by
  refine (Shows.criticalIf text).congr (iff_false_intro ?_)
  rintro ⟨hb, message, hmessage, hmem⟩
  exact (htext hb message hmessage).not_mem hc hmem

/-- Words of its own before a quoted text make no difference. -/
theorem mem_quotation_iff {front text : String} (hfront : Inline front.toList) :
    c ∈ (front ++ text).toList ↔ c ∈ text.toList := by
  rw [String.toList_append, List.mem_append, or_iff_right (hfront.not_mem hc)]

/-! ## Servers -/

/-- A requirement shows no mark if both of its texts are inline. -/
theorem require_shows (required present : Value) {met unmet : String} (hmet : Inline met.toList)
    (hunmet : Inline unmet.toList) : Shows c (require required present met unmet) False := by
  refine (Shows.onlyIf (.ite (fun _ => shows_silent hc (.ok met) hmet)
    fun _ => shows_silent hc (.critical unmet) hunmet)).congr ?_
  simp

/-- A measurement shows no mark if the label of the metric and the display of the value are
inline. -/
theorem Metric.measure_shows {m : Metric} (hkey : Solid m.key.toList)
    (hlabel : Inline m.label.toList) (limits : Limits) (value : Value) {display : String}
    (hdisplay : Inline display.toList) : Shows c (m.measure limits value display) False := by
  refine (Shows.onlyIf ((Shows.measure hkey).seq (.obtain_bind fun e he =>
    .obtain_bind fun _ _ =>
      shows_silent hc (.record e) (inline_message hlabel hdisplay he)))).congr ?_
  simp

omit hc in
/-- The expected target shows nothing: it either files no finding or stops the check. -/
theorem expectServer_shows (t : Config.Vitals) (v : Snapshot.Vitals) :
    Shows c (expectServer t v) False :=
  (Shows.ite (fun _ => .obtain_bind fun _ _ => .stop (p := False) _) fun _ => .pure).congr (by simp)

/-- The measurements of a server show no mark, since they are words of their own, numbers and
times. -/
theorem measureServer_shows (t : Config.Vitals) (v : Snapshot.Vitals) :
    Shows c (measureServer t v) False := by
  have hfixed {places : Nat} {v : Value} {text : String} (h : v.fixed places = .ok text) :
      Inline text.toList := (Value.solid_of_fixed h).inline
  refine ((require_shows hc _ _ (by decide) (by decide)).seq <|
    (require_shows hc _ _ (by decide) (by decide)).seq <|
    (require_shows hc _ _ (by decide) (by decide)).seq <|
    (Metric.measure_shows hc (by decide) (by decide) _ _ v.uptime.solid_humanize.inline).seq <|
    (Metric.measure_shows hc (by decide) (by decide) _ _ (v.cpu.solid_fixed 2).inline).seq <|
    .obtain_bind fun _ hmemory =>
      (Metric.measure_shows hc (by decide) (by decide) _ _ (hfixed hmemory)).seq <|
      .obtain_bind fun _ hconnections =>
        Metric.measure_shows hc (by decide) (by decide) _ _ (hfixed hconnections)).congr ?_
  simp

/-- The check of a server shows no mark. -/
theorem vitals_shows (t : Config.Vitals) (s : Option Snapshot.Vitals) :
    Shows c (vitals t s) False := by
  cases s with
  | none => exact .stop _
  | some v =>
    rw [vitals_some]
    exact ((expectServer_shows t v).seq (measureServer_shows hc t v)).congr (by simp)

/-! ## Accounts -/

/-- The finding on a share shows no mark, since it is a percentage and an inline name. -/
theorem fileShare_shows {name : String} (hname : Inline name.toList) (percent : Int)
    (e : Evaluation) : Shows c (fileShare name percent e) False := by
  have hinvalid : Inline (name ++ ": invalid thresholds").toList := by
    rw [String.toList_append, inline_append]
    exact ⟨hname, by decide⟩
  refine (Shows.ite (fun _ => shows_silent hc (.critical _) hinvalid) fun _ =>
    .obtain_bind fun text htext => shows_silent hc (.file e.status _) ?_).congr ?_
  · have hpercent : Inline "% ".toList := by decide
    simp only [String.toList_append, inline_append, (Value.solid_of_intText htext).inline, hpercent,
      hname, and_self]
  · simp

/-- The findings on a resource of an account show no mark. -/
theorem resource_shows (t : Config.Account) (a : Snapshot.Account) (r : Snapshot.Resource) :
    Shows c (resource t a r) False := by
  have hname : Solid r.name.toList := by cases r <;> decide
  have hpercent : Solid (r.name ++ "_pct").toList := by cases r <;> decide
  have hlimit : Inline (r.name ++ ": exceed server limits").toList := by cases r <;> decide
  rw [resource_eq]
  refine ((Shows.measure hname).seq <| (Shows.measure hpercent).seq <|
    (criticalIf_silent hc ?_).seq <| .onlyIf <| .obtain_bind fun e _ =>
      fileShare_shows hc hname.inline _ e).congr ?_
  · rintro - _ ⟨⟩
    exact hlimit
  · simp

/-- The check of an account shows no mark. -/
theorem account_shows (t : Config.Account) (s : Option Snapshot.Account) :
    Shows c (account t s) False := by
  cases s with
  | none => exact .stop _
  | some a => exact .forM (resource_shows hc t a) _

/-! ## Credentials -/

/-- The finding on an expiry shows no mark, since it is words of its own and a time. -/
theorem fileExpiry_shows (t : Config.Credential) (expiry : Instant) (e : Evaluation) :
    Shows c (fileExpiry t expiry e) False := by
  have hsooner {text : String} (h : Inline text.toList) :
      Inline ("expires sooner than " ++ text).toList := by
    rw [String.toList_append, inline_append]
    exact ⟨by decide, h⟩
  have hexpires : Inline ("expires in " ++ expiry.text).toList := by
    rw [String.toList_append, inline_append]
    exact ⟨by decide, expiry.inline_text⟩
  refine (Shows.ite (q := False) (fun _ => shows_silent hc (.critical _) (by decide))
    fun _ => ?_).congr (by simp)
  split
  · exact (Shows.obtain_bind fun text htext => shows_silent hc (.critical _)
      (hsooner (solid_humanizedSetting htext).inline)).congr (by simp)
  · exact (Shows.obtain_bind fun text htext => shows_silent hc (.warning _)
      (hsooner (solid_humanizedSetting htext).inline)).congr (by simp)
  · exact shows_silent hc (.ok _) hexpires

/-- The check of a credential shows no mark. -/
theorem credential_shows (t : Config.Credential) (clock : Instant)
    (s : Option Snapshot.Credential) : Shows c (credential t clock s) False := by
  rcases s with _ | ⟨_ | expiry⟩
  · exact .stop _
  · exact (Shows.ite (fun _ => shows_silent hc (.critical _) (by decide))
      fun _ => shows_silent hc (.ok _) (by decide)).congr (by simp)
  · have hlabel : Solid "expiry".toList := by decide
    exact ((Shows.measure hlabel).seq <| .obtain_bind fun e _ =>
      fileExpiry_shows hc t expiry e).congr (by simp)

end Check

end Vigil
