import Vigil.Command
import Vigil.Proofs.Check.Quoting

/-!
# The line of a check

The program writes one line of what a check has found, and a monitoring system takes what follows
its first bar for performance data. Names of servers, texts of messages and words of faults go into
the findings as they are (`Command.Cites`), so it depends on them whether the line is one and the
performance data is found (`Command.reportOf_line`).
-/

namespace Vigil

open Text

/-- The name of the check and what it measured stand in a report without marks, and a mark in a
finding is one of a cited text. -/
structure Report.ShowsOnly (r : Report) (cited : String → Prop) : Prop where
  check : Inline r.check.toList
  labels : ∀ d ∈ r.perf, Solid d.label.toList
  marks : ∀ c, isMark c →
    ((∃ m ∈ r.messages, c ∈ m.toList) ↔ ∃ text, cited text ∧ c ∈ text.toList)

/-- The name of a check is inline. -/
theorem Kind.inline_name (k : Kind) : Inline k.name.toList := by cases k <;> decide

namespace Command

variable {k : Kind} {config : Config} {clock : Instant}

/-- The report of a check cites a text: one that the check quotes, or if there is nothing to check,
the words that say why. -/
def Cites (k : Kind) (config : Config) (clock : Instant) :
    Except Stop (Option k.Snapshot) → String → Prop
  | .ok snapshot, text => k.Quotes (config.settings k) clock snapshot text
  | .error (.fault fault), text => text = fault.message
  | .error (.misuse _), _ => False

/-- A fault is reported exactly if it is a finding, and then as a failure with its message. -/
theorem faultReport_ok_iff {fault : Fault} {r : Report} :
    faultReport k fault = .ok r ↔ fault.isFinding ∧ Report.failure k.name fault.message = r := by
  unfold faultReport
  split <;> simp_all

/-- With a snapshot, the report is the one of the check, or the one of the fault that stops it. -/
theorem reportOf_snapshot (snapshot : Option k.Snapshot) :
    reportOf k config clock (.ok snapshot) = match Monitor.run k config clock snapshot with
      | (.ok _, r) => .ok r
      | (.error fault, _) => faultReport k fault := rfl

/-- A report of failure shows what its message shows. -/
theorem showsOnly_failure {message : String} {cited : String → Prop}
    (h : ∀ c, isMark c → (c ∈ message.toList ↔ ∃ text, cited text ∧ c ∈ text.toList)) :
    (Report.failure k.name message).ShowsOnly cited where
  check := k.inline_name
  labels := by simp [Report.failure, Report.addCritical]
  marks c hc := by simpa [Report.failure, Report.addCritical, Report.messages] using h c hc

/-- What a check shows, its report shows. -/
theorem showsOnly_run {snapshot : Option k.Snapshot} {r : Report}
    (h : Monitor.run k config clock snapshot = (.ok (), r)) :
    r.ShowsOnly (k.Quotes (config.settings k) clock snapshot) := by
  obtain ⟨hout, rfl⟩ := Prod.mk.inj ((Monitor.run_eq k config clock snapshot).symm.trans h)
  have hshows {c : Char} (hc : isMark c) := k.check_shows hc (config.settings k) clock snapshot
  exact ⟨k.inline_name, (hshows (show isMark '|' by decide)).labels,
    fun c hc => (hshows hc).shows_iff hout⟩

/-- A report shows what it cites. -/
theorem showsOnly_reportOf {found : Except Stop (Option k.Snapshot)} {r : Report}
    (h : reportOf k config clock found = .ok r) : r.ShowsOnly (Cites k config clock found) := by
  rcases found with (cause | fault) | snapshot
  · cases h
  · obtain ⟨-, rfl⟩ := faultReport_ok_iff.mp h
    exact showsOnly_failure fun c hc => by simp [Cites]
  · cases hrun : Monitor.run k config clock snapshot with
    | mk outcome added =>
      rw [reportOf_snapshot, hrun] at h
      cases outcome with
      | ok _ =>
        obtain rfl : added = r := Except.ok.inj h
        exact showsOnly_run hrun
      | error fault =>
        -- What the check has added is dropped, and the fault is the only finding.
        obtain ⟨hfinding, rfl⟩ := faultReport_ok_iff.mp h
        have hfault := (Prod.mk.inj ((Monitor.run_eq k config clock snapshot).symm.trans hrun)).1
        exact showsOnly_failure fun c hc => k.mem_refusal_iff hc _ clock snapshot hfault hfinding

/-- The line of a report is there exactly if all that was measured can be written. It is broken
exactly if a cited text is, and what follows its first bar is the performance data exactly if no
cited text holds a bar. -/
theorem reportOf_line {found : Except Stop (Option k.Snapshot)} {r : Report}
    (h : reportOf k config clock found = .ok r) :
    ((∃ line, r.line = .ok line) ↔ ∀ d ∈ r.perf, ¬Stops d.text) ∧
      ∀ line, r.line = .ok line → ∃ perf, r.perfLine = .ok perf ∧
        ((∃ c ∈ line.toList, isBreak c) ↔
          ∃ text, Cites k config clock found text ∧ ∃ c ∈ text.toList, isBreak c) ∧
        (Report.perfPart? line = (if perf = "" then none else some perf) ↔
          ∀ text, Cites k config clock found text → '|' ∉ text.toList) := by
  have hshows := showsOnly_reportOf h
  refine ⟨Report.exists_line_iff, fun line hline => ?_⟩
  -- Breaks and bars are marks, so the findings have them from cited texts.
  obtain ⟨perf, hperf, -⟩ := Report.line_ok_iff.mp hline
  refine ⟨perf, hperf, ?_, ?_⟩
  · constructor
    · rintro ⟨c, hmem, hc⟩
      have hmark : isMark c := by simp [isMark, hc]
      rw [Report.mem_line_iff hshows.check hshows.labels hline hc, hshows.marks c hmark] at hmem
      obtain ⟨text, hcites, hmem⟩ := hmem
      exact ⟨text, hcites, c, hmem, hc⟩
    · rintro ⟨text, hcites, c, hmem, hc⟩
      have hmark : isMark c := by simp [isMark, hc]
      refine ⟨c, ?_, hc⟩
      rw [Report.mem_line_iff hshows.check hshows.labels hline hc, hshows.marks c hmark]
      exact ⟨text, hcites, hmem⟩
  · rw [Report.perfPart?_line_iff hshows.check hshows.labels hline hperf]
    have hbars := not_congr (hshows.marks '|' (by decide))
    push Not at hbars
    exact hbars

/-- A message that should tell its time and tells something on two lines breaks the line. -/
theorem reportOf_line_two_lines :
    let config : Config := { message := { bodyAsTimestamp := .bool true } }
    let clock : Instant := ⟨Instant.epoch, by decide⟩
    let body : Value := .bytes ("down\nagain".toList.map fun c => c.toNat.toUInt8)
    let m : Snapshot.Message := ⟨.str "status", body, clock⟩
    ∃ r line, reportOf .message config clock (.ok (some m)) = .ok r ∧ r.line = .ok line ∧
      ∃ c ∈ line.toList, isBreak c := by
  intro config clock body m
  have hbody : Check.bodyText body = .ok "down\nagain" := by
    have hchars : Utf8.decodeLossyFrom 10 ("down\nagain".toList.map fun c => c.toNat.toUInt8) =
        "down\nagain".toList := by decide +kernel
    have htext : Utf8.decodeLossy ("down\nagain".toList.map fun c => c.toNat.toUInt8) =
        "down\nagain" := congrArg String.ofList hchars
    exact congrArg (Except.ok ∘ trimmed) htext
  have hcheck : Kind.message.check (config.settings .message) clock (some m) =
      Checking.critical "invalid timestamp body: down\nagain" := by
    change Check.selfTimed config.message clock m = _
    rw [Check.selfTimed, hbody]
    rfl
  have hreport : reportOf .message config clock (.ok (some m)) =
      .ok (Report.failure "message" "invalid timestamp body: down\nagain") := by
    rw [reportOf_snapshot, Monitor.run_eq, hcheck]
    rfl
  obtain ⟨hexists, hlines⟩ := reportOf_line hreport
  obtain ⟨line, hline⟩ := hexists.mpr (by simp [Report.failure, Report.addCritical])
  obtain ⟨_, -, hbroken, -⟩ := hlines line hline
  have hcites : Cites .message config clock (.ok (some m)) "down\nagain" :=
    ⟨m, rfl, .body rfl hbody rfl⟩
  exact ⟨_, line, hreport, hline, hbroken.mpr ⟨_, hcites, '\n', by decide, by decide⟩⟩

end Command

end Vigil
