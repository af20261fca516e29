import Vigil.Proofs.Check.Shared
import Vigil.Proofs.Number.Numeral
import Vigil.Proofs.Report.Judged
import Vigil.Proofs.Text.Utf8
import Vigil.Proofs.Threshold.Severity
import Vigil.Proofs.Value.Converting
import Vigil.Snapshot.Reading

/-!
# The age of a message

The check of a message reports one finding, whatever bytes the message consists of. A message that
is to tell its own time does so if its text is an integer of seconds in the years 1 to 9999
(`Check.TellsTime`); otherwise nothing is measured and the text is quoted. In all other cases the
age is measured and judged (`Check.ageReport`).

The main statement is `Monitor.run_message`. A message that tells its own time is as old as it
tells, whether its body was given as an integer, a text or bytes, and the time when it was stored
makes no difference; for any other message it is the body that makes none.
-/

namespace Vigil

namespace Check

open Checking

variable {t : Config.Message} {warn crit : Option Duration} {stream subject : String}

/-! ## The finding about an age -/

/-- What is measured of an age. -/
def ageDatum (t : Config.Message) (age : Duration) : Perf.Datum where
  label := "age"
  value := .duration age
  unit := .seconds
  warn := t.age.warning
  crit := t.age.critical

/-- The finding about a message of some age. -/
def ageFinding (warn crit : Option Duration) (stream subject : String) (age : Duration) :
    Status × String :=
  if Policy.ascending.Suits warn crit then
    match Threshold.grade .up warn crit age with
    | .ok => (.ok, "Valid message on " ++ stream ++ " > " ++ subject)
    | severity => (severity, "Message age " ++ age.humanize)
  else (.critical, "message: invalid thresholds")

/-- An age that is judged is filed with its severity. -/
theorem fileAge_adds (hstream : t.stream.text = .ok stream)
    (hsubject : t.subject.text = .ok subject) (hsuits : Policy.ascending.Suits warn crit)
    (age : Duration) :
    Adds (fileAge t ⟨Threshold.grade .up warn crit age, "Message age " ++ age.humanize, true⟩)
      (.judged [] (ageFinding warn crit stream subject age)) := by
  unfold ageFinding
  rw [if_pos hsuits]
  cases hgrade : Threshold.grade .up warn crit age with
  | ok => exact .obtain_bind hstream (.obtain_bind hsubject (.ok _))
  | _ => exact .judged _ _

/-- The check of an age measures it and files one finding. -/
theorem aged_adds (hage : t.age = ⟨Gauge.span.bound warn, Gauge.span.bound crit⟩)
    (hstream : t.stream.text = .ok stream) (hsubject : t.subject.text = .ok subject)
    (age : Duration) :
    Adds (aged t age) (.judged [ageDatum t age] (ageFinding warn crit stream subject age)) := by
  have hjudged : evaluateAge t age = _ :=
    Threshold.evaluate_limits Gauge.span hage age .ascending "Message age" (some age.humanize)
  rw [aged_eq]
  refine .measure_judged (ageDatum t age) ?_
  by_cases hsuits : Policy.ascending.Suits warn crit
  · rw [if_pos hsuits] at hjudged
    exact .obtain_bind hjudged (fileAge_adds hstream hsubject hsuits age)
  · unfold ageFinding
    rw [if_neg hsuits] at hjudged ⊢
    exact .obtain_bind hjudged (.critical _)

/-! ## The time that a text tells -/

/-- A text tells a time: it is an integer of seconds since 1970 in the calendar. -/
def TellsTime (body : String) (n : ℤ) : Prop :=
  Literal.readInt body.toList = .ok n ∧ Instant.InCalendar (n * 1000000)

/-- A body that is an integer tells the time of so many seconds since 1970. -/
theorem instantOfBody?_of_readInt {body : String} {n : ℤ}
    (h : Literal.readInt body.toList = .ok n) :
    instantOfBody? body = (Instant.ofUnix n 0).toOption := by
  have hint : (Value.str body).toInt = .ok n := by
    rw [Value.toInt, h]
    rfl
  unfold instantOfBody?
  rw [hint]

/-- A body that tells a time is the instant of its seconds. -/
theorem exists_instantOfBody? {body : String} {n : ℤ} (h : TellsTime body n) :
    ∃ instant, instantOfBody? body = some instant ∧
      (instant.micros : ℤ) = Instant.epoch + n * 1000000 := by
  obtain ⟨instant, hinstant, hmicros⟩ := Instant.exists_ofUnix h.2
  refine ⟨instant, ?_, hmicros⟩
  rw [instantOfBody?_of_readInt h.1, hinstant]
  rfl

/-- A body that tells no time has no instant. -/
theorem instantOfBody?_eq_none {body : String} (h : ∀ n, ¬TellsTime body n) :
    instantOfBody? body = none := by
  cases hread : Literal.readInt body.toList with
  | error fault =>
    have hint : Stops (Value.str body).toInt := by
      simp [Value.stops_toInt, Value.IsWhole, hread]
    obtain ⟨fault, hfault⟩ := hint
    unfold instantOfBody?
    rw [hfault]
  | ok n =>
    have hstops : Stops (Instant.ofUnix n 0) := by
      rw [Instant.stops_ofUnix n (by decide)]
      simpa using fun hcalendar => h n ⟨hread, hcalendar⟩
    obtain ⟨fault, hfault⟩ := hstops
    rw [instantOfBody?_of_readInt hread, hfault]
    rfl

/-- A time in the calendar has few enough digits to be written. -/
theorem writable_of_inCalendar {n : ℤ} (h : Instant.InCalendar (n * 1000000)) :
    (Value.int n).writable := by
  obtain ⟨hlow, hhigh⟩ := h
  exact Value.writable_of_lt_pow (show n.natAbs < 10 ^ 12 by omega) (by decide)

/-- The seconds that a text tells in digits. -/
theorem tellsTime_ofInt {n : ℤ} (h : Instant.InCalendar (n * 1000000)) :
    TellsTime (Text.trimmed (Decimal.ofInt n)) n := by
  refine ⟨?_, h⟩
  rw [Text.trimmed, String.toList_ofList, (Literal.plainText_ofInt n).trim]
  exact Literal.readInt_ofInt (by simpa [Value.writable] using writable_of_inCalendar h)

/-! ## What the check reports -/

/-- The age that the check of a message judges, if the message has one. -/
def ageOf? (t : Config.Message) (clock : Instant) (m : Snapshot.Message) : Option Duration :=
  if t.bodyAsTimestamp.truthy then
    match bodyText m.body with
    | .ok body => (instantOfBody? body).map (clock - ·)
    | .error _ => none
  else some (clock - m.published)

section

variable {clock : Instant} {m : Snapshot.Message}

/-- A message that tells its time is as old as its body says. -/
theorem ageOf?_of_selfTimed (h : t.bodyAsTimestamp.truthy) {body : String}
    (hbody : bodyText m.body = .ok body) :
    ageOf? t clock m = (instantOfBody? body).map (clock - ·) := by
  simp [ageOf?, h, hbody]

/-- A message that is timed by its stream is as old as its publication. -/
theorem ageOf?_of_published (h : ¬t.bodyAsTimestamp.truthy) (clock : Instant)
    (m : Snapshot.Message) : ageOf? t clock m = some (clock - m.published) := by
  simp [ageOf?, h]

/-- A message has no age if it is to tell its own time and does not. -/
theorem ageOf?_eq_none_iff {body : String} (hbody : bodyText m.body = .ok body) :
    ageOf? t clock m = none ↔ t.bodyAsTimestamp.truthy ∧ ∀ n, ¬TellsTime body n := by
  by_cases hself : t.bodyAsTimestamp.truthy
  · rw [ageOf?_of_selfTimed hself hbody, Option.map_eq_none_iff, and_iff_right hself]
    refine ⟨fun hnone n htells => ?_, instantOfBody?_eq_none⟩
    obtain ⟨instant, hinstant, -⟩ := exists_instantOfBody? htells
    rw [hnone] at hinstant
    contradiction
  · rw [ageOf?_of_published hself]
    simp [hself]

/-- A message that tells its own time is as old as it tells. -/
theorem exists_ageOf? (hself : t.bodyAsTimestamp.truthy) {body : String}
    (hbody : bodyText m.body = .ok body) {n : ℤ} (h : TellsTime body n) :
    ∃ age : Duration, ageOf? t clock m = some age ∧
      age.micros = clock.micros - (Instant.epoch + n * 1000000) := by
  obtain ⟨instant, hinstant, hmicros⟩ := exists_instantOfBody? h
  refine ⟨clock - instant, ?_, ?_⟩
  · rw [ageOf?_of_selfTimed hself hbody, hinstant]
    rfl
  · rw [← hmicros]
    rfl

end

/-- What is reported about a message of some age, or of none. -/
def ageReport (t : Config.Message) (warn crit : Option Duration) (stream subject body : String) :
    Option Duration → Report
  | some age => .judged [ageDatum t age] (ageFinding warn crit stream subject age)
  | none => .judged [] (.critical, "invalid timestamp body: " ++ body)

/-- The text of bytes, without white space around it. -/
def textOf (content : List UInt8) : String := Text.trimmed (Text.Utf8.decodeLossy content)

/-- A message that should tell its time is judged by its body. -/
theorem message_of_told (hself : t.bodyAsTimestamp.truthy) (clock : Instant)
    (m : Snapshot.Message) : message t clock (some m) = selfTimed t clock m := if_pos hself

/-- A message that is timed by its stream is judged by its publication. -/
theorem message_of_stored (hstored : ¬t.bodyAsTimestamp.truthy) (clock : Instant)
    (m : Snapshot.Message) : message t clock (some m) = aged t (clock - m.published) :=
  if_neg hstored

/-- When a message was stored makes no difference if it is to tell its own time. -/
theorem message_eq_of_body (hself : t.bodyAsTimestamp.truthy) (clock : Instant)
    {m m' : Snapshot.Message} (h : m.body = m'.body) :
    message t clock (some m) = message t clock (some m') := by
  rw [message_of_told hself, message_of_told hself, selfTimed, selfTimed, h]

/-- Otherwise its body makes none. -/
theorem message_eq_of_published (hstored : ¬t.bodyAsTimestamp.truthy) (clock : Instant)
    {m m' : Snapshot.Message} (h : m.published = m'.published) :
    message t clock (some m) = message t clock (some m') := by
  rw [message_of_stored hstored, message_of_stored hstored, h]

/-- The text of a body of bytes is what they decode to. -/
theorem bodyText_of_bytes {v : Value} {content : List UInt8} (h : v = .bytes content) :
    bodyText v = .ok (textOf content) := by
  rw [h]
  rfl

/-- The check of a message whose body is bytes adds one report. -/
theorem message_adds (hage : t.age = ⟨Gauge.span.bound warn, Gauge.span.bound crit⟩)
    (hstream : t.stream.text = .ok stream) (hsubject : t.subject.text = .ok subject)
    (clock : Instant) {m : Snapshot.Message} {content : List UInt8}
    (hbody : m.body = .bytes content) :
    Adds (message t clock (some m))
      (ageReport t warn crit stream subject (textOf content) (ageOf? t clock m)) := by
  have htext := bodyText_of_bytes hbody
  by_cases hself : t.bodyAsTimestamp.truthy
  · rw [message_of_told hself, ageOf?_of_selfTimed hself htext, selfTimed_of_body htext]
    cases instantOfBody? (textOf content) with
    | none => exact .critical _
    | some instant => exact aged_adds hage hstream hsubject _
  · rw [message_of_stored hself, ageOf?_of_published hself]
    exact aged_adds hage hstream hsubject _

/-! ## Bodies of snapshots -/

/-- A body is given as an integer, or as the digits of one in a text or in bytes. -/
def Spells (v : Value) (n : ℤ) : Prop :=
  v = .int n ∨ v = .str (Decimal.ofInt n) ∨ v = .bytes (Text.Utf8.encode (Decimal.ofInt n))

/-- However seconds are given, the message that is read tells them. -/
theorem exists_content_of_ofData {present : Instant} {data v : Value} {m : Snapshot.Message} {n : ℤ}
    (hdata : data.getD "data" (.bytes []) = .ok v) (hspells : Spells v n)
    (hcalendar : Instant.InCalendar (n * 1000000))
    (hm : Snapshot.Message.ofData present data = .ok m) :
    ∃ content, m.body = .bytes content ∧ TellsTime (textOf content) n := by
  have hbodyOf : Snapshot.bodyOf v = .ok (.bytes (Text.Utf8.encode (Decimal.ofInt n))) := by
    rcases hspells with rfl | rfl | rfl
    · rw [Snapshot.bodyOf, Value.intText_of_writable (writable_of_inCalendar hcalendar)]
      rfl
    · rfl
    · rfl
  -- The body is the first thing that is read of a message.
  obtain ⟨given, hgiven, hm⟩ := bind_eq_ok_iff.mp hm
  obtain ⟨body, hbody, hm⟩ := bind_eq_ok_iff.mp hm
  obtain ⟨_, -, hm⟩ := bind_eq_ok_iff.mp hm
  obtain ⟨_, -, hm⟩ := bind_eq_ok_iff.mp hm
  obtain rfl := Except.ok.inj (hdata.symm.trans hgiven)
  obtain rfl := Except.ok.inj (hbodyOf.symm.trans hbody)
  obtain rfl := Except.ok.inj hm
  refine ⟨Text.Utf8.encode (Decimal.ofInt n), rfl, ?_⟩
  rw [textOf, Text.Utf8.decodeLossy_encode]
  exact tellsTime_ofInt hcalendar

end Check

namespace Monitor

open Check

/-- What is reported about a message whose body is bytes, if the thresholds of its age are spans,
set in whatever order or not at all, and the stream and the subject can be told. The check comes to
its end with one finding. It measures the age, unless the message is to tell its own time and its
text, without white space around it, is no integer of seconds in the years 1 to 9999; the finding is
critical then and quotes the text. An age that is measured is judged against the thresholds.

A message that tells its own time is as old as it tells, whether the snapshot gave the seconds as an
integer, a text or bytes. When it was stored makes no difference to its check, and the body makes
none to that of any other message. -/
theorem run_message {config : Config} {warn crit : Option Duration} {stream subject : String}
    (hage : config.message.age = ⟨Gauge.span.bound warn, Gauge.span.bound crit⟩)
    (hstream : config.message.stream.text = .ok stream)
    (hsubject : config.message.subject.text = .ok subject) (clock : Instant) :
    let t := config.message
    let after (m : Snapshot.Message) := run .message config clock (some m)
    (∀ (m : Snapshot.Message) (content : List UInt8), m.body = .bytes content →
      (after m).1 = .ok () ∧ (∃ message, (after m).2.messages = [message]) ∧
      ((after m).2.perf = [] ↔
        t.bodyAsTimestamp.truthy ∧ ∀ n, ¬TellsTime (textOf content) n) ∧
      ((after m).2.perf = [] →
        (after m).2.criticals = ["invalid timestamp body: " ++ textOf content]) ∧
      ((after m).2.perf ≠ [] → ∃ age, (after m).2.perf = [ageDatum t age] ∧ (after m).2 =
        { Report.judged [ageDatum t age] (ageFinding warn crit stream subject age) with
          check := "message" })) ∧
    (t.bodyAsTimestamp.truthy →
      (∀ m m' : Snapshot.Message, m.body = m'.body → after m = after m') ∧
      ∀ (present : Instant) (data v : Value) (m : Snapshot.Message) (n : ℤ),
        data.getD "data" (.bytes []) = .ok v → Spells v n → Instant.InCalendar (n * 1000000) →
        Snapshot.Message.ofData present data = .ok m →
        ∃ age : Duration, (after m).2.perf = [ageDatum t age] ∧
          age.micros = clock.micros - (Instant.epoch + n * 1000000)) ∧
    (¬t.bodyAsTimestamp.truthy →
      (∀ m m' : Snapshot.Message, m.published = m'.published → after m = after m') ∧
      ∀ m : Snapshot.Message, (after m).2.perf = [ageDatum t (clock - m.published)]) := by
  intro t after
  -- Of the snapshot, only the body and the publication are looked at, and only one of the two for
  -- the age. So everything follows from what the work itself is.
  have hbytes {m : Snapshot.Message} {content : List UInt8} (hbody : m.body = .bytes content) :
      after m = (.ok (), { ageReport t warn crit stream subject (textOf content)
        (ageOf? t clock m) with check := Kind.message.name }) :=
    run_of_adds (message_adds hage hstream hsubject clock hbody)
  have hwork {m m' : Snapshot.Message}
      (h : message t clock (some m) = message t clock (some m')) : after m = after m' :=
    congrArg (fun work => work.runOn { check := Kind.message.name }) h
  refine ⟨fun m content hbody => ?_,
    fun hself => ⟨fun m m' hbody => hwork (message_eq_of_body hself clock hbody), ?_⟩,
    fun hstored => ⟨fun m m' hpublished => hwork (message_eq_of_published hstored clock hpublished),
      ?_⟩⟩
  -- Whether there are performance data is whether the body tells a time.
  · rw [hbytes hbody, ← ageOf?_eq_none_iff (bodyText_of_bytes hbody)]
    cases ageOf? t clock m with
    | none => exact ⟨rfl, ⟨_, rfl⟩, iff_of_true rfl rfl, fun _ => rfl, fun h => absurd rfl h⟩
    | some age =>
      have hperf := Report.perf_judged [ageDatum t age] (ageFinding warn crit stream subject age)
      have hne : (Report.judged [ageDatum t age] (ageFinding warn crit stream subject age)).perf ≠
          [] := by simp
      exact ⟨rfl, ⟨_, Report.messages_judged _ _⟩, iff_of_false hne (by simp),
        fun h => absurd h hne, fun _ => ⟨age, hperf, rfl⟩⟩
  · intro present data v m n hdata hspells hcalendar hm
    obtain ⟨content, hbody, htells⟩ := exists_content_of_ofData hdata hspells hcalendar hm
    obtain ⟨age, hageOf, hmicros⟩ := exists_ageOf? hself (bodyText_of_bytes hbody) htells
    refine ⟨age, ?_, hmicros⟩
    rw [hbytes hbody, hageOf]
    exact Report.perf_judged _ _
  · intro m
    have hadds := aged_adds hage hstream hsubject (clock - m.published)
    rw [← message_of_stored hstored clock m] at hadds
    have hrun : after m = _ := run_of_adds hadds
    rw [hrun]
    exact Report.perf_judged _ _

/-- Fifty seconds after 1970 began, a message that tells the fifth second, and one whose bytes are
no text. -/
theorem run_message_fifth_second :
    let config : Config := {
      message := {
        stream := .str "ORDERS", subject := .str "status", bodyAsTimestamp := .bool true
        age := ⟨.null, .duration (.seconds 60)⟩ } }
    let clock : Instant := ⟨Instant.epoch + 50000000, by decide⟩
    let after (m : Snapshot.Message) := run .message config clock (some m)
    let data : Value := .map [(.str "data", .int 5)]
    (∃ m, Snapshot.Message.ofData clock data = .ok m ∧ (after m).1 = .ok () ∧
      ∃ age : Duration, (after m).2.perf = [ageDatum config.message age] ∧ age.micros = 45000000) ∧
    (after ⟨.str "status", .bytes [0xFF, 0x35], clock⟩).2.criticals =
      ["invalid timestamp body: \uFFFD5"] := by
  intro config clock after data
  obtain ⟨hbytes, htold, -⟩ :=
    @run_message config none (some (.seconds 60)) "ORDERS" "status" rfl rfl rfl clock
  constructor
  · obtain ⟨age, hperf, hmicros⟩ :=
      (htold rfl).2 clock data (.int 5) _ 5 rfl (.inl rfl) (by decide) rfl
    exact ⟨_, rfl, (hbytes _ _ rfl).1, age, hperf, hmicros.trans (by decide)⟩
  · have htext : textOf [0xFF, 0x35] = "\uFFFD5" := by decide
    have huntold (n : ℤ) : ¬TellsTime (textOf [0xFF, 0x35]) n := by
      rintro ⟨hread, -⟩
      rw [htext] at hread
      cases hread
    obtain ⟨-, -, hunmeasured, hquoted, -⟩ :=
      hbytes ⟨.str "status", .bytes [0xFF, 0x35], clock⟩ _ rfl
    have hcriticals := hquoted (hunmeasured.mpr ⟨rfl, huntold⟩)
    rw [htext] at hcriticals
    exact hcriticals

end Monitor

end Vigil
