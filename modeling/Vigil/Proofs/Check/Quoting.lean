import Vigil.Proofs.Check.Age
import Vigil.Proofs.Check.Crashes
import Vigil.Proofs.Check.Showing

/-!
# What checks quote

Three checks write texts into their findings that are not their own. That of a server quotes its
name, if it is another one than expected (`Check.ServerQuotes`). That of a cluster quotes the
expected number of servers, which may be any value, and the name of the leader
(`Check.ClusterQuotes`). That of a message quotes its body, and the stream and the subject of the
settings (`Check.MessageQuotes`).

A mark in a finding of a check is always one of a quoted text, whether the check comes to its end
(`Kind.check_shows`) or stops with a finding (`Kind.mem_refusal_iff`).
-/

namespace Vigil

open Text

namespace Check

open Checking

/-! ## Servers -/

/-- The check of a server quotes its name, if it is another one than expected. -/
def ServerQuotes (t : Config.Vitals) (v : Snapshot.Vitals) (text : String) : Prop :=
  isOther t v ∧ v.name.text = .ok text

/-- The check of a server that is another one is over with its name. -/
theorem outcome_vitals_some (t : Config.Vitals) (v : Snapshot.Vitals) :
    (vitals t (some v)).outcome =
      if isOther t v then v.name.text >>= fun name => .error (.wrongTarget name)
      else (measureServer t v).outcome := by
  have hmeasure := (measureServer_plain t v).additive
  rw [vitals_some, (expectServer_additive t v).outcome_bind fun _ => hmeasure, expectServer_outcome]
  split
  · cases v.name.text <;> rfl
  · rfl

/-- A check of a server that comes to its end quotes nothing. -/
theorem not_serverQuotes_of_outcome {t : Config.Vitals} {v : Snapshot.Vitals}
    (h : (vitals t (some v)).outcome = .ok ()) (text : String) : ¬ServerQuotes t v text := by
  rintro ⟨hother, htext⟩
  rw [outcome_vitals_some, if_pos hother, htext] at h
  cases h

/-- A check of a server that stops with a finding has found another server, and quotes its name. -/
theorem exists_serverQuotes_of_outcome {t : Config.Vitals} {v : Snapshot.Vitals} {fault : Fault}
    (h : (vitals t (some v)).outcome = .error fault) (hfinding : fault.isFinding) :
    ∃ name, fault = .wrongTarget name ∧ ServerQuotes t v name := by
  rw [outcome_vitals_some] at h
  split at h
  next hother =>
    rcases bind_eq_error_iff.mp h with htext | ⟨name, htext, h⟩
    · exact absurd htext (v.name.text_failsWith.ne_finding hfinding)
    · exact ⟨name, (Except.error.inj h).symm, hother, htext⟩
  next => exact absurd h ((measureServer_plain t v).failsWith.ne_finding hfinding)

/-- The findings of a server show the marks of what is quoted, of which there is nothing once the
check comes to its end. -/
theorem vitals_quotes {c : Char} (hc : isMark c) (t : Config.Vitals) (s : Option Snapshot.Vitals) :
    Shows c (vitals t s) (∃ text, (∃ v ∈ s, ServerQuotes t v text) ∧ c ∈ text.toList) where
  additive := (vitals_shows hc t s).additive
  labels := (vitals_shows hc t s).labels
  shows_iff hout := by
    refine ((vitals_shows hc t s).shows_iff hout).trans (iff_of_false id ?_)
    rintro ⟨text, ⟨v, rfl, hquotes⟩, -⟩
    exact not_serverQuotes_of_outcome hout text hquotes

/-- The refusal of another server shows the marks of its name. -/
theorem mem_message_wrongTarget_iff {c : Char} (hc : isMark c) {name : String} :
    c ∈ (Fault.wrongTarget name).message.toList ↔ c ∈ name.toList := by
  have hfront : Inline "result from ".toList := by decide
  exact mem_quotation_iff hc hfront

/-! ## Clusters -/

/-- The check of a cluster quotes a text. -/
inductive ClusterQuotes (t : Config.Cluster) (cluster : Snapshot.Cluster) : String → Prop
  /-- The expected number of servers, if there is another number of them. -/
  | expected {text : String} (led : cluster.leader.truthy) (unexpected : isUnexpected t cluster)
      (h : t.expectedPeers.text = .ok text) : ClusterQuotes t cluster text
  /-- The name of the leader, if the number is right and no replica has a fault. -/
  | leader {text : String} (led : cluster.leader.truthy) (expected : ¬isUnexpected t cluster)
      (inOrder : countPeers t cluster.replicas = .ok {}) (h : cluster.leader.text = .ok text) :
      ClusterQuotes t cluster text

variable {t : Config.Cluster}

/-- What an integer can be compared with is a number, and written as one. -/
theorem solid_text_of_gt {n : Int} {v : Value} {above : Bool} (h : (Value.int n).gt v = .ok above)
    {text : String} (htext : v.text = .ok text) : Solid text.toList := by
  cases v with
  | bool b =>
    obtain rfl := Except.ok.inj htext
    cases b <;> decide
  | int m => exact Value.solid_of_intText htext
  | float x =>
    obtain rfl := Except.ok.inj htext
    exact x.solid_shortest
  | _ => cases h

/-- Replicas are counted as lagging only if they have been compared with the limit. -/
theorem exists_gt_of_foldlM {peers : List Snapshot.Peer} {before counts : PeerCounts}
    (h : peers.foldlM (PeerCounts.add t) before = .ok counts)
    (hlag : before.lagged < counts.lagged) :
    ∃ n above, (Value.int n).gt t.lagCritical = .ok above := by
  -- Whatever comes of the first replica, it has been compared.
  cases peers with
  | nil =>
    obtain rfl := Except.ok.inj h
    omega
  | cons p peers =>
    rw [List.foldlM_cons] at h
    obtain ⟨after, hafter, -⟩ := bind_eq_ok_iff.mp h
    obtain ⟨_, -, hafter⟩ := bind_eq_ok_iff.mp hafter
    obtain ⟨above, habove, -⟩ := bind_eq_ok_iff.mp hafter
    exact ⟨p.lag, above, habove⟩

/-- Nothing critical is found about a cluster exactly if the number of servers is right and no
replica has a fault. -/
theorem quiet_inspect_iff (cluster : Snapshot.Cluster) :
    Quiet (inspect t cluster) ↔
      ¬isUnexpected t cluster ∧ countPeers t cluster.replicas = .ok {} := by
  have hunexpected : Quiet (expectPeers t cluster.peerCount) ↔ ¬isUnexpected t cluster := by
    rw [expectPeers_eq]
    exact quiet_criticalIf
  have hrest (counts : PeerCounts) :
      Quiet (measurePeers t cluster.peerCount counts >>= fun _ => filePeers t counts) ↔
        -- The counters are natural numbers, so that nothing is counted is that each is zero.
        counts = {} := by
    have hmeasure : Quiet (measurePeers t cluster.peerCount counts) := ⟨rfl, rfl⟩
    rw [(measurePeers_plain t _ counts).additive.quiet_seq (filePeers_plain t counts).additive,
      and_iff_right hmeasure, quiet_filePeers]
    obtain ⟨offline, notCurrent, inactive, lagged⟩ := counts
    simp only [PeerCounts.mk.injEq]
    omega
  unfold inspect
  rw [(expectPeers_plain t _).additive.quiet_seq ((Additive.obtain _).bind fun counts =>
      ((measurePeers_plain t _ counts).bind fun _ => filePeers_plain t counts).additive),
    hunexpected, quiet_obtain_bind]
  simp [hrest]

section Mark

variable {c : Char} (hc : isMark c)
include hc

/-- The comparison of the number of replicas shows the marks of the expected number. -/
theorem expectPeers_shows (cluster : Snapshot.Cluster) :
    Shows c (expectPeers t cluster.peerCount) (isUnexpected t cluster ∧
      ∃ text, t.expectedPeers.text = .ok text ∧ c ∈ text.toList) := by
  have hwording : Inline (toString cluster.peerCount ++ " peers of expected ").toList := by
    rw [String.toList_append, inline_append]
    exact ⟨(Decimal.solid_toString _).inline, by decide⟩
  rw [expectPeers_eq]
  refine (Shows.criticalIf _).congr (and_congr_right fun _ => ?_)
  simp only [map_eq_ok_iff, ← exists_and_right, and_assoc]
  rw [exists_comm]
  refine exists_congr fun text => ?_
  simp only [exists_and_left, exists_eq_left', mem_quotation_iff hc hwording]

/-- The findings on the replicas show no mark if the limit of the lag is solid where it is shown. -/
theorem filePeers_shows {counts : PeerCounts}
    (hlag : 0 < counts.lagged → ∀ text, t.lagCritical.text = .ok text → Solid text.toList) :
    Shows c (filePeers t counts) False := by
  -- A count is digits only, so what follows it decides.
  have hcount (n : Nat) {rest : String} (h : Inline rest.toList) :
      Inline (toString n ++ rest).toList := by
    rw [String.toList_append, inline_append]
    exact ⟨(Decimal.solid_toString n).inline, h⟩
  rw [filePeers_eq]
  refine ((criticalIf_silent hc ?_).seq <| (criticalIf_silent hc ?_).seq <|
    (criticalIf_silent hc ?_).seq <| criticalIf_silent hc ?_).congr (by simp)
  · rintro - _ ⟨⟩
    exact hcount _ (by decide)
  · rintro - message hmessage
    obtain ⟨text, htext, rfl⟩ := map_eq_ok_iff.mp hmessage
    rw [String.toList_append, inline_append]
    exact ⟨hcount _ (by decide), (solid_shortSetting htext).inline⟩
  · rintro - _ ⟨⟩
    exact hcount _ (by decide)
  · rintro hsome message hmessage
    obtain ⟨text, htext, rfl⟩ := map_eq_ok_iff.mp hmessage
    rw [String.toList_append, String.toList_append, inline_append, inline_append]
    exact ⟨⟨hcount _ (by decide), (hlag hsome text htext).inline⟩, by decide⟩

omit hc in
/-- The measurements of the replicas show nothing. -/
theorem measurePeers_shows (t : Config.Cluster) (peers : Nat) (counts : PeerCounts) :
    Shows c (measurePeers t peers counts) False := by
  have hlabels : ∀ label ∈ ["peers", "peer_offline", "peer_not_current", "peer_inactive",
      "peer_lagged"], Solid label.toList := by decide
  refine ((Shows.measure (hlabels _ ?_)).seq <| (Shows.measure (hlabels _ ?_)).seq <|
    (Shows.measure (hlabels _ ?_)).seq <| (Shows.measure (hlabels _ ?_)).seq <|
    .measure (hlabels _ ?_)).congr (by simp)
  all_goals simp

/-- The inspection of the replicas shows the marks of the expected number, if it is not met. -/
theorem inspect_shows (cluster : Snapshot.Cluster) :
    Shows c (inspect t cluster) (isUnexpected t cluster ∧
      ∃ text, t.expectedPeers.text = .ok text ∧ c ∈ text.toList) := by
  refine ((expectPeers_shows hc cluster).seq <| .obtain_bind fun counts hcounts =>
    (measurePeers_shows t _ counts).seq (filePeers_shows hc ?_)).congr (by simp)
  intro hlagged text htext
  obtain ⟨n, above, hgt⟩ := exists_gt_of_foldlM hcounts hlagged
  exact solid_text_of_gt hgt htext

/-- The finding on the leader shows the marks of its name. -/
theorem fileLeader_shows (cluster : Snapshot.Cluster) :
    Shows c (fileLeader cluster) (∃ text, cluster.leader.text = .ok text ∧ c ∈ text.toList) := by
  have hwording : Inline (toString cluster.peerCount ++ " peers led by ").toList := by
    rw [String.toList_append, inline_append]
    exact ⟨(Decimal.solid_toString _).inline, by decide⟩
  exact .obtain_bind fun text _ => (Shows.ok _).congr (mem_quotation_iff hc hwording)

/-- The check of a cluster shows the marks of what it quotes. -/
theorem cluster_shows (t : Config.Cluster) (s : Option Snapshot.Cluster) :
    Shows c (cluster t s)
      (∃ text, (∃ cluster ∈ s, ClusterQuotes t cluster text) ∧ c ∈ text.toList) := by
  cases s with
  | none => exact (shows_silent hc (.critical _) (by decide)).congr (by simp)
  | some cluster =>
    -- The verdict at the end names the leader if nothing critical has been found before it.
    have hled :=
      (inspect_shows (t := t) hc cluster).unlessCritical (fileLeader_shows hc cluster)
    rw [← ledCluster_eq t cluster, quiet_inspect_iff] at hled
    refine (Shows.ite (fun _ => hled) fun _ => shows_silent hc (.critical _) (by decide)).congr ?_
    simp only [Option.mem_some_iff, exists_eq_left', and_false, or_false]
    constructor
    · rintro ⟨hled, ⟨hunexpected, text, htext, hmem⟩ | ⟨⟨hexpected, horder⟩, text, htext, hmem⟩⟩
      · exact ⟨text, .expected hled hunexpected htext, hmem⟩
      · exact ⟨text, .leader hled hexpected horder htext, hmem⟩
    · rintro ⟨text, hquotes, hmem⟩
      cases hquotes with
      | expected hled hunexpected htext => exact ⟨hled, .inl ⟨hunexpected, text, htext, hmem⟩⟩
      | leader hled hexpected horder htext =>
        exact ⟨hled, .inr ⟨⟨hexpected, horder⟩, text, htext, hmem⟩⟩

end Mark

/-! ## Messages -/

/-- The age of a message is in order. -/
def IsFresh (t : Config.Message) (age : Duration) : Prop :=
  ∃ e, Threshold.evaluate (.duration age) t.age.warning t.age.critical .ascending "Message age"
    (some age.humanize) = .ok e ∧ e.valid ∧ e.status = .ok

/-- The check of an age quotes the stream and the subject, if the age is in order. -/
def AgedQuotes (t : Config.Message) (age : Duration) (text : String) : Prop :=
  IsFresh t age ∧ ∃ stream, t.stream.text = .ok stream ∧ ∃ subject, t.subject.text = .ok subject ∧
    text ∈ [stream, subject]

/-- The check of a message quotes a text. -/
inductive MessageQuotes (t : Config.Message) (clock : Instant) (m : Snapshot.Message) :
    String → Prop
  /-- The body, if it should tell a time and does not. -/
  | body {text : String} (selfTimed : t.bodyAsTimestamp.truthy) (h : bodyText m.body = .ok text)
      (untimed : instantOfBody? text = none) : MessageQuotes t clock m text
  /-- The stream and the subject, if there is an age and it is in order. -/
  | aged {age : Duration} {text : String} (hage : ageOf? t clock m = some age)
      (h : AgedQuotes t age text) : MessageQuotes t clock m text

variable {t : Config.Message} {clock : Instant} {m : Snapshot.Message} {text : String}

/-- A message that is timed by its stream quotes what its age quotes. -/
theorem messageQuotes_iff_of_published (h : ¬t.bodyAsTimestamp.truthy) :
    MessageQuotes t clock m text ↔ AgedQuotes t (clock - m.published) text := by
  have hage := ageOf?_of_published h clock m
  constructor
  · rintro (⟨hself, -, -⟩ | ⟨hsome, haged⟩)
    · exact absurd hself h
    · obtain rfl := Option.some.inj (hage.symm.trans hsome)
      exact haged
  · exact .aged hage

/-- A message that tells its time quotes what its age quotes. -/
theorem messageQuotes_iff_of_timed (h : t.bodyAsTimestamp.truthy) {body : String}
    (hbody : bodyText m.body = .ok body) {instant : Instant}
    (htime : instantOfBody? body = some instant) :
    MessageQuotes t clock m text ↔ AgedQuotes t (clock - instant) text := by
  have hage : ageOf? t clock m = some (clock - instant) := by
    rw [ageOf?_of_selfTimed h hbody, htime, Option.map_some]
  constructor
  · rintro (⟨-, htext, huntimed⟩ | ⟨hsome, haged⟩)
    · obtain rfl := Except.ok.inj (hbody.symm.trans htext)
      cases htime.symm.trans huntimed
    · obtain rfl := Option.some.inj (hage.symm.trans hsome)
      exact haged
  · exact .aged hage

/-- A message that should tell its time and does not quotes its body. -/
theorem messageQuotes_iff_of_untimed (h : t.bodyAsTimestamp.truthy) {body : String}
    (hbody : bodyText m.body = .ok body) (htime : instantOfBody? body = none) :
    MessageQuotes t clock m text ↔ text = body := by
  constructor
  · rintro (⟨-, htext, -⟩ | ⟨hsome, -⟩)
    · exact Except.ok.inj (htext.symm.trans hbody)
    · rw [ageOf?_of_selfTimed h hbody, htime] at hsome
      cases hsome
  · rintro rfl
    exact .body h hbody htime

section Mark

variable {c : Char} (hc : isMark c)
include hc

/-- The judgement of an age shows the marks of the stream and the subject, if the age is in
order. -/
theorem aged_shows (t : Config.Message) (age : Duration) :
    Shows c (aged t age) (∃ text, AgedQuotes t age text ∧ c ∈ text.toList) := by
  have hlabel : Solid "age".toList := by decide
  have hwording (stream subject : String) :
      c ∈ ("Valid message on " ++ stream ++ " > " ++ subject).toList ↔
        c ∈ stream.toList ∨ c ∈ subject.toList := by
    have harrow : Inline " > ".toList := by decide
    have hvalid : Inline "Valid message on ".toList := by decide
    rw [String.toList_append, String.toList_append, List.mem_append, List.mem_append,
      mem_quotation_iff hc hvalid, or_iff_left (harrow.not_mem hc)]
  -- Measuring the age shows nothing of the message; each of the three branches behind it files one
  -- finding, and only the one of a valid message quotes its names.
  refine ((Shows.measure hlabel).seq <| .obtain_bind fun e he =>
    .ite (fun _ => shows_silent hc (.critical _) (by decide)) fun _ =>
      .ite (fun _ => .obtain_bind fun stream _ => .obtain_bind fun subject _ =>
          (Shows.ok _).congr (hwording stream subject)) fun _ =>
        shows_silent hc (.record e)
          (inline_message (by decide) age.solid_humanize.inline he)).congr ?_
  simp only [false_or, and_false, or_false, Bool.not_eq_true', Bool.not_eq_false]
  constructor
  · rintro ⟨e, he, hvalid, hstatus, stream, hstream, subject, hsubject, hmem⟩
    have hquotes {text : String} (h : text ∈ [stream, subject]) : AgedQuotes t age text :=
      ⟨⟨e, he, hvalid, hstatus⟩, stream, hstream, subject, hsubject, h⟩
    exact hmem.elim (fun h => ⟨stream, hquotes (by simp), h⟩)
      fun h => ⟨subject, hquotes (by simp), h⟩
  · rintro ⟨text, ⟨⟨e, he, hvalid, hstatus⟩, stream, hstream, subject, hsubject, htext⟩, hmem⟩
    refine ⟨e, he, hvalid, hstatus, stream, hstream, subject, hsubject, ?_⟩
    rcases List.mem_pair.mp htext with rfl | rfl
    · exact .inl hmem
    · exact .inr hmem

/-- The judgement of a message by its body shows the marks of what is quoted. -/
theorem selfTimed_shows (ht : t.bodyAsTimestamp.truthy) :
    Shows c (selfTimed t clock m) (∃ text, MessageQuotes t clock m text ∧ c ∈ text.toList) := by
  cases hbody : bodyText m.body with
  | error fault =>
    rw [selfTimed, hbody]
    exact .stop fault
  | ok body =>
    rw [selfTimed_of_body hbody]
    cases htime : instantOfBody? body with
    | some instant =>
      simp only [messageQuotes_iff_of_timed ht hbody htime]
      exact aged_shows hc t _
    | none =>
      simp only [messageQuotes_iff_of_untimed ht hbody htime, exists_eq_left]
      exact (Shows.critical _).congr (mem_quotation_iff hc (by decide))

/-- The check of a message shows the marks of what it quotes. -/
theorem message_shows (t : Config.Message) (clock : Instant) (s : Option Snapshot.Message) :
    Shows c (message t clock s)
      (∃ text, (∃ m ∈ s, MessageQuotes t clock m text) ∧ c ∈ text.toList) := by
  cases s with
  | none => exact (shows_silent hc (.critical _) (by decide)).congr (by simp)
  | some m =>
    simp only [Option.mem_some_iff, exists_eq_left']
    change Shows c (if t.bodyAsTimestamp.truthy then selfTimed t clock m else aged t _) _
    split
    next ht => exact selfTimed_shows hc ht
    next ht =>
      simp only [messageQuotes_iff_of_published ht]
      exact aged_shows hc t _

end Mark

end Check

/-- The check of a kind quotes a text of its snapshot or of its settings. -/
def Kind.Quotes : (k : Kind) → k.Settings → Instant → Option k.Snapshot → String → Prop
  | .vitals, t, _, s, text => ∃ v ∈ s, Check.ServerQuotes t v text
  | .cluster, t, _, s, text => ∃ cluster ∈ s, Check.ClusterQuotes t cluster text
  | .message, t, clock, s, text => ∃ m ∈ s, Check.MessageQuotes t clock m text
  | .account, _, _, _, _ => False
  | .credential, _, _, _, _ => False

namespace Kind

variable {c : Char} (hc : isMark c) (k : Kind) (t : k.Settings) (clock : Instant)
  (s : Option k.Snapshot)
include hc

/-- A mark in a finding of a check is one of a text that the check quotes. -/
theorem check_shows :
    Checking.Shows c (k.check t clock s) (∃ text, k.Quotes t clock s text ∧ c ∈ text.toList) := by
  cases k with
  | vitals => exact Check.vitals_quotes hc t s
  | account => exact (Check.account_shows hc t s).congr (by simp [Quotes])
  | cluster => exact Check.cluster_shows hc t s
  | credential => exact (Check.credential_shows hc t clock s).congr (by simp [Quotes])
  | message => exact Check.message_shows hc t clock s

/-- So is a mark in the finding with which a check stops. -/
theorem mem_refusal_iff {fault : Fault} (hfault : (k.check t clock s).outcome = .error fault)
    (hfinding : fault.isFinding) :
    c ∈ fault.message.toList ↔ ∃ text, k.Quotes t clock s text ∧ c ∈ text.toList := by
  have hplain {work : Checking Unit} (h : Checking.Plain work) : work.outcome ≠ .error fault :=
    h.failsWith.ne_finding hfinding
  have hmissing (h : Fault.noData = fault) : c ∉ fault.message.toList := by
    have hinline : Inline Fault.noData.message.toList := by decide
    rw [← h]
    exact hinline.not_mem hc
  -- Without a snapshot nothing is quoted; on a snapshot only the check of a server stops with a
  -- finding.
  cases k with
  | vitals =>
    cases s with
    | none => exact iff_of_false (hmissing (Except.error.inj hfault)) (by simp [Quotes])
    | some v =>
      obtain ⟨name, rfl, hother, hname⟩ := Check.exists_serverQuotes_of_outcome hfault hfinding
      simp only [Quotes, Option.mem_some_iff, exists_eq_left', Check.ServerQuotes, hother, hname,
        true_and, Except.ok.injEq]
      exact Check.mem_message_wrongTarget_iff hc
  | account =>
    cases s with
    | none => exact iff_of_false (hmissing (Except.error.inj hfault)) (by simp [Quotes])
    | some a => exact absurd hfault (hplain (.forM (Check.resource_plain t a) _))
  | cluster =>
    cases s with
    | none => exact absurd hfault (hplain (.critical _))
    | some cluster =>
      exact absurd hfault (hplain (.ite (Check.ledCluster_plain t cluster) (.critical _)))
  | credential =>
    rcases s with _ | ⟨_ | expiry⟩
    · exact iff_of_false (hmissing (Except.error.inj hfault)) (by simp [Quotes])
    · exact absurd hfault (hplain (Check.lasting_plain t))
    · exact absurd hfault (hplain (Check.expiring_plain t clock expiry))
  | message =>
    cases s with
    | none => exact absurd hfault (hplain (.critical _))
    | some m =>
      exact absurd hfault
        (hplain (.ite (Check.selfTimed_plain t clock m) (Check.aged_plain t _)))

end Kind

end Vigil
