import Vigil.Proofs.Value.Instants
import Vigil.Snapshot.Document

/-!
# Loading snapshots

What becomes of a document that should describe a snapshot. Null is no snapshot, and what is
neither null nor a mapping is a fault of the snapshot. A mapping is a snapshot, or a fault of the
snapshot that tells what is wrong, with one exception (`Kind.snapshotOfDocument_outcome`): a time
that is a number of seconds in a year that the system cannot count is refused by the system itself
(`Kind.TimeBeyondCalendar`), and that fault is not told as one of the snapshot.
-/

namespace Vigil

open Instant (isDataOrCalendar BeyondCalendar)

/-- A file that can be read is there. -/
theorem Files.has_of_read {files : Files} {p : Path} {content : List UInt8}
    (h : files.read p = .ok content) : files.has p = .ok true := by
  unfold Files.read at h
  split at h
  · cases h
  · unfold Files.has
    cases hreach : files.reach p.root p.names with
    | ok found => rfl
    | error absence =>
      rw [hreach] at h
      cases h

/-- A fault of data may be one of data or of the calendar. -/
theorem FailsWith.dataOrCalendar {α : Type} {x : Except Fault α} (h : FailsWith (·.isData) x) :
    FailsWith isDataOrCalendar x := h.mono fun _ => .inl

/-- What stops with faults of data only is not refused by the calendar. -/
theorem FailsWith.ne_calendar {α : Type} {x : Except Fault α} (h : FailsWith (·.isData) x) :
    x ≠ .error (.file .calendar) := h.ne_error (by simp [Fault.isData])

namespace Snapshot

variable (entries : List (Value × Value)) (key : String) (present : Instant)

/-- The value of a key is a time beyond the calendar of the system. -/
def IsBeyond : Prop := ∃ v, Value.lookup key entries = some v ∧ v.BeyondCalendar

/-! ## Times of a mapping -/

/-- The time under a key of a mapping is the present if the key is missing. -/
theorem instantOrNow_map :
    instantOrNow (.map entries) key present =
      match Value.lookup key entries with
      | some v => v.toInstant
      | none => .ok present := by
  unfold instantOrNow
  cases h : Value.lookup key entries <;>
    simp [Value.contains, Value.member, h, bind, Except.bind, pure, Except.pure]

/-- The time under a key of a mapping is missing if the key is, or if its value counts as false. -/
theorem instantIfTrue_map :
    instantIfTrue (.map entries) key =
      match Value.lookup key entries with
      | some v => if v.truthy then some <$> v.toInstant else .ok none
      | none => .ok none := by
  unfold instantIfTrue
  cases h : Value.lookup key entries with
  | none => simp [Value.getD, Value.get?, h, bind, Except.bind, pure, Except.pure, Value.truthy]
  | some v =>
    simp only [Value.getD, Value.get?, Value.member, h, bind, Except.bind, pure, Except.pure,
      Option.getD_some]
    -- A value that counts as false is no time, whatever it is.
    by_cases htrue : v.truthy
    · rw [if_pos htrue, if_pos htrue]
      cases v.toInstant <;> rfl
    · rw [if_neg htrue, if_neg htrue]

/-- A time with the present as default fails with faults of data, or with those of the calendar. -/
theorem instantOrNow_failsWith : FailsWith isDataOrCalendar
    (instantOrNow (.map entries) key present) := by
  rw [instantOrNow_map]
  split
  · exact Value.toInstant_failsWith _
  · exact .ok _

/-- A time that may be missing fails with faults of data, or with those of the calendar. -/
theorem instantIfTrue_failsWith :
    FailsWith isDataOrCalendar (instantIfTrue (.map entries) key) := by
  rw [instantIfTrue_map]
  split
  · exact .ite (fun _ => (Value.toInstant_failsWith _).map _) fun _ => .ok _
  · exact .ok _

/-- A time that may be left out is refused by the calendar if it is there and beyond it. -/
theorem instantOrNow_calendar_iff :
    instantOrNow (.map entries) key present = .error (.file .calendar) ↔ IsBeyond entries key := by
  rw [instantOrNow_map, IsBeyond]
  cases Value.lookup key entries with
  | none => simp
  | some v => simpa using v.toInstant_calendar_iff

/-- So is a time that counts only if it is not zero. -/
theorem instantIfTrue_calendar_iff :
    instantIfTrue (.map entries) key = .error (.file .calendar) ↔ IsBeyond entries key := by
  rw [instantIfTrue_map, IsBeyond]
  cases Value.lookup key entries with
  | none => simp
  | some v =>
    have hbeyond := v.toInstant_calendar_iff
    by_cases htrue : v.truthy
    · cases hv : v.toInstant <;> simp_all [Value.BeyondCalendar]
    · have := mt Value.truthy_of_beyondCalendar htrue
      simp [htrue, this]

/-- A time that may be left out is read if it is not there or has an instant. -/
theorem instantOrNow_ok_iff :
    (∃ t, instantOrNow (.map entries) key present = .ok t) ↔
      ∀ v, Value.lookup key entries = some v → ∃ t, v.toInstant = .ok t := by
  rw [instantOrNow_map]
  cases Value.lookup key entries <;> simp

/-! ## Snapshots of the kinds -/

/-- What is read of the vitals of a server after their times. -/
def Vitals.restOfData (data : Value) (now : Instant) (start : Option Instant) :
    Except Fault Vitals := do
  let name ← data.getD "name" (.str "")
  let jetstream ← data.getD "jetstream_enabled" (.bool false)
  let tls ← data.getD "tls_required" (.bool false)
  let auth ← data.getD "auth_required" (.bool false)
  let cpu ← (← data.getD "cpu" (.int 0)).toDouble
  let connections ← (← data.getD "connections" (.int 0)).toInt
  let memory ← (← data.getD "memory" (.int 0)).toInt
  return { name, jetstream, tls, auth, cpu, connections, memory, now, start }

/-- What is read of the vitals after their times fails with faults of data only. -/
theorem Vitals.restOfData_failsWith (data : Value) (now : Instant) (start : Option Instant) :
    FailsWith (·.isData) (Vitals.restOfData data now start) := by
  refine (Value.getD_failsWith _ _ _).bind fun _ => (Value.getD_failsWith _ _ _).bind fun _ => ?_
  refine (Value.getD_failsWith _ _ _).bind fun _ => (Value.getD_failsWith _ _ _).bind fun _ => ?_
  refine (Value.getD_failsWith _ _ _).bind fun _ => (Value.toDouble_failsWith _).bind fun _ => ?_
  refine (Value.getD_failsWith _ _ _).bind fun _ => (Value.toInt_failsWith _).bind fun _ => ?_
  refine (Value.getD_failsWith _ _ _).bind fun _ => (Value.toInt_failsWith _).bind fun _ => ?_
  exact .pure _

/-- The vitals of a server are read in three parts: the two times, and the rest. -/
theorem Vitals.ofData_eq (data : Value) :
    Vitals.ofData present data = (do
      let now ← instantOrNow data "now" present
      let start ← instantIfTrue data "start"
      Vitals.restOfData data now start) := rfl

/-- The usage of a resource fails with faults of data only. -/
theorem usageOfData_failsWith (data : Value) : FailsWith (·.isData) (usageOfData data) := by
  refine (Value.getD_failsWith _ _ _).bind fun _ => (Value.toInt_failsWith _).bind fun _ => ?_
  refine (Value.getD_failsWith _ _ _).bind fun _ => (Value.toInt_failsWith _).bind fun _ => ?_
  exact .pure _

/-- The snapshot of an account fails with faults of data only. -/
theorem Account.ofData_failsWith (data : Value) : FailsWith (·.isData) (Account.ofData data) := by
  refine (Value.getD_failsWith _ _ _).bind fun _ => (usageOfData_failsWith _).bind fun _ => ?_
  refine (Value.getD_failsWith _ _ _).bind fun _ => (usageOfData_failsWith _).bind fun _ => ?_
  refine (Value.getD_failsWith _ _ _).bind fun _ => (usageOfData_failsWith _).bind fun _ => ?_
  refine (Value.getD_failsWith _ _ _).bind fun _ => (usageOfData_failsWith _).bind fun _ => ?_
  exact .pure _

/-- The data of a replica fail with faults of data only. -/
theorem Peer.ofData_failsWith (data : Value) : FailsWith (·.isData) (Peer.ofData data) := by
  refine (Value.member_failsWith _ _).bind fun _ => ?_
  refine (Value.getD_failsWith _ _ _).bind fun _ => (Value.getD_failsWith _ _ _).bind fun _ => ?_
  refine (Value.getD_failsWith _ _ _).bind fun _ => (Value.toDuration_failsWith _).bind fun _ => ?_
  refine (Value.getD_failsWith _ _ _).bind fun _ => (Value.toInt_failsWith _).bind fun _ => ?_
  exact .pure _

/-- The snapshot of a cluster fails with faults of data only. -/
theorem Cluster.ofData_failsWith (data : Value) : FailsWith (·.isData) (Cluster.ofData data) := by
  refine (Value.getD_failsWith _ _ _).bind fun _ => (Value.getD_failsWith _ _ _).bind fun _ => ?_
  refine (Value.items_failsWith _).bind fun _ => ?_
  exact (FailsWith.mapM Peer.ofData_failsWith _).bind fun _ => .pure _

/-- A message is read from its body, its subject and its time. -/
theorem Message.ofData_map :
    Message.ofData present (.map entries) = (do
      let body ← bodyOf ((Value.lookup "data" entries).getD (.bytes []))
      let published ← instantOrNow (.map entries) "published" present
      return {
        subject := (Value.lookup "subject" entries).getD (.str ""), body := body
        published := published }) := rfl

/-- The body of a message fails with faults of data only. -/
theorem bodyOf_failsWith (v : Value) : FailsWith (·.isData) (bodyOf v) := by
  cases v with
  | int n => exact (Value.intText_failsWith n).bind fun _ => .pure _
  | bool b => exact (Value.text_failsWith _).bind fun _ => .pure _
  | _ => exact .ok _

/-- The body of a message is kept unless it is an integer of too many digits. -/
theorem bodyOf_ok_iff (v : Value) :
    (∃ body, bodyOf v = .ok body) ↔
      ∀ n, v = .int n → Decimal.length n.natAbs ≤ Literal.maxDigits := by
  cases v with
  | int n =>
    simp only [bodyOf, Value.intText, Value.int.injEq, forall_eq']
    -- The limit is the one of integers that are written.
    split <;> simp_all [bind, Except.bind, pure, Except.pure]
  | bool b =>
    cases b <;> simp [bodyOf, Value.text, Value.shown, bind, Except.bind, pure, Except.pure]
  | _ => simp [bodyOf]

/-! ## Files -/

/-- The document of a file is the one that its bytes write. -/
theorem documentOf_of_read {codec : Codec} {kind : String} {files : Files} {p : Path}
    {content : List UInt8} {data : Value} (hread : files.read p = .ok content)
    (hdata : codec.read content = .ok data) :
    documentOf codec kind files p = .ok data := by
  unfold documentOf
  rw [Files.has_of_read hread, hread]
  dsimp only [bind, Except.bind]
  rw [hdata]
  rfl

end Snapshot

namespace Kind

open Snapshot

/-- A time in a mapping is a number of seconds in a year that the system cannot count, and nothing
that is read before it is wrong. -/
def TimeBeyondCalendar (entries : List (Value × Value)) : Kind → Prop
  | .vitals =>
    IsBeyond entries "now" ∨
      (∀ v, Value.lookup "now" entries = some v → ∃ t, v.toInstant = .ok t) ∧
        IsBeyond entries "start"
  | .account => False
  | .cluster => False
  | .credential => IsBeyond entries "expires_at"
  | .message =>
    (∀ n, Value.lookup "data" entries = some (.int n) →
      Decimal.length n.natAbs ≤ Literal.maxDigits) ∧ IsBeyond entries "published"

/-- The snapshot of any kind fails with faults of data, or with those of the calendar. -/
theorem snapshotOfData_failsWith (k : Kind) (present : Instant) (entries : List (Value × Value)) :
    FailsWith isDataOrCalendar (k.snapshotOfData present (.map entries)) := by
  cases k with
  | vitals =>
    refine (instantOrNow_failsWith _ _ _).bind fun _ => ?_
    refine (instantIfTrue_failsWith _ _).bind fun _ => ?_
    exact (Vitals.restOfData_failsWith _ _ _).dataOrCalendar
  | account => exact (Account.ofData_failsWith _).dataOrCalendar
  | cluster => exact (Cluster.ofData_failsWith _).dataOrCalendar
  | credential => exact (instantIfTrue_failsWith _ _).bind fun _ => .pure _
  | message =>
    refine (Value.getD_failsWith _ _ _).dataOrCalendar.bind fun _ => ?_
    refine (bodyOf_failsWith _).dataOrCalendar.bind fun _ => ?_
    refine (Value.getD_failsWith _ _ _).dataOrCalendar.bind fun _ => ?_
    exact (instantOrNow_failsWith _ _ _).bind fun _ => .pure _

/-- The calendar is at fault exactly if a time lies beyond it and what is read before is in
order. -/
theorem snapshotOfData_calendar_iff (k : Kind) (present : Instant)
    (entries : List (Value × Value)) :
    k.snapshotOfData present (.map entries) = .error (.file .calendar) ↔
      k.TimeBeyondCalendar entries := by
  cases k with
  | vitals =>
    have hrest := fun now start =>
      (Vitals.restOfData_failsWith (.map entries) now start).ne_calendar
    change Vitals.ofData present _ = _ ↔ _
    rw [Vitals.ofData_eq, bind_eq_error_iff, instantOrNow_calendar_iff]
    simp only [bind_eq_error_iff, instantIfTrue_calendar_iff, hrest, and_false, exists_false,
      or_false]
    -- The start is looked at only after the present has been read.
    rw [exists_and_right, instantOrNow_ok_iff]
    rfl
  | account => exact iff_false_intro (Account.ofData_failsWith _).ne_calendar
  | cluster => exact iff_false_intro (Cluster.ofData_failsWith _).ne_calendar
  | credential =>
    change Credential.ofData _ = _ ↔ _
    unfold Credential.ofData
    rw [bind_eq_error_iff, instantIfTrue_calendar_iff]
    simp [TimeBeyondCalendar, pure, Except.pure]
  | message =>
    change Message.ofData present _ = _ ↔ _
    rw [Message.ofData_map, bind_eq_error_iff]
    -- Reading the body may fail, but not as the calendar does.
    have hbody := (bodyOf_failsWith ((Value.lookup "data" entries).getD (.bytes []))).ne_calendar
    simp only [hbody, false_or, bind_eq_error_iff, instantOrNow_calendar_iff, pure, Except.pure,
      reduceCtorEq, and_false, exists_false, or_false]
    rw [exists_and_right, bodyOf_ok_iff, TimeBeyondCalendar]
    cases Value.lookup "data" entries <;> simp

/-- The fault of a mapping with a fault of data tells the kind of the snapshot and the reason. -/
theorem refusal_of_isData (kind : String) {fault : Fault} (h : fault.isData) :
    ∃ reason, refusal kind fault = invalid kind reason := by
  cases fault <;> first | exact ⟨_, rfl⟩ | contradiction

/-- A mapping gives a snapshot or a fault of the snapshot, or the system refuses a time in it. -/
theorem snapshotOfDocument_map_cases (k : Kind) (present : Instant)
    (entries : List (Value × Value)) :
    (∃ s, k.snapshotOfDocument present (.map entries) = .ok (some s) ∧
        ¬k.TimeBeyondCalendar entries) ∨
      (∃ reason, k.snapshotOfDocument present (.map entries) = .error (invalid k.name reason) ∧
        ¬k.TimeBeyondCalendar entries) ∨
      (k.snapshotOfDocument present (.map entries) = .error (.file .calendar) ∧
        k.TimeBeyondCalendar entries) := by
  rw [← k.snapshotOfData_calendar_iff present entries, snapshotOfDocument, ofDocument]
  cases hread : k.snapshotOfData present (.map entries) with
  | ok s => exact .inl ⟨s, rfl, by simp⟩
  | error fault =>
    -- The fault decides: one of data is told with its reason, that of the calendar goes through.
    rcases k.snapshotOfData_failsWith present entries fault hread with hdata | rfl
    · obtain ⟨reason, hreason⟩ := refusal_of_isData k.name hdata
      refine .inr (.inl ⟨reason, congrArg Except.error hreason, ?_⟩)
      rintro ⟨⟩
      contradiction
    · exact .inr (.inr ⟨rfl, rfl⟩)

/-- What becomes of a document that should describe a snapshot; loading a file is reading its
document, whatever codec it is written in, and then this. The document has no snapshot exactly if it
is null. If it is neither null nor a mapping, that is a fault of the snapshot. If it is a mapping,
it gives a snapshot or a fault of the snapshot, unless a time in it is beyond the calendar of the
system: then, and only then, the outcome is the fault of the system. -/
theorem snapshotOfDocument_outcome (k : Kind) (present : Instant) (data : Value) :
    (∀ codec files p, k.load codec present files p =
      documentOf codec k.name files p >>= k.snapshotOfDocument present) ∧
    (k.snapshotOfDocument present data = .ok none ↔ data = .null) ∧
    (data ≠ .null → (∀ entries, data ≠ .map entries) →
      ∃ reason, k.snapshotOfDocument present data = .error (invalid k.name reason)) ∧
    (∀ entries, data = .map entries → ¬k.TimeBeyondCalendar entries →
      (∃ s, k.snapshotOfDocument present data = .ok (some s)) ∨
        ∃ reason, k.snapshotOfDocument present data = .error (invalid k.name reason)) ∧
    (k.snapshotOfDocument present data = .error (.file .calendar) ↔
      ∃ entries, data = .map entries ∧ k.TimeBeyondCalendar entries) := by
  refine ⟨fun codec files p => rfl, ?_⟩
  have hinvalid : ∀ reason, invalid k.name reason ≠ .file .calendar := by simp [invalid]
  cases data with
  | null => simp [snapshotOfDocument, ofDocument]
  | map entries =>
    rcases k.snapshotOfDocument_map_cases present entries with
      ⟨s, hout, hbeyond⟩ | ⟨reason, hout, hbeyond⟩ | ⟨hout, hbeyond⟩
    · simp [hout, hbeyond]
    · simp [hout, hbeyond, hinvalid reason]
    · simp [hout, hbeyond]
  | _ => simp [snapshotOfDocument, ofDocument, hinvalid]

/-- A list instead of a cluster, a credential without any entry, and a credential that expires after
`10 ^ 17` seconds, some three billion years: the last one is neither a snapshot nor a fault of the
snapshot. -/
theorem snapshotOfDocument_far_expiry :
    let present : Instant := ⟨Instant.epoch, by decide⟩
    let far : List (Value × Value) := [(.str "expires_at", .int 100000000000000000)]
    (∃ reason, cluster.snapshotOfDocument present (.list []) = .error (invalid "cluster" reason)) ∧
    ((∃ s, credential.snapshotOfDocument present (.map []) = .ok (some s)) ∨
      ∃ reason, credential.snapshotOfDocument present (.map []) =
        .error (invalid "credential" reason)) ∧
    credential.snapshotOfDocument present (.map far) = .error (.file .calendar) := by
  refine ⟨?_, ?_, ?_⟩
  · exact (snapshotOfDocument_outcome .cluster _ (.list [])).2.2.1 (by simp) (by simp)
  · refine (snapshotOfDocument_outcome .credential _ (.map [])).2.2.2.1 [] rfl ?_
    rintro ⟨v, ⟨⟩, -⟩
  · refine (snapshotOfDocument_outcome .credential _ _).2.2.2.2.mpr ⟨_, rfl, _, rfl, _, rfl, ?_⟩
    decide

end Kind

end Vigil
