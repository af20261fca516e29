import Mathlib.Data.List.Forall2
import Vigil.Config.Data
import Vigil.Proofs.Threshold.Scale

/-!
# Declared settings

Every setting of a configuration is declared with a type, and some settings may be left unset
(`Config.declared`). Data that has each setting either not at all, or as null, or of its type
(`Config.FitsDeclarations`) gives configurations whose settings are unset or of their types
(`Config.allHold_of_ofData`). Null is kept even where a setting may not be left unset, with the
exception of the silence of replicas (`Config.Cluster.seenCritical_of_ofData`).
-/

namespace Vigil.Config

/-- The types that settings are declared with. -/
inductive SettingType where
  /-- Names, addresses and paths. -/
  | text
  /-- Whether something is required. -/
  | flag
  /-- Counts, sizes and percentages without a point. -/
  | whole
  /-- Percentages that may have a point. -/
  | real
  /-- Spans of time. -/
  | span
  deriving DecidableEq

/-- Whether a value that is set is of a type. -/
def SettingType.Admits : SettingType → Value → Prop
  | .text, v => ∃ s, v = .str s
  | .flag, v => ∃ b, v = .bool b
  | .whole, v => ∃ n, v = .int n
  | .real, v => (∃ n, v = .int n) ∨ ∃ x, v = .float x
  | .span, v => ∃ d, v = .duration d

/-- A declared setting. -/
structure Setting where
  /-- The name of the setting. -/
  name : String
  /-- The type of its values. -/
  type : SettingType
  /-- Whether it may be left unset. -/
  optional : Bool

/-- Whether a value is unset or of the type of a setting. -/
def Setting.Holds (s : Setting) (v : Value) : Prop := v = .null ∨ s.type.Admits v

/-- The settings of the thresholds of a metric. -/
def limitSettings (metric : String) (type : SettingType) : List Setting :=
  [⟨metric ++ "_warning", type, true⟩, ⟨metric ++ "_critical", type, true⟩]

/-- The settings of the section for a kind, in order. -/
def declared : Kind → List Setting
  | .vitals =>
    [⟨"server_name", .text, true⟩, ⟨"require_jetstream", .flag, false⟩,
      ⟨"require_tls", .flag, false⟩, ⟨"require_auth", .flag, false⟩] ++
    limitSettings "uptime" .span ++ limitSettings "cpu" .real ++ limitSettings "memory" .whole ++
    limitSettings "connections" .whole
  | .account =>
    limitSettings "memory" .whole ++ limitSettings "storage" .whole ++
    limitSettings "streams" .whole ++ limitSettings "consumers" .whole
  | .cluster =>
    [⟨"expected_peers", .whole, true⟩, ⟨"seen_critical", .span, false⟩,
      ⟨"lag_critical", .whole, false⟩]
  | .credential =>
    [⟨"path", .text, true⟩, ⟨"require_expiry", .flag, false⟩] ++ limitSettings "validity" .span
  | .message =>
    [⟨"stream", .text, false⟩, ⟨"subject", .text, false⟩] ++ limitSettings "age" .span ++
    [⟨"body_as_timestamp", .flag, false⟩]

/-- The settings are those that a section is written with. -/
theorem map_name_declared (c : Config) (k : Kind) :
    (declared k).map (·.name) = (c.fieldsOf k).map (·.1) := by cases k <;> rfl

/-! ## Declared data -/

/-- A section does not have a setting, or has it as null, or of its type; spans of time may be in
any form that is read. -/
def Setting.FitsIn (s : Setting) (data : Value) : Prop :=
  ∀ v, data.get? s.name = .ok (some v) → v = .null ∨ s.type = .span ∨ s.type.Admits v

/-- Every section of the data fits its declared settings. -/
def FitsDeclarations (data : Value) : Prop :=
  ∀ (k : Kind) (part : Value), sectionIn data k.name = .ok part → ∀ s ∈ declared k, s.FitsIn part

variable {data v default : Value}

/-- A setting that is no span is read as it is, or has its default. -/
theorem Setting.FitsIn.holds_of_getD {s : Setting} (h : s.FitsIn data) (hspan : s.type ≠ .span)
    (hdefault : s.Holds default) (hv : data.getD s.name default = .ok v) : s.Holds v := by
  rw [Value.getD, bind_eq_ok_iff] at hv
  obtain ⟨found, hfound, ⟨⟩⟩ := hv
  cases found with
  | none => exact hdefault
  | some w => exact (h w hfound).imp_right fun h => h.resolve_left hspan

/-- A span of time is read as one, or unset. -/
theorem holds_of_durationIn {key : String} (hv : durationIn data key = .ok v) :
    v = .null ∨ ∃ d, v = .duration d := by
  rw [durationIn, bind_eq_ok_iff] at hv
  obtain ⟨w, -, hw⟩ := hv
  split at hw
  · cases hw
    exact .inl rfl
  · rw [bind_eq_ok_iff] at hw
    obtain ⟨d, -, ⟨⟩⟩ := hw
    exact .inr ⟨d, rfl⟩

/-- All settings are unset or of their types. -/
def AllHold (settings : List Setting) (fields : List (String × Value)) : Prop :=
  List.Forall₂ (fun s f => s.Holds f.2) settings fields

/-- Settings in a row hold if both parts do. -/
theorem AllHold.append {settings settings' : List Setting} {fields fields' : List (String × Value)}
    (h : AllHold settings fields) (h' : AllHold settings' fields') :
    AllHold (settings ++ settings') (fields ++ fields') := by
  induction h with
  | nil => exact h'
  | cons head _ ih => exact .cons head ih

/-- Thresholds may be left unset. -/
theorem allHold_unset (metric : String) (type : SettingType) :
    AllHold (limitSettings metric type) (Limits.fields metric {}) :=
  .cons (.inl rfl) (.cons (.inl rfl) .nil)

/-- Thresholds that are no spans are read as they are, or have their defaults. -/
theorem allHold_of_limitsIn {metric : String} {type : SettingType} {usual l : Limits}
    (hfits : ∀ s ∈ limitSettings metric type, s.FitsIn data) (hspan : type ≠ .span)
    (husual : AllHold (limitSettings metric type) (usual.fields metric))
    (hl : limitsIn data metric usual = .ok l) :
    AllHold (limitSettings metric type) (l.fields metric) := by
  rw [limitSettings, List.forall_mem_cons, List.forall_mem_singleton] at hfits
  obtain ⟨hwarning, hcritical, -⟩ := by simpa only [AllHold, limitSettings, Limits.fields,
    List.forall₂_cons] using husual
  rw [limitsIn, bind_eq_ok_iff] at hl
  obtain ⟨warning, hw, hl⟩ := hl
  rw [bind_eq_ok_iff] at hl
  obtain ⟨critical, hc, ⟨⟩⟩ := hl
  refine .cons (hfits.1.holds_of_getD hspan hwarning hw) ?_
  exact .cons (hfits.2.holds_of_getD hspan hcritical hc) .nil

/-- Thresholds that are spans are read as spans, or unset. -/
theorem allHold_of_durationLimits {metric : String} {l : Limits}
    (hl : durationLimits data metric = .ok l) :
    AllHold (limitSettings metric .span) (l.fields metric) := by
  rw [durationLimits, bind_eq_ok_iff] at hl
  obtain ⟨warning, hw, hl⟩ := hl
  rw [bind_eq_ok_iff] at hl
  obtain ⟨critical, hc, ⟨⟩⟩ := hl
  exact .cons (holds_of_durationIn hw) (.cons (holds_of_durationIn hc) .nil)

/-! ## The sections -/

/-- A section on servers that is read has settings of the declared types. -/
theorem Vitals.allHold_of_ofData {t : Vitals} (hfits : ∀ s ∈ declared .vitals, s.FitsIn data)
    (h : Vitals.ofData data = .ok t) : AllHold (declared .vitals) t.fields := by
  simp only [declared, List.forall_mem_append, List.forall_mem_cons] at hfits
  simp only [Vitals.ofData, bind_eq_ok_iff] at h
  obtain ⟨⟨⟨⟨⟨fname, fjetstream, ftls, fauth, -⟩, -⟩, fcpu⟩, fmemory⟩, fconnections⟩ := hfits
  obtain ⟨name, hname, jetstream, hjetstream, tls, htls, auth, hauth, h⟩ := h
  obtain ⟨uptime, huptime, cpu, hcpu, memory, hmemory, connections, hconnections, ⟨⟩⟩ := h
  refine .append (.append (.append (.append ?_ (allHold_of_durationLimits huptime)) ?_) ?_) ?_
  · refine .cons (fname.holds_of_getD nofun (.inl rfl) hname) ?_
    refine .cons (fjetstream.holds_of_getD nofun (.inr ⟨_, rfl⟩) hjetstream) ?_
    refine .cons (ftls.holds_of_getD nofun (.inr ⟨_, rfl⟩) htls) ?_
    exact .cons (fauth.holds_of_getD nofun (.inr ⟨_, rfl⟩) hauth) .nil
  · exact allHold_of_limitsIn fcpu nofun (allHold_unset _ _) hcpu
  · exact allHold_of_limitsIn fmemory nofun (allHold_unset _ _) hmemory
  · exact allHold_of_limitsIn fconnections nofun (allHold_unset _ _) hconnections

/-- A section on accounts that is read has settings of the declared types. -/
theorem Account.allHold_of_ofData {t : Account} (hfits : ∀ s ∈ declared .account, s.FitsIn data)
    (h : Account.ofData data = .ok t) : AllHold (declared .account) t.fields := by
  simp only [declared, List.forall_mem_append] at hfits
  simp only [Account.ofData, bind_eq_ok_iff] at h
  obtain ⟨⟨⟨fmemory, fstorage⟩, fstreams⟩, fconsumers⟩ := hfits
  obtain ⟨memory, hmemory, storage, hstorage, streams, hstreams, consumers, hconsumers, ⟨⟩⟩ := h
  have husual (metric : String) :
      AllHold (limitSettings metric .whole) (usualShare.fields metric) :=
    .cons (.inr ⟨75, rfl⟩) (.cons (.inr ⟨90, rfl⟩) .nil)
  refine .append (.append (.append ?_ ?_) ?_) ?_
  · exact allHold_of_limitsIn fmemory nofun (husual _) hmemory
  · exact allHold_of_limitsIn fstorage nofun (husual _) hstorage
  · exact allHold_of_limitsIn fstreams nofun (allHold_unset _ _) hstreams
  · exact allHold_of_limitsIn fconsumers nofun (allHold_unset _ _) hconsumers

/-- A section on clusters that is read has settings of the declared types. -/
theorem Cluster.allHold_of_ofData {t : Cluster} (hfits : ∀ s ∈ declared .cluster, s.FitsIn data)
    (h : Cluster.ofData data = .ok t) : AllHold (declared .cluster) t.fields := by
  simp only [declared, List.forall_mem_cons] at hfits
  simp only [Cluster.ofData, bind_eq_ok_iff] at h
  obtain ⟨fpeers, -, flag, -⟩ := hfits
  obtain ⟨peers, hpeers, seen, hseen, lag, hlag, ⟨⟩⟩ := h
  refine .cons (fpeers.holds_of_getD nofun (.inl rfl) hpeers) (.cons ?_ ?_)
  · change Setting.Holds _ (if seen.isNull then usualSilence else seen)
    -- Null stands for the default.
    split
    · exact .inr ⟨_, rfl⟩
    · exact holds_of_durationIn hseen
  · exact .cons (flag.holds_of_getD nofun (.inr ⟨_, rfl⟩) hlag) .nil

/-- The silence of replicas is never left unset: null stands for its default. -/
theorem Cluster.seenCritical_of_ofData {t : Cluster} (h : Cluster.ofData data = .ok t) :
    ∃ d, t.seenCritical = .duration d := by
  simp only [Cluster.ofData, bind_eq_ok_iff] at h
  obtain ⟨peers, -, seen, hseen, lag, -, ⟨⟩⟩ := h
  change ∃ d, (if seen.isNull then usualSilence else seen) = .duration d
  rcases holds_of_durationIn hseen with rfl | ⟨d, rfl⟩
  · exact ⟨_, rfl⟩
  · exact ⟨d, rfl⟩

/-- A section on credentials that is read has settings of the declared types. -/
theorem Credential.allHold_of_ofData {t : Credential}
    (hfits : ∀ s ∈ declared .credential, s.FitsIn data) (h : Credential.ofData data = .ok t) :
    AllHold (declared .credential) t.fields := by
  simp only [declared, List.forall_mem_append, List.forall_mem_cons] at hfits
  simp only [Credential.ofData, bind_eq_ok_iff] at h
  obtain ⟨⟨fpath, fexpiry, -⟩, -⟩ := hfits
  obtain ⟨path, hpath, expiry, hexpiry, validity, hvalidity, ⟨⟩⟩ := h
  refine .append ?_ (allHold_of_durationLimits hvalidity)
  refine .cons (fpath.holds_of_getD nofun (.inl rfl) hpath) ?_
  exact .cons (fexpiry.holds_of_getD nofun (.inr ⟨_, rfl⟩) hexpiry) .nil

/-- A section on messages that is read has settings of the declared types. -/
theorem Message.allHold_of_ofData {t : Message} (hfits : ∀ s ∈ declared .message, s.FitsIn data)
    (h : Message.ofData data = .ok t) : AllHold (declared .message) t.fields := by
  simp only [declared, List.forall_mem_append, List.forall_mem_cons] at hfits
  simp only [Message.ofData, bind_eq_ok_iff] at h
  obtain ⟨⟨⟨fstream, fsubject, -⟩, -⟩, fbody, -⟩ := hfits
  obtain ⟨stream, hstream, subject, hsubject, age, hage, body, hbody, ⟨⟩⟩ := h
  refine .append (.append ?_ (allHold_of_durationLimits hage)) ?_
  · refine .cons (fstream.holds_of_getD nofun (.inr ⟨_, rfl⟩) hstream) ?_
    exact .cons (fsubject.holds_of_getD nofun (.inr ⟨_, rfl⟩) hsubject) .nil
  · exact .cons (fbody.holds_of_getD nofun (.inr ⟨_, rfl⟩) hbody) .nil

/-- A configuration that is read is made of the sections that are read. -/
theorem ofData_parts {config : Config} (h : ofData data = .ok config) :
    (∃ part, sectionIn data "vitals" = .ok part ∧ Vitals.ofData part = .ok config.vitals) ∧
    (∃ part, sectionIn data "account" = .ok part ∧ Account.ofData part = .ok config.account) ∧
    (∃ part, sectionIn data "cluster" = .ok part ∧ Cluster.ofData part = .ok config.cluster) ∧
    (∃ part, sectionIn data "credential" = .ok part ∧
      Credential.ofData part = .ok config.credential) ∧
    ∃ part, sectionIn data "message" = .ok part ∧ Message.ofData part = .ok config.message := by
  simp only [ofData, bind_eq_ok_iff] at h
  obtain ⟨part₁, h₁, vitals, hvitals, part₂, h₂, account, haccount, h⟩ := h
  obtain ⟨part₃, h₃, cluster, hcluster, part₄, h₄, credential, hcredential, h⟩ := h
  obtain ⟨part₅, h₅, message, hmessage, url, -, level, -, ⟨⟩⟩ := h
  exact ⟨⟨_, h₁, hvitals⟩, ⟨_, h₂, haccount⟩, ⟨_, h₃, hcluster⟩, ⟨_, h₄, hcredential⟩,
    ⟨_, h₅, hmessage⟩⟩

/-- The silence of replicas in a configuration that is read is a span of time. -/
theorem seenCritical_of_ofData {config : Config} (h : ofData data = .ok config) :
    ∃ silence, config.cluster.seenCritical = .duration silence := by
  obtain ⟨-, -, ⟨_, -, hcluster⟩, -, -⟩ := ofData_parts h
  exact Cluster.seenCritical_of_ofData hcluster

/-- The settings that are read from data that fits the declarations are unset or of their types. -/
theorem allHold_of_ofData {config : Config} (hfits : FitsDeclarations data)
    (h : ofData data = .ok config) (k : Kind) : AllHold (declared k) (config.fieldsOf k) := by
  obtain ⟨⟨_, h₁, hvitals⟩, ⟨_, h₂, haccount⟩, ⟨_, h₃, hcluster⟩, ⟨_, h₄, hcredential⟩,
    ⟨_, h₅, hmessage⟩⟩ := ofData_parts h
  cases k with
  | vitals => exact Vitals.allHold_of_ofData (hfits .vitals _ h₁) hvitals
  | account => exact Account.allHold_of_ofData (hfits .account _ h₂) haccount
  | cluster => exact Cluster.allHold_of_ofData (hfits .cluster _ h₃) hcluster
  | credential => exact Credential.allHold_of_ofData (hfits .credential _ h₄) hcredential
  | message => exact Message.allHold_of_ofData (hfits .message _ h₅) hmessage

/-! ## What settings are thresholds for -/

variable {metric : String} {v : Value} {l : Limits}

/-- Whether a type is that of the values of a scale. -/
def SettingType.IsOn (type : SettingType) : Scale → Prop
  | .number => type = .whole ∨ type = .real
  | .span => type = .span

/-- A setting whose values are on a scale is a threshold on the scale. -/
theorem Setting.Holds.bounds {s : Setting} (h : s.Holds v) {scale : Scale}
    (hscale : s.type.IsOn scale) : scale.Bounds v := by
  rcases h with rfl | h
  · exact .inl rfl
  · refine .inr ?_
    -- Numbers may have a point or not; both are on the scale of numbers.
    cases scale with
    | number =>
      rcases hscale with hwhole | hreal
      · rw [hwhole] at h
        obtain ⟨n, rfl⟩ := h
        rfl
      · rw [hreal] at h
        rcases h with ⟨n, rfl⟩ | ⟨x, rfl⟩
        · rfl
        · rfl
    | span =>
      rw [show s.type = .span from hscale] at h
      exact h

/-- A setting for a text has one, also if it is unset. -/
theorem Setting.Holds.not_stops_text {s : Setting} (h : s.Holds v) (htype : s.type = .text) :
    ¬Stops v.text := by
  rcases h with rfl | h
  · exact not_stops_ok _
  · rw [htype] at h
    obtain ⟨text, rfl⟩ := h
    exact not_stops_ok _

/-- The thresholds of a server are on the scales of their metrics. -/
theorem Vitals.bounds_of_allHold {t : Vitals} (h : AllHold (declared .vitals) t.fields) :
    Scale.span.BoundsLimits t.uptime ∧ Scale.number.BoundsLimits t.cpu ∧
      Scale.number.BoundsLimits t.memory ∧ Scale.number.BoundsLimits t.connections := by
  simp only [AllHold, declared, limitSettings, Vitals.fields, Limits.fields, List.cons_append,
    List.nil_append, List.forall₂_cons] at h
  obtain ⟨-, -, -, -, uw, uc, cw, cc, mw, mc, nw, nc, -⟩ := h
  exact ⟨⟨uw.bounds rfl, uc.bounds rfl⟩, ⟨cw.bounds (.inr rfl), cc.bounds (.inr rfl)⟩,
    ⟨mw.bounds (.inl rfl), mc.bounds (.inl rfl)⟩, ⟨nw.bounds (.inl rfl), nc.bounds (.inl rfl)⟩⟩

/-- The thresholds of an account are numbers. -/
theorem Account.bounds_of_allHold {t : Account} (h : AllHold (declared .account) t.fields)
    (r : Snapshot.Resource) : Scale.number.BoundsLimits (t.limits r) := by
  simp only [AllHold, declared, limitSettings, Account.fields, Limits.fields, List.cons_append,
    List.nil_append, List.forall₂_cons] at h
  obtain ⟨mw, mc, sw, sc, tw, tc, cw, cc, -⟩ := h
  cases r with
  | memory => exact ⟨mw.bounds (.inl rfl), mc.bounds (.inl rfl)⟩
  | storage => exact ⟨sw.bounds (.inl rfl), sc.bounds (.inl rfl)⟩
  | streams => exact ⟨tw.bounds (.inl rfl), tc.bounds (.inl rfl)⟩
  | consumers => exact ⟨cw.bounds (.inl rfl), cc.bounds (.inl rfl)⟩

/-- How far replicas may be behind is a number of operations, or null. -/
theorem Cluster.lagCritical_of_allHold {t : Cluster} (h : AllHold (declared .cluster) t.fields) :
    t.lagCritical = .null ∨ ∃ allowed, t.lagCritical = .int allowed := by
  simp only [AllHold, declared, Cluster.fields, List.forall₂_cons] at h
  exact h.2.2.1

/-- The thresholds of a credential are spans of time. -/
theorem Credential.bounds_of_allHold {t : Credential}
    (h : AllHold (declared .credential) t.fields) : Scale.span.BoundsLimits t.validity := by
  simp only [AllHold, declared, limitSettings, Credential.fields, Limits.fields, List.cons_append,
    List.nil_append, List.forall₂_cons] at h
  obtain ⟨-, -, vw, vc, -⟩ := h
  exact ⟨vw.bounds rfl, vc.bounds rfl⟩

/-- The thresholds of a message are spans of time, and its stream and subject can be written. -/
theorem Message.bounds_of_allHold {t : Message} (h : AllHold (declared .message) t.fields) :
    Scale.span.BoundsLimits t.age ∧ ¬Stops t.stream.text ∧ ¬Stops t.subject.text := by
  simp only [AllHold, declared, limitSettings, Message.fields, Limits.fields, List.cons_append,
    List.nil_append, List.forall₂_cons] at h
  obtain ⟨stream, subject, aw, ac, -⟩ := h
  exact ⟨⟨aw.bounds rfl, ac.bounds rfl⟩, stream.not_stops_text rfl, subject.not_stops_text rfl⟩

end Vigil.Config
