import Vigil.Proofs.Config.Declared
import Vigil.Proofs.Time.Short

/-!
# Saved configurations

A configuration that is saved and read again is the same (`Config.ofData_toData`). This takes
three things: in the sections that leave null out, null is what a setting is read as that is not
there; the section for accounts has all its settings, so that no default comes back for null; and
a duration is read from its short form (`Duration.parse_short`).

Settings of unknown names are saved as well, but nothing reads them.
-/

namespace Vigil

namespace Value

variable {fields : List (String × Value)} {f : String × Value} {key : String}

/-- A setting is found by its name if no other one has the name. -/
theorem lookup_of_unique (hf : f ∈ fields) (hunique : ∀ g ∈ fields, g.1 = f.1 → g = f) :
    lookup f.1 (fields.map fun (name, v) => (.str name, v)) = some f.2 := by
  induction fields with
  | nil => contradiction
  | cons g fields ih =>
    rw [List.map_cons, lookup]
    by_cases hname : g.1 = f.1
    · rw [if_pos (by simpa [isText] using hname), hunique g (by simp) hname]
    · -- The head is another setting.
      have hrest : f ∈ fields := by
        rcases List.mem_cons.mp hf with rfl | hrest
        · contradiction
        · exact hrest
      rw [if_neg (by simpa [isText] using hname)]
      exact ih hrest fun h hh => hunique h (by simp [hh])

/-- Nothing is found under a name that no setting has. -/
theorem lookup_eq_none (h : ∀ g ∈ fields, g.1 ≠ key) :
    lookup key (fields.map fun (name, v) => (.str name, v)) = none := by
  induction fields with
  | nil => rfl
  | cons g fields ih =>
    rw [List.map_cons, lookup, if_neg (by simpa [isText] using h g (by simp))]
    exact ih fun k hk => h k (by simp [hk])

end Value

namespace Config

variable {data v default : Value}

/-! ## What is saved -/

/-- A section of data has a setting as it is written, and does not have it if it is null. -/
def Keeps (data : Value) (f : String × Value) : Prop :=
  data.get? f.1 = .ok (if f.2.isNull then none else some (written f.2))

/-- A setting that is kept is read as it is written, or as the default if it is null. -/
theorem Keeps.getD {key : String} (h : Keeps data (key, v)) :
    data.getD key default = .ok (if v.isNull then default else written v) := by
  have hfound : data.get? key = .ok (if v.isNull then none else some (written v)) := h
  unfold Value.getD
  rw [hfound]
  cases v.isNull
  all_goals rfl

/-- The settings of a section are kept, whatever else is saved with them. -/
theorem keeps_writtenFields {fields : List (String × Value)} {f : String × Value} (hf : f ∈ fields)
    (hunique : ∀ g ∈ fields, g.1 = f.1 → g = f) : Keeps (writtenFields fields) f := by
  unfold Keeps writtenFields Value.ofFields
  rw [Value.get?]
  by_cases hnull : f.2.isNull
  · -- The only setting of the name is left out.
    rw [if_pos hnull, Value.lookup_eq_none]
    intro g hg
    obtain ⟨h, hh, rfl⟩ := List.mem_map.mp hg
    obtain ⟨hfields, hkept⟩ := List.mem_filter.mp hh
    intro hname
    rw [hunique h hfields hname, hnull] at hkept
    contradiction
  · -- The setting is written, and still the only one of its name.
    rw [if_neg hnull]
    have hmem : (f.1, written f.2) ∈ (fields.filter fun g => !g.2.isNull).map
        fun (name, v) => (name, written v) :=
      List.mem_map.mpr ⟨f, List.mem_filter.mpr ⟨hf, by simpa using hnull⟩, rfl⟩
    rw [Value.lookup_of_unique hmem]
    intro g hg hname
    obtain ⟨h, hh, rfl⟩ := List.mem_map.mp hg
    rw [hunique h (List.mem_filter.mp hh).1 hname]

/-- Whether a setting may have a value: its type, and null only if it may be left unset. -/
def Setting.Allows (s : Setting) (v : Value) : Prop := (s.optional ∧ v = .null) ∨ s.type.Admits v

/-- A setting of a section that has a value it may have, is saved without a loss and kept. -/
structure Setting.SavedIn (s : Setting) (data v : Value) : Prop where
  /-- The value is one that the setting may have. -/
  allows : s.Allows v
  /-- A span of time can be written. -/
  isWritten : ∀ d, v = .duration d → d.IsWritten
  /-- The section of data keeps the setting. -/
  keeps : Keeps data (s.name, v)

namespace Setting.SavedIn

variable {s : Setting}

/-- Where null is a default, or no value, the setting is read as it was. -/
theorem getD (h : s.SavedIn data v) (hspan : s.type ≠ .span)
    (hdefault : s.optional → default = .null) : data.getD s.name default = .ok v := by
  rw [h.keeps.getD]
  rcases h.allows with ⟨hoptional, rfl⟩ | hadmits
  · rw [hdefault hoptional]
    rfl
  · -- Only spans of time are written in another form, and only null is left out.
    have hplain : v.isNull = false ∧ written v = v := by
      cases htype : s.type with
      | span => contradiction
      | real =>
        rw [htype] at hadmits
        rcases hadmits with ⟨n, rfl⟩ | ⟨x, rfl⟩
        · exact ⟨rfl, rfl⟩
        · exact ⟨rfl, rfl⟩
      | _ =>
        rw [htype] at hadmits
        obtain ⟨x, rfl⟩ := hadmits
        exact ⟨rfl, rfl⟩
    rw [hplain.1, hplain.2]
    rfl

/-- A setting that may be left unset is read as it was where null is the default. -/
theorem getD_null (h : s.SavedIn data v) (hspan : s.type ≠ .span) :
    data.getD s.name .null = .ok v := h.getD hspan fun _ => rfl

/-- A setting that may not be left unset is read as it was. -/
theorem getD_required (h : s.SavedIn data v) (hrequired : s.type ≠ .span ∧ ¬s.optional) :
    data.getD s.name default = .ok v :=
  h.getD hrequired.1 fun hoptional => absurd hoptional hrequired.2

/-- A span of time is read from its short form. -/
theorem durationIn (h : s.SavedIn data v) (hspan : s.type = .span) :
    durationIn data s.name = .ok v := by
  unfold Config.durationIn
  rw [h.keeps.getD]
  rcases h.allows with ⟨-, rfl⟩ | hadmits
  · rfl
  · -- A span of time comes back as a text, which is not null, and is read.
    rw [hspan] at hadmits
    obtain ⟨d, rfl⟩ := hadmits
    have hread : (Value.str d.short).toDuration = .ok d := by
      unfold Value.toDuration
      exact Duration.parse_short (h.isWritten d rfl)
    rw [bind_eq_ok_iff]
    refine ⟨.str d.short, rfl, ?_⟩
    rw [if_neg (by simp [Value.isNull]), bind_eq_ok_iff]
    exact ⟨d, hread, rfl⟩

end Setting.SavedIn

/-- The settings of a section are all saved in some data. -/
def AllSaved (data : Value) (settings : List Setting) (fields : List (String × Value)) : Prop :=
  List.Forall₂ (fun s f => s.SavedIn data f.2) settings fields

variable {metric : String} {l : Limits}

/-- Thresholds without defaults are read as they were. -/
theorem limitsIn_of_saved {type : SettingType}
    (h : AllSaved data (limitSettings metric type) (l.fields metric)) (hspan : type ≠ .span) :
    limitsIn data metric {} = .ok l := by
  simp only [AllSaved, limitSettings, Limits.fields, List.forall₂_cons] at h
  obtain ⟨hwarning, hcritical, -⟩ := h
  have hw : data.getD (metric ++ "_warning") .null = .ok l.warning :=
    hwarning.getD_null hspan
  have hc : data.getD (metric ++ "_critical") .null = .ok l.critical :=
    hcritical.getD_null hspan
  unfold limitsIn
  rw [hw, hc]
  rfl

/-- Thresholds that are spans of time are read as they were. -/
theorem durationLimits_of_saved
    (h : AllSaved data (limitSettings metric .span) (l.fields metric)) :
    durationLimits data metric = .ok l := by
  simp only [AllSaved, limitSettings, Limits.fields, List.forall₂_cons] at h
  obtain ⟨hwarning, hcritical, -⟩ := h
  have hw : durationIn data (metric ++ "_warning") = .ok l.warning := hwarning.durationIn rfl
  have hc : durationIn data (metric ++ "_critical") = .ok l.critical := hcritical.durationIn rfl
  unfold durationLimits
  rw [hw, hc]
  rfl

/-! ## The sections -/

/-- A saved section on servers is read as it was, without entries that are unknown. -/
theorem Vitals.ofData_of_saved {t : Vitals} (h : AllSaved data (declared .vitals) t.fields) :
    Vitals.ofData data = .ok { t with extras := [] } := by
  simp only [AllSaved, declared, limitSettings, Vitals.fields, Limits.fields, List.cons_append,
    List.nil_append, List.forall₂_cons] at h
  obtain ⟨hname, hjetstream, htls, hauth, uw, uc, cw, cc, mw, mc, nw, nc, -⟩ := h
  -- The settings come in pairs of limits; each pair is read back on its own.
  have huptime : durationLimits data "uptime" = .ok t.uptime :=
    durationLimits_of_saved (.cons uw (.cons uc .nil))
  have hcpu : limitsIn data "cpu" {} = .ok t.cpu :=
    limitsIn_of_saved (.cons cw (.cons cc .nil)) (by decide)
  have hmemory : limitsIn data "memory" {} = .ok t.memory :=
    limitsIn_of_saved (.cons mw (.cons mc .nil)) (by decide)
  have hconnections : limitsIn data "connections" {} = .ok t.connections :=
    limitsIn_of_saved (.cons nw (.cons nc .nil)) (by decide)
  unfold ofData
  rw [hname.getD_null (by decide), hjetstream.getD_required (by decide),
    htls.getD_required (by decide), hauth.getD_required (by decide), huptime, hcpu, hmemory,
    hconnections]
  rfl

/-- A saved section on clusters is read as it was, without entries that are unknown. -/
theorem Cluster.ofData_of_saved {t : Cluster} (h : AllSaved data (declared .cluster) t.fields) :
    Cluster.ofData data = .ok { t with extras := [] } := by
  simp only [AllSaved, declared, Cluster.fields, List.forall₂_cons] at h
  obtain ⟨hpeers, hsilence, hlag, -⟩ := h
  -- The silence is a span of time, so that its default does not stand in for it.
  have hseen :
      (if t.seenCritical.isNull then usualSilence else t.seenCritical) = t.seenCritical := by
    rcases hsilence.allows with ⟨hoptional, -⟩ | ⟨d, hd⟩
    · contradiction
    · rw [hd]
      rfl
  unfold ofData
  rw [hpeers.getD_null (by decide), hsilence.durationIn rfl, hlag.getD_required (by decide)]
  change Except.ok (Cluster.mk t.expectedPeers (if t.seenCritical.isNull then usualSilence else
    t.seenCritical) t.lagCritical []) = _
  rw [hseen]

/-- A saved section on credentials is read as it was, without entries that are unknown. -/
theorem Credential.ofData_of_saved {t : Credential}
    (h : AllSaved data (declared .credential) t.fields) :
    Credential.ofData data = .ok { t with extras := [] } := by
  simp only [AllSaved, declared, limitSettings, Credential.fields, Limits.fields, List.cons_append,
    List.nil_append, List.forall₂_cons] at h
  obtain ⟨hpath, hexpiry, vw, vc, -⟩ := h
  have hvalidity : durationLimits data "validity" = .ok t.validity :=
    durationLimits_of_saved (.cons vw (.cons vc .nil))
  unfold ofData
  rw [hpath.getD_null (by decide), hexpiry.getD_required (by decide), hvalidity]
  rfl

/-- A saved section on messages is read as it was, without entries that are unknown. -/
theorem Message.ofData_of_saved {t : Message} (h : AllSaved data (declared .message) t.fields) :
    Message.ofData data = .ok { t with extras := [] } := by
  simp only [AllSaved, declared, limitSettings, Message.fields, Limits.fields, List.cons_append,
    List.nil_append, List.forall₂_cons] at h
  obtain ⟨hstream, hsubject, aw, ac, hbody, -⟩ := h
  have hage : durationLimits data "age" = .ok t.age :=
    durationLimits_of_saved (.cons aw (.cons ac .nil))
  unfold ofData
  rw [hstream.getD_required (by decide), hsubject.getD_required (by decide), hage,
    hbody.getD_required (by decide)]
  rfl

/-- The section for accounts has all its settings, so that they are read as they were. -/
theorem Account.ofData_of_mem {t : Account}
    (h : ∀ f ∈ t.fields, data.get? f.1 = .ok (some f.2)) :
    Account.ofData data = .ok { t with extras := [] } := by
  -- A setting that is there is read whatever its default.
  have hgetD : ∀ f ∈ t.fields, ∀ usual, data.getD f.1 usual = .ok f.2 := by
    intro f hf usual
    unfold Value.getD
    rw [h f hf]
    rfl
  have hlimits : ∀ (metric : String) (usual l : Limits), (∀ f ∈ l.fields metric, f ∈ t.fields) →
      limitsIn data metric usual = .ok l := by
    intro metric usual l hl
    have hw := hgetD _ (hl (metric ++ "_warning", l.warning) (by simp [Limits.fields]))
      usual.warning
    have hc := hgetD _ (hl (metric ++ "_critical", l.critical) (by simp [Limits.fields]))
      usual.critical
    unfold limitsIn
    rw [hw, hc]
    rfl
  unfold ofData
  rw [hlimits "memory" usualShare t.memory fun f hf => by simp [fields, hf],
    hlimits "storage" usualShare t.storage fun f hf => by simp [fields, hf],
    hlimits "streams" {} t.streams fun f hf => by simp [fields, hf],
    hlimits "consumers" {} t.consumers fun f hf => by simp [fields, hf]]
  rfl

/-! ## The configuration -/

/-- The settings of unknown names of a section. -/
def extrasOf (c : Config) : Kind → Extras
  | .vitals => c.vitals.extras
  | .account => c.account.extras
  | .cluster => c.cluster.extras
  | .credential => c.credential.extras
  | .message => c.message.extras

/-- The configuration without settings of unknown names. -/
def withoutExtras (c : Config) : Config where
  vitals := { c.vitals with extras := [] }
  account := { c.account with extras := [] }
  cluster := { c.cluster with extras := [] }
  credential := { c.credential with extras := [] }
  message := { c.message with extras := [] }
  monitorUrl := c.monitorUrl
  logLevel := c.logLevel

/-- A configuration whose settings have values that they may have, and whose spans of time can be
written. Settings of unknown names have other names than the declared ones. -/
structure IsSavable (c : Config) : Prop where
  /-- The settings are of their types, or null where they may be left unset. -/
  allows : ∀ k, List.Forall₂ (fun s f => s.Allows f.2) (declared k) (c.fieldsOf k)
  /-- The spans of time are whole seconds or less than one second, and not negative. -/
  isWritten : ∀ k, ∀ f ∈ c.fieldsOf k, ∀ d, f.2 = .duration d → d.IsWritten
  /-- Settings of unknown names are no declared ones. -/
  unknown : ∀ k, ∀ e ∈ c.extrasOf k, e.1 ∉ (declared k).map (·.name)

/-- A section as it is written. -/
def sectionData (c : Config) : Kind → Value
  | .account => .ofFields (c.fieldsOf .account ++ c.extrasOf .account)
  | k => writtenFields (c.fieldsOf k ++ c.extrasOf k)

/-- No two declared settings of a section have one name. -/
theorem nodup_declared (k : Kind) : ((declared k).map (·.name)).Nodup := by
  cases k
  all_goals simp [declared, limitSettings]

/-- A section is found in the data as it is written. -/
theorem sectionIn_toData (c : Config) (k : Kind) :
    sectionIn c.toData k.name = .ok (c.sectionData k) := by
  have hfound : c.toData.get? k.name = .ok (some (c.sectionData k)) := by
    cases k
    all_goals rfl
  -- A section in which nothing is written counts as false, and is replaced by an empty one.
  have htruthy : ∀ entries, (if (Value.map entries).truthy then Value.map entries else .map []) =
      .map entries := by
    intro entries
    cases entries
    all_goals rfl
  have hmap : ∃ entries, c.sectionData k = .map entries := by
    cases k
    all_goals exact ⟨_, rfl⟩
  obtain ⟨entries, hentries⟩ := hmap
  unfold sectionIn Value.getD
  rw [hfound, hentries]
  exact congrArg Except.ok (htruthy entries)

section

variable {c : Config} {k : Kind}

/-- Settings that are kept, of values that they may have, are saved. -/
theorem allSaved_of_keeps {settings : List Setting} {fields : List (String × Value)}
    (hnames : settings.map (·.name) = fields.map (·.1))
    (hallows : List.Forall₂ (fun s f => s.Allows f.2) settings fields)
    (hwritten : ∀ f ∈ fields, ∀ d, f.2 = .duration d → d.IsWritten)
    (hkeeps : ∀ f ∈ fields, Keeps data f) : AllSaved data settings fields := by
  induction hallows with
  | nil => exact .nil
  | @cons s f settings fields hallows _ ih =>
    obtain ⟨hname, hnames⟩ := List.cons.inj hnames
    rw [List.forall_mem_cons] at hwritten hkeeps
    refine .cons ⟨hallows, hwritten.1, ?_⟩ (ih hnames hwritten.2 hkeeps.2)
    have hhead : s.name = f.1 := hname
    rw [hhead]
    exact hkeeps.1

/-- A setting is the only one of its name that is written. -/
theorem IsSavable.eq_of_name_eq (h : c.IsSavable) {f g : String × Value} (hf : f ∈ c.fieldsOf k)
    (hg : g ∈ c.fieldsOf k ++ c.extrasOf k) (hname : g.1 = f.1) : g = f := by
  have hnames := map_name_declared c k
  have hnodup := nodup_declared k
  rw [hnames] at hnodup
  -- Declared settings have distinct names, and the others have other names.
  rcases List.mem_append.mp hg with hfield | hextra
  · exact List.inj_on_of_nodup_map hnodup hfield hf hname
  · have hunknown := h.unknown k g hextra
    rw [hnames, hname] at hunknown
    exact absurd (List.mem_map_of_mem hf) hunknown

/-- The settings of the sections that leave null out are saved. -/
theorem IsSavable.allSaved (h : c.IsSavable)
    (hdata : data = writtenFields (c.fieldsOf k ++ c.extrasOf k)) :
    AllSaved data (declared k) (c.fieldsOf k) := by
  refine allSaved_of_keeps (map_name_declared c k) (h.allows k) (h.isWritten k) ?_
  intro f hf
  rw [hdata]
  exact keeps_writtenFields (List.mem_append_left _ hf) fun g hg => h.eq_of_name_eq hf hg

/-- The settings of the section for accounts are saved, null included. -/
theorem IsSavable.get?_account (h : c.IsSavable) :
    ∀ f ∈ c.account.fields, (c.sectionData .account).get? f.1 = .ok (some f.2) := by
  intro f hf
  have hlookup : Value.lookup f.1 _ = some f.2 :=
    Value.lookup_of_unique (List.mem_append_left (c.extrasOf .account) hf)
      fun g hg => h.eq_of_name_eq (k := .account) hf hg
  exact congrArg Except.ok hlookup

/-- A configuration that is saved and read again is the same, except for settings of unknown
names. -/
theorem ofData_toData (h : c.IsSavable) : ofData c.toData = .ok c.withoutExtras := by
  have hurl : c.toData.getD "monitor_url" (.str "http://localhost:8222") = .ok c.monitorUrl := rfl
  have hlevel : c.toData.getD "log_level" (.str "WARNING") = .ok c.logLevel := rfl
  have hvitals : Vitals.ofData (c.sectionData .vitals) = _ :=
    Vitals.ofData_of_saved (h.allSaved rfl)
  have haccount : Account.ofData (c.sectionData .account) = _ :=
    Account.ofData_of_mem h.get?_account
  have hcluster : Cluster.ofData (c.sectionData .cluster) = _ :=
    Cluster.ofData_of_saved (h.allSaved rfl)
  have hcredential : Credential.ofData (c.sectionData .credential) = _ :=
    Credential.ofData_of_saved (h.allSaved rfl)
  have hmessage : Message.ofData (c.sectionData .message) = _ :=
    Message.ofData_of_saved (h.allSaved rfl)
  -- The sections are read one after the other.
  simp only [ofData, bind_eq_ok_iff]
  refine ⟨_, c.sectionIn_toData .vitals, _, hvitals, ?_⟩
  refine ⟨_, c.sectionIn_toData .account, _, haccount, ?_⟩
  refine ⟨_, c.sectionIn_toData .cluster, _, hcluster, ?_⟩
  refine ⟨_, c.sectionIn_toData .credential, _, hcredential, ?_⟩
  exact ⟨_, c.sectionIn_toData .message, _, hmessage, _, hurl, _, hlevel, rfl⟩

/-- The sample without one of the usual thresholds is the same again: the default does not come
back. -/
theorem ofData_toData_sample :
    let c : Config := { sample with account := { memory := ⟨.null, .int 90⟩ } }
    ofData c.toData = .ok c := by
  intro c
  apply ofData_toData
  refine ⟨?_, ?_, ?_⟩
  · intro k
    cases k
    all_goals simp [c, declared, limitSettings, fieldsOf, sample, Vitals.fields, Account.fields,
      Cluster.fields, Credential.fields, Message.fields, Limits.fields, Setting.Allows,
      SettingType.Admits, usualShare, usualSilence]
  · intro k
    cases k
    all_goals simp [c, fieldsOf, sample, Vitals.fields, Account.fields, Cluster.fields,
      Credential.fields, Message.fields, Limits.fields, usualShare, usualSilence]
    all_goals decide
  · intro k
    cases k
    all_goals simp [c, extrasOf, sample]

end

end Config

end Vigil
