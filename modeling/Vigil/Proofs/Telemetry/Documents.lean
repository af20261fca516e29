import Vigil.Proofs.Number.Units
import Vigil.Proofs.Value.Converting
import Vigil.Telemetry

/-!
# Documents of telemetry

Which documents of a server are understood: those that tell its vitals (`Telemetry.TellsVitals`)
and those that tell the state of its cluster (`Telemetry.TellsCluster`). Of every other document
there is a fault (`Telemetry.stops_vitalsOf`, `Telemetry.stops_clusterOf`), and it is never told as
one of telemetry (`Telemetry.vitalsOf_untold`, `Telemetry.clusterOf_untold`).
-/

namespace Vigil

attribute [local irreducible] Double.unitsPerOne

/-- Whether a fault is told as one of telemetry. -/
def Fault.isCollector : Fault → Bool
  | .collector _ => true
  | _ => false

/-- A fault of data is no fault of the collector. -/
theorem Fault.isCollector_of_isData {fault : Fault} (h : fault.isData) :
    fault.isCollector = false := by
  cases fault <;> simp_all [isData, isCollector]

/-- A fault of the calendar is no fault of telemetry either. -/
theorem Value.toInstant_untold (v : Value) : FailsWith (·.isCollector = false) v.toInstant := by
  refine v.toInstant_failsWith.mono ?_
  rintro fault (hdata | rfl)
  · exact Fault.isCollector_of_isData hdata
  · rfl

/-- A calculation that fails with faults of data only never fails as a collector does. -/
theorem FailsWith.untold {α : Type} {x : Except Fault α} (h : FailsWith (·.isData) x) :
    FailsWith (·.isCollector = false) x := h.mono fun _ => Fault.isCollector_of_isData

namespace Duration

/-- Microseconds that a duration can have. -/
def Holds (micros : Int) : Prop :=
  -86399999913600000000 ≤ micros ∧ micros ≤ 86399999999999999999

instance (micros : Int) : Decidable (Holds micros) := inferInstanceAs (Decidable (_ ∧ _))

/-- Microseconds are refused exactly if no duration has them. -/
theorem stops_ofMicros? (micros : Int) : Stops (liftRange (ofMicros? micros)) ↔ ¬Holds micros := by
  unfold ofMicros? Holds
  by_cases h : -86399999913600000000 ≤ micros ∧ micros ≤ 86399999999999999999
  · rw [dif_pos h]
    simp [liftRange, h]
  · rw [dif_neg h]
    dsimp only
    split <;> simp [liftRange, h]

/-- A number of microseconds is refused exactly if it rounds to none that a duration can have. -/
theorem stops_ofMicroseconds? (x : Double) :
    Stops (ofMicroseconds? x) ↔ ¬∃ micros, x.roundEven? = some micros ∧ Holds micros := by
  cases x with
  | nan => simp [ofMicroseconds?, integerPart, Double.roundEven?, Double.units?, stops_bind]
  | infinite s => simp [ofMicroseconds?, integerPart, Double.roundEven?, Double.units?, stops_bind]
  | finite negative mantissa unit canonical =>
    have hround : ∃ micros, (Double.finite negative mantissa unit canonical).roundEven? =
      some micros := by simp [Double.roundEven?, Double.units?]
    obtain ⟨micros, hmicros⟩ := hround
    have hbind : ofMicroseconds? (.finite negative mantissa unit canonical) =
        liftRange (ofMicros? micros) := by
      rw [ofMicroseconds?, hmicros]
      rfl
    rw [hbind, stops_ofMicros?, hmicros]
    simp

/-- A whole number of microseconds is read without rounding. -/
theorem ofMicroseconds?_of_isInteger {x : Double} {d : Duration} (hx : x.IsInteger d.micros) :
    ofMicroseconds? x = .ok d := by
  have hround : x.roundEven? = some d.micros := hx.roundEven?
  have hfinite : x.isFinite := Double.isFinite_of_units? hx
  cases x with
  | finite =>
    rw [ofMicroseconds?, hround]
    change liftRange (ofMicros? d.micros) = _
    rw [ofMicros?_micros]
    rfl
  | _ => contradiction

end Duration

namespace Telemetry

/-! ## Entries -/

/-- The value of a key among entries, or a default if there is no such key. -/
def entry (entries : List (Value × Value)) (key : String) (default : Value) : Value :=
  (Value.lookup key entries).getD default

/-- A mapping has an entry or the default under every key. -/
theorem getD_map (entries : List (Value × Value)) (key : String) (default : Value) :
    (Value.map entries).getD key default = .ok (entry entries key default) := rfl

/-- Only a mapping has entries to look for. -/
theorem stops_getD {v : Value} (h : ∀ entries, v ≠ .map entries) (key : String)
    (default : Value) : Stops (v.getD key default) := by
  cases v with
  | map entries => exact absurd rfl (h entries)
  | _ => simp [Value.getD, Value.get?]

/-- What stops on every value but mappings, and on mappings unless their entries are good. -/
theorem stops_iff_of_map {α : Type} {f : Value → Except Fault α}
    {p : List (Value × Value) → Prop} (hmap : ∀ entries, Stops (f (.map entries)) ↔ ¬p entries)
    (hother : ∀ v, (∀ entries, v ≠ .map entries) → Stops (f v)) (v : Value) :
    Stops (f v) ↔ ¬∃ entries, v = .map entries ∧ p entries := by
  by_cases h : ∃ entries, v = .map entries
  · obtain ⟨entries, rfl⟩ := h
    rw [hmap]
    simp
  · push Not at h
    refine iff_of_true (hother v h) ?_
    rintro ⟨entries, rfl, -⟩
    exact h entries rfl

/-! ## Vitals -/

/-- The entries of a document that tells the vitals of a server. -/
@[mk_iff]
structure HoldsVitals (entries : List (Value × Value)) : Prop where
  /-- What is told about streams is a mapping, unless it counts as false. -/
  jetstream : (entry entries "jetstream" .null).truthy →
    ∃ inner, entry entries "jetstream" .null = .map inner
  /-- The use of processors is a number. -/
  cpu : (entry entries "cpu" (.int 0)).IsNumber
  /-- The connections can be counted. -/
  connections : (entry entries "connections" (.int 0)).IsWhole
  /-- So can the bytes of memory. -/
  memory : (entry entries "mem" (.int 0)).IsWhole
  /-- The time of the document is there. -/
  now : ∃ v, Value.lookup "now" entries = some v ∧ v.IsTime
  /-- The start of the server is a time, unless it counts as false. -/
  start : ∀ v, Value.lookup "start" entries = some v → v.truthy → v.IsTime

/-- A document tells the vitals of a server. -/
def TellsVitals (data : Value) : Prop := ∃ entries, data = .map entries ∧ HoldsVitals entries

/-- What counts as false is taken for an empty mapping, so that only other values that are no
mappings are refused. -/
theorem stops_orEmpty_getD (v : Value) (key : String) (default : Value) :
    Stops ((orEmpty v).getD key default) ↔ ¬(v.truthy → ∃ inner, v = .map inner) := by
  unfold orEmpty
  by_cases htrue : v.truthy
  · by_cases hmap : ∃ inner, v = .map inner
    · obtain ⟨inner, rfl⟩ := hmap
      simp [htrue, getD_map]
    · have := stops_getD (by simpa using hmap) key default
      simp [htrue, hmap, this]
  · simp [htrue, getD_map]

/-- The time of a key, which must be there. -/
def timeOf (entries : List (Value × Value)) (key : String) : Except Fault Instant :=
  (Value.map entries).member key >>= Value.toInstant

/-- The time under a key is refused exactly if the key is missing or its value is no time. -/
theorem stops_timeOf (entries : List (Value × Value)) (key : String) :
    Stops (timeOf entries key) ↔ ¬∃ v, Value.lookup key entries = some v ∧ v.IsTime := by
  rw [timeOf, stops_bind]
  cases h : Value.lookup key entries <;> simp [Value.member, h, Value.stops_toInstant]

/-- A time that may be missing is refused exactly if its value counts as true and is no time. -/
theorem stops_instantIfTrue (entries : List (Value × Value)) (key : String) :
    Stops (Snapshot.instantIfTrue (.map entries) key) ↔
      ¬∀ v, Value.lookup key entries = some v → v.truthy → v.IsTime := by
  unfold Snapshot.instantIfTrue
  rw [getD_map]
  cases h : Value.lookup key entries with
  | none => simp [entry, h, stops_bind, Value.truthy]
  | some v =>
    have hmember : (Value.map entries).member key = .ok v := by simp [Value.member, h]
    simp [entry, h, hmember, stops_bind, stops_ite, Value.stops_toInstant]

/-- What of a mapping can go wrong, in the order in which it is read. -/
theorem vitalsOf_map (entries : List (Value × Value)) :
    vitalsOf (.map entries) = (do
      let config ← (orEmpty (entry entries "jetstream" .null)).getD "config" .null
      let cpu ← (entry entries "cpu" (.int 0)).toDouble
      let connections ← (entry entries "connections" (.int 0)).toInt
      let memory ← (entry entries "mem" (.int 0)).toInt
      let now ← timeOf entries "now"
      let start ← Snapshot.instantIfTrue (.map entries) "start"
      return {
        name := entry entries "server_name" (.str ""), jetstream := .bool config.truthy
        tls := entry entries "tls_required" (.bool false)
        auth := entry entries "auth_required" (.bool false), cpu, connections, memory, now,
        start }) := by
  simp only [timeOf, bind_assoc]
  rfl

/-- The entries of a document are refused exactly if they do not hold the vitals of a server. -/
theorem stops_vitalsOf_map (entries : List (Value × Value)) :
    Stops (vitalsOf (.map entries)) ↔ ¬HoldsVitals entries := by
  rw [vitalsOf_map, holdsVitals_iff]
  -- No part depends on whether another one stops.
  rw [stops_bind_of_iff fun _ => stops_bind_of_iff fun _ => stops_bind_of_iff fun _ =>
    stops_bind_of_iff fun _ => stops_bind_of_iff fun _ => stops_bind_pure]
  rw [stops_orEmpty_getD, Value.stops_toDouble, Value.stops_toInt, Value.stops_toInt, stops_timeOf,
    stops_instantIfTrue]
  simp only [not_and_or]

/-- A document that tells no vitals is not understood. -/
theorem stops_vitalsOf (data : Value) : Stops (vitalsOf data) ↔ ¬TellsVitals data := by
  refine stops_iff_of_map stops_vitalsOf_map (fun v hv => ?_) data
  rw [vitalsOf, stops_bind]
  exact .inl (stops_getD hv _ _)

/-! ## Clusters -/

/-- Whether a value is a number of nanoseconds that a duration can have, rounded to microseconds. -/
def IsNanoseconds (v : Value) : Prop :=
  ∃ x micros, thousandth v = .ok x ∧ x.roundEven? = some micros ∧ Duration.Holds micros

/-- Whole microseconds are read from their nanoseconds without rounding. -/
theorem thousandth_bind {d : Duration} (h : d.micros.natAbs ≤ 2 ^ 53) :
    thousandth (.int (d.micros * 1000)) >>= Duration.ofMicroseconds? = .ok d := by
  have hthousand : ((1000 : ℕ) : ℤ) = 1000 := rfl
  have hexact := Double.IsInteger.ofRatio h (show 0 < 1000 by decide)
  rw [hthousand] at hexact
  have hthousandth : thousandth (.int (d.micros * 1000)) =
      .ok (Double.ofRatio (d.micros * 1000 < 0) (d.micros * 1000).natAbs 1000) := by
    rw [thousandth, if_pos (Double.isFinite_of_units? hexact)]
  exact bind_eq_ok_iff.mpr ⟨_, hthousandth, Duration.ofMicroseconds?_of_isInteger hexact⟩

/-- A whole number of microseconds comes back from nanoseconds exactly, up to those that a double
counts one by one. -/
theorem nanoseconds_int {d : Duration} (h : d.micros.natAbs ≤ 2 ^ 53) :
    nanoseconds (.int (d.micros * 1000)) = .ok d := by
  have hself (n : ℤ) : (if (Value.int n).truthy then Value.int n else .int 0) = .int n := by
    by_cases hn : n = 0 <;> simp [Value.truthy, hn]
  rw [nanoseconds, hself]
  exact thousandth_bind h

/-- Nanoseconds are refused exactly if they count as true and no duration has them. -/
theorem stops_nanoseconds (v : Value) :
    Stops (nanoseconds v) ↔ ¬(v.truthy → IsNanoseconds v) := by
  unfold nanoseconds
  by_cases htrue : v.truthy
  · rw [if_pos htrue, stops_bind]
    cases h : thousandth v <;> simp [htrue, IsNanoseconds, h, Duration.stops_ofMicroseconds?]
  · rw [if_neg htrue]
    have hzero : thousandth (.int 0) >>= Duration.ofMicroseconds? = .ok .zero :=
      thousandth_bind (d := .zero) (by decide)
    simpa [htrue] using not_stops_iff.mpr ⟨_, hzero⟩

/-- The entries of a document that tells a replica. -/
@[mk_iff]
structure HoldsPeer (entries : List (Value × Value)) : Prop where
  /-- The time since it was last seen is a duration, unless it counts as false. -/
  active : (entry entries "active" .null).truthy → IsNanoseconds (entry entries "active" .null)
  /-- Its lag can be counted. -/
  lag : (entry entries "lag" (.int 0)).IsWhole

/-- A document tells a replica. -/
def TellsPeer (data : Value) : Prop := ∃ entries, data = .map entries ∧ HoldsPeer entries

/-- A document lists replicas, or counts as false. -/
def TellsPeers (data : Value) : Prop :=
  data.truthy → ∃ items, data.items = .ok items ∧ ∀ item ∈ items, TellsPeer item

/-- A document tells the state of a cluster, or that there is none. -/
def TellsCluster (data : Value) : Prop :=
  ∃ entries, data = .map entries ∧ ((entry entries "meta_cluster" .null).truthy →
    ∃ inner, entry entries "meta_cluster" .null = .map inner ∧
      TellsPeers (entry inner "replicas" .null))

/-- A replica is refused exactly if the document does not tell one. -/
theorem stops_peerOf (data : Value) : Stops (peerOf data) ↔ ¬TellsPeer data := by
  refine stops_iff_of_map (fun entries => ?_) (fun v hv => ?_) data
  · have hmap : peerOf (.map entries) = (do
        let active ← nanoseconds (entry entries "active" .null)
        let lag ← (entry entries "lag" (.int 0)).toInt
        return {
          name := entry entries "name" (.str ""), current := entry entries "current" (.bool false)
          offline := entry entries "offline" (.bool false), active, lag }) := rfl
    rw [hmap, stops_bind_of_iff fun active => stops_bind_pure, stops_nanoseconds,
      Value.stops_toInt, holdsPeer_iff, not_and_or]
  · rw [peerOf, stops_bind]
    exact .inl (stops_getD hv _ _)

/-- The list of replicas is refused exactly if the document does not list them. -/
theorem stops_peersOf (data : Value) : Stops (peersOf data) ↔ ¬TellsPeers data := by
  unfold peersOf TellsPeers
  by_cases htrue : data.truthy
  · rw [if_pos htrue, stops_bind]
    cases h : data.items <;> simp [htrue, stops_mapM, stops_peerOf]
  · simp [htrue]

/-- The cluster of which a document tells the state. -/
def stateOf (state : Value) : Except Fault (Option Snapshot.Cluster) := do
  let replicas ← peersOf (← state.getD "replicas" .null)
  let leader ← state.getD "leader" (.str "")
  return some { leader, replicas }

/-- The cluster is made of the entry of its state, unless that counts as false. -/
theorem clusterOf_eq (data : Value) :
    clusterOf data = (do
      let state ← data.getD "meta_cluster" .null
      if state.truthy then stateOf state else return none) := rfl

/-- The state of a cluster is refused exactly if it is no mapping or does not list replicas. -/
theorem stops_stateOf (state : Value) :
    Stops (stateOf state) ↔
      ¬∃ inner, state = .map inner ∧ TellsPeers (entry inner "replicas" .null) := by
  refine stops_iff_of_map (fun inner => ?_) (fun v hv => ?_) state
  · have hmap : stateOf (.map inner) = (do
        let replicas ← peersOf (entry inner "replicas" .null)
        return some { leader := entry inner "leader" (.str ""), replicas }) := rfl
    rw [hmap, stops_bind_pure, stops_peersOf]
  · rw [stateOf, stops_bind]
    exact .inl (stops_getD hv _ _)

/-- A document that tells neither the state of a cluster nor that there is none is not
understood. -/
theorem stops_clusterOf (data : Value) : Stops (clusterOf data) ↔ ¬TellsCluster data := by
  refine stops_iff_of_map (fun entries => ?_) (fun v hv => ?_) data
  · have hmap : clusterOf (.map entries) =
        if (entry entries "meta_cluster" .null).truthy then
          stateOf (entry entries "meta_cluster" .null) else return none := rfl
    rw [hmap, stops_ite, stops_stateOf]
    simp only [not_stops_pure, and_false, or_false, Classical.not_imp]
  · rw [clusterOf_eq, stops_bind]
    exact .inl (stops_getD hv _ _)

/-! ## Faults -/

/-- Looking for an entry never fails as a collector does. -/
theorem getD_untold (v : Value) (key : String) (default : Value) :
    FailsWith (·.isCollector = false) (v.getD key default) := (v.getD_failsWith key default).untold

/-- Reading a time that may be missing never fails as a collector does. -/
theorem instantIfTrue_untold (data : Value) (key : String) :
    FailsWith (·.isCollector = false) (Snapshot.instantIfTrue data key) := by
  refine (getD_untold _ _ _).bind fun v => .ite (fun _ => ?_) fun _ => .pure _
  refine (data.member_failsWith key).untold.bind fun _ => ?_
  exact (Value.toInstant_untold _).bind fun _ => .pure _

/-- Reading the vitals of a server never fails as a collector does. -/
theorem vitalsOf_untold (data : Value) : FailsWith (·.isCollector = false) (vitalsOf data) := by
  refine (getD_untold _ _ _).bind fun _ => (getD_untold _ _ _).bind fun _ => ?_
  refine (getD_untold _ _ _).bind fun _ => (getD_untold _ _ _).bind fun _ => ?_
  refine (getD_untold _ _ _).bind fun _ => (getD_untold _ _ _).bind fun _ => ?_
  refine (Value.toDouble_failsWith _).untold.bind fun _ => (getD_untold _ _ _).bind fun _ => ?_
  refine (Value.toInt_failsWith _).untold.bind fun _ => (getD_untold _ _ _).bind fun _ => ?_
  refine (Value.toInt_failsWith _).untold.bind fun _ => ?_
  refine (data.member_failsWith _).untold.bind fun _ => (Value.toInstant_untold _).bind fun _ => ?_
  exact (instantIfTrue_untold _ _).bind fun _ => .pure _

/-- Reading nanoseconds fails with faults of data only. -/
theorem nanoseconds_failsWith (v : Value) : FailsWith (·.isData) (nanoseconds v) := by
  refine FailsWith.bind ?_ fun x => ?_
  · generalize (if v.truthy then v else .int 0) = w
    unfold thousandth
    split
    · exact .ok _
    · exact .ok _
    · exact .ite (fun _ => .ok _) fun _ => by simp [Fault.isData]
    · simp [Fault.isData]
  · exact (Duration.integerPart_failsWith x).bind fun _ => Duration.liftRange_failsWith _

/-- Reading a replica never fails as a collector does. -/
theorem peerOf_untold (data : Value) : FailsWith (·.isCollector = false) (peerOf data) := by
  refine (getD_untold _ _ _).bind fun _ => (getD_untold _ _ _).bind fun _ => ?_
  refine (getD_untold _ _ _).bind fun _ => (getD_untold _ _ _).bind fun _ => ?_
  refine (nanoseconds_failsWith _).untold.bind fun _ => (getD_untold _ _ _).bind fun _ => ?_
  exact (Value.toInt_failsWith _).untold.bind fun _ => .pure _

/-- Reading a cluster never fails as a collector does. -/
theorem clusterOf_untold (data : Value) : FailsWith (·.isCollector = false) (clusterOf data) := by
  have hpeers (v : Value) : FailsWith (·.isCollector = false) (peersOf v) :=
    .ite (fun _ => v.items_failsWith.untold.bind fun _ => .mapM peerOf_untold _) fun _ => .pure _
  rw [clusterOf_eq]
  refine (getD_untold _ _ _).bind fun _ => .ite (fun _ => ?_) fun _ => .pure _
  refine (getD_untold _ _ _).bind fun _ => (hpeers _).bind fun _ => ?_
  exact (getD_untold _ _ _).bind fun _ => .pure _

end Telemetry

end Vigil
