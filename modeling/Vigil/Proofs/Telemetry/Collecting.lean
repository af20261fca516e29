import Vigil.Proofs.Telemetry.Documents
import Vigil.Telemetry.Client

/-!
# Collecting telemetry

What comes of asking an endpoint for a snapshot (`Telemetry.collect_outcome`). A snapshot is told by
a document that is understood. No answer, an answer of bad status and an answer that is no document
are faults of telemetry. A document that is not understood has neither: its fault is one of data,
and it is not told as one of telemetry.
-/

namespace Vigil

/-- A request to an address gets the reply that is known for it. -/
theorem Client.get_ofReplies (ask : Address → Reply) {url : String} {address : Address}
    (h : Address.read url = .ok address) : (ofReplies ask).get url = .ok (ask address) := by
  change (Address.read url).map ask = _
  rw [h]
  rfl

/-! ## Documents -/

/-- A reply is of good status, and its body is a document. -/
def Reply.Holds (client : Client) (j : Json) : Reply → Prop
  | .answered status body => isSuccess status ∧ client.decode body = .ok j
  | .failed _ => False

/-- A reply that holds no document is told as a fault of telemetry. -/
theorem Reply.document_cases (client : Client) (url : String) (reply : Reply) :
    (∃ j, reply.document client url = .ok j ∧ ∀ k, reply.Holds client k ↔ k = j) ∨
      ∃ text, reply.document client url = .error (.collector text) ∧
        ∀ k, ¬reply.Holds client k := by
  cases reply with
  | failed reason => exact .inr ⟨_, rfl, fun _ => id⟩
  | answered status body =>
    by_cases hgood : isSuccess status
    · cases hread : client.decode body with
      | ok j =>
        refine .inl ⟨j, ?_, ?_⟩
        · simp [document, hgood, hread]
        · simp [Holds, hgood, hread, eq_comm]
      | error reason =>
        exact .inr ⟨_, by simp [document, hgood, hread]; rfl, by simp [Holds, hread]⟩
    · exact .inr ⟨_, by simp [document, hgood]; rfl, by simp [Holds, hgood]⟩

namespace Endpoint

/-- The document at a path can be asked for: the address of the request is one. -/
def Asks (e : Endpoint) (path : String) : Prop := ∃ reply, e.client.get (e.url path) = .ok reply

/-- The reply to a request holds a document that describes a value. -/
def Tells (e : Endpoint) (path : String) (data : Value) : Prop :=
  ∃ reply j, e.client.get (e.url path) = .ok reply ∧ reply.Holds e.client j ∧ j.toValue = data

variable (e : Endpoint) (path : String)

/-- What comes of asking for a document: the document, a fault of telemetry, or the fault of an
address that is none. -/
theorem fetch_cases :
    (∃ data, e.fetch path = .ok data ∧ e.Asks path ∧ ∀ told, e.Tells path told ↔ told = data) ∨
    (∃ text, e.fetch path = .error (.collector text) ∧ e.Asks path ∧ ∀ told, ¬e.Tells path told) ∨
    ∃ fault, e.fetch path = .error fault ∧ fault.isCollector = false ∧ ¬e.Asks path ∧
      ∀ told, ¬e.Tells path told := by
  unfold fetch Asks Tells
  cases hget : e.client.get (e.url path) with
  | error reason => exact .inr (.inr ⟨_, rfl, rfl, by simp, by simp⟩)
  | ok reply =>
    rcases reply.document_cases e.client (e.url path) with
      ⟨j, hdocument, hholds⟩ | ⟨text, hdocument, hholds⟩
    · refine .inl ⟨j.toValue, ?_, by simp, ?_⟩
      · simp [hdocument, bind, Except.bind, pure, Except.pure]
      · simp [hholds, eq_comm]
    · refine .inr (.inl ⟨text, ?_, by simp, ?_⟩)
      · simp [hdocument, bind, Except.bind]
      · simp [hholds]

/-- A document that is told is fetched. -/
theorem fetch_of_tells {e : Endpoint} {path : String} {data : Value} (h : e.Tells path data) :
    e.fetch path = .ok data := by
  rcases e.fetch_cases path with
    ⟨fetched, hfetch, -, htells⟩ | ⟨-, -, -, htells⟩ | ⟨-, -, -, -, htells⟩
  · rw [hfetch, (htells data).mp h]
  · exact absurd h (htells data)
  · exact absurd h (htells data)

variable {α : Type} {f : Value → Except Fault α}

/-- What is made of a document is there if one is told of which it can be made. -/
theorem fetch_bind_ok_iff :
    (∃ a, e.fetch path >>= f = .ok a) ↔ ∃ data, e.Tells path data ∧ ¬Stops (f data) := by
  rcases e.fetch_cases path with
    ⟨data, hfetch, -, htells⟩ | ⟨text, hfetch, -, htells⟩ | ⟨fault, hfetch, -, -, htells⟩
  · simp [hfetch, htells, not_stops_iff, bind, Except.bind]
  · simp [hfetch, htells, bind, Except.bind]
  · simp [hfetch, htells, bind, Except.bind]

/-- If nothing else that is made of a document is told as a fault of telemetry, then only a missing
document is. -/
theorem fetch_bind_collector_iff (hf : ∀ data, FailsWith (·.isCollector = false) (f data)) :
    (∃ text, e.fetch path >>= f = .error (.collector text)) ↔
      e.Asks path ∧ ∀ data, ¬e.Tells path data := by
  rcases e.fetch_cases path with
    ⟨data, hfetch, -, htells⟩ | ⟨text, hfetch, hasks, htells⟩ | ⟨fault, hfetch, hfault, hasks, -⟩
  · -- A document is there, and whatever is made of it has no fault of telemetry.
    have huntold (text : String) : f data ≠ .error (.collector text) :=
      (hf data).ne_error (by simp [Fault.isCollector])
    simp [hfetch, htells, huntold, bind, Except.bind]
  · simp [hfetch, hasks, htells, bind, Except.bind]
  · have htold (text : String) : fault ≠ .collector text := by
      rintro rfl
      simp [Fault.isCollector] at hfault
    simp [hfetch, hasks, htold, bind, Except.bind]

end Endpoint

namespace Telemetry

/-- The vitals of a server are those of the document that it tells. -/
theorem vitals_of_tells {e : Endpoint} {data : Value} (h : e.Tells "varz" data) :
    vitals e = vitalsOf data := by
  rw [vitals, Endpoint.fetch_of_tells h]
  rfl

/-- The cluster of a server is that of the document that it tells. -/
theorem cluster_of_tells {e : Endpoint} {data : Value} (h : e.Tells "jsz" data) :
    cluster e = clusterOf data := by
  rw [cluster, Endpoint.fetch_of_tells h]
  rfl

/-- What comes of asking an endpoint for the vitals of its server and for the state of its cluster.
There is a snapshot if the reply holds a document that tells one. There is a fault of telemetry if
the reply holds no document, whatever it is. So the only faults that are not told as faults of
telemetry are those of documents that tell no snapshot, and of an address that is none. This holds
for every client. -/
theorem collect_outcome (e : Endpoint) :
    ((∃ v, vitals e = .ok v) ↔ ∃ data, e.Tells "varz" data ∧ TellsVitals data) ∧
    ((∃ text, vitals e = .error (.collector text)) ↔
      e.Asks "varz" ∧ ∀ data, ¬e.Tells "varz" data) ∧
    ((∃ c, cluster e = .ok c) ↔ ∃ data, e.Tells "jsz" data ∧ TellsCluster data) ∧
    ((∃ text, cluster e = .error (.collector text)) ↔
      e.Asks "jsz" ∧ ∀ data, ¬e.Tells "jsz" data) := by
  have hvitals (data : Value) : ¬Stops (vitalsOf data) ↔ TellsVitals data := by
    rw [stops_vitalsOf, not_not]
  have hcluster (data : Value) : ¬Stops (clusterOf data) ↔ TellsCluster data := by
    rw [stops_clusterOf, not_not]
  simp only [← hvitals, ← hcluster]
  exact ⟨e.fetch_bind_ok_iff "varz", e.fetch_bind_collector_iff "varz" vitalsOf_untold,
    e.fetch_bind_ok_iff "jsz", e.fetch_bind_collector_iff "jsz" clusterOf_untold⟩

/-- A server that answers with an empty object, which lacks the time of its vitals. -/
theorem collect_outcome_empty :
    let e : Endpoint := {
      base := "http://nats-1:8222"
      client := .ofReplies fun _ => .answered 200 [0x7b, 0x7d] }
    (¬∃ v, vitals e = .ok v) ∧ ¬∃ text, vitals e = .error (.collector text) := by
  intro e
  have hread : e.client.decode [0x7b, 0x7d] = .ok (.object []) := rfl
  obtain ⟨address, haddress⟩ :
      ∃ address, Address.read ("http://nats-1:8222" ++ "/" ++ "varz") = .ok address := ⟨_, rfl⟩
  have hget : e.client.get (e.url "varz") = .ok (.answered 200 [0x7b, 0x7d]) :=
    Client.get_ofReplies _ haddress
  have htold : e.Tells "varz" (.map []) := ⟨_, .object [], hget, ⟨by decide, hread⟩, rfl⟩
  refine ⟨fun hok => ?_, fun hcollector => ?_⟩
  · obtain ⟨data, ⟨reply, j, hreply, hholds, rfl⟩, entries, hmap, hvitals⟩ :=
      (collect_outcome e).1.mp hok
    obtain rfl := Except.ok.inj (hreply.symm.trans hget)
    obtain ⟨-, hj⟩ := hholds
    -- The document that is told has no entries.
    obtain rfl : j = .object [] := Except.ok.inj (hj.symm.trans hread)
    obtain rfl : [] = entries := Value.map.inj hmap
    obtain ⟨v, hnow, -⟩ := hvitals.now
    simp [Value.lookup] at hnow
  · exact ((collect_outcome e).2.1.mp hcollector).2 _ htold

end Telemetry

end Vigil
