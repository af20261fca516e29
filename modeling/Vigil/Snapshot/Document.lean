import Vigil.Codec
import Vigil.Files
import Vigil.Snapshot.Reading

/-!
# Snapshots from documents

A document is a mapping that describes a snapshot, or null where there is none. Whatever keeps a
mapping from being read is a fault of the snapshot, which tells the kind and the reason.
-/

namespace Vigil.Snapshot

/-- What is wrong with a snapshot of a kind. -/
def invalid (kind reason : String) : Fault := .snapshot s!"invalid {kind} snapshot{reason}"

/-- The fault of a snapshot in whose mapping a fault was found. -/
def refusal (kind : String) : Fault → Fault
  | .missingKey shown => invalid kind s!": missing {shown}"
  | .kind cause => invalid kind s!": {cause.message}"
  | .attribute owner name => invalid kind s!": {(Fault.attribute owner name).message}"
  | .value cause => invalid kind s!": {cause.message}"
  | .range cause => invalid kind s!": {cause.message}"
  | fault => fault

/-- The snapshot of a document, if it has one; `read` reads a mapping. -/
def ofDocument {α : Type} (kind : String) (read : Value → Except Fault α) :
    Value → Except Fault (Option α)
  | .null => .ok none
  | .map entries =>
    match read (.map entries) with
    | .ok snapshot => .ok (some snapshot)
    | .error fault => .error (refusal kind fault)
  | _ => .error (invalid kind ": expected a mapping")

/-- The document of a file. -/
def documentOf (codec : Codec) (kind : String) (files : Files) (p : Path) :
    Except Fault Value := do
  if !(← files.has p) then .error (.file (.noSnapshot p.text))
  else
    match codec.read (← files.read p) with
    | .error (.document text) => .error (invalid kind s!": {text}")
    | outcome => outcome

/-- Loads the snapshot of a file; `read` reads a mapping. -/
def load {α : Type} (codec : Codec) (kind : String) (read : Value → Except Fault α)
    (files : Files) (p : Path) : Except Fault (Option α) := do
  ofDocument kind read (← documentOf codec kind files p)

end Vigil.Snapshot

namespace Vigil.Kind

/-- The snapshot that a document describes, if there is one. -/
def snapshotOfDocument (k : Kind) (present : Instant) (data : Value) :
    Except Fault (Option k.Snapshot) :=
  Snapshot.ofDocument k.name (fun d => k.snapshotOfData present d) data

/-- Loads the snapshot of a file, if it holds one. -/
def load (k : Kind) (codec : Codec) (present : Instant) (files : Files) (p : Path) :
    Except Fault (Option k.Snapshot) :=
  Snapshot.load codec k.name (fun d => k.snapshotOfData present d) files p

end Vigil.Kind

namespace Vigil.Snapshot

/-- Reads a snapshot whose kind is given by a name. -/
def ofNamedData (name : String) (present : Instant) (data : Value) :
    Except Fault ((k : Kind) × k.Snapshot) := do
  let k ← Kind.ofSnapshotName name
  return ⟨k, ← k.snapshotOfData present data⟩

/-- Loads the snapshot of a file, its kind being given by a name. -/
def loadNamed (codec : Codec) (name : String) (present : Instant) (files : Files) (p : Path) :
    Except Fault (Option ((k : Kind) × k.Snapshot)) :=
  load codec name (ofNamedData name present) files p

end Vigil.Snapshot
