import Vigil.Files.Path

/-!
# Files

What is known of the files: those in the working directory and below it, and those below the root. A
path is walked name by name, each name but the last leading through a directory. Nothing is known of
the directories above the working directory but that they are there.
-/

namespace Vigil

/-- What stands at a place. -/
inductive Entry where
  /-- A file with its bytes. -/
  | file (content : List UInt8)
  /-- A directory. -/
  | directory
  deriving DecidableEq, Repr

/-- A place: the names from the working directory on, or one above it. At the root, a slash comes
before all names. -/
inductive Place where
  | inside (names : List String)
  | above
  deriving DecidableEq, Repr

/-- Files and directories, each with the names of its place. -/
structure Files where
  /-- The entries; no place occurs twice. -/
  entries : List (List String × Entry) := []

namespace Files

/-- What stands at a place. -/
def entry? (files : Files) : Place → Option Entry
  | .above | .inside [] | .inside ["/"] => some .directory
  | .inside names => (files.entries.find? (·.1 = names)).map (·.2)

/-- Puts an entry at a place, in the order of its first appearance. -/
def put (names : List String) (e : Entry) (files : Files) : Files :=
  if files.entries.any (·.1 = names) then
    { entries := files.entries.map fun old => if old.1 = names then (names, e) else old }
  else { entries := files.entries ++ [(names, e)] }

/-- Why a path leads nowhere. -/
inductive Absence where
  | notFound | notDirectory | tooLong
  deriving DecidableEq, Repr

/-- The fault of a path that leads nowhere. -/
def Absence.fault (path : String) : Absence → Fault
  | .notFound => .file (.notFound path)
  | .notDirectory => .file (.notDirectory path)
  | .tooLong => .file (.tooLong path)

/-- The number of bytes that a name may have. -/
def maxName : Nat := 255

/-- The place that a path begins at. -/
def start (root : String) : Place := .inside (if root = "" then [] else ["/"])

/-- The place that a name in a directory leads to. -/
def Place.step (place : Place) (name : String) : Place :=
  if name = "" || name = "." then place
  else
    match place with
    | .above => .above
    | .inside names =>
      if name ≠ ".." then .inside (names ++ [name])
      else if names.isEmpty then .above
      else if names = ["/"] then .inside names
      else .inside names.dropLast

/-- Whether a name asks for something of which nothing is known. -/
def isUnknown (place : Place) (name : String) : Bool :=
  place = .above && !(name = "" || name = "." || name = "..")

/-- Walks along names from a place. -/
def walk (files : Files) (place : Place) : List String → Except Absence Place
  | [] => .ok place
  | name :: rest =>
    match files.entry? place with
    | none => .error .notFound
    | some (.file _) => .error .notDirectory
    | some .directory =>
      if maxName < name.utf8ByteSize then .error .tooLong
      else if isUnknown place name then .error .notFound
      else files.walk (Place.step place name) rest

/-- The place that names lead to, and what stands there. -/
def reach (files : Files) (root : String) (names : List String) :
    Except Absence (Place × Entry) := do
  let place ← files.walk (start root) names
  match files.entry? place with
  | some e => return (place, e)
  | none => .error .notFound

/-- Whether a text, as it is written, leads to something. -/
def leads (files : Files) (text : String) : Bool :=
  text ≠ "" && (files.reach (Path.rootOf text) (Path.split text)).isOk

/-- Whether a path leads to something; a name that is too long is a fault. -/
def has (files : Files) (p : Path) : Except Fault Bool :=
  match files.reach p.root p.names with
  | .ok _ => .ok true
  | .error .tooLong => .error (.file (.tooLong p.text))
  | .error _ => .ok false

/-- Whether a path leads to a directory. -/
def hasDirectory (files : Files) (p : Path) : Bool :=
  match files.reach p.root p.names with
  | .ok (_, .directory) => true
  | _ => false

/-- Whether a path holds a character that none can hold. -/
def isRefused (p : Path) : Bool := p.names.any fun name => name.toList.contains '\x00'

/-- The bytes of the file that a path leads to. -/
def read (files : Files) (p : Path) : Except Fault (List UInt8) :=
  if isRefused p then .error (.value .embeddedNull)
  else
    match files.reach p.root p.names with
    | .ok (_, .file content) => .ok content
    | .ok (_, .directory) => .error (.file (.isDirectory p.text))
    | .error absence => .error (absence.fault p.text)

/-- Makes the last directory of a path. -/
def makeDirectory (p : Path) (files : Files) : Except Fault Files :=
  if isRefused p then .error (.value .embeddedNull)
  else
    match p.names.getLast? with
    | none => .error (.file (.exists p.text))
    | some name =>
      match files.reach p.root p.names, files.reach p.root p.names.dropLast with
      | .ok _, _ => .error (.file (.exists p.text))
      | .error .tooLong, _ => .error (.file (.tooLong p.text))
      | _, .error absence => .error (absence.fault p.text)
      | _, .ok (_, .file _) => .error (.file (.notDirectory p.text))
      | .error absence, .ok (place, .directory) =>
        match Place.step place name with
        | .inside names => .ok (files.put names .directory)
        | .above => .error (absence.fault p.text)

/-- The outcome of making a directory, that of making it where there is one already being good. -/
def settled (p : Path) (files : Files) : Except Fault Files → Except Fault Files
  | .ok after => .ok after
  | .error fault => if files.hasDirectory p then .ok files else .error fault

/-- Makes the directory of a path and those on the way; `n` bounds their number. -/
def makeDirectories : Nat → Path → Files → Except Fault Files
  | 0, _, files => .ok files
  | n + 1, p, files =>
    match files.makeDirectory p with
    | .error (.file (.notFound path)) =>
      if p.names.isEmpty then .error (.file (.notFound path))
      else do
        let above ← makeDirectories n p.parent files
        settled p above (above.makeDirectory p)
    | outcome => settled p files outcome

/-- Makes the directories on the way to a path. -/
def makeWay (p : Path) (files : Files) : Except Fault Files :=
  makeDirectories (p.names.length + 1) p.parent files

/-- Writes the file of a path, whose directory must be there. -/
def write (p : Path) (content : List UInt8) (files : Files) : Except Fault Files :=
  if isRefused p then .error (.value .embeddedNull)
  else
    match files.reach p.root p.names with
    | .ok (_, .directory) => .error (.file (.isDirectory p.text))
    | .ok (.inside names, .file _) => .ok (files.put names (.file content))
    | .ok (.above, _) => .error (.file (.notFound p.text))
    | .error absence =>
      match files.walk (start p.root) p.names with
      | .ok (.inside names) => .ok (files.put names (.file content))
      | _ => .error (absence.fault p.text)

/-- The files whose bytes are not what they were, with the names that lead to them. -/
def changedFrom (files before : Files) : List (List String × List UInt8) :=
  files.entries.filterMap fun (names, e) =>
    match e with
    | .directory => none
    | .file content =>
      if before.entry? (.inside names) = some (.file content) then none else some (names, content)

end Files

end Vigil
