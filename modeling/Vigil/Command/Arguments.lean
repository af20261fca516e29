import Vigil.Snapshot
import Vigil.Text.Split

/-!
# Arguments

What the program is asked to do, read from its arguments. Options may stand before and after the
word for what is to be checked; a short option may hold its value, and several short options may be
joined. The last value of an option counts.
-/

namespace Vigil.Command

/-- A form in which a report is printed. -/
inductive Format where
  /-- The line that monitoring systems read. -/
  | line
  /-- A document. -/
  | json
  /-- Tables. -/
  | table
  deriving DecidableEq, Repr

/-- The form of a word. -/
def Format.ofName? : String → Option Format
  | "nagios" => some .line
  | "json" => some .json
  | "table" => some .table
  | _ => none

/-- A check that is asked for. -/
structure CheckRequest where
  /-- What is to be checked. -/
  kind : Kind
  /-- The file of the configuration. -/
  config : Option String := none
  /-- The file of the snapshot. -/
  snapshot : Option String := none
  /-- The address of the monitoring endpoint. -/
  url : Option String := none
  /-- The file of the credential. -/
  credential : Option String := none
  /-- The form of the report. -/
  format : Format := .line
  deriving DecidableEq, Repr

/-- What the program is asked to do. -/
inductive Request where
  /-- To run a check. -/
  | check (request : CheckRequest)
  /-- To write a configuration file, whether there is one or not if `force` is set. -/
  | init (output : String) (force : Bool)
  /-- To tell its version. -/
  | version
  /-- To tell how it is used. -/
  | help
  deriving DecidableEq, Repr

/-! ## Options -/

/-- An option with all its names. -/
structure Flag where
  /-- The names with their dashes, by the first of which the option is known. -/
  names : List String
  /-- Whether a value follows. -/
  valued : Bool
  deriving DecidableEq, Repr

/-- The option of a name. -/
def flag? (flags : List Flag) (name : String) : Option Flag := flags.find? (·.names.contains name)

/-- The name by which an option is known. -/
def Flag.key (f : Flag) : String := f.names.headD ""

/-- Options that were given with their values, in order. -/
abbrev Given := List (String × String)

/-- The options of one argument, and the one whose value is the next argument. -/
structure Opened where
  /-- The options that are complete. -/
  given : Given
  /-- The option that lacks its value. -/
  pending : Option String

/-- Reads joined short options, the value of one being all that follows it. -/
def readShort (flags : List Flag) : List Char → Option Opened
  | [] => some ⟨[], none⟩
  | c :: rest =>
    match flag? flags ("-" ++ String.singleton c) with
    | none => none
    | some f =>
      if f.valued then
        if rest.isEmpty then some ⟨[], some f.key⟩ else some ⟨[(f.key, String.ofList rest)], none⟩
      else (readShort flags rest).map fun o => { o with given := (f.key, "") :: o.given }

/-- Reads an argument that begins with a dash. -/
def readOption (flags : List Flag) (arg : String) : Option Opened :=
  let (name, value) := Text.cut '=' arg.toList
  let isLong := ['-', '-'].isPrefixOf arg.toList
  match (if isLong then flag? flags (String.ofList name) else none) with
  | some f =>
    match f.valued, value with
    | true, some v => some ⟨[(f.key, String.ofList v)], none⟩
    | true, none => some ⟨[], some f.key⟩
    | false, none => some ⟨[(f.key, "")], none⟩
    | false, some _ => none
  | none => if isLong then none else readShort flags (arg.toList.drop 1)

/-- Whether an argument begins with a dash and is not only one. -/
def isOption (arg : String) : Bool := arg.toList.head? = some '-' && arg ≠ "-"

/-- Separates options from other arguments, `pending` being an option whose value comes first. Where
options may not follow other arguments, the first of these ends the options; two dashes always
do. -/
def separateFrom (flags : List Flag) (mixed : Bool) :
    Option String → List String → Option (Given × List String)
  | some _, [] => none
  | none, [] => some ([], [])
  | some key, value :: rest => do
    let (given, others) ← separateFrom flags mixed none rest
    return ((key, value) :: given, others)
  | none, arg :: rest =>
    if arg = "--" then some ([], rest)
    else if isOption arg then do
      let opened ← readOption flags arg
      let (given, others) ← separateFrom flags mixed opened.pending rest
      return (opened.given ++ given, others)
    else if mixed then do
      let (given, others) ← separateFrom flags mixed none rest
      return (given, arg :: others)
    else some ([], arg :: rest)

/-- Separates options from other arguments. -/
def separate (flags : List Flag) (mixed : Bool) (args : List String) :
    Option (Given × List String) :=
  separateFrom flags mixed none args

/-- The value of an option, the last one if there are several. -/
def value? (given : Given) (key : String) : Option String :=
  (given.reverse.find? (·.1 = key)).map (·.2)

/-- Whether an option was given. -/
def isGiven (given : Given) (key : String) : Bool := (value? given key).isSome

/-! ## Requests -/

/-- The option that asks for help. -/
def helpFlag : Flag := ⟨["--help"], false⟩

/-- The options before the word for what is to be done. -/
def programFlags : List Flag := [⟨["--version"], false⟩, helpFlag]

/-- The options of checks. -/
def checkFlags : List Flag :=
  [⟨["--config", "-c"], true⟩, ⟨["--snapshot"], true⟩, ⟨["--url"], true⟩, ⟨["--credential"], true⟩,
    ⟨["--format"], true⟩, ⟨["--log-level"], true⟩, helpFlag]

/-- The options of writing a configuration file. -/
def initFlags : List Flag := [⟨["--output", "-o"], true⟩, ⟨["--force", "-f"], false⟩, helpFlag]

/-- The levels of messages. -/
def logLevels : List String := ["DEBUG", "INFO", "WARNING", "ERROR"]

/-- Reads the request for a check. -/
def readCheck (args : List String) : Option Request := do
  let (given, others) ← separate checkFlags true args
  if isGiven given "--help" then return .help
  else
    let [word] := others | none
    let kind ← Kind.ofName? word
    let format ← Format.ofName? ((value? given "--format").getD "nagios")
    if !logLevels.contains ((value? given "--log-level").getD "WARNING") then none
    return .check {
      kind
      format
      config := value? given "--config"
      snapshot := value? given "--snapshot"
      url := value? given "--url"
      credential := value? given "--credential" }

/-- Reads the request for a configuration file. -/
def readInit (args : List String) : Option Request := do
  let (given, others) ← separate initFlags true args
  if isGiven given "--help" then return .help
  else if others.isEmpty then
    return .init ((value? given "--output").getD "nhc.yaml") (isGiven given "--force")
  else none

/-- Reads arguments; `none` stands for those that make no request. -/
def Request.ofArguments? (args : List String) : Option Request := do
  let (given, others) ← separate programFlags false args
  match given with
  | ("--version", _) :: _ => return .version
  | _ :: _ => return .help
  | [] =>
    match others with
    | "check" :: rest => readCheck rest
    | "init" :: rest => readInit rest
    | _ => none

end Vigil.Command
