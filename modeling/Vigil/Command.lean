import Vigil.Command.Arguments
import Vigil.Config.File
import Vigil.Credential.Claims
import Vigil.Json.Writer
import Vigil.Monitor
import Vigil.Report.Screen
import Vigil.Snapshot.Document
import Vigil.Telemetry

/-!
# The program

A request is carried out on a host: its files, its clock, and what reads and writes documents, asks
servers and prints tables there. A check ends with the exit code of its report. What keeps the
checked thing from being looked at is reported as the only finding; any other fault ends the program
without a report.
-/

namespace Vigil.Command

/-- What the program finds where it runs. -/
structure Host where
  /-- The files of the working directory. -/
  files : Files
  /-- The home directories of users. -/
  homes : Homes
  /-- The present moment. -/
  clock : Instant
  /-- What its arguments ask for, if they are a request. -/
  arguments : List String → Option Request
  /-- The form of configurations and snapshots in their files. -/
  codec : Codec
  /-- What makes requests to servers. -/
  client : Client
  /-- The nesting of lists and objects that is read in a credential. -/
  depth : Nat
  /-- What tables are printed on. -/
  screen : Screen

/-- A request that cannot be carried out as it is. -/
inductive Misuse where
  /-- The arguments make no request. -/
  | arguments
  /-- A credential is to be checked, and none was named. -/
  | noCredential
  /-- A check of this kind needs a snapshot. -/
  | noSnapshot (kind : Kind)
  deriving DecidableEq, Repr

/-- What is said about a misuse; the reader of arguments has words of its own. -/
def Misuse.message? : Misuse → Option String
  | .arguments => none
  | .noCredential => some "credential check needs --credential or credential.path"
  | .noSnapshot k => some s!"{k.name} check needs --snapshot"

/-- Why there is no report. -/
inductive Stop where
  /-- The program was misused. -/
  | misuse (cause : Misuse)
  /-- Something went wrong that is no finding. -/
  | fault (cause : Fault)

/-- How the program ended. -/
structure Outcome where
  /-- The exit code. -/
  code : Nat
  /-- What was printed. -/
  output : String := ""
  /-- Why it did not end well. -/
  stop : Option Stop := none
  /-- The files afterwards. -/
  files : Files

/-! ## Checks -/

/-- Takes a fault for the reason of a stop. -/
def orStop {α : Type} : Except Fault α → Except Stop α
  | .ok a => .ok a
  | .error fault => .error (.fault fault)

/-- The path that a value names. -/
def pathOf : Value → Except Fault Path
  | .str s => .ok (.ofText s)
  | v => .error (.kind (.pathArgument v.kindName))

/-- The address that a value names. -/
def urlOf : Value → Except Fault String
  | .str s => .ok s
  | .bytes _ => .error (.kind .bytesExpected)
  | v => .error (.attribute v.kindName "rstrip")

/-- A value of an option, that of the configuration if it was not given or is empty. -/
def orConfigured (given : Option String) (configured : Value) : Value :=
  match given with
  | some s => if s = "" then configured else .str s
  | none => configured

/-- The endpoint to ask. -/
def endpoint (host : Host) (request : CheckRequest) (config : Config) : Except Fault Endpoint := do
  return .ofUrl (← urlOf (orConfigured request.url config.monitorUrl)) host.client

/-- The snapshot that a check without a snapshot file looks at. -/
def live (host : Host) (request : CheckRequest) (config : Config) :
    (k : Kind) → Except Stop (Option k.Snapshot)
  | .vitals => orStop do return some (← Telemetry.vitals (← endpoint host request config))
  | .cluster => orStop do Telemetry.cluster (← endpoint host request config)
  | .credential =>
    let path := orConfigured request.credential config.credential.path
    if path.truthy then
      orStop do return some (← Credential.load host.homes host.depth host.files (← pathOf path))
    else .error (.misuse .noCredential)
  | .account => .error (.misuse (.noSnapshot .account))
  | .message => .error (.misuse (.noSnapshot .message))

/-- The snapshot that a check looks at. -/
def snapshotFor (host : Host) (request : CheckRequest) (config : Config) (k : Kind) :
    Except Stop (Option k.Snapshot) :=
  match request.snapshot with
  | some file => orStop (k.load host.codec host.clock host.files (.ofText file))
  | none => live host request config k

/-- The report in which a fault is the only finding, if the fault is one. -/
def faultReport (k : Kind) (fault : Fault) : Except Stop Report :=
  if fault.isFinding then .ok (Report.failure k.name fault.message) else .error (.fault fault)

/-- The report of a check whose snapshot has been looked for. -/
def reportOf (k : Kind) (config : Config) (clock : Instant) :
    Except Stop (Option k.Snapshot) → Except Stop Report
  | .error (.misuse cause) => .error (.misuse cause)
  | .error (.fault fault) => faultReport k fault
  | .ok snapshot =>
    match Monitor.run k config clock snapshot with
    | (.ok _, r) => .ok r
    | (.error fault, _) => faultReport k fault

/-! ## Printing -/

/-- The tables of a report; the second one is left out where there is no performance data. A fault
leaves what has been printed before it. -/
def tables (screen : Screen) (r : Report) : String × Option Fault :=
  match screen.draw r.findingsTable with
  | .error fault => ("", some fault)
  | .ok findings =>
    if r.perf.isEmpty then (findings, none)
    else
      match r.perfTable >>= screen.draw with
      | .ok perf => (findings ++ perf, none)
      | .error fault => (findings, some fault)

/-- What is printed of a report, and the fault that ended the printing. -/
def print (screen : Screen) (format : Format) (r : Report) : String × Option Fault :=
  match format with
  | .table => tables screen r
  | .line =>
    match r.line with
    | .ok line => (line ++ "\n", none)
    | .error fault => ("", some fault)
  | .json =>
    match r.toJson with
    | .ok j => (j.pretty ++ "\n", none)
    | .error fault => ("", some fault)

/-! ## Requests -/

/-- The end of a program that was stopped. -/
def stopped (files : Files) (output : String) : Stop → Outcome
  | .misuse cause => { code := 2, output, stop := some (.misuse cause), files }
  | .fault fault => { code := 1, output, stop := some (.fault fault), files }

/-- The end of a check. -/
def finished (host : Host) (format : Format) (r : Report) : Outcome :=
  match print host.screen format r with
  | (output, none) => { code := r.status.exitCode, output, files := host.files }
  | (output, some fault) => stopped host.files output (.fault fault)

/-- The configuration of a check. -/
def configFor (host : Host) (request : CheckRequest) : Except Fault Config :=
  match request.config with
  | some file => Config.load host.codec host.files (.ofText file)
  | none => Config.loadFirst host.codec host.homes host.files Config.usualPlaces

/-- The files that a request for a check names. -/
def named (request : CheckRequest) : List String :=
  [request.config, request.snapshot, request.credential].filterMap id

/-- Runs a check. -/
def check (host : Host) (request : CheckRequest) : Outcome :=
  if (named request).any fun file => file.toList.contains '\x00' then
    stopped host.files "" (.fault (.value .embeddedNull))
  else if !(named request).all host.files.leads then stopped host.files "" (.misuse .arguments)
  else
    match configFor host request with
    | .error fault => stopped host.files "" (.fault fault)
    | .ok config =>
      let snapshot := snapshotFor host request config request.kind
      match reportOf request.kind config host.clock snapshot with
      | .error stop => stopped host.files "" stop
      | .ok r => finished host request.format r

/-- Prints texts, and ends with an exit code. -/
def say (screen : Screen) (files : Files) (code : Nat) (texts : List String) : Outcome :=
  match texts.mapM screen.say with
  | .ok lines => { code, output := String.join lines, files }
  | .error fault => stopped files "" (.fault fault)

/-- Writes the sample configuration to a file. -/
def init (host : Host) (output : String) (force : Bool) : Outcome :=
  let path := Path.ofText output
  match host.files.has path with
  | .error fault => stopped host.files "" (.fault fault)
  | .ok present =>
    if present && !force then
      say host.screen host.files 1
        [s!"[red]File already exists: {path.text}[/]", "Use --force to overwrite"]
    else
      match Config.sample.save host.codec path host.files with
      | (.error fault, files) => stopped files "" (.fault fault)
      | (.ok _, files) =>
        say host.screen files 0
          [s!"[green]Created example configuration: {path.text}[/]",
            "Edit this file to set your thresholds."]

/-- The version of the program. -/
def version : String := "main, version 1.0.0\n"

/-- Carries out a request. -/
def carryOut (host : Host) : Request → Outcome
  | .check request => check host request
  | .init output force => init host output force
  | .version => { code := 0, output := version, files := host.files }
  | .help => { code := 0, files := host.files }

/-- Runs the program with its arguments. -/
def run (host : Host) (args : List String) : Outcome :=
  match host.arguments args with
  | some request => carryOut host request
  | none => stopped host.files "" (.misuse .arguments)

end Vigil.Command
