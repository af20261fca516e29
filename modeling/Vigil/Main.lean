import Std.Time.DateTime.Timestamp
import Vigil.Command.Standard

/-!
# The program on a machine

Looks at the files that the arguments name, runs the program on them, and writes what it changed. It
opens no connections: every endpoint is told to be out of reach, so checks take their snapshots from
files.
-/

namespace Vigil.Main

/-- Adds what stands at a path to the known files. -/
def lookAt (files : Files) (path : Path) : IO Files := do
  let entry : Option Entry ← match ← (IO.FS.readBinFile path.text).toBaseIO with
    | .ok content => pure (some (.file content.toList))
    | .error (.noFileOrDirectory ..) => pure none
    | .error _ => pure (some .directory)
  match entry, files.makeWay path with
  | some (.file content), .ok made => return (made.write path content).toOption.getD files
  | some .directory, .ok made => return (made.makeDirectory path).toOption.getD files
  | _, _ => return files

/-- Adds what stands at paths that begin at a home directory if they say so. -/
def lookAtAll (homes : Homes) (files : Files) (paths : List Path) : IO Files :=
  paths.foldlM (fun files p =>
    match p.expand homes with
    | .ok p => lookAt files p
    | .error _ => return files) files

/-- The paths that a request names, and those where a configuration is looked for. -/
def pathsOf : Command.Request → List Path
  | .check request => (Command.named request).map Path.ofText ++ Config.usualPlaces
  | .init output _ => [.ofText output]
  | .version | .help => []

/-- The path of the credential in the configuration of a request. -/
def configuredPaths (host : Command.Host) : Command.Request → List Path
  | .check request =>
    match Command.configFor host request with
    | .ok config => (Command.pathOf config.credential.path).toOption.toList
    | .error _ => []
  | _ => []

/-- The present moment. -/
def presentInstant : IO Instant := do
  let nanos := (← Std.Time.Timestamp.now).toNanosecondsSinceUnixEpoch.val
  match Instant.ofUnix (Int.fdiv nanos 1000000000) ((Int.fmod nanos 1000000000).toNat / 1000) with
  | .ok t => return t
  | .error fault => throw (IO.userError fault.message)

/-- The host of a request. Only the home of the user who runs the program is known. -/
def hostOf (request : Command.Request) : IO Command.Host := do
  let home := Path.ofText ((← IO.getEnv "HOME").getD "/")
  let homes : Homes := fun user => if user = "" then some home else none
  let files ← lookAtAll homes {} (pathsOf request)
  let host := Command.Host.standard files homes (← presentInstant) fun _ => .failed "no connection"
  return { host with files := ← lookAtAll homes files (configuredPaths host request) }

/-- The path of the names of a place. -/
def pathOfNames : List String → Path
  | "/" :: names => { root := "/", names }
  | names => { names }

/-- Writes the files that were changed. -/
def store (before after : Files) : IO Unit :=
  (after.changedFrom before).forM fun (names, content) => do
    let path := pathOfNames names
    IO.FS.createDirAll path.parent.text
    IO.FS.writeBinFile path.text ⟨content.toArray⟩

/-- Tells on the error output why the program was stopped. -/
def explain : Command.Stop → IO Unit
  | .misuse cause => IO.eprintln ("Error: " ++ cause.message?.getD "invalid arguments")
  | .fault fault => IO.eprintln ("Error: " ++ fault.message)

end Vigil.Main

open Vigil in
/-- Runs the program with its arguments. -/
def main (args : List String) : IO UInt32 := do
  let request := (Command.Request.ofArguments? args).getD .help
  let host ← Main.hostOf request
  let outcome := Command.run host args
  Main.store host.files outcome.files
  IO.print outcome.output
  outcome.stop.forM Main.explain
  return UInt32.ofNat outcome.code
