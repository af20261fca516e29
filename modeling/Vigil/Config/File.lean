import Vigil.Codec
import Vigil.Config.Data
import Vigil.Files

/-!
# Configuration files

A configuration is stored as a document. An empty document stands for the defaults.
-/

namespace Vigil.Config

/-- The configuration that a document describes. -/
def ofDocument (data : Value) : Except Fault Config :=
  ofData (if data.truthy then data else .map [])

/-- Loads the configuration of a file. -/
def load (codec : Codec) (files : Files) (p : Path) : Except Fault Config := do
  if !(← files.has p) then .error (.file (.noConfiguration p.text))
  else ofDocument (← codec.read (← files.read p))

/-- The text of a configuration file. -/
def fileText (c : Config) (codec : Codec) : Except Fault String := codec.write c.toData

/-- Saves a configuration in a file, with the directories on the way to it. The file is emptied
before anything can go wrong with the text. -/
def save (c : Config) (codec : Codec) (p : Path) (files : Files) : Except Fault Unit × Files :=
  match files.makeWay p with
  | .error fault => (.error fault, files)
  | .ok made =>
    match made.write p [] with
    | .error fault => (.error fault, made)
    | .ok emptied =>
      match c.fileText codec with
      | .error fault => (.error fault, emptied)
      | .ok text =>
        match emptied.write p (Text.Utf8.encode text) with
        | .error fault => (.error fault, emptied)
        | .ok written => (.ok (), written)

/-- Where a configuration is looked for, in this order. -/
def usualPlaces : List Path :=
  [Path.ofText "nhc.yaml", Path.ofText "nhc.yml", Path.ofText "~/.config/nhc/config.yaml"]

/-- Loads the configuration at the first of some places where there is one; the defaults if there is
none. -/
def loadFirst (codec : Codec) (homes : Homes) (files : Files) : List Path → Except Fault Config
  | [] => .ok {}
  | p :: rest => do
    let p ← p.expand homes
    if ← files.has p then load codec files p else loadFirst codec homes files rest

end Vigil.Config
