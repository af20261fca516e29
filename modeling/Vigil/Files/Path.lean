import Vigil.Fault
import Vigil.Text.Split

/-!
# Paths

A path in its normal form: what it begins at and the names on the way. Doubled and final slashes and
single dots are left out; two dots are kept, because what they lead to depends on the files.
-/

namespace Vigil

/-- A path in its normal form. -/
structure Path where
  /-- The slashes that the path begins with: none, one, or two. -/
  root : String := ""
  /-- The names on the way. -/
  names : List String := []
  deriving DecidableEq, Repr

/-- The home directories of users by their names, the empty name being that of the user who runs the
program. There is none for a name that no user has, nor for a user whose home would begin with a
tilde again. -/
abbrev Homes := String → Option Path

namespace Path

/-- The parts of a text between slashes. -/
def split (s : String) : List String := (Text.fields '/' s.toList).map String.ofList

/-- The slashes that a text begins with, three or more counting as one. -/
def rootOf (s : String) : String :=
  match (s.toList.takeWhile (· = '/')).length with
  | 0 => ""
  | 2 => "//"
  | _ => "/"

/-- The path of a text. -/
def ofText (s : String) : Path where
  root := rootOf s
  names := (split s).filter fun name => name ≠ "" && name ≠ "."

/-- The text of a path; a single dot stands for a path without names. -/
def text (p : Path) : String :=
  if p.root = "" && p.names.isEmpty then "." else p.root ++ "/".intercalate p.names

/-- The path to the directory that a path leads into. -/
def parent (p : Path) : Path := { p with names := p.names.dropLast }

/-- The user whose home a path begins at: the name after a leading tilde. The user who runs the
program has no name there. -/
def user? (p : Path) : Option String :=
  match p.root, p.names with
  | "", name :: _ =>
    match name.toList with
    | '~' :: user => some (String.ofList user)
    | _ => none
  | _, _ => none

/-- The home directory of a user. -/
def home (homes : Homes) (user : String) : Except Fault Path :=
  if user.toList.contains '\x00' then .error (.value .embeddedNull)
  else
    match homes user with
    | some p => .ok p
    | none => .error .homeless

/-- The path in which the home directory of a user stands for a leading tilde and their name. -/
def expand (p : Path) (homes : Homes) : Except Fault Path :=
  match p.user? with
  | some user => do
    let home ← home homes user
    return { home with names := home.names ++ p.names.drop 1 }
  | none => .ok p

end Path

end Vigil
