import Vigil.Credential.Frame
import Vigil.Files
import Vigil.Json.Reader
import Vigil.Snapshot
import Vigil.Text.Base64
import Vigil.Value.Number

/-!
# Claims of a credential

The second part of a token holds claims: an object, written in the characters of addresses. The
claim `exp` tells when the credential expires, in seconds since 1970. The signature is not looked
at.
-/

namespace Vigil.Credential

/-- The second of the parts between points. -/
def claimsPart? (token : List Char) : Option (List Char) :=
  match token.dropWhile (· ≠ '.') with
  | [] => none
  | _ :: rest => some (rest.takeWhile (· ≠ '.'))

/-- A part with the padding that makes groups of four of its characters. -/
def padded (part : List Char) : List Char := part ++ List.replicate ((4 - part.length % 4) % 4) '='

/-- The bytes of a part; a fault is told in words. -/
def bytesOf (part : List Char) : Except String (List UInt8) :=
  if part.any fun c => 128 ≤ c.toNat then
    .error "string argument should contain only ASCII characters"
  else
    match Text.Base64.decode ((padded part).map Text.Base64.ofUrl) with
    | .ok content => .ok content
    | .error misfit => .error misfit.message

/-- The document in the second part of a token, nested at most `depth` deep. -/
def documentOf (depth : Nat) (token : List Char) : Except Json.Refusal Json :=
  match claimsPart? token with
  | none => .error (.invalid "list index out of range")
  | some part =>
    match bytesOf part with
    | .error reason => .error (.invalid reason)
    | .ok content => Json.readBytes depth content

/-- The claims of a token, by name. What is nested too deep is not told as a fault of the
credential. -/
def claimsOf (depth : Nat) (token : String) : Except Fault (List (String × Json)) :=
  match documentOf depth token.toList with
  | .error (.invalid reason) => .error (.credential s!"invalid JWT: {reason}")
  | .error (.nesting reason) => .error (.nesting reason)
  | .ok (.object members) => .ok members
  | .ok _ => .error (.credential "invalid JWT: claims are not an object")

/-- When claims say that a credential expires: never, if there is no time or it counts as false. -/
def expiryOf (claims : List (String × Json)) : Except Fault (Option Instant) :=
  match (Json.object claims).member? "exp" with
  | none => .ok none
  | some j => if j.toValue.truthy then return some (← j.toValue.unixInstant) else .ok none

/-- The expiry of the credential in a text. -/
def parse (depth : Nat) (s : String) : Except Fault Snapshot.Credential := do
  return { expiresAt := ← expiryOf (← claimsOf depth (← tokenOf s)) }

/-- The fault of a credential file that cannot be read. -/
def unreadable (path : Path) : Fault → Fault
  | .file cause => .credential s!"could not read credential {path.text}: {cause.message}"
  | fault => fault

/-- The expiry of the credential in a file; a tilde in front of the path stands for a home. -/
def load (homes : Homes) (depth : Nat) (files : Files) (path : Path) :
    Except Fault Snapshot.Credential := do
  let path ← path.expand homes
  match files.read path with
  | .error fault => .error (unreadable path fault)
  | .ok content =>
    match Text.Utf8.decode content with
    | .ok s => parse depth s
    | .error fault => .error (.value (.undecodable fault))

end Vigil.Credential
