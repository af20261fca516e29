import Vigil.Fault
import Vigil.Text.Blank

/-!
# Tokens in credential files

A credential file frames a token between two lines of dashes. The token is what has no white space
after the first line of dashes, as much of it as leaves a last line of at least three dashes. A text
without a frame is a token itself if it has three parts between points and no white space within.
-/

namespace Vigil.Credential

/-- The words of the first line of a frame. -/
def openingWords : List Char := "BEGIN NATS USER JWT".toList

/-- The words of the last line of a frame. -/
def closingWords : List Char := "END NATS USER JWT".toList

/-- The least number of dashes on each side of the words. -/
def leastDashes : Nat := 3

/-- A text after a given beginning, if it begins so. -/
def after? (beginning cs : List Char) : Option (List Char) :=
  if beginning.isPrefixOf cs then some (cs.drop beginning.length) else none

/-- The number of dashes that a text begins with. -/
def dashes (cs : List Char) : Nat := (cs.takeWhile (· = '-')).length

/-- A text without the dashes that it begins with. -/
def dropDashes (cs : List Char) : List Char := cs.dropWhile (· = '-')

/-- Whether the last line of a frame follows, after white space if there is any. -/
def closes (cs : List Char) : Bool :=
  let line := cs.dropWhile Text.isBlank
  leastDashes ≤ dashes line &&
    match after? closingWords (dropDashes line) with
    | some rest => leastDashes ≤ dashes rest
    | none => false

/-- The longest token that a text begins with and that is followed by the last line of a frame. -/
def token? : List Char → Option (List Char)
  | [] => none
  | c :: rest =>
    if Text.isBlank c then none
    else
      match token? rest with
      | some more => some (c :: more)
      | none => if closes rest then some [c] else none

/-- The token after the words of the first line, `taken` of whose dashes precede. The line has as
many dashes as it can have. -/
def tokenAfterWords? (taken : Nat) : List Char → Option (List Char)
  | '-' :: rest =>
    (tokenAfterWords? (taken + 1) rest).or
      (if leastDashes ≤ taken then token? ('-' :: rest) else none)
  | cs => if leastDashes ≤ taken then token? (cs.dropWhile Text.isBlank) else none

/-- The beginning of a first line: as few dashes as it may have, and the words. -/
def opening : List Char := List.replicate leastDashes '-' ++ openingWords

/-- The token in the first frame of a text. -/
def framed? : List Char → Option (List Char)
  | [] => none
  | c :: rest =>
    match after? opening (c :: rest) with
    | some line => (tokenAfterWords? 0 line).or (framed? rest)
    | none => framed? rest

/-- Whether a text is a token: three parts between points and no white space. -/
def isToken (cs : List Char) : Bool := cs.count '.' = 2 && !cs.any Text.isBlank

/-- The token of a text. -/
def tokenOf (s : String) : Except Fault String :=
  match framed? s.toList with
  | some token => .ok (String.ofList token)
  | none =>
    let token := Text.trim s.toList
    if isToken token then .ok (String.ofList token)
    else .error (.credential "no user JWT found in credential")

end Vigil.Credential
