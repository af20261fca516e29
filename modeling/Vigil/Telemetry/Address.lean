import Vigil.Number.Literal
import Vigil.Text.Split
import Vigil.Text.Utf8

/-!
# Addresses

An address in the normal form in which requests are made and reported: scheme and host in small
letters, the usual port of a scheme left out, dots in the path resolved, and characters that cannot
stand in a part coded by their bytes. Of an address without scheme or host only the path and the
query are kept. What is wrong with a text that is no address is told in words.
-/

namespace Vigil

/-- An address in its parts. -/
structure Address where
  /-- The scheme, empty if there is none. -/
  scheme : String := ""
  /-- What identifies the user, empty if nothing does. -/
  user : String := ""
  /-- The host, empty if there is none. -/
  host : String := ""
  /-- The port, unless it is the usual one of the scheme. -/
  port : Option Int := none
  /-- The path. -/
  path : String := ""
  /-- What follows a question mark. -/
  query : Option String := none
  /-- What follows a number sign. -/
  fragment : Option String := none
  deriving DecidableEq, Repr

namespace Address

/-! ## Coding of characters -/

/-- A byte in percent coding. -/
def codedByte (b : UInt8) : List Char := '%' :: (Text.hex 2 b.toNat).map Char.toUpper

/-- A text with the characters coded that are none of the kept ones. -/
def coded (kept : Char → Bool) (cs : List Char) : List Char :=
  cs.flatMap fun c =>
    if kept c then [c] else (Text.Utf8.encode (String.singleton c)).flatMap codedByte

/-- Printable characters of ASCII but for some. -/
def printableBut (others : List Char) (c : Char) : Bool := ' ' ≤ c && c ≤ '~' && !others.contains c

/-- Characters that no part may hold. -/
def neverKept : List Char := [' ', '"', '<', '>']

/-- Characters kept in a path. -/
def keptInPath : Char → Bool := printableBut (neverKept ++ ['#', '?', '\x60', '\x7b', '\x7d'])

/-- Characters kept in a query. -/
def keptInQuery : Char → Bool := printableBut (neverKept ++ ['#'])

/-- Characters kept in a fragment. -/
def keptInFragment : Char → Bool := printableBut (neverKept ++ ['\x60'])

/-- Characters kept in what identifies a user. -/
def keptInUser : Char → Bool :=
  printableBut (neverKept ++ "#?\x60\x7b\x7d/;=@[\\]^|".toList)

/-- Characters kept in a host. -/
def keptInHost (c : Char) : Bool :=
  c.isAlphanum || "-._~!$&'()*+,;=\"\x60\x7b\x7d%|\\".toList.contains c

/-! ## Parts -/

/-- The scheme in front of a colon, and the rest. -/
def splitScheme (cs : List Char) : List Char × List Char :=
  let isSchemeChar (c : Char) : Bool := c.isAlphanum || c = '+' || c = '.' || c = '-'
  let scheme := cs.takeWhile isSchemeChar
  match cs.drop scheme.length with
  | ':' :: rest => if (scheme.head?.map Char.isAlpha).getD true then (scheme, rest) else ([], cs)
  | _ => ([], cs)

/-- The authority after two slashes, and the rest. -/
def splitAuthority : List Char → List Char × List Char
  | '/' :: '/' :: rest =>
    let inside (c : Char) : Bool := !(c = '/' || c = '?' || c = '#')
    (rest.takeWhile inside, rest.dropWhile inside)
  | cs => ([], cs)

/-- What stands before the last at-sign of an authority, and what stands after it. -/
def splitUser (cs : List Char) : List Char × List Char :=
  match Text.cut '@' cs.reverse with
  | (_, none) => ([], cs)
  | (host, some user) => (user.reverse, host.reverse)

/-- The host and the text of the port. -/
def splitHost (cs : List Char) : List Char × List Char :=
  let host :=
    if cs.head? = some '[' && cs.contains ']' then (cs.reverse.dropWhile (· ≠ ']')).reverse
    else cs.takeWhile fun c => !(c = ':' || c = '@')
  match cs.drop host.length with
  | ':' :: port => (host, port)
  | port => (host, port)

/-- Whether a text is a number below 256 without needless zeros. -/
def isOctet (cs : List Char) : Bool :=
  !cs.isEmpty && cs.all Literal.isDigit && cs.length ≤ 3 && Decimal.value cs < 256 &&
    (cs.length = 1 || cs.head? ≠ some '0')

/-- Whether a host is written as four numbers. -/
def looksNumeric (cs : List Char) : Bool :=
  let parts := Text.fields '.' cs
  parts.length = 4 && parts.all fun part => !part.isEmpty && part.all Literal.isDigit

/-- Whether a text is a group of hexadecimal digits. -/
def isHexGroup (cs : List Char) : Bool :=
  !cs.isEmpty && cs.length ≤ 4 && cs.all fun c => (Text.hexValue? c).isSome

/-- The number of groups that parts between colons make, if they are groups; the last part may be
four numbers, which make two. -/
def groupCount? : List (List Char) → Option Nat
  | [] => some 0
  | [part] =>
    if isHexGroup part then some 1
    else if looksNumeric part && (Text.fields '.' part).all isOctet then some 2
    else none
  | part :: rest => if isHexGroup part then (groupCount? rest).map (· + 1) else none

/-- Whether a text is eight groups, of which a doubled colon may stand for some that are zero. -/
def isGroups (cs : List Char) : Bool :=
  let parts := Text.fields ':' cs
  let count (parts : List (List Char)) : Option Nat := groupCount? parts
  match parts.findIdx? (·.isEmpty) with
  | none => count parts = some 8
  | some 0 =>
    match parts with
    | [] :: [] :: [[]] => true
    | [] :: [] :: rest => (count rest).any fun n => n ≤ 7
    | _ => false
  | some i =>
    let before := parts.take i
    let behind := parts.drop (i + 1)
    if !before.all isHexGroup then false
    else if behind = [[]] then before.length ≤ 7
    else (count behind).any fun n => before.length + n ≤ 7

/-- What identifies a network of a host is not looked at. -/
def withoutZone (cs : List Char) : List Char := cs.takeWhile (· ≠ '%')

/-- The host in its normal form. -/
def hostOf (cs : List Char) : Except String String :=
  let shown := Text.quoted (String.ofList cs)
  if looksNumeric cs then
    if (Text.fields '.' cs).all isOctet then .ok (String.ofList cs)
    else .error (s!"Invalid IPv4 address: {shown}")
  else if cs.head? = some '[' && cs.getLast? = some ']' then
    let inner := (cs.drop 1).dropLast
    if isGroups (withoutZone inner) then .ok (String.ofList inner)
    else .error (s!"Invalid IPv6 address: {shown}")
  else if cs.all fun c => c.toNat < 128 then
    .ok (String.ofList (coded keptInHost (cs.map Char.toLower)))
  else .ok (String.ofList (cs.map Char.toLower))

/-- The port that a scheme uses if none is told. -/
def usualPort? : String → Option Int
  | "http" | "ws" => some 80
  | "https" | "wss" => some 443
  | "ftp" => some 21
  | _ => none

/-- The port, unless it is the usual one. -/
def portOf (scheme : String) (cs : List Char) : Except String (Option Int) :=
  if cs.isEmpty then .ok none
  else
    match Literal.readInt cs with
    | .error _ => .error (s!"Invalid port: {Text.quoted (String.ofList cs)}")
    | .ok n => .ok (if usualPort? scheme = some n then none else some n)

/-- The names of a path in which dots are resolved, `done` holding those before, last one first. -/
def resolveDots (done : List (List Char)) : List (List Char) → List (List Char)
  | [] => done.reverse
  | ['.'] :: rest => resolveDots done rest
  | ['.', '.'] :: rest =>
    match done with
    | [] | [[]] => resolveDots done rest
    | _ :: above => resolveDots above rest
  | name :: rest => resolveDots (name :: done) rest

/-- A path in which dots are resolved. -/
def resolved (cs : List Char) : List Char := ['/'].intercalate (resolveDots [] (Text.fields '/' cs))

/-- The greatest number of characters of an address. -/
def maxLength : Nat := 65536

/-- The first character that an address may not hold, with its position. -/
def refusedChar? (cs : List Char) : Option (Char × Nat) :=
  let isRefused (c : Char) : Bool := c.toNat < 32 || c.toNat = 127
  (cs.find? isRefused).map fun c => (c, cs.findIdx isRefused)

/-- Checks that a path can follow its authority. -/
def checkPath (hasScheme hasAuthority : Bool) (path : List Char) : Except String Unit :=
  if hasAuthority && !path.isEmpty && path.head? ≠ some '/' then
    .error "For absolute URLs, path must be empty or begin with '/'"
  else if hasScheme || hasAuthority then .ok ()
  else if ['/', '/'].isPrefixOf path then
    .error "Relative URLs cannot have a path starting with '//'"
  else if path.head? = some ':' then
    .error "Relative URLs cannot have a path starting with ':'"
  else .ok ()

/-- Reads the parts of an address. -/
def readParts (cs : List Char) : Except String Address := do
  let (scheme, rest) := splitScheme cs
  let (authority, rest) := splitAuthority rest
  let (rest, fragment) := Text.cut '#' rest
  let (path, query) := Text.cut '?' rest
  let (user, authority) := splitUser authority
  let (host, port) := splitHost authority
  let host ← hostOf host
  let port ← portOf (String.ofList scheme) port
  let hasScheme := !scheme.isEmpty
  let hasAuthority := !user.isEmpty || host ≠ "" || port.isSome
  checkPath hasScheme hasAuthority path
  let path := if hasScheme || hasAuthority then resolved path else path
  return {
    scheme := String.ofList (scheme.map Char.toLower)
    user := String.ofList (coded keptInUser user)
    host
    port
    path := String.ofList (coded keptInPath path)
    query := query.map fun q => String.ofList (coded keptInQuery q)
    fragment := fragment.map fun f => String.ofList (coded keptInFragment f) }

/-- The address that a request is made to: one without scheme or host is only a path and a query. -/
def absolute (a : Address) : Address :=
  if a.scheme ≠ "" && a.host ≠ "" then a
  else
    let names := String.ofList (a.path.toList.dropWhile (· = '/'))
    { path := "/" ++ names, query := a.query }

/-- Reads the address of a request. -/
def read (s : String) : Except String Address := do
  let cs := s.toList
  if maxLength < cs.length then .error "URL too long"
  else
    match refusedChar? cs with
    | some (c, position) =>
      .error ("Invalid non-printable ASCII character in URL, " ++
        s!"{Text.quoted (String.singleton c)} at position {position}.")
    | none => return (← readParts cs).absolute

/-! ## Text -/

/-- User, host and port. -/
def authority (a : Address) : String :=
  (if a.user = "" then "" else a.user ++ "@") ++
    (if a.host.toList.contains ':' then "[" ++ a.host ++ "]" else a.host) ++
    match a.port with
    | some n => ":" ++ Decimal.ofInt n
    | none => ""

/-- The text of an address. -/
def text (a : Address) : String :=
  (if a.scheme = "" then "" else a.scheme ++ ":") ++
    (if a.authority = "" then "" else "//" ++ a.authority) ++ a.path ++
    (match a.query with
      | some q => "?" ++ q
      | none => "") ++
    match a.fragment with
    | some f => "#" ++ f
    | none => ""

end Address

end Vigil
