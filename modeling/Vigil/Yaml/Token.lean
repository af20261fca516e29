import Vigil.Yaml.Scalar

/-!
# YAML tokens

What a YAML text consists of: the marks of its structure, names, tags and texts. Where lines are
more or less indented than those before, tokens tell that collections begin or end.
-/

namespace Vigil.Yaml

/-- An instruction before a document. -/
inductive Directive where
  /-- The version of the language. -/
  | version (major : Nat)
  /-- What a handle of tags stands for. -/
  | tagHandle (handle meaning : String)
  /-- Anything else. -/
  | other
  deriving DecidableEq

/-- A tag as it is written: a handle, if there is one, and what follows it. -/
structure RawTag where
  /-- The handle that is to be replaced by its meaning. -/
  handle : Option String
  /-- The rest of the tag. -/
  suffix : String
  deriving DecidableEq

/-- A piece of a YAML text. -/
inductive Token where
  /-- An instruction before a document. -/
  | directive (d : Directive)
  /-- The line that begins a document. -/
  | documentStart
  /-- The line that ends a document. -/
  | documentEnd
  /-- Deeper indentation that begins a sequence. -/
  | blockSequenceStart
  /-- Deeper indentation that begins a mapping. -/
  | blockMappingStart
  /-- Less indentation that ends a collection. -/
  | blockEnd
  /-- An opening bracket. -/
  | flowSequenceStart
  /-- A closing bracket. -/
  | flowSequenceEnd
  /-- An opening brace. -/
  | flowMappingStart
  /-- A closing brace. -/
  | flowMappingEnd
  /-- The hyphen before an item. -/
  | blockEntry
  /-- The comma between items. -/
  | flowEntry
  /-- What precedes a key, written or not. -/
  | key
  /-- The colon before a value. -/
  | value
  /-- The use of a name for a node. -/
  | alias (name : String)
  /-- The name of a node. -/
  | anchor (name : String)
  /-- The tag of a node. -/
  | tag (t : RawTag)
  /-- A text; `plain` tells that it stands in no quotes and in no block. -/
  | scalar (text : String) (plain : Bool)
  deriving DecidableEq

namespace Cursor

/-- The name at the place, which must have at least one character, and the place after it. -/
def name (c : Cursor) : Except Fault (String × Cursor) :=
  let cs := c.run isNameChar
  if cs.isEmpty then .error malformed else .ok (String.ofList cs, c.advance cs.length)

/-- A character that may follow the name of a node. -/
def endsNodeName (c : Char) : Bool :=
  isGap c || c = '?' || c = ':' || c = ',' || c = ']' || c = '\x7d' || c = '%' || c = '@' ||
    c = '\x60'

/-- The name of a node; the place is at the character that says so. -/
def nodeName (c : Cursor) : Except Fault (String × Cursor) := do
  let (name, next) ← (c.advance 1).name
  if endsNodeName next.peek then return (name, next) else .error malformed

/-! ## Tags -/

/-- A character that may stand in a tag. -/
def isTagChar (c : Char) : Bool :=
  isNameChar c || ";/?:@&=+$,.!~*'()[]%".toList.contains c

/-- The bytes that percent signs with two digits write. -/
def percentBytes : Nat → Cursor → Except Fault (List UInt8 × Cursor)
  | 0, c => .ok ([], c)
  | fuel + 1, c =>
    match c.rest with
    | '%' :: a :: b :: _ =>
      match hexDigit? a, hexDigit? b with
      | some x, some y => do
        let (more, last) ← percentBytes fuel (c.advance 3)
        return (UInt8.ofNat (x * 16 + y) :: more, last)
      | _, _ => .error malformed
    | '%' :: _ => .error malformed
    | _ => .ok ([], c)

/-- The characters of a tag, written out. -/
def tagCharsFrom : Nat → Cursor → Except Fault (List Char × Cursor)
  | 0, c => .ok ([], c)
  | fuel + 1, c =>
    match c.rest with
    | [] => .ok ([], c)
    | ch :: _ =>
      if ch = '%' then do
        let (bytes, next) ← percentBytes c.rest.length c
        match Text.Utf8.decode bytes with
        | .error _ => .error malformed
        | .ok text =>
          let (more, last) ← tagCharsFrom fuel next
          return (text.toList ++ more, last)
      else if isTagChar ch then do
        let (more, last) ← tagCharsFrom fuel (c.advance 1)
        return (ch :: more, last)
      else .ok ([], c)

/-- The characters of a tag, one at least. -/
def tagChars (c : Cursor) : Except Fault (String × Cursor) := do
  let (cs, next) ← tagCharsFrom c.rest.length c
  if next.index = c.index then .error malformed else return (String.ofList cs, next)

/-- The handle of a tag: an exclamation mark, or two with a name between them. -/
def tagHandle (c : Cursor) : Except Fault (String × Cursor) :=
  if c.peek ≠ '!' then .error malformed
  else if c.peekAt 1 = ' ' then .ok ("!", c.advance 1)
  else
    let cs := (c.advance 1).run isNameChar
    let next := c.advance (cs.length + 1)
    if next.peek = '!' then .ok (String.ofList ('!' :: cs ++ ['!']), next.advance 1)
    else .error malformed

/-- Whether a second exclamation mark follows in the same word. -/
def handleFollows (c : Cursor) : Bool :=
  (((c.advance 1).rest.takeWhile fun ch => !isWordEnd ch)).contains '!'

/-- The tag at the place. -/
def rawTag (c : Cursor) : Except Fault (RawTag × Cursor) := do
  let (t, next) ←
    if c.peekAt 1 = '<' then do
      let (suffix, next) ← (c.advance 2).tagChars
      if next.peek = '>' then pure ((⟨none, suffix⟩ : RawTag), next.advance 1) else .error malformed
    else if isGap (c.peekAt 1) then pure (⟨none, "!"⟩, c.advance 1)
    else do
      let (handle, next) ← if c.handleFollows then c.tagHandle else pure ("!", c.advance 1)
      let (suffix, next) ← next.tagChars
      pure (⟨some handle, suffix⟩, next)
  if isWordEnd next.peek then return (t, next) else .error malformed

/-! ## Directives -/

/-- A number of a version. -/
def versionNumber (c : Cursor) : Except Fault (Nat × Cursor) :=
  let ds := c.run Literal.isDigit
  if ds.isEmpty then .error malformed
  else if Literal.maxDigits < ds.length then .error (.value (.tooManyDigits ds.length))
  else .ok (Decimal.value ds, c.advance ds.length)

/-- The version of the language. -/
def version (c : Cursor) : Except Fault (Directive × Cursor) := do
  let (major, next) ← (c.skip (· = ' ')).versionNumber
  if next.peek ≠ '.' then .error malformed
  else
    let (_, next) ← (next.advance 1).versionNumber
    if isWordEnd next.peek then return (.version major, next) else .error malformed

/-- The meaning of a handle of tags. -/
def handleMeaning (c : Cursor) : Except Fault (Directive × Cursor) := do
  let (handle, next) ← (c.skip (· = ' ')).tagHandle
  if next.peek ≠ ' ' then .error malformed
  else
    let (meaning, next) ← (next.skip (· = ' ')).tagChars
    if isWordEnd next.peek then return (.tagHandle handle meaning, next) else .error malformed

/-- The instruction at the place, and the place after its line. -/
def directive (c : Cursor) : Except Fault (Directive × Cursor) := do
  let (name, next) ← (c.advance 1).name
  if !isWordEnd next.peek then .error malformed
  else
    let (d, next) ←
      if name = "YAML" then next.version
      else if name = "TAG" then next.handleMeaning
      else pure (.other, next.skipLine)
    return (d, ← next.ignoredLine)

end Cursor

end Vigil.Yaml
