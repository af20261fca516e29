import Vigil.Yaml.Lexer
import Vigil.Yaml.Schema

/-!
# YAML nodes

The tree that a YAML text describes: texts, sequences and mappings, each with a tag. A text holds
one document at most, and collections may be nested to any depth. The use of a name stands for the
whole node of the name. A collection that contains itself has no tree, and it is refused as one that
is nested too deep.
-/

namespace Vigil.Yaml

/-- A node of a document. -/
inductive Node where
  /-- A text. -/
  | scalar (tag : Tag) (text : String)
  /-- A sequence. -/
  | sequence (tag : Tag) (items : List Node)
  /-- A mapping, with its entries as they are written. -/
  | mapping (tag : Tag) (entries : List (Node × Node))

namespace Node

/-- The tag of a node. -/
def tag : Node → Tag
  | .scalar t _ => t
  | .sequence t _ => t
  | .mapping t _ => t

/-- A node that nothing is written for. -/
def empty : Node := .scalar .null ""

end Node

/-- What is left of the tokens of a text, and the names given so far. -/
structure Reader where
  /-- The tokens that have not been read. -/
  tokens : List Token
  /-- The nodes of names, none as long as the node is being read. -/
  anchors : List (String × Option Node) := []
  /-- The meanings of the handles of tags. -/
  handles : List (String × String) := []

/-- A step in reading nodes. -/
abbrev Composing (α : Type) := StateT Reader (Except Fault) α

namespace Composing

/-- The text is not well-formed. -/
def refuse {α : Type} : Composing α := throw malformed

/-- The next token, which is not read. -/
def peek : Composing (Option Token) := return (← get).tokens.head?

/-- Passes over a token. -/
def drop : Composing Unit := modify fun s => { s with tokens := s.tokens.drop 1 }

/-- Passes over the next token if it is a given one, and tells whether it was. -/
def accept (t : Token) : Composing Bool := do
  if (← peek) = some t then
    drop
    return true
  else return false

/-- Whether the next token is one of some. -/
def nextIs (ts : List Token) : Composing Bool := do
  match ← peek with
  | some t => return ts.contains t
  | none => return false

/-! ## Properties of nodes -/

/-- The name of a node, if one is next. -/
def anchor? : Composing (Option String) := do
  match ← peek with
  | some (.anchor name) => drop; return some name
  | _ => return none

/-- The tag of a node, if one is next. -/
def tag? : Composing (Option RawTag) := do
  match ← peek with
  | some (.tag t) => drop; return some t
  | _ => return none

/-- The name and the tag of a node, in either order. -/
def properties : Composing (Option String × Option RawTag) := do
  match ← anchor? with
  | some name => return (some name, ← tag?)
  | none =>
    match ← tag? with
    | some t => return (← anchor?, some t)
    | none => return (none, none)

/-- The full name of a tag, its handle being replaced by its meaning. -/
def fullName (t : RawTag) : Composing String := do
  match t.handle with
  | none => return t.suffix
  | some handle =>
    match (← get).handles.lookup handle with
    | some meaning => return meaning ++ t.suffix
    | none => refuse

/-- The full name of the tag of a node, if there is one. -/
def fullName? : Option RawTag → Composing (Option String)
  | some t => return some (← fullName t)
  | none => return none

/-- Gives a name to a node, or to one that is still to be read. -/
def define (name : Option String) (n : Option Node) : Composing Unit := do
  match name with
  | some name => modify fun s => { s with anchors := (name, n) :: s.anchors }
  | none => pure ()

/-- The node of a name. -/
def named (name : String) : Composing Node := do
  match (← get).anchors.lookup name with
  | some (some n) => return n
  | some none => throw (.nesting "a collection contains itself")
  | none => refuse

/-- A name must not be given twice. -/
def checkNew (name : Option String) : Composing Unit := do
  match name with
  | some name => if ((← get).anchors.lookup name).isSome then refuse
  | none => pure ()

/-- The tag of a text: that of its content, if it is plain and none is written. -/
def scalarTag (name : Option String) (plain : Bool) (text : String) : Tag :=
  match name with
  | some "!" => Plain.tagOf text.toList
  | some name => Tag.ofName name
  | none => if plain then Plain.tagOf text.toList else .str

/-- The tag of a collection. -/
def collectionTag (name : Option String) (usual : Tag) : Tag :=
  match name with
  | some "!" | none => usual
  | some name => Tag.ofName name

/-! ## Nodes -/

/-- Where a node stands, which tells what it may be. -/
inductive Place where
  /-- Between brackets. -/
  | flow
  /-- In a block. -/
  | block
  /-- In a mapping in a block, where the items of a sequence need not be indented. -/
  | blockValue
  deriving DecidableEq

/-- A node that has properties but no content; one with neither is missing. -/
def missing (name full : Option String) : Composing Node := do
  if name.isNone && full.isNone then refuse
  else
    let n := Node.scalar (scalarTag full true "") ""
    define name (some n)
    return n

/-- A sequence of items. -/
def sequence (name full : Option String) (items : Composing (List Node)) : Composing Node := do
  let t := collectionTag full .seq
  define name none
  let n := Node.sequence t (← items)
  define name (some n)
  return n

/-- A mapping of entries. -/
def mapping (name full : Option String) (entries : Composing (List (Node × Node))) :
    Composing Node := do
  let t := collectionTag full .map
  define name none
  let n := Node.mapping t (← entries)
  define name (some n)
  return n

mutual

/-- Reads a node. -/
def node : Nat → Place → Composing Node
  | 0, _ => refuse
  | fuel + 1, place => do
    match ← peek with
    | some (.alias name) =>
      drop
      named name
    | _ =>
      let (name, rawTag) ← properties
      let full ← fullName? rawTag
      checkNew name
      match ← peek with
      | some (.scalar text plain) =>
        drop
        let n := Node.scalar (scalarTag full plain text) text
        define name (some n)
        return n
      | some .flowSequenceStart =>
        drop
        sequence name full (flowItems fuel true)
      | some .flowMappingStart =>
        drop
        mapping name full (flowEntries fuel true)
      | some .blockEntry =>
        if place = .blockValue then sequence name full (looseItems fuel) else missing name full
      | some .blockSequenceStart =>
        if place = .flow then missing name full
        else
          drop
          sequence name full (blockItems fuel)
      | some .blockMappingStart =>
        if place = .flow then missing name full
        else
          drop
          mapping name full (blockEntries fuel)
      | _ => missing name full

/-- Reads a node, or an empty one if one of some tokens comes next. -/
def nodeUnless : Nat → List Token → Place → Composing Node
  | 0, _, _ => refuse
  | fuel + 1, ts, place => do
    if ← nextIs ts then return .empty else node fuel place

/-- Reads the items of an indented sequence up to its end. -/
def blockItems : Nat → Composing (List Node)
  | 0 => refuse
  | fuel + 1 => do
    if ← accept .blockEntry then
      let item ← nodeUnless fuel [.blockEntry, .blockEnd] .block
      return item :: (← blockItems fuel)
    else if ← accept .blockEnd then return []
    else refuse

/-- Reads the items of a sequence that is not indented. -/
def looseItems : Nat → Composing (List Node)
  | 0 => refuse
  | fuel + 1 => do
    if ← accept .blockEntry then
      let item ← nodeUnless fuel [.blockEntry, .key, .value, .blockEnd] .block
      return item :: (← looseItems fuel)
    else return []

/-- Reads the entries of an indented mapping up to its end. -/
def blockEntries : Nat → Composing (List (Node × Node))
  | 0 => refuse
  | fuel + 1 => do
    if ← accept .key then
      let k ← nodeUnless fuel [.key, .value, .blockEnd] .blockValue
      let v ← blockValue fuel
      return (k, v) :: (← blockEntries fuel)
    else if ← accept .blockEnd then return []
    else refuse

/-- Reads the value of an entry in a block. -/
def blockValue : Nat → Composing Node
  | 0 => refuse
  | fuel + 1 => do
    if ← accept .value then nodeUnless fuel [.key, .value, .blockEnd] .blockValue
    else return .empty

/-- Reads the items of a sequence between brackets up to its end. -/
def flowItems : Nat → Bool → Composing (List Node)
  | 0, _ => refuse
  | fuel + 1, isFirst => do
    if ← accept .flowSequenceEnd then return []
    else
      if !isFirst then
        if !(← accept .flowEntry) then refuse
      if ← accept .key then
        let k ← nodeUnless fuel [.value, .flowEntry, .flowSequenceEnd] .flow
        let v ← flowValue fuel .flowSequenceEnd
        return .mapping .map [(k, v)] :: (← flowItems fuel false)
      else if ← accept .flowSequenceEnd then return []
      else
        let item ← node fuel .flow
        return item :: (← flowItems fuel false)

/-- Reads the value of an entry between brackets. -/
def flowValue : Nat → Token → Composing Node
  | 0, _ => refuse
  | fuel + 1, closing => do
    if ← accept .value then nodeUnless fuel [.flowEntry, closing] .flow
    else return .empty

/-- Reads the entries of a mapping between braces up to its end. -/
def flowEntries : Nat → Bool → Composing (List (Node × Node))
  | 0, _ => refuse
  | fuel + 1, isFirst => do
    if ← accept .flowMappingEnd then return []
    else
      if !isFirst then
        if !(← accept .flowEntry) then refuse
      if ← accept .key then
        let k ← nodeUnless fuel [.value, .flowEntry, .flowMappingEnd] .flow
        let v ← flowValue fuel .flowMappingEnd
        return (k, v) :: (← flowEntries fuel false)
      else if ← accept .flowMappingEnd then return []
      else
        let k ← node fuel .flow
        return (k, .empty) :: (← flowEntries fuel false)

end

/-! ## Documents -/

/-- The meanings that handles of tags have by themselves. -/
def usualHandles : List (String × String) := [("!", "!"), ("!!", Tag.family)]

/-- Reads the instructions before a document: a version at most, which must be of the first kind,
and meanings of handles, at most one for each. -/
def directives : Nat → Bool → List (String × String) → Composing (List (String × String))
  | 0, _, handles => return handles
  | fuel + 1, versioned, handles => do
    match ← peek with
    | some (.directive (.version major)) =>
      drop
      if versioned || major ≠ 1 then refuse else directives fuel true handles
    | some (.directive (.tagHandle handle meaning)) =>
      drop
      if (handles.lookup handle).isSome then refuse
      else directives fuel versioned ((handle, meaning) :: handles)
    | some (.directive .other) =>
      drop
      directives fuel versioned handles
    | _ => return handles

/-- Whether the next token begins or ends a document, or is the end of the text. -/
def atDocumentEdge : Composing Bool := do
  match ← peek with
  | none | some (.directive _) | some .documentStart | some .documentEnd => return true
  | _ => return false

/-- Passes over lines that end a document. -/
def dropEnds : Nat → Composing Unit
  | 0 => pure ()
  | fuel + 1 => do if ← accept .documentEnd then dropEnds fuel

/-- Reads a document that begins with a line of its own. -/
def explicitDocument (fuel : Nat) : Composing Node := do
  let handles ← directives fuel false []
  modify fun s => { s with handles := handles ++ usualHandles }
  if !(← accept .documentStart) then refuse
  if ← atDocumentEdge then return .empty else node fuel .block

/-- Reads the only document of a text, if there is one. -/
def document (fuel : Nat) : Composing (Option Node) := do
  match ← peek with
  | none => return none
  | some (.directive _) | some .documentStart => return some (← explicitDocument fuel)
  | some _ =>
    modify fun s => { s with handles := usualHandles }
    return some (← node fuel .block)

/-- Reads the only document of a text; another one must not follow. -/
def onlyDocument (fuel : Nat) : Composing (Option Node) := do
  let n ← document fuel
  dropEnds fuel
  if (← peek).isNone then return n else refuse

end Composing

/-- The document of some tokens, if there is one. -/
def Node.ofTokens (tokens : List Token) : Except Fault (Option Node) :=
  (Composing.onlyDocument (8 * tokens.length + 8)).run' { tokens := tokens }

end Vigil.Yaml
