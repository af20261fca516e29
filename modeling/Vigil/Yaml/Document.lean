import Vigil.Text.Base64
import Vigil.Value.Number
import Vigil.Value.Order
import Vigil.Yaml.Node

/-!
# Values of YAML documents

The value of a node is determined by its tag. Nodes are read outermost first: of several faults in a
document, the one in the least nested collection counts, and of those the first one.
-/

namespace Vigil.Yaml

/-! ## Texts -/

/-- A text without underscores. -/
def withoutBars (cs : List Char) : List Char := cs.filter (· ≠ '_')

/-- A sign and what follows it; there must be something. -/
def signOf : List Char → Except Fault (Bool × List Char)
  | [] => .error .emptyNumber
  | '-' :: rest => .ok (true, rest)
  | '+' :: rest => .ok (false, rest)
  | cs => .ok (false, cs)

/-- A number or its negation. -/
def withSign (negative : Bool) (n : Int) : Int := if negative then -n else n

/-- The digits of a notation after the mark that they may begin with. -/
def basedDigits (base : Nat) : List Char → List Char
  | '0' :: c :: rest =>
    if (base = 2 && (c = 'b' || c = 'B')) || (base = 8 && (c = 'o' || c = 'O')) ||
        (base = 16 && (c = 'x' || c = 'X')) then rest
    else '0' :: c :: rest
  | cs => cs

/-- Reads an integer in the notation of a base. -/
def basedInt (base : Nat) (cs : List Char) : Except Fault Int :=
  let (negative, body) := Literal.splitSign (Literal.body (Literal.toAscii cs))
  let digits := basedDigits base body
  let number := digits.foldl (fun n c => n.bind fun n =>
    (hexDigit? c).bind fun d => if d < base then some (n * base + d) else none) (some 0)
  match number with
  | some n =>
    if digits.isEmpty then .error (.value (.basedText base (Text.quoted (String.ofList cs))))
    else .ok (withSign negative (n : Nat))
  | none => .error (.value (.basedText base (Text.quoted (String.ofList cs))))

/-- The number that sixtieths of sixtieths write, the greatest unit first. -/
def sexagesimalInt (parts : List (List Char)) : Except Fault Int :=
  parts.foldlM (fun n part => return n * 60 + (← (Value.str (String.ofList part)).toInt)) 0

/-- The integer of a text. -/
def intOfText (s : String) : Except Fault Int := do
  let (negative, cs) ← signOf (withoutBars s.toList)
  if cs = ['0'] then return 0
  match cs with
  | [] => .error .emptyNumber
  | '0' :: 'b' :: rest => return withSign negative (← basedInt 2 rest)
  | '0' :: 'x' :: rest => return withSign negative (← basedInt 16 rest)
  | '0' :: _ => return withSign negative (← basedInt 8 cs)
  | _ =>
    if cs.contains ':' then return withSign negative (← sexagesimalInt (Text.fields ':' cs))
    else return withSign negative (← (Value.str (String.ofList cs)).toInt)

/-- The number that sixtieths of sixtieths write: the last part and, from the right, the others
times their unit are added one after the other. -/
def sexagesimalDouble (parts : List (List Char)) : Except Fault Double := do
  let numbers ← parts.mapM fun part => (Value.str (String.ofList part)).toDouble
  let (total, _) := numbers.reverse.foldl
    (fun (total, unit) x => (total + x * Double.ofInt unit, unit * 60)) (Double.ofInt 0, (1 : Int))
  return total

/-- The floating-point number of a text. -/
def doubleOfText (s : String) : Except Fault Double := do
  let (negative, cs) ← signOf (withoutBars (s.toList.map Char.toLower))
  let x ←
    if cs = ['.', 'i', 'n', 'f'] then pure (.infinite false)
    else if cs = ['.', 'n', 'a', 'n'] then return .nan
    else if cs.contains ':' then sexagesimalDouble (Text.fields ':' cs)
    else (Value.str (String.ofList cs)).toDouble
  return if negative then -x else x

/-- The truth value of a word, in letters of any case. -/
def boolOfText (s : String) : Except Fault Bool :=
  let word := String.ofList (s.toList.map Char.toLower)
  if ["yes", "true", "on"].contains word then .ok true
  else if ["no", "false", "off"].contains word then .ok false
  else .error (.missingKey (Text.quoted word))

/-- The bytes of a text. -/
def bytesOfText (s : String) : Except Fault (List UInt8) :=
  if s.toList.any fun c => 128 ≤ c.toNat then .error malformed
  else
    match Text.Base64.decode s.toList with
    | .ok content => .ok content
    | .error _ => .error malformed

/-- The microseconds that digits after a point write; those beyond the sixth are dropped. -/
def microsOf (places : List Char) : Nat :=
  Decimal.value (places.take 6 ++ List.replicate (6 - places.length) '0')

/-- The offset of a time in microseconds; it must be less than a day. -/
def offsetOf : Option (Option (Bool × Nat × Nat)) → Except Fault (Option Int)
  | none => .ok none
  | some none => .ok (some 0)
  | some (some (negative, hours, minutes)) =>
    let micros : Int := withSign negative ((hours * 60 + minutes : Nat) : Int) * 60000000
    if hours * 60 + minutes < 1440 then .ok (some micros)
    else
      match Duration.ofMicros? micros with
      | .ok d => .error (.value (.offset d.shown))
      | .error cause => .error (.range cause)

/-- The civil date of its numbers. -/
def civilOf (year month day : Nat) : Except Fault Calendar.Civil :=
  if year = 0 then .error (.value (.year 0))
  else if month = 0 || 12 < month then .error (.value .month)
  else if day = 0 || Calendar.daysInMonth year month < day then .error (.value .day)
  else .ok ⟨year, month, day⟩

/-- The date or time of its parts. -/
def valueOfMoment (m : Plain.Moment) : Except Fault Value := do
  let (year, month, day) := m.date
  match m.time with
  | none => return .date (Date.ofCivil (← civilOf year month day))
  | some (hour, minute, second, places) =>
    let offset ← offsetOf m.zone
    let civil ← civilOf year month day
    if 24 ≤ hour then .error (.value .hour)
    else if 60 ≤ minute then .error (.value .minute)
    else if 60 ≤ second then .error (.value .second)
    else
      let micros := ((hour * 60 + minute) * 60 + second) * 1000000 + microsOf places
      return .timestamp (.ofParts civil.toDays micros offset)

/-- The date or time of a text. -/
def timeOfText (s : String) : Except Fault Value :=
  match Plain.moment? false s.toList with
  | some m => valueOfMoment m
  | none => .error (.attribute "NoneType" "groupdict")

/-- The value of a text with a tag. -/
def valueOfText (t : Tag) (s : String) : Except Fault Value :=
  match t with
  | .null => .ok .null
  | .bool => return .bool (← boolOfText s)
  | .int => return .int (← intOfText s)
  | .float => return .float (← doubleOfText s)
  | .binary => return .bytes (← bytesOfText s)
  | .timestamp => timeOfText s
  | .str => .ok (.str s)
  | _ => .error malformed

/-! ## Merged mappings -/

/-- The entries of a mapping into which others are merged; nothing if the value of a merging key is
no mapping and no sequence of mappings. -/
def mergedEntries : List (Node × Node) → Option (List (Node × Node))
  | [] => some []
  | (k, v) :: rest =>
    if k.tag = .merge then
      match v with
      | .mapping _ entries => (mergedEntries rest).map (entries ++ ·)
      | .sequence _ items =>
        let parts := items.reverse.mapM fun
          | .mapping _ entries => some entries
          | _ => none
        parts.bind fun parts => (mergedEntries rest).map (parts.flatten ++ ·)
      | .scalar _ _ => none
    else mergedEntries rest

/-- The entries of a mapping with those that are merged into it before its own ones. -/
def mergeInto (t : Tag) (entries : List (Node × Node)) : Node :=
  match mergedEntries entries with
  | some merged => .mapping t (merged ++ entries.filter fun (k, _) => k.tag ≠ .merge)
  | none => .mapping (.other "merge") entries

mutual

/-- A node in which all mappings have the entries that are merged into them. -/
def Node.merged : Node → Node
  | .scalar t s => .scalar t s
  | .sequence t items => .sequence t (mergedItems items)
  | .mapping t entries => mergeInto t (mergedPairs entries)

/-- Items in which all mappings have the entries that are merged into them. -/
def mergedItems : List Node → List Node
  | [] => []
  | n :: rest => n.merged :: mergedItems rest

/-- Entries in which all mappings have the entries that are merged into them. -/
def mergedPairs : List (Node × Node) → List (Node × Node)
  | [] => []
  | (k, v) :: rest => (k.merged, v.merged) :: mergedPairs rest

end

/-! ## Collections -/

/-- A fault together with the number of collections around it. -/
structure NestedFault where
  /-- The number of collections around the fault. -/
  depth : Nat
  /-- The fault. -/
  fault : Fault

/-- Puts two results together; of two faults the less nested one counts, and of two at the same
depth the first one. -/
def both {α β γ : Type} (f : α → β → γ) :
    Except NestedFault α → Except NestedFault β → Except NestedFault γ
  | .ok a, .ok b => .ok (f a b)
  | .ok _, .error e => .error e
  | .error e, .ok _ => .error e
  | .error d, .error e => .error (if e.depth < d.depth then e else d)

/-- A result at a depth. -/
def atDepth {α : Type} (depth : Nat) : Except Fault α → Except NestedFault α
  | .ok a => .ok a
  | .error fault => .error ⟨depth, fault⟩

/-- Sets the value of a key: a key that is there already keeps its place and its form. -/
def setEntry (k v : Value) : List (Value × Value) → List (Value × Value)
  | [] => [(k, v)]
  | (k', v') :: rest => if k.equals k' then (k', v) :: rest else (k', v') :: setEntry k v rest

/-- The mapping of entries, the last one of each key counting. -/
def mapOf (entries : List (Value × Value)) : List (Value × Value) :=
  entries.foldl (fun done (k, v) => setEntry k v done) []

/-- The text of a mapping that has a value of its own. -/
def ownText? (entries : List (Node × Node)) : Option String :=
  match entries.find? fun (k, _) => k.tag = .value with
  | some (_, .scalar _ s) => some s
  | _ => none

/-- The value of a collection that is read where a text is expected. -/
def textExpected (t : Tag) (own : Option String) : Except Fault Value :=
  match own with
  | some s => valueOfText t s
  | none => .error malformed

/-- Whether nodes of a tag are collections. -/
def Tag.isCollection : Tag → Bool
  | .seq | .map | .omap | .pairs | .set => true
  | _ => false

/-- The tag of a key: that of the value of a mapping is a text there. -/
def keyTag (t : Tag) : Tag := if t = .value then .str else t

mutual

/-- The value of a node in so many collections. -/
def Node.valueAt (depth : Nat) : Node → Except NestedFault Value
  | .scalar t s =>
    if t.isCollection then .error ⟨depth + 1, malformed⟩ else atDepth depth (valueOfText t s)
  | .sequence t items =>
    match t with
    | .seq => (valuesAt (depth + 1) items).map .list
    | .omap | .pairs => (pairsAt (depth + 1) items).map .list
    | .map | .set => .error ⟨depth + 1, malformed⟩
    | t => atDepth depth (textExpected t none)
  | .mapping t entries =>
    match t with
    | .map => (entriesAt (depth + 1) entries).map fun es => .map (mapOf es)
    | .set => (entriesAt (depth + 1) entries).map fun es => .set ((mapOf es).map (·.1))
    | .seq | .omap | .pairs => .error ⟨depth + 1, malformed⟩
    | t => atDepth depth (textExpected t (ownText? entries))

/-- The value of a key in so many collections. -/
def Node.keyAt (depth : Nat) : Node → Except NestedFault Value
  | .scalar t s =>
    if t.isCollection then .error ⟨depth + 1, malformed⟩
    else atDepth depth (valueOfText (keyTag t) s)
  | .sequence _ _ => .error ⟨depth, malformed⟩
  | .mapping t entries =>
    if t.isCollection then .error ⟨depth, malformed⟩
    else atDepth depth (textExpected t (ownText? entries))

/-- The values of items in so many collections. -/
def valuesAt (depth : Nat) : List Node → Except NestedFault (List Value)
  | [] => .ok []
  | n :: rest => both (· :: ·) (n.valueAt depth) (valuesAt depth rest)

/-- The entries of items that are mappings with one entry each. -/
def pairsAt (depth : Nat) : List Node → Except NestedFault (List Value)
  | [] => .ok []
  | .mapping _ [(k, v)] :: rest =>
    both (· :: ·) (both (fun a b => .tuple [a, b]) (k.valueAt depth) (v.valueAt depth))
      (pairsAt depth rest)
  | _ :: _ => .error ⟨depth, malformed⟩

/-- The entries of a mapping in so many collections. -/
def entriesAt (depth : Nat) : List (Node × Node) → Except NestedFault (List (Value × Value))
  | [] => .ok []
  | (k, v) :: rest =>
    both (· :: ·) (both (·, ·) (k.keyAt depth) (v.valueAt depth)) (entriesAt depth rest)

end

/-- The value of a node. -/
def Node.value (n : Node) : Except Fault Value :=
  match n.merged.valueAt 0 with
  | .ok v => .ok v
  | .error e => .error e.fault

/-! ## Documents -/

/-- Whether a character may stand in a document. -/
def isAllowed (c : Char) : Bool :=
  let n := c.toNat
  n = 9 || n = 10 || n = 13 || (0x20 ≤ n && n ≤ 0x7E) || n = 0x85 || (0xA0 ≤ n && n ≤ 0xD7FF) ||
    (0xE000 ≤ n && n ≤ 0xFFFD) || 0x10000 ≤ n

/-- A text in which every line ends alike. -/
def oneLineEnd : List Char → List Char
  | '\r' :: '\n' :: rest => '\n' :: oneLineEnd rest
  | '\r' :: rest => '\n' :: oneLineEnd rest
  | c :: rest => c :: oneLineEnd rest
  | [] => []

/-- The value of the document of a text; null if there is none. -/
def read (s : String) : Except Fault Value := do
  let cs := oneLineEnd s.toList
  if !cs.all isAllowed then .error malformed
  else
    match ← Node.ofTokens (← tokensOf cs) with
    | some n => n.value
    | none => return .null

/-- The value of the document of a file. -/
def readBytes (bytes : List UInt8) : Except Fault Value :=
  match Text.Utf8.decode bytes with
  | .ok s => read s
  | .error fault => .error (.value (.undecodable fault))

end Vigil.Yaml
