import Vigil.Time.Iso

/-!
# Values

The data that documents, telemetry and configurations consist of. Mappings keep the order in which
their entries were written and may have keys of any kind.
-/

namespace Vigil

/-- A piece of data. -/
inductive Value where
  /-- Nothing. -/
  | null
  /-- A truth value; it counts as the number 0 or 1 wherever numbers are expected. -/
  | bool (b : Bool)
  /-- An integer of any size. -/
  | int (n : Int)
  /-- A floating-point number. -/
  | float (x : Double)
  /-- A text. -/
  | str (s : String)
  /-- Bytes. -/
  | bytes (content : List UInt8)
  /-- A span of time. -/
  | duration (d : Duration)
  /-- A civil date and time. -/
  | timestamp (t : Timestamp)
  /-- A civil date. -/
  | date (d : Date)
  /-- A sequence. -/
  | list (items : List Value)
  /-- A sequence of fixed length, as ordered mappings have for entries. -/
  | tuple (items : List Value)
  /-- A mapping. -/
  | map (entries : List (Value × Value))
  /-- A collection without order. -/
  | set (items : List Value)

namespace Value

instance : Inhabited Value := ⟨.null⟩

/-- The name of a kind of value in messages. -/
def kindName : Value → String
  | .null => "NoneType"
  | .bool _ => "bool"
  | .int _ => "int"
  | .float _ => "float"
  | .str _ => "str"
  | .bytes _ => "bytes"
  | .duration _ => "datetime.timedelta"
  | .timestamp _ => "datetime.datetime"
  | .date _ => "datetime.date"
  | .list _ => "list"
  | .tuple _ => "tuple"
  | .map _ => "dict"
  | .set _ => "set"

/-- Whether a value is nothing. -/
def isNull : Value → Bool
  | .null => true
  | _ => false

/-- The integer 0 or 1 that a truth value counts as. -/
def ofBit (b : Bool) : Int := if b then 1 else 0

/-- Whether a value counts as true: what is neither nothing, nor zero, nor empty. -/
def truthy : Value → Bool
  | .null => false
  | .bool b => b
  | .int n => n ≠ 0
  | .float x => !x.isZero
  | .str s => s ≠ ""
  | .bytes content => !content.isEmpty
  | .duration d => d.micros ≠ 0
  | .timestamp _ => true
  | .date _ => true
  | .list items => !items.isEmpty
  | .tuple items => !items.isEmpty
  | .map entries => !entries.isEmpty
  | .set items => !items.isEmpty

/-- A mapping whose keys are texts. -/
def ofFields (fields : List (String × Value)) : Value :=
  .map (fields.map fun (name, v) => (.str name, v))

/-- The value of an optional one, nothing being null. -/
def ofOption {α : Type} (f : α → Value) : Option α → Value
  | none => .null
  | some a => f a

/-- Whether a value is a given text. -/
def isText (key : String) : Value → Bool
  | .str s => s = key
  | _ => false

/-- The value of a text key among the entries of a mapping. -/
def lookup (key : String) : List (Value × Value) → Option Value
  | [] => none
  | (k, v) :: rest => if k.isText key then some v else lookup key rest

/-- The value of a key, if the value is a mapping and has the key. What is no mapping has no keys to
ask for. -/
def get? (v : Value) (key : String) : Except Fault (Option Value) :=
  match v with
  | .map entries => .ok (lookup key entries)
  | _ => .error (.attribute v.kindName "get")

/-- The value of a key, or a default if there is no such key. -/
def getD (v : Value) (key : String) (default : Value) : Except Fault Value :=
  return (← v.get? key).getD default

/-- The member of a name; collections that are no mappings have members by position only. -/
def member (v : Value) (key : String) : Except Fault Value :=
  match v with
  | .map entries =>
    match lookup key entries with
    | some x => .ok x
    | none => .error (.missingKey (Text.quoted key))
  | .str _ | .bytes _ | .list _ | .tuple _ => .error (.kind (.positionExpected v.kindName))
  | _ => .error (.kind (.notSubscriptable v.kindName))

/-- Whether some text occurs within another one. -/
def occursIn (part : List Char) : List Char → Bool
  | [] => part.isEmpty
  | c :: rest => part.isPrefixOf (c :: rest) || occursIn part rest

/-- Whether a value contains a text, as a key, an item or a part of it. -/
def contains (v : Value) (key : String) : Except Fault Bool :=
  match v with
  | .map entries => .ok (lookup key entries).isSome
  | .list items | .tuple items | .set items => .ok (items.any (isText key))
  | .str s => .ok (occursIn key.toList s.toList)
  | _ => .error (.kind (.notContainer v.kindName))

/-- The items of a collection in order: characters of a text, numbers of bytes, keys of a
mapping. -/
def items (v : Value) : Except Fault (List Value) :=
  match v with
  | .list xs | .tuple xs | .set xs => .ok xs
  | .map entries => .ok (entries.map (·.1))
  | .str s => .ok (s.toList.map fun c => .str (String.singleton c))
  | .bytes content => .ok (content.map fun b => .int b.toNat)
  | _ => .error (.kind (.notIterable v.kindName))

end Value

end Vigil
