import Vigil.Value.Basic

/-!
# JSON

A document of nulls, truth values, numbers, texts, lists and objects. Integers and floating-point
numbers are told apart, and the members of an object keep their order.
-/

namespace Vigil

/-- A JSON document. -/
inductive Json where
  /-- The null. -/
  | null
  /-- A truth value. -/
  | bool (b : Bool)
  /-- A number without a point and an exponent. -/
  | int (n : Int)
  /-- Any other number. -/
  | float (x : Double)
  /-- A text. -/
  | str (s : String)
  /-- A list. -/
  | list (items : List Json)
  /-- An object. -/
  | object (members : List (String × Json))

namespace Json

instance : Inhabited Json := ⟨.null⟩

/-- Sets a member: a name that is there already keeps its place. -/
def setMember (name : String) (v : Json) : List (String × Json) → List (String × Json)
  | [] => [(name, v)]
  | (n, w) :: rest => if n = name then (n, v) :: rest else (n, w) :: setMember name v rest

/-- The members of an object that was written with these; of members of one name the last one
counts. -/
def mergeMembers (written : List (String × Json)) : List (String × Json) :=
  written.foldl (fun done (name, v) => setMember name v done) []

/-- A member of an object. -/
def member? (name : String) : Json → Option Json
  | .object members => (members.find? (·.1 = name)).map (·.2)
  | _ => none

/-- A list of texts. -/
def texts (items : List String) : Json := .list (items.map .str)

mutual

/-- The value that a document describes. -/
def toValue : Json → Value
  | .null => .null
  | .bool b => .bool b
  | .int n => .int n
  | .float x => .float x
  | .str s => .str s
  | .list items => .list (itemValues items)
  | .object members => .map (memberValues members)

/-- The values of items. -/
def itemValues : List Json → List Value
  | [] => []
  | j :: rest => toValue j :: itemValues rest

/-- The entries of members. -/
def memberValues : List (String × Json) → List (Value × Value)
  | [] => []
  | (name, j) :: rest => (.str name, toValue j) :: memberValues rest

end

end Json

end Vigil
